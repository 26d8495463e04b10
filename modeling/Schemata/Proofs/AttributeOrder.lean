import Schemata.Proofs.OrderedChildren
import Schemata.Proofs.Seeding

/-! The order in which the attributes of a node are given does not matter: nodes from the same
entries in another order are equal, take the same writes, and stand for each other as children. -/
namespace Schemata

namespace Fields
variable {α : Type u} {as bs : Fields α} {key : String}

/-- Distinct keys look up the same in every order. -/
lemma get?_eq_of_perm (h : as.Perm bs) (hn : as.keys.Nodup) (key : String) :
    as.get? key = bs.get? key := by
  have hbs : bs.keys.Nodup := (h.map Prod.fst).nodup_iff.mp hn
  ext v
  constructor
  · exact fun hv => get?_of_mem hbs (h.mem_iff.mp (mem_of_get? hv))
  · exact fun hv => get?_of_mem hn (h.mem_iff.mpr (mem_of_get? hv))

/-- Of distinct keys each is written once, or else it stays. -/
lemma get?_assignAll_of_nodup (fs : Fields α) {vs : List (String × Option α)}
    (hn : (keys vs).Nodup) (key : String) :
    get? (assignAll fs vs) key = (get? vs key).getD (get? fs key) := by
  induction vs generalizing fs with
  | nil => rfl
  | cons e vs ih =>
    obtain ⟨k, v⟩ := e
    obtain ⟨hk, hn⟩ := List.nodup_cons.mp hn
    rw [assignAll_cons, get?_cons]
    by_cases hkey : k = key
    · subst hkey
      rw [get?_assignAll_of_notMem _ hk, get?_assign_self, if_pos rfl, Option.getD_some]
    · rw [ih _ hn, get?_assign_of_ne _ _ hkey, if_neg hkey]

lemma Matches.get?_eq (h : Matches Eq as bs) (key : String) : as.get? key = bs.get? key := by
  generalize as.get? key = a, bs.get? key = b, h.get? key = hrel
  cases hrel with
  | none => rfl
  | some heq => rw [heq]

lemma Matches.assign {R : α → α → Prop} (h : Matches R as bs) (hR : ∀ a, R a a) (key : String)
    (value : Option α) : Matches R (as.assign key value) (bs.assign key value) := by
  cases value with
  | none => exact h.erase key
  | some v => exact h.insert key (hR v)

end Fields

lemma Kind.Alike.check_eq {k l : Kind} (h : k.Alike l) (name : String) (value : AttrValue) :
    k.check name value = l.check name value := by
  obtain ⟨hid, _, hattributes⟩ := alike_iff.mp h
  have hget : Fields.get? k.attributes name = Fields.get? l.attributes name :=
    hattributes.get?_eq name
  rw [check, check, hget, hid]

namespace Node
variable {k : Kind} {es fs : List (String × AttrValue)} {n m p p' : Node}

lemma alike_of_construct (hp : es.Perm fs) (hn : (es.map fun e => canonicalName e.1).Nodup)
    (hes : construct k es = .ok n) (hfs : construct k fs = .ok m) : n.Alike m := by
  obtain ⟨vs, hvs, rfl⟩ := construct_eq_ok_iff.mp hes
  obtain ⟨ws, hws, rfl⟩ := construct_eq_ok_iff.mp hfs
  have hkeys : (Fields.keys vs).Nodup := by
    rw [Registry.keys_of_checkEntries hvs]
    exact hn
  have hperm : vs.Perm ws := by
    obtain ⟨_, rfl⟩ := Registry.checkEntries_eq_ok_iff.mp hvs
    obtain ⟨_, rfl⟩ := Registry.checkEntries_eq_ok_iff.mp hws
    exact hp.map _
  have hkeys' : (Fields.keys ws).Nodup := (hperm.map Prod.fst).nodup_iff.mp hkeys
  have hnil : (Fields.keys ([] : Fields AttrValue)).Nodup := List.nodup_nil
  refine alike_iff.mpr ⟨Kind.equivalence_alike.refl k, ?_⟩
  apply Fields.Matches.of_get?_eq AttrValue.same_refl (Fields.nodup_assignAll vs hnil)
    (Fields.nodup_assignAll ws hnil)
  intro key
  rw [Fields.get?_assignAll_of_nodup [] hkeys, Fields.get?_assignAll_of_nodup [] hkeys',
    Fields.get?_eq_of_perm hperm hkeys]

/-- Equal nodes take the same writes, and stay equal under them. -/
lemma Alike.update (h : n.Alike m) (name : String) (value : AttrValue) :
    SameOutcome (n.update name value) (m.update name value) := by
  obtain ⟨k, as⟩ := n
  obtain ⟨l, bs⟩ := m
  obtain ⟨hkind, hattributes⟩ := alike_iff.mp h
  have hkind : k.Alike l := hkind
  rw [update_mk, update_mk, hkind.check_eq]
  cases l.check (canonicalName name) value with
  | error e => exact True.intro
  | ok v =>
    refine alike_iff.mpr ⟨hkind, hattributes.assign AttrValue.same_refl _ v⟩

/-- A node that has an equal child already stays as it is. -/
lemma addChild_of_alike (h : n.Alike m) (hn : n ∈ p.children) : p.addChild m = .ok p := by
  rw [addChild, if_pos]
  exact List.any_eq_true.mpr ⟨n, hn, h⟩

lemma Gains.exists_alike (h : p.Gains n p') : ∃ c ∈ p'.children, c.Alike n := by
  cases h with
  | present hc hsame => exact ⟨_, hc, hsame⟩
  | appended _ _ hattr =>
    rw [children_of_attr? hattr]
    exact ⟨n, by simp, same_refl n⟩

/-- Where one of two equal nodes has been added, the other one adds nothing. -/
lemma addChild_addChild (h : n.Alike m) (hp : p.addChild n = .ok p') :
    p'.addChild m = .ok p' := by
  obtain ⟨c, hc, hcn⟩ := (gains_of_addChild hp).exists_alike
  exact addChild_of_alike (equivalence_alike.trans hcn h) hc

/-- The same entries in any order, with names that differ in canonical spelling, make equal nodes or
none: equal under every further write and as plain trees, and one as good as the other for a
parent. -/
theorem construct_perm (k : Kind) {es fs : List (String × AttrValue)} (hp : es.Perm fs)
    (hn : (es.map fun e => canonicalName e.1).Nodup) :
    ((∃ n, construct k es = .ok n) ↔ ∃ m, construct k fs = .ok m) ∧
    ∀ n m, construct k es = .ok n → construct k fs = .ok m →
      n.Alike m ∧ n.toTree.Alike m.toTree ∧
      (∀ name value, SameOutcome (n.update name value) (m.update name value)) ∧
      (∀ p : Node, n ∈ p.children → p.addChild m = .ok p) ∧
      (∀ p : Node, m ∈ p.children → p.addChild n = .ok p) ∧
      (∀ p p' : Node, p.addChild n = .ok p' → p'.addChild m = .ok p') ∧
      ∀ p p' : Node, p.addChild m = .ok p' → p'.addChild n = .ok p' := by
  refine ⟨?_, fun n m hes hfs => ?_⟩
  · rw [exists_construct_iff, exists_construct_iff]
    exact ⟨fun h e he => h e (hp.mem_iff.mpr he), fun h e he => h e (hp.mem_iff.mp he)⟩
  · have h : n.Alike m := alike_of_construct hp hn hes hfs
    have h' : m.Alike n := equivalence_alike.symm h
    exact ⟨h, same_toTree n m h, h.update, fun _ => addChild_of_alike h,
      fun _ => addChild_of_alike h', fun _ _ => addChild_addChild h,
      fun _ _ => addChild_addChild h'⟩

/-- Entries in both spellings, and a null that leaves its attribute out. -/
def textEntries : List (String × AttrValue) := [("minLength", .literal (.ofInt 3)),
  ("title", .string "T"), ("format", .literal .null), ("not", .node (mk Kind.null []))]

theorem construct_perm_backwards : ∃ n m, construct Kind.string textEntries = .ok n ∧
    construct Kind.string textEntries.reverse = .ok m ∧
    n.attributes.keys = ["min_length", "title", "not"] ∧
    m.attributes.keys = ["not", "title", "min_length"] ∧ n.toTree.Alike m.toTree ∧
    (mk Kind.object [("children", .nodes [n])]).addChild m =
      .ok (mk Kind.object [("children", .nodes [n])]) := by
  have hn : (textEntries.map fun e => canonicalName e.1).Nodup := by decide
  have hp : textEntries.Perm textEntries.reverse := (List.reverse_perm textEntries).symm
  obtain ⟨-, hboth⟩ := construct_perm Kind.string hp hn
  obtain ⟨-, htree, -, hchild, -⟩ := hboth _ _ rfl rfl
  exact ⟨_, _, rfl, rfl, rfl, rfl, htree, hchild _ List.mem_cons_self⟩

end Node

end Schemata
