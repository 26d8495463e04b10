import Mathlib.Data.List.Perm.Subperm
import Schemata.Proofs.Matching

/-! Structural equality of kinds, attribute values and nodes: what it compares at each level, and
that it is an equivalence which goes over to plain trees. -/
namespace Schemata

namespace Fields
variable {α : Type u} {β : Type v}

/-- As many entries in both, and under every key of the one a related value in the other. -/
structure EqualByKey (R : α → β → Prop) (as : Fields α) (bs : Fields β) : Prop where
  length_eq : as.length = bs.length
  exists_get? : ∀ e ∈ as, ∃ b, bs.get? e.1 = some b ∧ R e.2 b

variable {R : α → β → Prop} {as : Fields α} {bs : Fields β}

lemma length_keys (fs : Fields α) : fs.keys.length = fs.length := by simp [keys]

/-- Among distinct keys it is enough to look from one side: as many entries leave no key over. -/
lemma EqualByKey.mem_keys (h : EqualByKey R as bs) (has : as.keys.Nodup) {key : String}
    (hkey : key ∈ bs.keys) : key ∈ as.keys := by
  have hsub : as.keys ⊆ bs.keys := by
    intro other hother
    obtain ⟨v, hv⟩ := Fields.mem_keys.mp hother
    obtain ⟨b, hb, _⟩ := h.exists_get? _ hv
    exact mem_keys_of_get? hb
  have hperm : as.keys.Perm bs.keys := by
    apply (has.subperm hsub).perm_of_length_le
    rw [length_keys, length_keys]
    exact Nat.le_of_eq h.length_eq.symm
  exact hperm.mem_iff.mpr hkey

/-- Where keys are distinct, fields match if they are as many and each key finds its equal. -/
theorem matches_iff_equalByKey (has : as.keys.Nodup) (hbs : bs.keys.Nodup) :
    Matches R as bs ↔ EqualByKey R as bs := by
  constructor
  · intro h
    refine ⟨?_, fun e he => h.exists_of_get? (get?_of_mem has he)⟩
    have hperm : as.keys.Perm bs.keys :=
      (List.perm_ext_iff_of_nodup has hbs).mpr fun key => h.mem_keys_iff
    rw [← length_keys as, ← length_keys bs, hperm.length_eq]
  · intro h key
    rw [valuesAt_of_nodup has, valuesAt_of_nodup hbs]
    cases ha : as.get? key with
    | some a =>
      obtain ⟨b, hb, hab⟩ := h.exists_get? _ (mem_of_get? ha)
      rw [hb]
      exact .cons hab .nil
    | none =>
      have hnone : bs.get? key = none :=
        get?_eq_none_iff.mpr fun hkey => get?_eq_none_iff.mp ha (h.mem_keys has hkey)
      rw [hnone]
      exact .nil

namespace Matches
variable {γ : Type w} {S : β → γ → Prop} {cs : Fields γ}

/-- Matches that follow each other, with a relation that holds for the entries of the first. -/
lemma comp_of_mem {T : α → γ → Prop} (h : Matches R as bs) (h' : Matches S bs cs)
    (hT : ∀ e ∈ as, ∀ b c, R e.2 b → S b c → T e.2 c) : Matches T as cs := by
  intro key
  apply forall₂_imp_of_mem (forall₂_comp (h key) (h' key))
  rintro a ha c ⟨b, hab, hbc⟩
  exact hT (key, a) (mem_valuesAt.mp ha) b c hab hbc

lemma flip_of_mem {T : β → α → Prop} (h : Matches R as bs)
    (hT : ∀ e ∈ as, ∀ b, R e.2 b → T b e.2) : Matches T bs as := by
  intro key
  apply (forall₂_imp_of_mem (S := fun a b => T b a) (h key) ?_).flip
  exact fun a ha b hab => hT (key, a) (mem_valuesAt.mp ha) b hab

end Matches

end Fields

namespace Kind

/-- Kinds that are equal but for the order in which they declare their attributes. -/
def Alike (k l : Kind) : Prop := k.same l = true

variable {k l : Kind}

lemma alike_iff : k.Alike l ↔
    k.id = l.id ∧ k.typeName = l.typeName ∧ Fields.Matches Eq k.attributes l.attributes := by
  rw [Alike, same, sameDeclarations_eq, Bool.and_eq_true, Bool.and_eq_true, Fields.sameBy_iff]
  simp only [decide_eq_true_eq, and_assoc]

theorem equivalence_alike : Equivalence Alike where
  refl := same_refl
  symm := by
    intro k l h
    obtain ⟨hid, htype, hattributes⟩ := alike_iff.mp h
    exact alike_iff.mpr ⟨hid.symm, htype.symm, hattributes.flip_of_mem fun _ _ _ => Eq.symm⟩
  trans := by
    intro k l m h h'
    obtain ⟨hid, htype, hattributes⟩ := alike_iff.mp h
    obtain ⟨hid', htype', hattributes'⟩ := alike_iff.mp h'
    exact alike_iff.mpr ⟨hid.trans hid', htype.trans htype',
      hattributes.comp_of_mem hattributes' fun _ _ _ _ => Eq.trans⟩

end Kind

/-- Attribute values that are equal but for the order of keys in them. -/
def AttrValue.Alike (v w : AttrValue) : Prop := v.same w = true

/-- Nodes that are equal but for the order of keys in them. -/
def Node.Alike (n m : Node) : Prop := n.same m = true

lemma Node.sameEntries_eq (es fs : Fields Node) :
    Node.sameEntries es fs = Fields.sameBy Node.same es fs := by
  induction es generalizing fs with
  | nil => simp only [Node.sameEntries, Fields.sameBy]
  | cons e es ih =>
    obtain ⟨k, n⟩ := e
    simp only [Node.sameEntries, Fields.sameBy]
    split <;> simp_all

lemma Node.sameList_iff {ns ms : List Node} :
    Node.sameList ns ms = true ↔ List.Forall₂ Node.Alike ns ms := by
  induction ns generalizing ms with
  | nil => cases ms <;> simp [Node.sameList]
  | cons n ns ih =>
    cases ms with
    | nil => simp [Node.sameList]
    | cons m ms => simp [Node.sameList, ih, Node.Alike]

/-- Equality of attribute values at the outermost level. -/
inductive AttrValue.AlikeLevel : AttrValue → AttrValue → Prop where
  | literal {t u : Tree} : t.Alike u → AlikeLevel (.literal t) (.literal u)
  | name (n : Name) : AlikeLevel (.name n) (.name n)
  | node {n m : Node} : n.Alike m → AlikeLevel (.node n) (.node m)
  | nodes {ns ms : List Node} : List.Forall₂ Node.Alike ns ms → AlikeLevel (.nodes ns) (.nodes ms)
  | nodeMap {es fs : Fields Node} : Fields.Matches Node.Alike es fs →
      AlikeLevel (.nodeMap es) (.nodeMap fs)

lemma AttrValue.alike_iff {v w : AttrValue} : v.Alike w ↔ v.AlikeLevel w := by
  constructor
  · intro h
    cases v with
    | literal t =>
      cases w with
      | literal u => exact .literal (by simpa [Alike, same, Tree.Alike] using h)
      | _ => simp [Alike, same] at h
    | name n =>
      cases w with
      | name m =>
        obtain rfl : n = m := by simpa [Alike, same] using h
        exact .name n
      | _ => simp [Alike, same] at h
    | node n =>
      cases w with
      | node m => exact .node (by simpa [Alike, same, Node.Alike] using h)
      | _ => simp [Alike, same] at h
    | nodes ns =>
      cases w with
      | nodes ms => exact .nodes (Node.sameList_iff.mp (by simpa [Alike, same] using h))
      | _ => simp [Alike, same] at h
    | nodeMap es =>
      cases w with
      | nodeMap fs =>
        have hfields : Node.sameEntries es fs = true := by simpa [Alike, same] using h
        rw [Node.sameEntries_eq] at hfields
        exact .nodeMap (Fields.sameBy_iff.mp hfields)
      | _ => simp [Alike, same] at h
  · intro h
    cases h with
    | literal htu => simpa [Alike, same, Tree.Alike] using htu
    | name n => exact same_refl (.name n)
    | node hnm => simpa [Alike, same, Node.Alike] using hnm
    | nodes hns => simpa [Alike, same] using Node.sameList_iff.mpr hns
    | nodeMap hes =>
      rw [Alike, same, Node.sameEntries_eq]
      exact Fields.sameBy_iff.mpr hes

lemma AttrValue.alike_nodes_iff {ns ms : List Node} :
    (AttrValue.nodes ns).Alike (.nodes ms) ↔ List.Forall₂ Node.Alike ns ms := by
  rw [alike_iff]
  exact ⟨fun | .nodes h => h, .nodes⟩

lemma AttrValue.alike_nodeMap_iff {es fs : Fields Node} :
    (AttrValue.nodeMap es).Alike (.nodeMap fs) ↔ Fields.Matches Node.Alike es fs := by
  rw [alike_iff]
  exact ⟨fun | .nodeMap h => h, .nodeMap⟩

lemma Node.alike_iff {n m : Node} : n.Alike m ↔
    n.kind.Alike m.kind ∧ Fields.Matches AttrValue.Alike n.attributes m.attributes := by
  obtain ⟨k, as⟩ := n
  obtain ⟨l, bs⟩ := m
  rw [Node.Alike, Node.same, AttrValue.sameEntries_eq, Bool.and_eq_true, Fields.sameBy_iff]
  rfl

/-- Induction over values and nodes together; the nodes in a value and the values in a node are
smaller. -/
theorem AttrValue.and_node_ind {values : AttrValue → Prop} {nodes : Node → Prop}
    (literal : ∀ t, values (.literal t)) (name : ∀ n, values (.name n))
    (node : ∀ n, nodes n → values (.node n))
    (list : ∀ ns, (∀ n ∈ ns, nodes n) → values (.nodes ns))
    (nodeMap : ∀ es, (∀ e ∈ es, nodes e.2) → values (.nodeMap es))
    (mk : ∀ k as, (∀ e ∈ as, values e.2) → nodes (.mk k as)) :
    (∀ v, values v) ∧ ∀ n, nodes n := by
  have hvalue := @AttrValue.rec values nodes (fun ns => ∀ n ∈ ns, nodes n)
    (fun es => ∀ e ∈ es, nodes e.2) (fun as => ∀ e ∈ as, values e.2) (fun e => nodes e.2)
    (fun e => values e.2) literal name node list nodeMap mk (fun _ h => nomatch h)
    (fun _ _ hn hns => List.forall_mem_cons.mpr ⟨hn, hns⟩) (fun _ h => nomatch h)
    (fun _ _ he hes => List.forall_mem_cons.mpr ⟨he, hes⟩) (fun _ h => nomatch h)
    (fun _ _ he has => List.forall_mem_cons.mpr ⟨he, has⟩) (fun _ _ hn => hn) (fun _ _ hv => hv)
  refine ⟨hvalue, ?_⟩
  rintro ⟨k, as⟩
  exact mk k as fun e _ => hvalue e.2

lemma alike_symm : (∀ v w : AttrValue, v.Alike w → w.Alike v) ∧
    ∀ n m : Node, n.Alike m → m.Alike n := by
  apply AttrValue.and_node_ind
  case literal =>
    intro t w h
    cases AttrValue.alike_iff.mp h with
    | literal htu => exact AttrValue.alike_iff.mpr (.literal htu.symm)
  case name =>
    intro n w h
    cases AttrValue.alike_iff.mp h
    exact h
  case node =>
    intro n ih w h
    cases AttrValue.alike_iff.mp h with
    | node hnm => exact AttrValue.alike_iff.mpr (.node (ih _ hnm))
  case list =>
    intro ns ih w h
    cases AttrValue.alike_iff.mp h with
    | nodes hns =>
      have hflip := (forall₂_imp_of_mem (S := fun n m => Node.Alike m n) hns ih).flip
      exact AttrValue.alike_iff.mpr (.nodes hflip)
  case nodeMap =>
    intro es ih w h
    cases AttrValue.alike_iff.mp h with
    | nodeMap hes => exact AttrValue.alike_iff.mpr (.nodeMap (hes.flip_of_mem ih))
  case mk =>
    rintro k as ih ⟨l, bs⟩ h
    obtain ⟨hkind, has⟩ := Node.alike_iff.mp h
    exact Node.alike_iff.mpr ⟨Kind.equivalence_alike.symm hkind, has.flip_of_mem ih⟩

lemma alike_trans : (∀ v w x : AttrValue, v.Alike w → w.Alike x → v.Alike x) ∧
    ∀ n m o : Node, n.Alike m → m.Alike o → n.Alike o := by
  apply AttrValue.and_node_ind
  case literal =>
    intro t w x h h'
    cases AttrValue.alike_iff.mp h with
    | literal htu =>
      cases AttrValue.alike_iff.mp h' with
      | literal hus => exact AttrValue.alike_iff.mpr (.literal (htu.trans hus))
  case name =>
    intro n w x h h'
    cases AttrValue.alike_iff.mp h
    exact h'
  case node =>
    intro n ih w x h h'
    cases AttrValue.alike_iff.mp h with
    | node hnm =>
      cases AttrValue.alike_iff.mp h' with
      | node hmo => exact AttrValue.alike_iff.mpr (.node (ih _ _ hnm hmo))
  case list =>
    intro ns ih w x h h'
    cases AttrValue.alike_iff.mp h with
    | nodes hns =>
      cases AttrValue.alike_iff.mp h' with
      | nodes hms =>
        refine AttrValue.alike_iff.mpr (.nodes (forall₂_imp_of_mem (forall₂_comp hns hms) ?_))
        rintro n hn o ⟨m, hnm, hmo⟩
        exact ih n hn m o hnm hmo
  case nodeMap =>
    intro es ih w x h h'
    cases AttrValue.alike_iff.mp h with
    | nodeMap hes =>
      cases AttrValue.alike_iff.mp h' with
      | nodeMap hfs => exact AttrValue.alike_iff.mpr (.nodeMap (hes.comp_of_mem hfs ih))
  case mk =>
    rintro k as ih ⟨l, bs⟩ ⟨j, cs⟩ h h'
    obtain ⟨hkind, has⟩ := Node.alike_iff.mp h
    obtain ⟨hkind', hbs⟩ := Node.alike_iff.mp h'
    exact Node.alike_iff.mpr
      ⟨Kind.equivalence_alike.trans hkind hkind', has.comp_of_mem hbs ih⟩

theorem AttrValue.equivalence_alike : Equivalence AttrValue.Alike :=
  ⟨AttrValue.same_refl, fun {v w} => alike_symm.1 v w, fun {v w x} => alike_trans.1 v w x⟩

theorem Node.equivalence_alike : Equivalence Node.Alike :=
  ⟨Node.same_refl, fun {n m} => alike_symm.2 n m, fun {n m o} => alike_trans.2 n m o⟩

theorem Tree.equivalence_alike : Equivalence Tree.Alike :=
  ⟨Tree.Alike.refl, Tree.Alike.symm, Tree.Alike.trans⟩

/-- Structural equality is an equivalence on trees, values, kinds and nodes, and equal nodes have
equal trees. Maps of every sort compare by key and lists by position, and no integer is a double. -/
theorem structural_equality :
    Equivalence Tree.Alike ∧ Equivalence AttrValue.Alike ∧ Equivalence Kind.Alike ∧
    Equivalence Node.Alike ∧ (∀ n m : Node, n.Alike m → n.toTree.Alike m.toTree) ∧
    (∀ fs gs : Fields Tree, fs.keys.Nodup → gs.keys.Nodup →
      (Tree.Alike (.map fs) (.map gs) ↔ Fields.EqualByKey Tree.Alike fs gs)) ∧
    (∀ es fs : Fields Node, es.keys.Nodup → fs.keys.Nodup →
      (AttrValue.Alike (.nodeMap es) (.nodeMap fs) ↔ Fields.EqualByKey Node.Alike es fs)) ∧
    (∀ n m : Node, n.attributes.keys.Nodup → m.attributes.keys.Nodup →
      (n.Alike m ↔ n.kind.Alike m.kind ∧
        Fields.EqualByKey AttrValue.Alike n.attributes m.attributes)) ∧
    (∀ k l : Kind, (Fields.keys k.attributes).Nodup → (Fields.keys l.attributes).Nodup →
      (k.Alike l ↔ k.id = l.id ∧ k.typeName = l.typeName ∧
        Fields.EqualByKey Eq k.attributes l.attributes)) ∧
    (∀ ts us, Tree.Alike (.list ts) (.list us) ↔ List.Forall₂ Tree.Alike ts us) ∧
    (∀ ns ms, AttrValue.Alike (.nodes ns) (.nodes ms) ↔ List.Forall₂ Node.Alike ns ms) ∧
    ∀ i x, ¬ Tree.Alike (.number (.int i)) (.number (.float x)) := by
  refine ⟨Tree.equivalence_alike, AttrValue.equivalence_alike, Kind.equivalence_alike,
    Node.equivalence_alike, Node.same_toTree, ?maps, ?nodeMaps, ?attributes, ?declarations,
    fun _ _ => Tree.alike_list_iff, fun _ _ => AttrValue.alike_nodes_iff, ?numbers⟩
  case maps =>
    intro fs gs hfs hgs
    rw [Tree.alike_map_iff, Fields.matches_iff_equalByKey hfs hgs]
  case nodeMaps =>
    intro es fs hes hfs
    rw [AttrValue.alike_nodeMap_iff, Fields.matches_iff_equalByKey hes hfs]
  case attributes =>
    intro n m hn hm
    rw [Node.alike_iff, Fields.matches_iff_equalByKey hn hm]
  case declarations =>
    intro k l hk hl
    rw [Kind.alike_iff, Fields.matches_iff_equalByKey hk hl]
  case numbers =>
    intro i x h
    cases h.level with
    | number hsame => cases hsame

/-- A record with a default and a schema that it excludes. -/
def record : Node := .mk Kind.object [("title", .string "R"),
  ("default", .literal (.map [("size", .ofInt 1), ("share", .number (.float ⟨0, by decide⟩))])),
  ("definitions", .nodeMap [("a", .mk Kind.null []), ("b", .mk Kind.boolean [])])]

/-- The same record in another order, and with the other zero. -/
def recordReordered : Node := .mk Kind.object [
  ("definitions", .nodeMap [("b", .mk Kind.boolean []), ("a", .mk Kind.null [])]),
  ("default", .literal (.map [("share", .number (.float ⟨0x8000000000000000, by decide⟩)),
    ("size", .ofInt 1)])), ("title", .string "R")]

theorem structural_equality_reordered : record.Alike recordReordered ∧
    recordReordered.Alike record ∧ record.toTree.Alike recordReordered.toTree ∧
    record.attributes.EqualByKey AttrValue.Alike recordReordered.attributes := by
  obtain ⟨-, -, -, hnodes, htrees, -, -, hattributes, -⟩ := structural_equality
  have halike : record.Alike recordReordered := by
    change record.same recordReordered = true
    decide +kernel
  refine ⟨halike, hnodes.symm halike, htrees _ _ halike, ?_⟩
  exact ((hattributes record recordReordered (by decide) (by decide)).mp halike).2

end Schemata
