import Mathlib.Data.List.Forall2
import Schemata.Proofs.EqualTrees

/-! Fields that hold matching values under every key, in whatever order their keys stand. Equality
of trees is such a match at every map, and it is an equivalence. -/
namespace Schemata

lemma forall₂_imp_of_mem {α : Type u} {β : Type v} {R S : α → β → Prop} {as : List α} {bs : List β}
    (h : List.Forall₂ R as bs) (himp : ∀ a ∈ as, ∀ b, R a b → S a b) : List.Forall₂ S as bs := by
  induction h with
  | nil => exact .nil
  | cons hab _ ih =>
    rw [List.forall_mem_cons] at himp
    exact .cons (himp.1 _ hab) (ih himp.2)

namespace Fields
variable {α : Type u} {β : Type v} {γ : Type w} {key other : String}

/-- The values of all entries under a key; fields with distinct keys have at most one. -/
def valuesAt : Fields α → String → List α
  | [], _ => []
  | (k, v) :: fs, key => if k = key then v :: valuesAt fs key else valuesAt fs key

@[simp] lemma valuesAt_nil (key : String) : valuesAt ([] : Fields α) key = [] := rfl

lemma valuesAt_cons (e : String × α) (fs : Fields α) (key : String) : valuesAt (e :: fs) key =
    if e.1 = key then e.2 :: valuesAt fs key else valuesAt fs key := rfl

lemma mem_valuesAt {fs : Fields α} {v : α} : v ∈ valuesAt fs key ↔ (key, v) ∈ fs := by
  induction fs with
  | nil => simp
  | cons e fs ih =>
    obtain ⟨k, w⟩ := e
    rw [valuesAt_cons, List.mem_cons, ← ih]
    by_cases hk : k = key
    · simp [hk]
    · simp [hk, Ne.symm hk]

lemma get?_eq_head? (fs : Fields α) (key : String) : get? fs key = (valuesAt fs key).head? := by
  induction fs with
  | nil => rfl
  | cons e fs ih =>
    obtain ⟨k, v⟩ := e
    by_cases hk : k = key <;> simp [get?_cons, valuesAt_cons, hk, ih]

lemma valuesAt_insert_self (fs : Fields α) (key : String) (value : α) :
    valuesAt (insert fs key value) key = value :: (valuesAt fs key).tail := by
  induction fs with
  | nil => simp [insert, valuesAt_cons]
  | cons e fs ih =>
    by_cases hk : e.1 = key <;> simp [insert, valuesAt_cons, hk, ih]

lemma valuesAt_insert_of_ne (fs : Fields α) (value : α) (h : key ≠ other) :
    valuesAt (insert fs key value) other = valuesAt fs other := by
  induction fs with
  | nil => simp [insert, valuesAt_cons, h]
  | cons e fs ih =>
    by_cases hk : e.1 = key
    · simp [insert, valuesAt_cons, hk, h]
    · simp [insert, valuesAt_cons, hk, ih]

lemma valuesAt_filter (p : String → α → Bool) (fs : Fields α) (key : String) :
    valuesAt (fs.filter fun e => p e.1 e.2) key = (valuesAt fs key).filter (p key) := by
  induction fs with
  | nil => rfl
  | cons e fs ih =>
    obtain ⟨k, v⟩ := e
    by_cases hk : k = key
    · subst hk
      by_cases hp : p k v = true <;> simp [valuesAt_cons, hp, ih]
    · by_cases hp : p k v = true <;> simp [valuesAt_cons, hp, hk, ih]

lemma valuesAt_append (fs gs : Fields α) (key : String) :
    valuesAt (fs ++ gs) key = valuesAt fs key ++ valuesAt gs key := by
  induction fs with
  | nil => rfl
  | cons e fs ih =>
    by_cases hk : e.1 = key <;> simp [valuesAt_cons, hk, ih]

lemma valuesAt_of_notMem {fs : Fields α} (h : key ∉ keys fs) : valuesAt fs key = [] := by
  rw [List.eq_nil_iff_forall_not_mem]
  intro v hv
  exact h (mem_keys_of_mem (mem_valuesAt.mp hv))

lemma valuesAt_of_nodup {fs : Fields α} (hn : (keys fs).Nodup) (key : String) :
    valuesAt fs key = (get? fs key).toList := by
  induction fs with
  | nil => rfl
  | cons e fs ih =>
    rw [keys_cons, List.nodup_cons] at hn
    rw [valuesAt_cons, get?_cons]
    split
    · rename_i hkey
      rw [← hkey, valuesAt_of_notMem hn.1]
      rfl
    · exact ih hn.2

lemma valuesAt_of_extract? {fs rest : Fields α} {v : α} (h : extract? key fs = some (v, rest)) :
    valuesAt fs key = v :: valuesAt rest key ∧
      ∀ other, other ≠ key → valuesAt fs other = valuesAt rest other := by
  obtain ⟨before, behind, rfl, rfl, hbefore⟩ := exists_of_extract? h
  constructor
  · rw [valuesAt_append, valuesAt_append, valuesAt_of_notMem hbefore, valuesAt_cons, if_pos rfl]
    rfl
  · intro other ho
    rw [valuesAt_append, valuesAt_append, valuesAt_cons, if_neg (Ne.symm ho)]

lemma extract?_eq_none {fs : Fields α} (h : extract? key fs = none) : valuesAt fs key = [] := by
  induction fs with
  | nil => rfl
  | cons e fs ih =>
    obtain ⟨k, w⟩ := e
    by_cases hk : k = key
    · simp [extract?, hk] at h
    · rw [valuesAt_cons, if_neg hk]
      exact ih (by simpa [extract?, hk] using h)

/-- Fields with as many values under every key, and with related values in the same places. -/
def Matches (R : α → β → Prop) (as : Fields α) (bs : Fields β) : Prop :=
  ∀ key, List.Forall₂ R (valuesAt as key) (valuesAt bs key)

/-- The comparison of fields asks for a match and nothing else. -/
theorem sameBy_iff {eq : α → β → Bool} {as : Fields α} {bs : Fields β} :
    sameBy eq as bs = true ↔ Matches (fun a b => eq a b = true) as bs := by
  induction as generalizing bs with
  | nil =>
    constructor
    · intro h key
      obtain rfl : bs = [] := by simpa [sameBy] using h
      exact .nil
    · intro h
      cases bs with
      | nil => rfl
      | cons e bs =>
        have hfirst := h e.1
        rw [valuesAt_cons, if_pos rfl] at hfirst
        cases hfirst
  | cons e as ih =>
    obtain ⟨k, a⟩ := e
    unfold sameBy
    cases hx : extract? k bs with
    | none =>
      constructor
      · intro h
        cases h
      · intro h
        have hfirst := h k
        rw [valuesAt_cons, if_pos rfl, extract?_eq_none hx] at hfirst
        cases hfirst
    | some r =>
      obtain ⟨b, rest⟩ := r
      obtain ⟨hk, hothers⟩ := valuesAt_of_extract? hx
      rw [Bool.and_eq_true, ih]
      constructor
      · rintro ⟨hab, hrest⟩ key
        rw [valuesAt_cons]
        split
        · rename_i heq
          subst heq
          rw [hk]
          exact .cons hab (hrest _)
        · rename_i hne
          rw [hothers key (Ne.symm hne)]
          exact hrest key
      · intro h
        have hfirst := h k
        rw [valuesAt_cons, if_pos rfl, hk] at hfirst
        obtain ⟨hab, hrest⟩ := List.forall₂_cons.mp hfirst
        refine ⟨hab, fun key => ?_⟩
        by_cases heq : k = key
        · rw [← heq]
          exact hrest
        · have hother := h key
          rwa [valuesAt_cons, if_neg heq, hothers key (Ne.symm heq)] at hother

namespace Matches
variable {R : α → β → Prop} {as : Fields α} {bs : Fields β}

lemma get? (h : Matches R as bs) (key : String) :
    Option.Rel R (as.get? key) (bs.get? key) := by
  rw [get?_eq_head?, get?_eq_head?]
  generalize valuesAt as key = vs, valuesAt bs key = ws, h key = hkey
  cases hkey with
  | nil => exact .none
  | cons hab _ => exact .some hab

lemma get?_eq_none (h : Matches R as bs) (hn : as.get? key = none) : bs.get? key = none := by
  have hrel := h.get? key
  rw [hn] at hrel
  cases hb : bs.get? key with
  | none => rfl
  | some b =>
    rw [hb] at hrel
    cases hrel

lemma exists_of_get? (h : Matches R as bs) {a : α} (ha : as.get? key = some a) :
    ∃ b, bs.get? key = some b ∧ R a b := by
  have hrel := h.get? key
  rw [ha] at hrel
  cases hb : bs.get? key with
  | none =>
    rw [hb] at hrel
    cases hrel
  | some b =>
    rw [hb] at hrel
    cases hrel with
    | some hab => exact ⟨b, rfl, hab⟩

lemma mem_keys_iff (h : Matches R as bs) : key ∈ as.keys ↔ key ∈ bs.keys := by
  rw [← get?_isSome_iff, ← get?_isSome_iff]
  generalize as.get? key = a, bs.get? key = b, h.get? key = hrel
  cases hrel <;> simp

lemma flip (h : Matches R as bs) : Matches (fun b a => R a b) bs as := fun key => (h key).flip

lemma eq_nil (h : Matches R [] bs) : bs = [] := by
  cases bs with
  | nil => rfl
  | cons e bs =>
    have hfirst := h e.1
    rw [valuesAt_cons, if_pos rfl] at hfirst
    cases hfirst

lemma insert (h : Matches R as bs) (key : String) {a : α} {b : β} (hab : R a b) :
    Matches R (as.insert key a) (bs.insert key b) := by
  intro other
  by_cases hk : key = other
  · subst hk
    rw [valuesAt_insert_self, valuesAt_insert_self]
    refine .cons hab ?_
    generalize valuesAt as key = vs, valuesAt bs key = ws, h key = hkey
    cases hkey with
    | nil => exact .nil
    | cons _ hrest => exact hrest
  · rw [valuesAt_insert_of_ne _ _ hk, valuesAt_insert_of_ne _ _ hk]
    exact h other

lemma filter (h : Matches R as bs) {p : String → α → Bool} {q : String → β → Bool}
    (hpq : ∀ key a b, R a b → p key a = q key b) :
    Matches R (as.filter fun e => p e.1 e.2) (bs.filter fun e => q e.1 e.2) := by
  intro key
  rw [valuesAt_filter, valuesAt_filter]
  exact List.rel_filter (fun a b hab => by simp only [hpq key a b hab]) (h key)

lemma erase (h : Matches R as bs) (key : String) : Matches R (as.erase key) (bs.erase key) :=
  h.filter (p := fun k _ => decide (k ≠ key)) (q := fun k _ => decide (k ≠ key))
    fun _ _ _ _ => rfl

/-- The same keys in the same order. -/
lemma of_rel (h : Rel (fun _ => R) as bs) : Matches R as bs := by
  intro key
  induction h with
  | nil => exact .nil
  | @cons e f _ _ hef _ ih =>
    rw [valuesAt_cons, valuesAt_cons, ← hef.1]
    split
    · exact .cons hef.2 ih
    · exact ih

lemma extend (h : Matches R as bs) {cs : Fields α} {ds : Fields β}
    (hrel : Rel (fun _ => R) cs ds) : Matches R (as.extend cs) (bs.extend ds) := by
  induction hrel generalizing as bs with
  | nil => exact h
  | @cons e f _ _ hef _ ih =>
    rw [extend_cons, extend_cons, ← hef.1]
    exact ih (h.insert e.1 hef.2)

/-- Fields with distinct keys match if they hold the same under every key. -/
lemma of_get?_eq {R : α → α → Prop} {as bs : Fields α} (hR : ∀ a, R a a) (has : (keys as).Nodup)
    (hbs : (keys bs).Nodup) (h : ∀ key, as.get? key = bs.get? key) : Matches R as bs := by
  intro key
  rw [valuesAt_of_nodup has, valuesAt_of_nodup hbs, h key]
  exact List.forall₂_same.mpr fun a _ => hR a

end Matches

lemma length_of_extract? {fs rest : Fields α} {v : α} (h : extract? key fs = some (v, rest)) :
    fs.length = rest.length + 1 := by
  obtain ⟨before, behind, rfl, rfl, _⟩ := exists_of_extract? h
  rw [List.length_append, List.length_append, List.length_cons, Nat.add_assoc]

lemma length_of_sameBy {eq : α → β → Bool} {as : Fields α} {bs : Fields β}
    (h : sameBy eq as bs = true) : as.length = bs.length := by
  induction as generalizing bs with
  | nil =>
    obtain rfl : bs = [] := by simpa [sameBy] using h
    rfl
  | cons e as ih =>
    obtain ⟨k, a⟩ := e
    simp only [sameBy] at h
    split at h
    · rename_i b rest hx
      rw [List.length_cons, ih (Bool.and_eq_true_iff.mp h).2, length_of_extract? hx]
    · cases h

end Fields

lemma Double.eq_of_bits {x y : Double} (h : x.bits = y.bits) : x = y := by
  obtain ⟨b, hb⟩ := x
  obtain ⟨c, hc⟩ := y
  obtain rfl : b = c := h
  rfl

lemma Double.same_trans {x y z : Double} (h : x.same y = true) (h' : y.same z = true) :
    x.same z = true := by
  simp only [same, Bool.or_eq_true, decide_eq_true_eq, Bool.and_eq_true] at h h' ⊢
  rcases h with hxy | ⟨hx, hy⟩
  · rw [eq_of_bits hxy]
    exact h'
  · rcases h' with hyz | ⟨_, hz⟩
    · exact .inr ⟨hx, eq_of_bits hyz ▸ hy⟩
    · exact .inr ⟨hx, hz⟩

lemma Number.same_trans {m n k : Number} (h : m.same n = true) (h' : n.same k = true) :
    m.same k = true := by
  cases m <;> cases n <;> cases k <;> simp_all [same]
  exact Double.same_trans h h'

namespace Tree

/-- Trees that are equal but for the order of the keys in their maps. -/
def Alike (t u : Tree) : Prop := t.same u = true

variable {t u v : Tree} {ts us : List Tree} {fs gs : Fields Tree}

lemma alike_list_iff : Alike (.list ts) (.list us) ↔ List.Forall₂ Alike ts us := by
  constructor
  · exact forall₂_of_sameItems
  · intro h
    change sameItems ts us = true
    induction h with
    | nil => rfl
    | cons htu _ ih => exact Bool.and_eq_true_iff.mpr ⟨htu, ih⟩

lemma alike_map_iff : Alike (.map fs) (.map gs) ↔ Fields.Matches Alike fs gs := by
  rw [Alike, same, sameFields_eq]
  exact Fields.sameBy_iff

/-- Equality at the outermost level. -/
inductive AlikeLevel : Tree → Tree → Prop where
  | null : AlikeLevel .null .null
  | bool (b : Bool) : AlikeLevel (.bool b) (.bool b)
  | number {n m : Number} : n.same m = true → AlikeLevel (.number n) (.number m)
  | string (s : String) : AlikeLevel (.string s) (.string s)
  | list {ts us : List Tree} : List.Forall₂ Alike ts us → AlikeLevel (.list ts) (.list us)
  | map {fs gs : Fields Tree} : Fields.Matches Alike fs gs → AlikeLevel (.map fs) (.map gs)

namespace Alike

lemma refl (t : Tree) : Alike t t := same_refl t

lemma isMap_eq (h : Alike t u) : u.isMap = t.isMap := (isMap_of_same h).symm

lemma level (h : Alike t u) : AlikeLevel t u := by
  cases t with
  | null =>
    cases u with
    | null => exact .null
    | _ => simp [Alike, same] at h
  | bool b =>
    cases u with
    | bool c =>
      obtain rfl : b = c := by simpa [Alike, same] using h
      exact .bool b
    | _ => simp [Alike, same] at h
  | number n =>
    cases u with
    | number m => exact .number h
    | _ => simp [Alike, same] at h
  | string s =>
    cases u with
    | string r =>
      obtain rfl : s = r := by simpa [Alike, same] using h
      exact .string s
    | _ => simp [Alike, same] at h
  | list ts =>
    cases u with
    | list us => exact .list (alike_list_iff.mp h)
    | _ => simp [Alike, same] at h
  | map fs =>
    cases u with
    | map gs => exact .map (alike_map_iff.mp h)
    | _ => simp [Alike, same] at h

lemma exists_list (h : Alike (.list ts) u) : ∃ us, u = .list us ∧ List.Forall₂ Alike ts us := by
  cases h.level with
  | list hus => exact ⟨_, rfl, hus⟩

lemma exists_map (h : Alike (.map fs) u) : ∃ gs, u = .map gs ∧ Fields.Matches Alike fs gs := by
  cases h.level with
  | map hgs => exact ⟨_, rfl, hgs⟩

theorem symm (h : Alike t u) : Alike u t := by
  induction t generalizing u with
  | list ts ih =>
    obtain ⟨us, rfl, hus⟩ := h.exists_list
    exact alike_list_iff.mpr (forall₂_imp_of_mem hus fun t ht u htu => ih t ht htu).flip
  | map fs ih =>
    obtain ⟨gs, rfl, hgs⟩ := h.exists_map
    refine alike_map_iff.mpr fun key => (forall₂_imp_of_mem (hgs key) ?_).flip
    exact fun v hv u hvu => ih (key, v) (Fields.mem_valuesAt.mp hv) hvu
  | number n =>
    cases h.level with
    | number hnm => rwa [Number.same_comm] at hnm
  | _ =>
    cases h.level
    exact refl _

theorem trans (h : Alike t u) (h' : Alike u v) : Alike t v := by
  induction t generalizing u v with
  | list ts ih =>
    obtain ⟨us, rfl, hus⟩ := h.exists_list
    obtain ⟨vs, rfl, hvs⟩ := h'.exists_list
    refine alike_list_iff.mpr (forall₂_imp_of_mem (forall₂_comp hus hvs) ?_)
    rintro t ht v ⟨u, htu, huv⟩
    exact ih t ht htu huv
  | map fs ih =>
    obtain ⟨gs, rfl, hgs⟩ := h.exists_map
    obtain ⟨hs, rfl, hhs⟩ := h'.exists_map
    refine alike_map_iff.mpr fun key => forall₂_imp_of_mem (forall₂_comp (hgs key) (hhs key)) ?_
    rintro t ht v ⟨u, htu, huv⟩
    exact ih (key, t) (Fields.mem_valuesAt.mp ht) htu huv
  | number n =>
    cases h.level with
    | number hnm =>
      cases h'.level with
      | number hmk => exact Number.same_trans hnm hmk
  | _ =>
    cases h.level
    exact h'

end Alike

/-- Equal trees compare alike with any third tree. -/
lemma same_congr (h : Alike t u) (v : Tree) : t.same v = u.same v := by
  rw [Bool.eq_iff_iff]
  exact ⟨h.symm.trans, h.trans⟩

end Tree
end Schemata
