import Schemata.Proofs.Traversal
import Schemata.Render.Strip

/-! The levels of a tree: the schemas that stand in it at any depth, and properties
that the fields of all of them have. -/
namespace Schemata

/-- The schemas directly under a key. -/
def schemasUnder (key : String) (value : Tree) : List Tree :=
  match slot key value with
  | .literal => []
  | .schema => [value]
  | .items ts => ts
  | .entries fs => fs.map (·.2)

section Slots
variable {key : String} {value t : Tree}

lemma schemasUnder_of_literal (h : slot key value = .literal) : schemasUnder key value = [] := by
  rw [schemasUnder, h]

lemma schemasUnder_of_schema (h : slot key value = .schema) : schemasUnder key value = [value] := by
  rw [schemasUnder, h]

lemma schemasUnder_of_items {ts : List Tree} (h : slot key value = .items ts) :
    schemasUnder key value = ts := by
  rw [schemasUnder, h]

lemma schemasUnder_of_entries {fs : Fields Tree} (h : slot key value = .entries fs) :
    schemasUnder key value = fs.map (·.2) := by
  rw [schemasUnder, h]

lemma schemasUnder_of_maps (hl : key ∉ literalKeys) {ts : List Tree}
    (h : ∀ t ∈ ts, t.isMap = true) : schemasUnder key (.list ts) = ts := by
  cases ts with
  | nil => exact schemasUnder_of_literal (by simp [slot])
  | cons t ts =>
    apply schemasUnder_of_items
    exact slot_eq_items_iff.mpr ⟨hl, rfl, t, ts, rfl, h t List.mem_cons_self⟩

lemma schemasUnder_congr {other : String} (h : slot key value = slot other value) :
    schemasUnder key value = schemasUnder other value := by
  rw [schemasUnder, h, schemasUnder]

lemma mem_of_mem_schemasUnder_list {ts : List Tree} (h : t ∈ schemasUnder key (.list ts)) :
    t ∈ ts := by
  unfold schemasUnder at h
  split at h
  · cases h
  · rename_i hs
    cases (slot_eq_schema_iff.mp hs).2.2
  · rename_i us hs
    cases slot_eq_items hs
    exact h
  · rename_i hs
    cases slot_eq_entries hs

lemma depth_of_mem_schemasUnder (h : t ∈ schemasUnder key value) : t.depth ≤ value.depth := by
  unfold schemasUnder at h
  split at h
  · cases h
  · obtain rfl := List.mem_singleton.mp h
    exact Nat.le_refl _
  · rename_i ts hs
    obtain rfl := slot_eq_items hs
    have hdepth := Tree.depth_le_depthOfItems h
    simp only [Tree.depth]
    omega
  · rename_i fs hs
    obtain rfl := slot_eq_entries hs
    obtain ⟨e, he, rfl⟩ := List.mem_map.mp h
    have hdepth := Tree.depth_le_depthOfFields he
    simp only [Tree.depth]
    omega

lemma depth_of_mem_fields {fs : Fields Tree} {e : String × Tree} (he : e ∈ fs)
    (h : t ∈ schemasUnder e.1 e.2) : t.depth < (Tree.map fs).depth := by
  have hvalue := depth_of_mem_schemasUnder h
  have hfields := Tree.depth_le_depthOfFields he
  simp only [Tree.depth]
  omega

end Slots

namespace InSlot
variable {R : Tree → Tree → Prop} {key : String} {value w t u : Tree}

/-- A pass goes from the schemas under a key to those of its result, one by one. -/
lemma forall₂_schemasUnder (hR : ∀ t u, R t u → u.isMap = t.isMap) (h : InSlot R key value w) :
    List.Forall₂ R (schemasUnder key value) (schemasUnder key w) := by
  cases h with
  | literal hs =>
    rw [schemasUnder_of_literal hs]
    exact .nil
  | schema hs hr =>
    obtain ⟨hl, hm, hmap⟩ := slot_eq_schema_iff.mp hs
    have hw : slot key w = .schema := slot_eq_schema_iff.mpr ⟨hl, hm, (hR _ _ hr).trans hmap⟩
    rw [schemasUnder_of_schema hs, schemasUnder_of_schema hw]
    exact .cons hr .nil
  | @items ts us hs hr =>
    obtain ⟨hl, rfl, t, rest, rfl, ht⟩ := slot_eq_items_iff.mp hs
    cases hr with
    | @cons _ u _ us htu hrest =>
      have hw : slot key (.list (u :: us)) = .items (u :: us) :=
        slot_eq_items_iff.mpr ⟨hl, rfl, u, us, rfl, (hR _ _ htu).trans ht⟩
      rw [schemasUnder_of_items hs, schemasUnder_of_items hw]
      exact .cons htu hrest
  | @entries fs gs hs hr =>
    obtain ⟨hl, hm, rfl⟩ := slot_eq_entries_iff.mp hs
    have hw : slot key (.map gs) = .entries gs := slot_eq_entries_iff.mpr ⟨hl, hm, rfl⟩
    rw [schemasUnder_of_entries hs, schemasUnder_of_entries hw, List.forall₂_map_left_iff,
      List.forall₂_map_right_iff]
    exact hr.imp fun _ _ hef => hef.2

lemma exists_of_mem_schemasUnder (hR : ∀ t u, R t u → u.isMap = t.isMap)
    (h : InSlot R key value w) (hu : u ∈ schemasUnder key w) :
    ∃ t ∈ schemasUnder key value, R t u :=
  exists_of_mem_right (h.forall₂_schemasUnder hR) hu

lemma exists_iff : (∃ w, InSlot R key value w) ↔ ∀ t ∈ schemasUnder key value, ∃ u, R t u := by
  unfold schemasUnder
  cases hs : slot key value with
  | literal => exact ⟨fun _ _ ht => (nomatch ht), fun _ => ⟨value, .literal hs⟩⟩
  | schema =>
    constructor
    · rintro ⟨w, hw⟩ t ht
      rw [List.mem_singleton.mp ht]
      exact ⟨w, hw.of_schema hs⟩
    · intro h
      obtain ⟨w, hw⟩ := h value (List.mem_singleton_self value)
      exact ⟨w, .schema hs hw⟩
  | items ts =>
    constructor
    · rintro ⟨w, hw⟩
      obtain ⟨us, _, hr⟩ := hw.exists_items hs
      exact exists_forall₂_iff.mp ⟨us, hr⟩
    · intro h
      obtain ⟨us, hr⟩ := exists_forall₂_iff.mpr h
      exact ⟨.list us, .items hs hr⟩
  | entries fs =>
    constructor
    · rintro ⟨w, hw⟩ t ht
      obtain ⟨e, he, rfl⟩ := List.mem_map.mp ht
      obtain ⟨gs, _, hr⟩ := hw.exists_entries hs
      exact Fields.exists_rel_iff.mp ⟨gs, hr⟩ e he
    · intro h
      have hall : ∀ e ∈ fs, ∃ w, R e.2 w := fun e he => h e.2 (List.mem_map_of_mem he)
      obtain ⟨gs, hr⟩ := Fields.exists_rel_iff (R := fun _ => R) |>.mpr hall
      exact ⟨.map gs, .entries hs hr⟩

end InSlot

/-- The schemas directly inside a schema, apart from what is only there to construct it. -/
inductive Inside : Tree → Tree → Prop where
  | under {fs : Fields Tree} {key : String} {value t : Tree} : (key, value) ∈ fs →
      key ∉ bookkeepingKeys → t ∈ schemasUnder key value → Inside (.map fs) t

lemma Inside.isMap {t u : Tree} (h : Inside t u) : t.isMap = true := by
  cases h
  rfl

lemma Inside.depth_lt {t u : Tree} (h : Inside t u) : u.depth < t.depth := by
  obtain ⟨hmem, _, hu⟩ := h
  exact depth_of_mem_fields hmem hu

/-- What holds of a schema if it holds of the schemas inside it holds of every tree. -/
@[elab_as_elim] theorem Tree.inside_induction {p : Tree → Prop}
    (leaf : ∀ t : Tree, t.isMap = false → p t)
    (map : ∀ fs : Fields Tree, (∀ u, Inside (.map fs) u → p u) → p (.map fs)) (t : Tree) : p t := by
  induction hdepth : t.depth using Nat.strongRecOn generalizing t with
  | ind depth ih =>
    cases hm : t.isMap with
    | false => exact leaf t hm
    | true =>
      obtain ⟨fs, rfl⟩ := Tree.isMap_eq_true_iff.mp hm
      apply map
      intro u hu
      exact ih u.depth (hdepth ▸ hu.depth_lt) u rfl

/-- A schema in a tree at any depth, the tree itself included. -/
def Within : Tree → Tree → Prop := Relation.ReflTransGen Inside

/-- The fields of every schema in a tree have a property. -/
def EveryLevel (p : Fields Tree → Prop) (t : Tree) : Prop := ∀ fs, Within t (.map fs) → p fs

namespace EveryLevel
variable {p q : Fields Tree → Prop} {t u : Tree} {fs : Fields Tree}

lemma of_not_map (h : t.isMap = false) : EveryLevel p t := by
  intro fs hfs
  rcases hfs.cases_head with rfl | ⟨u, ⟨⟩, _⟩
  · cases h
  · cases h

lemma root (h : EveryLevel p (.map fs)) : p fs := h fs .refl

lemma within (h : EveryLevel p t) (hu : Within t u) : EveryLevel p u :=
  fun fs hfs => h fs (hu.trans hfs)

lemma inside (h : EveryLevel p t) (hu : Inside t u) : EveryLevel p u := h.within (.single hu)

lemma map (hp : p fs) (h : ∀ u, Inside (.map fs) u → EveryLevel p u) : EveryLevel p (.map fs) := by
  intro gs hgs
  rcases hgs.cases_head with heq | ⟨u, hu, hgs⟩
  · cases heq
    exact hp
  · exact h u hu gs hgs

lemma imp (h : EveryLevel p t) (hpq : ∀ fs, p fs → q fs) : EveryLevel q t :=
  fun fs hfs => hpq fs (h fs hfs)

end EveryLevel

end Schemata
