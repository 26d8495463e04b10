import Schemata.Proofs.Builtin
import Schemata.Proofs.Levels

/-! Equal trees: those of equal nodes are, and equal trees have equal schemas in them. -/
namespace Schemata

namespace Fields
variable {α : Type u} {β : Type v} {key k : String} {fs rest : Fields α} {v : α}

lemma extract?_insert_self (h : extract? key fs = some (v, rest)) (w : α) :
    extract? key (insert fs key w) = some (w, rest) := by
  induction fs generalizing rest with
  | nil => cases h
  | cons e fs ih =>
    obtain ⟨l, x⟩ := e
    by_cases hl : l = key
    · subst hl
      rw [extract?_cons_self] at h
      cases h
      simp [insert]
    · simp only [extract?, if_neg hl, Option.map_eq_some_iff] at h
      obtain ⟨⟨v', rest'⟩, hrest, heq⟩ := h
      cases heq
      simp only [insert, if_neg hl, extract?, ih hrest, Option.map_some]

lemma extract?_insert_of_ne (hk : k ≠ key) (h : extract? k fs = some (v, rest)) (w : α) :
    extract? k (insert fs key w) = some (v, insert rest key w) := by
  induction fs generalizing rest with
  | nil => cases h
  | cons e fs ih =>
    obtain ⟨l, x⟩ := e
    by_cases hl : l = k
    · subst hl
      rw [extract?_cons_self] at h
      cases h
      simp [insert, hk]
    · simp only [extract?, if_neg hl, Option.map_eq_some_iff] at h
      obtain ⟨⟨v', rest'⟩, hrest, heq⟩ := h
      cases heq
      by_cases hkey : l = key
      · subst hkey
        simp [insert, extract?, hl, hrest]
      · simp only [insert, if_neg hkey, extract?, if_neg hl, ih hrest, Option.map_some]

/-- One write of equal values leaves equal fields equal. -/
lemma sameBy_insert {eq : α → β → Bool} {as : Fields α} {bs : Fields β} {a : α} {b : β}
    (h : sameBy eq as bs = true) (key : String) (hab : eq a b = true) :
    sameBy eq (insert as key a) (insert bs key b) = true := by
  induction as generalizing bs with
  | nil =>
    obtain rfl : bs = [] := by simpa [sameBy] using h
    simp [insert, sameBy, hab]
  | cons e as ih =>
    obtain ⟨l, x⟩ := e
    simp only [sameBy] at h
    split at h
    · rename_i y rest hx
      obtain ⟨hxy, hrest⟩ := Bool.and_eq_true_iff.mp h
      by_cases hl : l = key
      · subst hl
        simp [insert, sameBy, extract?_insert_self hx b, hab, hrest]
      · simp [insert, hl, sameBy, extract?_insert_of_ne hl hx b, hxy, ih hrest]
    · cases h

lemma sameBy_extend {eq : α → α → Bool} {as bs : Fields α} (h : sameBy eq as bs = true)
    (more : Fields α) (hrefl : ∀ a, eq a a = true) :
    sameBy eq (extend as more) (extend bs more) = true := by
  induction more generalizing as bs with
  | nil => exact h
  | cons e more ih => exact ih (sameBy_insert h e.1 (hrefl e.2))

lemma extract?_mapValues (f : α → β) (key : String) (fs : Fields α) :
    extract? key (mapValues f fs) = (extract? key fs).map fun r => (f r.1, mapValues f r.2) := by
  induction fs with
  | nil => rfl
  | cons e fs ih =>
    obtain ⟨k, v⟩ := e
    change extract? key ((k, f v) :: mapValues f fs) = _
    by_cases hk : k = key
    · simp [extract?, hk]
    · simp only [extract?, if_neg hk, ih, Option.map_map]
      rfl

lemma mem_iff_of_extract? (h : extract? key fs = some (v, rest)) (e : String × α) :
    e ∈ fs ↔ e = (key, v) ∨ e ∈ rest := by
  obtain ⟨before, behind, rfl, rfl, _⟩ := exists_of_extract? h
  rw [List.mem_append, List.mem_append, List.mem_cons]
  tauto

/-- Every entry of equal fields has its equal under the same key. -/
lemma exists_of_sameBy {eq : α → β → Bool} {as : Fields α} {bs : Fields β}
    (h : sameBy eq as bs = true) {key : String} {b : β} (hb : (key, b) ∈ bs) :
    ∃ a, (key, a) ∈ as ∧ eq a b = true := by
  induction as generalizing bs with
  | nil =>
    obtain rfl : bs = [] := by simpa [sameBy] using h
    cases hb
  | cons e as ih =>
    obtain ⟨l, x⟩ := e
    simp only [sameBy] at h
    split at h
    · rename_i y rest hx
      obtain ⟨hxy, hrest⟩ := Bool.and_eq_true_iff.mp h
      rcases (mem_iff_of_extract? hx _).mp hb with heq | hb
      · cases heq
        exact ⟨x, List.mem_cons_self, hxy⟩
      · obtain ⟨a, ha, hab⟩ := ih hrest hb
        exact ⟨a, List.mem_cons_of_mem _ ha, hab⟩
    · cases h

end Fields

namespace Tree

lemma sameFields_eq (fs gs : Fields Tree) : sameFields fs gs = Fields.sameBy same fs gs := by
  induction fs generalizing gs with
  | nil => rfl
  | cons e fs ih =>
    obtain ⟨k, t⟩ := e
    simp only [sameFields, Fields.sameBy]
    split <;> simp_all

lemma isMap_of_same {t u : Tree} (h : t.same u = true) : t.isMap = u.isMap := by
  cases t <;> cases u <;> first | rfl | simp [same] at h

lemma forall₂_of_sameItems {ts us : List Tree} (h : sameItems ts us = true) :
    List.Forall₂ (fun t u => t.same u = true) ts us := by
  induction ts generalizing us with
  | nil =>
    cases us with
    | nil => exact .nil
    | cons u us => cases h
  | cons t ts ih =>
    cases us with
    | nil => cases h
    | cons u us =>
      obtain ⟨htu, hrest⟩ := Bool.and_eq_true_iff.mp h
      exact .cons htu (ih hrest)

lemma exists_schemasUnder_of_same {key : String} {v w u : Tree} (h : v.same w = true)
    (hu : u ∈ schemasUnder key w) : ∃ t ∈ schemasUnder key v, t.same u = true := by
  unfold schemasUnder at hu
  split at hu
  · cases hu
  · rename_i hs
    obtain ⟨hl, hm, hmap⟩ := slot_eq_schema_iff.mp hs
    have hv : slot key v = .schema := slot_eq_schema_iff.mpr ⟨hl, hm, (isMap_of_same h).trans hmap⟩
    rw [List.mem_singleton.mp hu, schemasUnder_of_schema hv]
    exact ⟨v, List.mem_singleton_self v, h⟩
  · rename_i us hs
    obtain ⟨hl, rfl, u', rest, rfl, hmap⟩ := slot_eq_items_iff.mp hs
    cases v with
    | list ts =>
      have hall := forall₂_of_sameItems (show sameItems ts (u' :: rest) = true from h)
      cases hall with
      | @cons t _ ts _ htu hrest =>
        have hv : slot key (.list (t :: ts)) = .items (t :: ts) :=
          slot_eq_items_iff.mpr ⟨hl, rfl, t, ts, rfl, (isMap_of_same htu).trans hmap⟩
        rw [schemasUnder_of_items hv]
        exact exists_of_mem_right (R := fun t u => Tree.same t u = true) (.cons htu hrest) hu
    | _ => simp [same] at h
  · rename_i gs hs
    obtain ⟨hl, hm, rfl⟩ := slot_eq_entries_iff.mp hs
    obtain ⟨⟨name, x⟩, hx, rfl⟩ := List.mem_map.mp hu
    cases v with
    | map fs =>
      have hfields : Fields.sameBy same fs gs = true := by
        rw [← sameFields_eq]
        exact h
      have hv : slot key (.map fs) = .entries fs := slot_eq_entries_iff.mpr ⟨hl, hm, rfl⟩
      obtain ⟨y, hy, hyx⟩ := Fields.exists_of_sameBy hfields hx
      rw [schemasUnder_of_entries hv]
      exact ⟨y, List.mem_map_of_mem hy, hyx⟩
    | _ => simp [same] at h

end Tree

lemma Inside.exists_of_same {t u x : Tree} (h : t.same u = true) (hx : Inside u x) :
    ∃ y, Inside t y ∧ y.same x = true := by
  cases hx with
  | @under gs key value _ hmem hbook hx =>
    cases t with
    | map fs =>
      have hfields : Fields.sameBy Tree.same fs gs = true := by
        rw [← Tree.sameFields_eq]
        exact h
      obtain ⟨v, hv, hsame⟩ := Fields.exists_of_sameBy hfields hmem
      obtain ⟨y, hy, hyx⟩ := Tree.exists_schemasUnder_of_same hsame hx
      exact ⟨y, .under hv hbook hy, hyx⟩
    | _ => simp [Tree.same] at h

/-- Equal trees have equal schemas in them, at every depth. -/
theorem Within.exists_of_same {t u x : Tree} (h : t.same u = true) (hx : Within u x) :
    ∃ y, Within t y ∧ y.same x = true := by
  induction hx with
  | refl => exact ⟨t, .refl, h⟩
  | tail _ hvx ih =>
    obtain ⟨y, hy, hyv⟩ := ih
    obtain ⟨z, hz, hzx⟩ := hvx.exists_of_same hyv
    exact ⟨z, hy.tail hz, hzx⟩

lemma Kind.tag_eq_of_same {k l : Kind} (h : k.same l = true) : k.tag = l.tag := by
  simp only [Kind.same, Bool.and_eq_true, decide_eq_true_eq] at h
  obtain ⟨⟨hid, htype⟩, _⟩ := h
  rw [Kind.tag, Kind.tag, hid, htype]

mutual

/-- Equality goes down into the values of nodes as it does into those of their trees. -/
theorem AttrValue.same_toTree : (v w : AttrValue) → v.same w = true →
    v.toTree.same w.toTree = true
  | .literal a, w, h => by
    cases w with
    | literal b => simpa [AttrValue.same] using h
    | _ => simp [AttrValue.same] at h
  | .name a, w, h => by
    cases w with
    | name b =>
      obtain rfl : a = b := by simpa [AttrValue.same] using h
      exact Tree.same_refl _
    | _ => simp [AttrValue.same] at h
  | .node a, w, h => by
    cases w with
    | node b => simpa using Node.same_toTree a b (by simpa [AttrValue.same] using h)
    | _ => simp [AttrValue.same] at h
  | .nodes as, w, h => by
    cases w with
    | nodes bs =>
      simpa [Tree.same] using Node.sameItems_toTree as bs (by simpa [AttrValue.same] using h)
    | _ => simp [AttrValue.same] at h
  | .nodeMap as, w, h => by
    cases w with
    | nodeMap bs =>
      simpa [Tree.same] using Node.sameFields_toTree as bs (by simpa [AttrValue.same] using h)
    | _ => simp [AttrValue.same] at h

theorem Node.same_toTree : (n m : Node) → n.same m = true → n.toTree.same m.toTree = true
  | .mk k as, .mk l bs, h => by
    simp only [Node.same, Bool.and_eq_true] at h
    have hattributes := AttrValue.sameFields_toTree as bs h.2
    rw [Tree.sameFields_eq] at hattributes
    rw [Node.toTree_eq, Node.toTree_eq, Tree.same, Tree.sameFields_eq, Node.fields, Node.fields,
      Node.kind, Node.kind, Kind.tag_eq_of_same h.1]
    exact Fields.sameBy_extend hattributes l.tag fun t => Tree.same_refl t

theorem Node.sameItems_toTree : (ns ms : List Node) → Node.sameList ns ms = true →
    Tree.sameItems (ns.map Node.toTree) (ms.map Node.toTree) = true
  | [], [], _ => rfl
  | [], m :: ms, h => by simp [Node.sameList] at h
  | n :: ns, [], h => by simp [Node.sameList] at h
  | n :: ns, m :: ms, h => by
    simp only [Node.sameList, Bool.and_eq_true] at h
    simp [Tree.sameItems, Node.same_toTree n m h.1, Node.sameItems_toTree ns ms h.2]

theorem Node.sameFields_toTree : (es fs : List (String × Node)) → Node.sameEntries es fs = true →
    Tree.sameFields (Fields.mapValues Node.toTree es) (Fields.mapValues Node.toTree fs) = true
  | [], fs, h => by
    obtain rfl : fs = [] := by simpa [Node.sameEntries] using h
    rfl
  | (k, n) :: es, fs, h => by
    simp only [Node.sameEntries] at h
    split at h
    · rename_i m rest hx
      obtain ⟨hnm, hrest⟩ := Bool.and_eq_true_iff.mp h
      change Tree.sameFields ((k, n.toTree) :: Fields.mapValues Node.toTree es) _ = true
      simp only [Tree.sameFields, Fields.extract?_mapValues, hx, Option.map_some]
      rw [Node.same_toTree n m hnm, Node.sameFields_toTree es rest hrest]
      rfl
    · cases h

theorem AttrValue.sameFields_toTree : (vs ws : List (String × AttrValue)) →
    AttrValue.sameEntries vs ws = true → Tree.sameFields
      (Fields.mapValues AttrValue.toTree vs) (Fields.mapValues AttrValue.toTree ws) = true
  | [], ws, h => by
    obtain rfl : ws = [] := by simpa [AttrValue.sameEntries] using h
    rfl
  | (k, v) :: vs, ws, h => by
    simp only [AttrValue.sameEntries] at h
    split at h
    · rename_i w rest hx
      obtain ⟨hvw, hrest⟩ := Bool.and_eq_true_iff.mp h
      change Tree.sameFields ((k, v.toTree) :: Fields.mapValues AttrValue.toTree vs) _ = true
      simp only [Tree.sameFields, Fields.extract?_mapValues, hx, Option.map_some]
      rw [AttrValue.same_toTree v w hvw, AttrValue.sameFields_toTree vs rest hrest]
      rfl
    · cases h

end

end Schemata
