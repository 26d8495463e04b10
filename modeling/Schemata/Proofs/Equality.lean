import Schemata.Node.Equality
import Schemata.Proofs.Fields

/-! Structural equality: one comparison of fields stands behind that of trees, nodes and kinds,
and equal fields agree at every key. -/
namespace Schemata
namespace Fields
variable {α : Type u} {β : Type v}

/-- Takes the keys of the one out of the other; equal values must stand under each, and
nothing may be left over. -/
def sameBy (eq : α → β → Bool) : Fields α → Fields β → Bool
  | [], bs => bs.isEmpty
  | (k, a) :: as, bs =>
    match extract? k bs with
    | some (b, rest) => eq a b && sameBy eq as rest
    | none => false

@[simp] lemma extract?_cons_self (k : String) (v : α) (fs : Fields α) :
    extract? k ((k, v) :: fs) = some (v, fs) := by simp [extract?]

/-- What is taken out of fields stood in the first place of its key. -/
lemma exists_of_extract? {key : String} {fs rest : Fields α} {v : α}
    (h : extract? key fs = some (v, rest)) :
    ∃ before behind, fs = before ++ (key, v) :: behind ∧ rest = before ++ behind ∧
      key ∉ keys before := by
  induction fs generalizing rest with
  | nil => cases h
  | cons e fs ih =>
    obtain ⟨k, w⟩ := e
    by_cases hk : k = key
    · subst hk
      rw [extract?_cons_self] at h
      cases h
      exact ⟨[], fs, rfl, rfl, List.not_mem_nil⟩
    · simp only [extract?, if_neg hk, Option.map_eq_some_iff] at h
      obtain ⟨⟨v', rest'⟩, hrest, heq⟩ := h
      cases heq
      obtain ⟨before, behind, rfl, rfl, hbefore⟩ := ih hrest
      exact ⟨(k, w) :: before, behind, rfl, rfl, by simp [Ne.symm hk, hbefore]⟩

lemma sameBy_self {eq : α → α → Bool} {fs : Fields α} (h : ∀ e ∈ fs, eq e.2 e.2 = true) :
    sameBy eq fs fs = true := by
  induction fs with
  | nil => rfl
  | cons e fs ih =>
    obtain ⟨k, v⟩ := e
    have hv : eq v v = true := h (k, v) List.mem_cons_self
    have ih := ih fun f hf => h f (List.mem_cons_of_mem _ hf)
    simp [sameBy, hv, ih]

lemma get?_of_extract? {key : String} {fs rest : Fields α} {v : α}
    (h : extract? key fs = some (v, rest)) :
    get? fs key = some v ∧ ∀ other, other ≠ key → get? rest other = get? fs other := by
  induction fs generalizing rest with
  | nil => simp [extract?] at h
  | cons e fs ih =>
    obtain ⟨k, w⟩ := e
    by_cases hk : k = key
    · subst hk
      obtain ⟨rfl, rfl⟩ : w = v ∧ fs = rest := by simpa using h
      refine ⟨by simp [get?], fun other ho => ?_⟩
      simp [get?, Ne.symm ho]
    · simp only [extract?, hk, if_false, Option.map_eq_some_iff] at h
      obtain ⟨⟨v', rest'⟩, he, heq⟩ := h
      obtain ⟨rfl, rfl⟩ : v' = v ∧ (k, w) :: rest' = rest := by simpa using heq
      obtain ⟨hv, hrest⟩ := ih he
      refine ⟨by simpa [get?, hk] using hv, fun other ho => ?_⟩
      simp only [get?, hrest other ho]

/-- Equal fields hold equal values under every key. -/
lemma get?_of_sameBy {eq : α → β → Bool} {as : Fields α} {bs : Fields β}
    (h : sameBy eq as bs = true) (key : String) :
    Option.Rel (fun a b => eq a b = true) (get? as key) (get? bs key) := by
  induction as generalizing bs with
  | nil =>
    obtain rfl : bs = [] := by simpa [sameBy] using h
    exact .none
  | cons e as ih =>
    obtain ⟨k, a⟩ := e
    simp only [sameBy] at h
    split at h
    · rename_i b rest he
      obtain ⟨hb, hrest⟩ := get?_of_extract? he
      obtain ⟨hab, h⟩ := Bool.and_eq_true_iff.mp h
      by_cases hk : k = key
      · subst hk
        rw [hb, get?_cons, if_pos rfl]
        exact .some hab
      · rw [get?_cons, if_neg hk, ← hrest key (Ne.symm hk)]
        exact ih h
    · exact absurd h (by simp)

end Fields

lemma Kind.sameDeclarations_eq (as bs : Fields AttrType) :
    Kind.same.sameDeclarations as bs = Fields.sameBy (fun a b => decide (a = b)) as bs := by
  induction as generalizing bs with
  | nil => rfl
  | cons e as ih =>
    simp only [Kind.same.sameDeclarations, Fields.sameBy]
    split <;> simp_all

lemma AttrValue.sameEntries_eq (as bs : Fields AttrValue) :
    AttrValue.sameEntries as bs = Fields.sameBy AttrValue.same as bs := by
  induction as generalizing bs with
  | nil => simp only [AttrValue.sameEntries, Fields.sameBy]
  | cons e as ih =>
    obtain ⟨k, a⟩ := e
    simp only [AttrValue.sameEntries, Fields.sameBy]
    split <;> simp_all

@[simp] lemma Kind.same_refl (k : Kind) : k.same k = true := by
  have h : Fields.sameBy (fun a b => decide (a = b)) k.attributes k.attributes = true :=
    Fields.sameBy_self fun e _ => by simp
  simp [Kind.same, Kind.sameDeclarations_eq, h]

mutual

@[simp] theorem AttrValue.same_refl : (v : AttrValue) → v.same v = true
  | .literal t => by simp [AttrValue.same]
  | .name n => by simp [AttrValue.same]
  | .node n => by simpa [AttrValue.same] using Node.same_refl n
  | .nodes ns => by simpa [AttrValue.same] using Node.sameList_refl ns
  | .nodeMap es => by simpa [AttrValue.same] using Node.sameEntries_refl es

@[simp] theorem Node.same_refl : (n : Node) → n.same n = true
  | .mk k as => by simpa [Node.same] using AttrValue.sameEntries_refl as

theorem Node.sameList_refl : (ns : List Node) → Node.sameList ns ns = true
  | [] => by simp [Node.sameList]
  | n :: ns => by simp [Node.sameList, Node.same_refl n, Node.sameList_refl ns]

theorem Node.sameEntries_refl : (es : List (String × Node)) → Node.sameEntries es es = true
  | [] => by simp [Node.sameEntries]
  | (k, n) :: es => by simp [Node.sameEntries, Node.same_refl n, Node.sameEntries_refl es]

theorem AttrValue.sameEntries_refl :
    (vs : List (String × AttrValue)) → AttrValue.sameEntries vs vs = true
  | [] => by simp [AttrValue.sameEntries]
  | (k, v) :: vs => by
    simp [AttrValue.sameEntries, AttrValue.same_refl v, AttrValue.sameEntries_refl vs]

end

/-- Equal nodes hold equal values under every attribute. -/
theorem Node.get?_of_same {n m : Node} (h : n.same m = true) (key : String) :
    Option.Rel (fun v w => AttrValue.same v w = true) (Fields.get? n.attributes key)
      (Fields.get? m.attributes key) := by
  obtain ⟨k, as⟩ := n
  obtain ⟨l, bs⟩ := m
  simp only [Node.same, Bool.and_eq_true, AttrValue.sameEntries_eq] at h
  exact Fields.get?_of_sameBy h.2 key

end Schemata
