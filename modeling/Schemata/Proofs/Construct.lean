import Schemata.Proofs.Equality
import Schemata.Proofs.Spelling
import Schemata.Registry

/-! Construction of nodes: all entries are checked first, then written one after the other. -/
namespace Schemata
namespace Fields
variable {α : Type u}

/-- Writes or drops the keys of a list of entries, one after the other. -/
def assignAll (fs : Fields α) (vs : List (String × Option α)) : Fields α :=
  vs.foldl (fun d e => assign d e.1 e.2) fs

@[simp] lemma assignAll_cons (fs : Fields α) (e : String × Option α)
    (vs : List (String × Option α)) :
    assignAll fs (e :: vs) = assignAll (assign fs e.1 e.2) vs := rfl

lemma assignAll_append (fs : Fields α) (vs ws : List (String × Option α)) :
    assignAll fs (vs ++ ws) = assignAll (assignAll fs vs) ws := List.foldl_append

lemma get?_assignAll_of_notMem (fs : Fields α) {vs : List (String × Option α)} {key : String}
    (h : key ∉ keys vs) : get? (assignAll fs vs) key = get? fs key := by
  induction vs generalizing fs with
  | nil => rfl
  | cons e vs ih =>
    rw [keys_cons, List.mem_cons, not_or] at h
    rw [assignAll_cons, ih _ h.2, get?_assign_of_ne _ _ (Ne.symm h.1)]

lemma mem_assignAll {fs : Fields α} {vs : List (String × Option α)} {e : String × α}
    (h : e ∈ assignAll fs vs) : e ∈ fs ∨ (e.1, some e.2) ∈ vs := by
  induction vs generalizing fs with
  | nil => exact .inl h
  | cons f vs ih =>
    obtain ⟨key, value⟩ := f
    rcases ih h with h | h
    · cases value with
      | none => exact .inl (mem_of_mem_erase h)
      | some v =>
        rcases mem_insert h with h | rfl
        · exact .inl h
        · exact .inr List.mem_cons_self
    · exact .inr (List.mem_cons_of_mem _ h)

lemma nodup_assignAll {fs : Fields α} (vs : List (String × Option α)) (hn : (keys fs).Nodup) :
    (keys (assignAll fs vs)).Nodup := by
  induction vs generalizing fs with
  | nil => exact hn
  | cons e vs ih => exact ih (nodup_assign e.1 e.2 hn)

end Fields

lemma AttrType.isNull_of_coerce {ty : AttrType} {v w : AttrValue} (hv : v.isNull = false)
    (h : ty.coerce v = some w) : w.isNull = false := by
  unfold AttrType.coerce at h
  split at h
  all_goals try split at h
  all_goals first
    | (cases h; first | exact hv | rfl)
    | cases h

/-- A coerced value stays as it is under its type. -/
theorem AttrType.coerce_coerce {ty : AttrType} {v w : AttrValue} (h : ty.coerce v = some w) :
    ty.coerce w = some w := by
  have h' := h
  unfold AttrType.coerce at h
  split at h
  all_goals try split at h
  all_goals first
    | (cases h; simp_all [AttrType.coerce, AttrValue.string])
    | cases h

/-- Whether a type takes over a text does not depend on the text. -/
lemma AttrType.coerce_text {ty : AttrType} {s : String} {w : AttrValue}
    (h : ty.coerce (.literal (.string s)) = some w) :
    (w = .literal (.string s) ∧
      ∀ t, ty.coerce (.literal (.string t)) = some (.literal (.string t))) ∨
    (w = .name (.plain s) ∧ ∀ t, ty.coerce (.literal (.string t)) = some (.name (.plain t))) := by
  cases ty <;> simp_all [AttrType.coerce, AttrValue.string, eq_comm]

lemma AttrType.coerce_nodes {ty : AttrType} {ns : List Node} {w : AttrValue}
    (h : ty.coerce (.nodes ns) = some w) : w = .nodes ns := by
  cases ty <;> simp_all [coerce]

namespace Kind

lemma check_eq_ok_iff {k : Kind} {name : String} {value : AttrValue} {r : Option AttrValue} :
    k.check name value = .ok r ↔ ∃ ty, Fields.get? k.attributes name = some ty ∧
      (value.isNull = true ∧ r = none ∨
        value.isNull = false ∧ ∃ w, ty.coerce value = some w ∧ r = some w) := by
  unfold check
  cases hty : Fields.get? k.attributes name with
  | none => simp
  | some ty =>
    cases hn : value.isNull with
    | true => simp [eq_comm]
    | false => cases hc : ty.coerce value <;> simp [eq_comm, hc]

/-- What a check lets through, it lets through again as it is. -/
lemma check_of_check {k : Kind} {name : String} {v w : AttrValue}
    (h : k.check name v = .ok (some w)) : k.check name w = .ok (some w) := by
  obtain ⟨ty, hty, hv⟩ := check_eq_ok_iff.mp h
  rcases hv with ⟨_, hr⟩ | ⟨hv, w', hc, hr⟩
  · cases hr
  · cases hr
    exact check_eq_ok_iff.mpr
      ⟨ty, hty, .inr ⟨AttrType.isNull_of_coerce hv hc, w, AttrType.coerce_coerce hc, rfl⟩⟩

end Kind

namespace Registry

lemma checkEntries_cons_eq_ok {k : Kind} {e : String × AttrValue}
    {es : List (String × AttrValue)} {vs : List (String × Option AttrValue)} :
    checkEntries k (e :: es) = .ok vs ↔ ∃ v ws, k.check (canonicalName e.1) e.2 = .ok v ∧
      checkEntries k es = .ok ws ∧ vs = (canonicalName e.1, v) :: ws := by
  obtain ⟨name, value⟩ := e
  simp only [checkEntries, bind, Except.bind, pure, Except.pure]
  cases k.check (canonicalName name) value with
  | error f => simp
  | ok v => cases checkEntries k es <;> simp [eq_comm]

lemma checkEntries_append (k : Kind) (es fs : List (String × AttrValue)) :
    checkEntries k (es ++ fs) =
      (checkEntries k es).bind fun vs => (checkEntries k fs).map fun ws => vs ++ ws := by
  induction es with
  | nil => cases h : checkEntries k fs <;> simp [checkEntries, h, Except.bind, Except.map]
  | cons e es ih =>
    simp only [List.cons_append, checkEntries, ih, bind, pure, Except.pure]
    cases k.check (canonicalName e.1) e.2 with
    | error x => rfl
    | ok v =>
      cases checkEntries k es with
      | error x => rfl
      | ok vs => cases checkEntries k fs <;> rfl

lemma checkEntries_append_eq_ok {k : Kind} {es fs : List (String × AttrValue)}
    {vs : List (String × Option AttrValue)} :
    checkEntries k (es ++ fs) = .ok vs ↔ ∃ as bs, checkEntries k es = .ok as ∧
      checkEntries k fs = .ok bs ∧ vs = as ++ bs := by
  rw [checkEntries_append]
  cases checkEntries k es with
  | error x => simp [Except.bind]
  | ok as => cases checkEntries k fs <;> simp [Except.bind, Except.map, eq_comm]

/-- The entries pass together if each of them passes. -/
lemma exists_checkEntries_eq_ok_iff {k : Kind} {es : List (String × AttrValue)} :
    (∃ vs, checkEntries k es = .ok vs) ↔
      ∀ e ∈ es, ∃ v, k.check (canonicalName e.1) e.2 = .ok v := by
  induction es with
  | nil => exact ⟨fun _ _ h => (nomatch h), fun _ => ⟨[], rfl⟩⟩
  | cons e es ih =>
    simp only [checkEntries_cons_eq_ok, List.forall_mem_cons, ← ih]
    constructor
    · rintro ⟨_, v, ws, hv, hw, rfl⟩
      exact ⟨⟨v, hv⟩, ws, hw⟩
    · rintro ⟨⟨v, hv⟩, ws, hw⟩
      exact ⟨_, v, ws, hv, hw, rfl⟩

lemma mem_of_checkEntries {k : Kind} {es : List (String × AttrValue)}
    {vs : List (String × Option AttrValue)} (h : checkEntries k es = .ok vs)
    {f : String × Option AttrValue} (hf : f ∈ vs) :
    ∃ e ∈ es, canonicalName e.1 = f.1 ∧ k.check f.1 e.2 = .ok f.2 := by
  induction es generalizing vs with
  | nil =>
    cases h
    cases hf
  | cons e es ih =>
    obtain ⟨v, ws, hv, hw, rfl⟩ := checkEntries_cons_eq_ok.mp h
    rcases List.mem_cons.mp hf with rfl | hf
    · exact ⟨e, List.mem_cons_self, rfl, hv⟩
    · obtain ⟨e', he', hkey, hc⟩ := ih hw hf
      exact ⟨e', List.mem_cons_of_mem _ he', hkey, hc⟩

lemma keys_of_checkEntries {k : Kind} {es : List (String × AttrValue)}
    {vs : List (String × Option AttrValue)} (h : checkEntries k es = .ok vs) :
    Fields.keys vs = es.map fun e => canonicalName e.1 := by
  induction es generalizing vs with
  | nil => cases h; rfl
  | cons e es ih =>
    obtain ⟨v, ws, _, hw, rfl⟩ := checkEntries_cons_eq_ok.mp h
    simp [ih hw]

end Registry

/-- The tag of a kind has a mark, so no attribute comes to stand under it. -/
lemma canonicalName_ne_kindTag (name : String) : canonicalName name ≠ kindTag := by
  intro h
  have hmem : '$' ∈ (canonicalName name).toList := by
    rw [h]
    decide
  exact absurd (isMark_of_mem_canonicalName hmem) (by decide)

@[simp] lemma Kind.typeOf?_canonicalName (k : Kind) (name : String) :
    k.typeOf? (canonicalName name) = k.typeOf? name := by
  rw [Kind.typeOf?, Kind.typeOf?, canonicalName_canonicalName]

namespace Node

@[simp] lemma get?_canonicalName (n : Node) (name : String) :
    n.get? (canonicalName name) = n.get? name := by
  rw [get?, get?, canonicalName_canonicalName]

lemma update_mk (k : Kind) (fs : Fields AttrValue) (name : String) (value : AttrValue) :
    (mk k fs).update name value =
      (k.check (canonicalName name) value).map fun v => mk k (fs.assign (canonicalName name) v) :=
  rfl

/-- A write succeeds as the check of the kind does, and assigns what that lets through. -/
lemma update_eq_ok_iff {n n' : Node} {name : String} {value : AttrValue} :
    n.update name value = .ok n' ↔ ∃ v, n.kind.check (canonicalName name) value = .ok v ∧
      n' = mk n.kind (n.attributes.assign (canonicalName name) v) := by
  obtain ⟨k, fs⟩ := n
  rw [update_mk, kind, attributes]
  cases k.check (canonicalName name) value <;> simp [Except.map, eq_comm]

lemma foldlM_update (k : Kind) (fs : Fields AttrValue) (es : List (String × AttrValue)) :
    es.foldlM (fun n e => n.update e.1 e.2) (mk k fs) =
      (Registry.checkEntries k es).map fun vs => mk k (fs.assignAll vs) := by
  induction es generalizing fs with
  | nil => rfl
  | cons e es ih =>
    obtain ⟨name, value⟩ := e
    rw [List.foldlM_cons, update_mk]
    simp only [Registry.checkEntries, bind, Except.bind, pure, Except.pure]
    cases k.check (canonicalName name) value with
    | error f => rfl
    | ok v =>
      simp only [Except.map, ih]
      cases Registry.checkEntries k es <;> rfl

/-- Construction fails as the check of its entries does, else it writes what they give. -/
theorem construct_eq (k : Kind) (es : List (String × AttrValue)) :
    construct k es = (Registry.checkEntries k es).map fun vs => mk k (Fields.assignAll [] vs) :=
  foldlM_update k [] es

lemma construct_eq_ok_iff {k : Kind} {es : List (String × AttrValue)} {n : Node} :
    construct k es = .ok n ↔
      ∃ vs, Registry.checkEntries k es = .ok vs ∧ n = mk k (Fields.assignAll [] vs) := by
  rw [construct_eq]
  cases Registry.checkEntries k es <;> simp [Except.map, eq_comm]

lemma kind_of_construct {k : Kind} {es : List (String × AttrValue)} {n : Node}
    (h : construct k es = .ok n) : n.kind = k := by
  obtain ⟨vs, _, rfl⟩ := construct_eq_ok_iff.mp h
  rfl

end Node

end Schemata
