import Schemata.Proofs.Traversal
import Schemata.Render.DesugarDepth

/-! Desugaring as a relation. Where a schema stands matters to its failures alone, and keys
that are no sugar pass through the rewriting of a level. -/
namespace Schemata

/-- The rewriting of a level after null has become a choice. -/
def settle (fs : Fields Tree) (path : Path) : Except Error (Fields Tree) :=
  if fs.contains "items" then .ok (unwrapItems fs)
  else
    match fs.get? "children" with
    | some children => promote (fs.erase "children") path children
    | none => .ok fs

lemma desugarFields_eq_settle (fs : Fields Tree) (path : Path) :
    desugarFields fs path = settle (branchNull fs) path := rfl

lemma promoteFrom_ok_of_ok {fs : Fields Tree} {path path' : Path} {i i' : Nat} {p q : Promotion}
    {children : List Tree} (h : promoteFrom fs path i p children = .ok q) :
    promoteFrom fs path' i' p children = .ok q := by
  induction children generalizing i i' p with
  | nil => exact h
  | cons child rest ih =>
    simp only [promoteFrom] at h ⊢
    by_cases hc : isChoice fs child = true
    · rw [if_pos hc] at h ⊢
      exact ih h
    · rw [if_neg hc] at h ⊢
      cases ha : p.add child with
      | error fault =>
        rw [ha] at h
        cases h
      | ok p' =>
        rw [ha] at h
        exact ih h

lemma mergeRequired_ok_of_ok {fs gs : Fields Tree} {path path' : Path} {names : List String}
    (h : mergeRequired fs path names = .ok gs) : mergeRequired fs path' names = .ok gs := by
  unfold mergeRequired at h ⊢
  by_cases hn : names.isEmpty = true
  · rw [if_pos hn] at h ⊢
    exact h
  · rw [if_neg hn] at h ⊢
    cases ho : ownRequired (fs.get? "required") with
    | error fault =>
      rw [ho] at h
      cases h
    | ok own =>
      rw [ho] at h
      exact h

/-- What a list of children is promoted to, with the names that it requires merged in. -/
lemma promote_eq_ok_iff {fs gs : Fields Tree} {path : Path} {children : List Tree} :
    promote fs path (.list children) = .ok gs ↔
      ∃ p hs, promoteFrom fs path 0 {} children = .ok p ∧
        mergeRequired fs path p.required = .ok hs ∧
        gs = mergeEntries (mergeEntries hs "properties" p.properties) "pattern_properties"
          p.patterns := by
  simp only [promote, bind, Except.bind, pure, Except.pure]
  cases promoteFrom fs path 0 {} children with
  | error e => simp
  | ok p => cases hr : mergeRequired fs path p.required <;> simp [hr, eq_comm]

lemma promote_ok_of_ok {fs gs : Fields Tree} {path path' : Path} {children : Tree}
    (h : promote fs path children = .ok gs) : promote fs path' children = .ok gs := by
  cases children with
  | list children =>
    obtain ⟨p, hs, hp, hr, rfl⟩ := promote_eq_ok_iff.mp h
    exact promote_eq_ok_iff.mpr
      ⟨p, hs, promoteFrom_ok_of_ok hp, mergeRequired_ok_of_ok hr, rfl⟩
  | _ => cases h

lemma settle_ok_of_ok {fs gs : Fields Tree} {path path' : Path} (h : settle fs path = .ok gs) :
    settle fs path' = .ok gs := by
  unfold settle at h ⊢
  by_cases hi : fs.contains "items" = true
  · rw [if_pos hi] at h ⊢
    exact h
  · rw [if_neg hi] at h ⊢
    cases hc : fs.get? "children" with
    | none =>
      rw [hc] at h
      exact h
    | some children =>
      rw [hc] at h
      exact promote_ok_of_ok h

/-- A tree that desugars, whatever its path, to another one. -/
def Desugars (t u : Tree) : Prop := desugar t = .ok u

private lemma repeat_desugarLevel_ok_of_ok {n : Nat} {t u : Tree} {path path' : Path}
    (h : Nat.repeat desugarLevel n (fun t _ => .ok t) t path = .ok u) :
    Nat.repeat desugarLevel n (fun t _ => .ok t) t path' = .ok u := by
  induction n generalizing t u path path' with
  | zero => exact h
  | succ n ih =>
    cases t with
    | map fs =>
      have hvisit : ∀ t path u, Nat.repeat desugarLevel n (fun t _ => .ok t) t path = .ok u ↔
          Nat.repeat desugarLevel n (fun t _ => .ok t) t [] = .ok u :=
        fun _ _ _ => ⟨fun h => ih h, fun h => ih h⟩
      simp only [Nat.repeat, desugarLevel, desugarFields_eq_settle, bind, Except.bind, pure,
        Except.pure] at h ⊢
      cases hs : settle (branchNull fs) path with
      | error e =>
        rw [hs] at h
        cases h
      | ok gs =>
        rw [settle_ok_of_ok hs]
        rw [hs] at h
        simp only at h ⊢
        cases hv : visitSchemas (Nat.repeat desugarLevel n fun t _ => .ok t) path gs with
        | error e =>
          rw [hv] at h
          cases h
        | ok hs =>
          rw [hv] at h
          rw [(visitSchemas_eq_ok_iff hvisit).mpr ((visitSchemas_eq_ok_iff hvisit).mp hv)]
          exact h
    | _ => exact h

lemma desugarAt_eq_ok_iff (t : Tree) (path : Path) (u : Tree) :
    desugarAt t path = .ok u ↔ Desugars t u :=
  ⟨fun h => repeat_desugarLevel_ok_of_ok h, fun h => repeat_desugarLevel_ok_of_ok h⟩

/-- A schema desugars as its level settles and the schemas inside it desugar. -/
theorem desugars_map_iff {fs : Fields Tree} {u : Tree} : Desugars (.map fs) u ↔
    ∃ gs hs, settle (branchNull fs) [] = .ok gs ∧ Fields.Rel (InSlot Desugars) gs hs ∧
      u = .map hs := by
  rw [Desugars, desugar, desugarAt_map, desugarFields_eq_settle]
  cases settle (branchNull fs) [] with
  | error e => simp [Except.bind]
  | ok gs =>
    have hiff : ∀ hs, visitSchemas desugarAt [] gs = .ok hs ↔ Fields.Rel (InSlot Desugars) gs hs :=
      fun hs => visitSchemas_eq_ok_iff desugarAt_eq_ok_iff
    cases hv : visitSchemas desugarAt [] gs with
    | error e => simp [Except.bind, Except.map, ← hiff, hv]
    | ok hs => simp [Except.bind, Except.map, ← hiff, hv, eq_comm]

lemma desugars_of_not_map {t : Tree} (h : t.isMap = false) : Desugars t t :=
  desugarAt_of_not_map h []

lemma Desugars.unique {t u v : Tree} (hu : Desugars t u) (hv : Desugars t v) : u = v :=
  Except.ok.inj (hu.symm.trans hv)

lemma Desugars.isMap_eq {t u : Tree} (h : Desugars t u) : u.isMap = t.isMap := by
  cases hm : t.isMap with
  | false => rw [h.unique (desugars_of_not_map hm), hm]
  | true =>
    obtain ⟨fs, rfl⟩ := Tree.isMap_eq_true_iff.mp hm
    obtain ⟨_, _, _, _, rfl⟩ := desugars_map_iff.mp h
    rfl

end Schemata
