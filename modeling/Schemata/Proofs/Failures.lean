import Schemata.Proofs.Chain

/-! The failures of the chain of all passes: whatever tree it is given, desugaring is what fails. -/
namespace Schemata

/-- If the computation fails, then as desugaring does, at some place of the tree. -/
def FailsAsDesugar {α : Type} (x : Except Error α) : Prop :=
  ∀ e, x = .error e → ∃ path fault, e = .render desugarPass path fault

namespace FailsAsDesugar
variable {α β : Type} {x : Except Error α}

lemma ok (a : α) : FailsAsDesugar (.ok a) := by
  intro e he
  cases he

lemma error (path : Path) (fault : RenderFault) :
    FailsAsDesugar (α := α) (.error (.render desugarPass path fault)) := by
  intro e he
  cases he
  exact ⟨path, fault, rfl⟩

lemma bind (hx : FailsAsDesugar x) {f : α → Except Error β} (hf : ∀ a, FailsAsDesugar (f a)) :
    FailsAsDesugar (x >>= f) := by
  intro e he
  cases hr : x with
  | error e' =>
    rw [hr] at he
    cases he
    exact hx e hr
  | ok a =>
    rw [hr] at he
    exact hf a e he

lemma map (hx : FailsAsDesugar x) (f : α → β) : FailsAsDesugar (x.map f) := by
  intro e he
  cases hr : x with
  | error e' =>
    rw [hr] at he
    cases he
    exact hx e hr
  | ok a =>
    rw [hr] at he
    cases he

end FailsAsDesugar

open FailsAsDesugar

lemma failsAsDesugar_promoteFrom (fs : Fields Tree) (path : Path) (i : Nat) (p : Promotion)
    (children : List Tree) : FailsAsDesugar (promoteFrom fs path i p children) := by
  induction children generalizing i p with
  | nil => exact ok p
  | cons child rest ih =>
    unfold promoteFrom
    split
    · exact ih (i + 1) p
    · split
      · exact ih (i + 1) _
      · exact error _ _

lemma failsAsDesugar_mergeRequired (fs : Fields Tree) (path : Path) (names : List String) :
    FailsAsDesugar (mergeRequired fs path names) := by
  unfold mergeRequired
  split
  · exact ok fs
  · split
    · exact ok _
    · exact error _ _

lemma failsAsDesugar_promote (fs : Fields Tree) (path : Path) (children : Tree) :
    FailsAsDesugar (promote fs path children) := by
  unfold promote
  split
  · apply bind (failsAsDesugar_promoteFrom fs path 0 {} _)
    intro p
    apply bind (failsAsDesugar_mergeRequired fs path p.required)
    intro gs
    exact ok _
  · exact error _ _

lemma failsAsDesugar_desugarFields (fs : Fields Tree) (path : Path) :
    FailsAsDesugar (desugarFields fs path) := by
  unfold desugarFields
  simp only
  split
  · exact ok _
  · split
    · exact failsAsDesugar_promote _ path _
    · exact ok _

section Visits
variable {visit : Tree → Path → Except Error Tree}

lemma failsAsDesugar_visitItems (h : ∀ t path, FailsAsDesugar (visit t path)) (path : Path)
    (i : Nat) (ts : List Tree) : FailsAsDesugar (visitItems visit path i ts) := by
  induction ts generalizing i with
  | nil => exact ok []
  | cons t ts ih =>
    apply bind (h t _)
    intro u
    apply bind (ih (i + 1))
    intro us
    exact ok _

lemma failsAsDesugar_visitEntries {visit : String → Tree → Path → Except Error Tree}
    (h : ∀ key t path, FailsAsDesugar (visit key t path)) (path : Path) (fs : Fields Tree) :
    FailsAsDesugar (visitEntries visit path fs) := by
  induction fs with
  | nil => exact ok []
  | cons e fs ih =>
    obtain ⟨key, t⟩ := e
    apply bind (h key t _)
    intro u
    apply bind ih
    intro gs
    exact ok _

lemma failsAsDesugar_visitSlot (h : ∀ t path, FailsAsDesugar (visit t path)) (key : String)
    (value : Tree) (path : Path) : FailsAsDesugar (visitSlot visit key value path) := by
  unfold visitSlot
  split
  · exact ok value
  · exact h value path
  · exact (failsAsDesugar_visitItems h path 0 _).map _
  · exact (failsAsDesugar_visitEntries (fun _ => h) path _).map _

lemma failsAsDesugar_desugarLevel (h : ∀ t path, FailsAsDesugar (visit t path)) (t : Tree)
    (path : Path) : FailsAsDesugar (desugarLevel visit t path) := by
  unfold desugarLevel
  split
  · apply bind (failsAsDesugar_desugarFields _ path)
    intro gs
    apply bind (failsAsDesugar_visitEntries (failsAsDesugar_visitSlot h) path gs)
    intro hs
    exact ok _
  · exact ok t

end Visits

/-- Desugaring fails in no other way, on the levels of a tree as in the whole. -/
theorem failsAsDesugar_desugarAt (t : Tree) (path : Path) : FailsAsDesugar (desugarAt t path) := by
  unfold desugarAt byDepth
  generalize t.depth = n
  induction n generalizing t path with
  | zero => exact ok t
  | succ n ih => exact failsAsDesugar_desugarLevel ih t path

/-- The passes after desugaring never fail. -/
theorem failsAsDesugar_run (c : RenderContext) (t : Tree) :
    FailsAsDesugar (Pass.run c Pass.defaults t) := by
  rw [Pass.run_defaults, Pass.run_desugar_box]
  exact ((failsAsDesugar_desugarAt t []).map _).map _

end Schemata
