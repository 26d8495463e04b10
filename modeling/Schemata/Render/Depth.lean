import Schemata.Tree.Basic

/-! Recursion that goes down a tree level by level. -/
namespace Schemata

/-- Runs `level` on a tree, with the same run for the trees inside it, down to the leaves,
which `base` takes. -/
def byDepth {β : Type} (level : (Tree → β) → Tree → β) (base : Tree → β) (t : Tree) : β :=
  Nat.repeat level t.depth base t

/-- A level asks for nothing but trees of less depth, and trees that it takes as `base` does. -/
def Descends {β : Type} (level : (Tree → β) → Tree → β) (base : Tree → β) : Prop :=
  (∀ v t, t.depth = 0 → level v t = base t) ∧
  ∀ v w t, (∀ u, u.depth < t.depth ∨ (∀ x, level x u = base u) → v u = w u) → level v t = level w t

theorem repeat_of_leaf {β : Type} {level : (Tree → β) → Tree → β} {base : Tree → β} {t : Tree}
    (h : ∀ x, level x t = base t) (n : Nat) : Nat.repeat level n base t = base t := by
  cases n <;> simp [Nat.repeat, h]

theorem repeat_eq_repeat {β : Type} {level : (Tree → β) → Tree → β} {base : Tree → β}
    (h : Descends level base) (n m : Nat) (t : Tree) (hn : t.depth ≤ n) (hm : t.depth ≤ m) :
    Nat.repeat level n base t = Nat.repeat level m base t := by
  induction n generalizing m t with
  | zero =>
    have ht : ∀ x, level x t = base t := fun x => h.1 x t (Nat.le_zero.1 hn)
    rw [repeat_of_leaf ht, repeat_of_leaf ht]
  | succ n ih =>
    cases m with
    | zero =>
      have ht : ∀ x, level x t = base t := fun x => h.1 x t (Nat.le_zero.1 hm)
      rw [repeat_of_leaf ht, repeat_of_leaf ht]
    | succ m =>
      refine h.2 _ _ t fun u hu => ?_
      rcases hu with hu | hu
      · exact ih m u (by omega) (by omega)
      · rw [repeat_of_leaf hu, repeat_of_leaf hu]

/-- The run is one level, with the same run below. -/
theorem byDepth_eq {β : Type} {level : (Tree → β) → Tree → β} {base : Tree → β}
    (h : Descends level base) (t : Tree) : byDepth level base t = level (byDepth level base) t := by
  rw [byDepth, repeat_eq_repeat h t.depth (t.depth + 1) t (Nat.le_refl _) (Nat.le_succ _)]
  refine h.2 _ _ t fun u hu => ?_
  rcases hu with hu | hu
  · exact repeat_eq_repeat h _ _ u (by omega) (Nat.le_refl _)
  · rw [repeat_of_leaf hu, byDepth, repeat_of_leaf hu]

end Schemata
