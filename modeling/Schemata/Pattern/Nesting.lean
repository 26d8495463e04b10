/-! How deep the parts of a pattern stand inside one another. -/
namespace Schemata.Pattern

/-- The heights of parts that stand side by side, the last part first. -/
abbrev Row := List Nat

/-- A part that stands alone keeps its height; several together are a level above the highest. -/
def Row.height : Row → Nat
  | [] => 0
  | [h] => h
  | hs => hs.foldl max 0 + 1

/-- What stands between the brackets of a group: the parts of the branch at hand, and the
branches before it. -/
structure Branches where
  parts : Row := []
  earlier : Row := []

namespace Branches

def add (b : Branches) (height : Nat) : Branches := { b with parts := height :: b.parts }

/-- Puts one level around the last part. -/
def wrap (b : Branches) : Branches :=
  match b.parts with
  | [] => b
  | h :: hs => { b with parts := (h + 1) :: hs }

/-- Ends the branch at hand and starts another. -/
def next (b : Branches) : Branches := ⟨[], b.parts.height :: b.earlier⟩

def height (b : Branches) : Nat := Row.height (b.parts.height :: b.earlier)

end Branches

/-- The height that no pattern may exceed. -/
def maxHeight : Nat := 250

example : Row.height [0, 2, 1] = 3 := by decide
example : (Branches.add {} 2).wrap.next.height = 4 := by decide

end Schemata.Pattern
