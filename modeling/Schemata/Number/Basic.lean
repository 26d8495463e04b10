import Schemata.Decimal.Layout

/-! The numbers of a tree: integers and doubles, which are never equal to each other. -/
namespace Schemata

/-- A whole number, or a number with a fraction or an exponent. -/
inductive Number where
  | int (value : Int)
  | float (value : Double)
  deriving DecidableEq

namespace Number

/-- Equality of values within one sort of number. -/
def same : Number → Number → Bool
  | int a, int b => a = b
  | float a, float b => a.same b
  | _, _ => false

def text (layout : Layout) : Number → String
  | int value => toString value
  | float value => layout.double value

@[simp] theorem same_refl (n : Number) : n.same n = true := by cases n <;> simp [same]

theorem same_comm (m n : Number) : m.same n = n.same m := by
  cases m <;> cases n <;> simp [same, Double.same_comm, eq_comm]

end Number

end Schemata
