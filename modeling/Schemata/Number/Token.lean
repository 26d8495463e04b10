import Schemata.Number.Basic
import Schemata.Text.Digit

/-! Numbers as they are written in JSON text, and the values that they stand for. -/
namespace Schemata

/-- The parts of a number as written: digits before the point, after it, and the power of ten. -/
structure NumberToken where
  negative : Bool
  whole : List Nat
  fraction : Option (List Nat)
  exponent : Option Int

namespace NumberToken

/-- Appends digits to `sum` while it fits sixty-four bits; also counts the digits left over. -/
def accumulate (sum : Nat) : List Nat → Nat × Nat
  | [] => (sum, 0)
  | d :: ds => if sum * 10 + d < Nat.pow 2 64 then accumulate (sum * 10 + d) ds else (sum, ds.length + 1)

def powerOfTen (n : Nat) : Float := Float.ofScientific 1 false n

/-- Divides by a power of ten in steps that a double can hold. -/
def divide (x : Float) (n : Nat) : Float :=
  if h : n ≤ 308 then x / powerOfTen n
  else if x == 0 then x
  else divide (x / powerOfTen 308) (n - 308)
termination_by n

/-- The leading digits, as a double, multiplied or divided by a power of ten. -/
def magnitude? (t : NumberToken) : Option Float :=
  let fraction := t.fraction.getD []
  let (whole, dropped) := accumulate 0 t.whole
  let (sum, unread) := accumulate whole fraction
  let power : Int := t.exponent.getD 0 + dropped - (fraction.length - unread : Nat)
  let x := sum.toUInt64.toFloat
  if power < 0 then some (divide x power.natAbs)
  else if power ≤ 308 then some (x * powerOfTen power.toNat)
  else if sum = 0 then some x else none

/-- A token without fraction and exponent is whole where sixty-four bits hold it;
there is no number for a token beyond the range of doubles. -/
def number? (t : NumberToken) : Option Number :=
  let value := Text.ofDigits 10 t.whole
  if t.fraction.isNone ∧ t.exponent.isNone ∧ !t.negative ∧ value < Nat.pow 2 64 then
    some (.int value)
  else if t.fraction.isNone ∧ t.exponent.isNone ∧ t.negative ∧ 0 < value ∧ value ≤ Nat.pow 2 63 then
    some (.int (-value))
  else do
    let x ← t.magnitude?
    let x ← Double.ofFloat? (if t.negative then -x else x)
    some (.float x)

end NumberToken

end Schemata
