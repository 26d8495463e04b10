/-! Finite binary floating-point numbers of sixty-four bits. -/
namespace Schemata

def exponentField (bits : UInt64) : Nat := bits.toNat / Nat.pow 2 52 % 2048

/-- A finite double, held as its bits. -/
structure Double where
  bits : UInt64
  finite : exponentField bits < 2047
  deriving DecidableEq

namespace Double

def isNegative (x : Double) : Bool := Nat.pow 2 63 ≤ x.bits.toNat

/-- The magnitude is `significand * 2 ^ binaryExponent`. -/
def significand (x : Double) : Nat :=
  x.bits.toNat % Nat.pow 2 52 + if exponentField x.bits = 0 then 0 else Nat.pow 2 52

def binaryExponent (x : Double) : Int := max (exponentField x.bits) 1 - 1075

def isZero (x : Double) : Bool := x.significand = 0

/-- Equality of values: the two zeros are equal, and otherwise the bits decide. -/
def same (x y : Double) : Bool := x.bits = y.bits || (x.isZero && y.isZero)

/-- A double of a machine float, unless that is infinite or not a number. -/
def ofFloat? (x : Float) : Option Double :=
  if h : exponentField x.toBits < 2047 then some ⟨x.toBits, h⟩ else none

@[simp] theorem same_refl (x : Double) : x.same x = true := by simp [same]

theorem same_comm (x y : Double) : x.same y = y.same x := by
  simp [same, eq_comm, Bool.and_comm]

end Double

example : (⟨0, by decide⟩ : Double).same ⟨0x8000000000000000, by decide⟩ = true := by decide

end Schemata
