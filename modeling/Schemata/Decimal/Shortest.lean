import Schemata.Decimal.Double

/-! The shortest decimal numerals that read back as a given double. -/
namespace Schemata

/-- The positive number `digits * 10 ^ exponent`, the digits most significant first. -/
structure Numeral where
  digits : List Nat
  exponent : Int
  deriving DecidableEq

namespace Numeral

/-- The power of ten of the first digit. -/
def magnitude (d : Numeral) : Int := d.exponent + d.digits.length - 1

/-- The numeral of `c * 10 ^ e` without trailing zeros. -/
def ofNat (c : Nat) (e : Int) : Numeral :=
  let digits := (Nat.toDigits 10 c).map fun d => d.toNat - 48
  let kept := (digits.reverse.dropWhile (· = 0)).reverse
  ⟨kept, e + (digits.length - kept.length : Nat)⟩

end Numeral

/-- A positive rational between two others, all three over one denominator. -/
structure Bracket where
  low : Nat
  value : Nat
  high : Nat
  denominator : Nat
  /-- Whether the two ends belong to the bracket. -/
  closed : Bool

namespace Bracket

/-- The numbers that round to `x`: half way to each neighbour, with the ends if `x` is even. -/
def ofDouble (x : Double) : Bracket :=
  let m := x.significand
  let q := x.binaryExponent - 2
  let up := Nat.pow 2 q.toNat
  let below := if m = Nat.pow 2 52 ∧ x.binaryExponent ≠ -1074 then 1 else 2
  ⟨(4 * m - below) * up, 4 * m * up, (4 * m + 2) * up, Nat.pow 2 (-q).toNat, m % 2 = 0⟩

/-- The same numbers measured in units of `10 ^ e`. -/
def scale (b : Bracket) (e : Int) : Bracket :=
  let up := Nat.pow 10 (-e).toNat
  ⟨b.low * up, b.value * up, b.high * up, b.denominator * Nat.pow 10 e.toNat, b.closed⟩

def contains (b : Bracket) (c : Nat) : Bool :=
  let c := c * b.denominator
  if b.closed then b.low ≤ c && c ≤ b.high else b.low < c && c < b.high

/-- The whole number in the bracket that is nearest to its value, of two equally near the even one. -/
def nearestWhole? (b : Bracket) : Option Nat :=
  let floor := b.value / b.denominator
  let twice := 2 * (b.value - floor * b.denominator)
  let upper := b.denominator < twice || (b.denominator = twice && floor % 2 = 1)
  match b.contains floor && 0 < floor, b.contains (floor + 1) with
  | true, true => some (if upper then floor + 1 else floor)
  | true, false => some floor
  | false, true => some (floor + 1)
  | false, false => none

/-- How many powers of ten bring a value below one up to one, counted from `s`. -/
def raise (b : Bracket) : Nat → Nat → Nat
  | 0, s => s
  | fuel + 1, s => if b.denominator ≤ b.value * Nat.pow 10 s then s else raise b fuel (s + 1)

/-- The greatest power of ten that is not above the value. -/
def magnitude (b : Bracket) : Int :=
  if b.denominator ≤ b.value then (Nat.toDigits 10 (b.value / b.denominator)).length - 1
  else -(b.raise 400 1 : Nat)

end Bracket

/-- The numeral with the fewest digits that reads back as the magnitude of `x`, of those the nearest. -/
def Double.shortest (x : Double) : Numeral :=
  let b := Bracket.ofDouble x
  let top := b.magnitude
  let found := (List.range 17).findSome? fun (n : Nat) =>
    (b.scale (top - n)).nearestWhole?.map fun c => Numeral.ofNat c (top - n)
  found.getD ⟨[0], 0⟩

example : (⟨0x3FF8000000000000, by decide⟩ : Double).shortest = ⟨[1, 5], -1⟩ := by decide +kernel
example : (⟨1, by decide⟩ : Double).shortest = ⟨[5], -324⟩ := by decide +kernel

end Schemata
