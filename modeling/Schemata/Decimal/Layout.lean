import Schemata.Decimal.Shortest

/-! How a numeral is laid out as text: plainly, or with an exponent. -/
namespace Schemata

/-- The choices that a text format makes for fractional numbers. -/
structure Layout where
  /-- Magnitudes from `leastPlain` to `greatestPlain` are written without an exponent. -/
  leastPlain : Int := -5
  greatestPlain : Int := 15
  /-- Whether an exponent that is not negative is written with a plus sign. -/
  plusSign : Bool

namespace Layout

/-- In JSON every exponent has a sign. -/
def json : Layout where plusSign := true

/-- In YAML only a negative exponent has a sign. -/
def yaml : Layout where plusSign := false

def digitChar (d : Nat) : Char := Char.ofNat (48 + d)

/-- A point always stands between the whole part and a part that is not empty. -/
def plain (d : Numeral) : String :=
  let chars := d.digits.map digitChar
  let x := d.magnitude
  if x < 0 then
    "0." ++ String.ofList (List.replicate (-x - 1).toNat '0' ++ chars)
  else
    let whole := chars.take (x.toNat + 1)
    let fraction := chars.drop (x.toNat + 1)
    String.ofList (whole ++ List.replicate (x.toNat + 1 - chars.length) '0') ++ "." ++
      if fraction.isEmpty then "0" else String.ofList fraction

/-- One digit stands before the point, and no point is written when it is the only one. -/
def scientific (l : Layout) (d : Numeral) : String :=
  let chars := d.digits.map digitChar
  let x := d.magnitude
  let tail := chars.drop 1
  String.ofList (chars.take 1) ++ (if tail.isEmpty then "" else "." ++ String.ofList tail) ++ "e" ++
    (if x < 0 then "-" else if l.plusSign then "+" else "") ++ toString x.natAbs

def numeral (l : Layout) (d : Numeral) : String :=
  if l.leastPlain ≤ d.magnitude ∧ d.magnitude ≤ l.greatestPlain then plain d else l.scientific d

/-- The text of a double: its sign, and the shortest digits that read back. -/
def double (l : Layout) (x : Double) : String :=
  (if x.isNegative then "-" else "") ++ if x.isZero then "0.0" else l.numeral x.shortest

end Layout

example : Layout.json.numeral ⟨[1, 5], -1⟩ = "1.5" := by decide
example : Layout.json.numeral ⟨[1], 20⟩ = "1e+20" := by decide
example : Layout.yaml.numeral ⟨[1, 5], 19⟩ = "1.5e20" := by decide
example : Layout.json.numeral ⟨[1], -5⟩ = "0.00001" := by decide

end Schemata
