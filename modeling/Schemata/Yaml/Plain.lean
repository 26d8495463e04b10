import Schemata.Text.Digit

/-! Which texts read as something else than a string when YAML shows them without quotes. -/
namespace Schemata.Yaml

def nullWords : List String := ["", "~", "null", "Null", "NULL"]

def booleanWords : List String := ["true", "True", "TRUE", "false", "False", "FALSE"]

def infinityWords : List String := [".inf", ".Inf", ".INF"]

def nanWords : List String := [".nan", ".NaN", ".NAN"]

/-- The number after a mark for its radix. -/
def markedNumber? : List Char → Option Nat
  | '0' :: 'x' :: cs => Text.number? 16 cs
  | '0' :: 'o' :: cs => Text.number? 8 cs
  | '0' :: 'b' :: cs => Text.number? 2 cs
  | _ => none

/-- A number with a mark for its radix reads as an integer if 128 bits hold it. -/
def isMarkedInteger : List Char → Bool
  | '-' :: cs => (markedNumber? cs).any (· ≤ Nat.pow 2 127)
  | '+' :: cs => (markedNumber? cs).any (· < Nat.pow 2 128)
  | cs => (markedNumber? cs).any (· < Nat.pow 2 128)

def unsigned : List Char → List Char
  | '+' :: cs => cs
  | '-' :: cs => cs
  | cs => cs

/-- Several digits of which the first is a zero. -/
def hasLeadingZero (cs : List Char) : Bool :=
  match unsigned cs with
  | '0' :: c :: cs => (c :: cs).all Char.isDigit
  | _ => false

/-- The digits before and after the point, and the exponent, of a decimal number without sign. -/
def decimalParts? (cs : List Char) : Option (List Char × List Char × Int) := do
  let whole := cs.takeWhile Char.isDigit
  let rest := cs.dropWhile Char.isDigit
  let (fraction, rest) := match rest with
    | '.' :: r => (r.takeWhile Char.isDigit, r.dropWhile Char.isDigit)
    | r => ([], r)
  if whole.isEmpty ∧ fraction.isEmpty then none
  match rest with
  | [] => some (whole, fraction, 0)
  | e :: r =>
    if e ≠ 'e' ∧ e ≠ 'E' then none
    let n ← Text.number? 10 (unsigned r)
    some (whole, fraction, if r.head? = some '-' then -n else n)

/-- Whether a decimal number is small enough for a double. -/
def isFinite (whole fraction : List Char) (exponent : Int) : Bool :=
  let digits := (whole ++ fraction).dropWhile (· = '0')
  let power : Int := exponent - fraction.length
  let top : Int := digits.length + power
  if digits.isEmpty ∨ top < 300 then true
  else if 310 < top then false
  else
    let n := (Text.number? 10 digits).getD 0
    n * Nat.pow 10 power.toNat < (Nat.pow 2 1024 - Nat.pow 2 970) * Nat.pow 10 (-power).toNat

def isDecimal (cs : List Char) : Bool :=
  match decimalParts? (unsigned cs) with
  | some (whole, fraction, exponent) => isFinite whole fraction exponent
  | none => false

/-- Whether a text without quotes reads as null, a boolean or a number, or has leading zeros. -/
def readsAsOther (s : String) : Bool :=
  let cs := s.toList
  nullWords.contains s || booleanWords.contains s || nanWords.contains s ||
    infinityWords.contains (String.ofList (unsigned cs)) || isMarkedInteger cs || isDecimal cs ||
    hasLeadingZero cs

example : readsAsOther "1e3" = true := by decide
example : readsAsOther "0x1F" = true := by decide
example : readsAsOther "1_000" = false := by decide
example : readsAsOther "1e400" = false := by decide

end Schemata.Yaml
