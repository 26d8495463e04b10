import Schemata.Number.Token
import Schemata.Tree.Basic

/-! Reading a tree from JSON text. -/
namespace Schemata.Tree.Reader

def isSpace (c : Char) : Bool := c = ' ' || c = '\t' || c = '\n' || c = '\r'

def skip (cs : List Char) : List Char := cs.dropWhile isSpace

/-- The rest of a string after its opening quote. A unit of the high half of a pair
has to be followed by one of the low half. -/
def text : Option Nat → List Char → List Char → Option (String × List Char)
  | none, acc, '"' :: r => some (String.ofList acc.reverse, r)
  | none, acc, '\\' :: 'u' :: a :: b :: c :: d :: r =>
    match Text.number? 16 [a, b, c, d] with
    | none => none
    | some n =>
      if 0xD800 ≤ n ∧ n < 0xDC00 then text (some n) acc r
      else if 0xDC00 ≤ n ∧ n < 0xE000 then none
      else text none (Char.ofNat n :: acc) r
  | none, acc, '\\' :: e :: r =>
    match e with
    | '"' => text none ('"' :: acc) r
    | '\\' => text none ('\\' :: acc) r
    | '/' => text none ('/' :: acc) r
    | 'b' => text none ('\x08' :: acc) r
    | 'f' => text none ('\x0C' :: acc) r
    | 'n' => text none ('\n' :: acc) r
    | 'r' => text none ('\r' :: acc) r
    | 't' => text none ('\t' :: acc) r
    | _ => none
  | none, acc, c :: r => if c.toNat < 32 ∨ c = '\\' then none else text none (c :: acc) r
  | some high, acc, '\\' :: 'u' :: a :: b :: c :: d :: r =>
    match Text.number? 16 [a, b, c, d] with
    | none => none
    | some low =>
      if 0xDC00 ≤ low ∧ low < 0xE000 then
        text none (Char.ofNat (0x10000 + (high - 0xD800) * 1024 + (low - 0xDC00)) :: acc) r
      else none
  | _, _, _ => none

/-- The longest run of digits in front, and the rest. -/
def digits (cs : List Char) : List Nat × List Char :=
  let run := cs.takeWhile Char.isDigit
  (run.map fun c => c.toNat - 48, cs.drop run.length)

/-- Digits of which there is at least one. -/
def someDigits (cs : List Char) : Option (List Nat × List Char) :=
  match digits cs with
  | ([], _) => none
  | r => some r

def fraction : List Char → Option (Option (List Nat) × List Char)
  | '.' :: cs => (someDigits cs).map fun r => (some r.1, r.2)
  | cs => some (none, cs)

def exponent (cs : List Char) : Option (Option Int × List Char) :=
  match cs with
  | e :: r =>
    if e = 'e' ∨ e = 'E' then
      let (negative, r) := match r with
        | '-' :: r => (true, r)
        | '+' :: r => (false, r)
        | r => (false, r)
      (someDigits r).map fun (ds, r) =>
        let n := Text.ofDigits 10 ds
        (some (if negative then -n else n), r)
    else some (none, cs)
  | [] => some (none, [])

/-- A number; a zero in front of other digits is refused. -/
def number (cs : List Char) : Option (Tree × List Char) := do
  let (negative, cs) := match cs with
    | '-' :: r => (true, r)
    | r => (false, r)
  let (whole, cs) ← someDigits cs
  if whole.head? = some 0 ∧ 1 < whole.length then none
  let (fraction, cs) ← fraction cs
  let (exponent, cs) ← exponent cs
  let n ← NumberToken.number? ⟨negative, whole, fraction, exponent⟩
  some (.number n, cs)

mutual

/-- One value and the text after it. -/
def value : Nat → List Char → Option (Tree × List Char)
  | 0, _ => none
  | fuel + 1, cs =>
    match skip cs with
    | 'n' :: 'u' :: 'l' :: 'l' :: r => some (.null, r)
    | 't' :: 'r' :: 'u' :: 'e' :: r => some (.bool true, r)
    | 'f' :: 'a' :: 'l' :: 's' :: 'e' :: r => some (.bool false, r)
    | '"' :: r => (text none [] r).map fun (s, r) => (.string s, r)
    | '[' :: r =>
      match skip r with
      | ']' :: r => some (.list [], r)
      | r => (items fuel r).map fun (ts, r) => (.list ts, r)
    | '\x7b' :: r =>
      match skip r with
      | '\x7d' :: r => some (.map [], r)
      | r => (entries fuel r).map fun (fs, r) => (.map (Fields.ofEntries fs), r)
    | r => number r

def items : Nat → List Char → Option (List Tree × List Char)
  | 0, _ => none
  | fuel + 1, cs => do
    let (t, r) ← value fuel cs
    match skip r with
    | ',' :: r => (items fuel r).map fun (ts, r) => (t :: ts, r)
    | ']' :: r => some ([t], r)
    | _ => none

def entries : Nat → List Char → Option (List (String × Tree) × List Char)
  | 0, _ => none
  | fuel + 1, cs => do
    let '"' :: r := skip cs | none
    let (k, r) ← text none [] r
    let ':' :: r := skip r | none
    let (t, r) ← value fuel r
    match skip r with
    | ',' :: r => (entries fuel r).map fun (fs, r) => ((k, t) :: fs, r)
    | '\x7d' :: r => some ([(k, t)], r)
    | _ => none

end

end Reader

/-- The tree that a JSON text writes; of fields under one key the first gives
the place and the last the value. -/
def read? (s : String) : Option Tree :=
  let cs := s.toList
  match Reader.value (2 * cs.length + 1) cs with
  | some (t, r) => if (Reader.skip r).isEmpty then some t else none
  | none => none

end Schemata.Tree
