import Schemata.Pattern.Property
import Schemata.Text.Digit

/-! Single items of a pattern: characters, sets, properties and assertions. -/
namespace Schemata.Pattern

/-- The flags that change what is well formed. -/
structure Flags where
  /-- Blanks and comments are skipped. -/
  verbose : Bool := false
  /-- Characters are code points, not bytes. -/
  unicode : Bool := true
  deriving DecidableEq

def isBlank (c : Char) : Bool :=
  let n := c.toNat
  (9 ≤ n && n ≤ 13) || n = 32 || n = 0x85 || n = 0xA0 || n = 0x1680 || (0x2000 ≤ n && n ≤ 0x200A) ||
    n = 0x2028 || n = 0x2029 || n = 0x202F || n = 0x205F || n = 0x3000

/-- Drops blanks, and comments from a number sign to the end of the line. -/
def dropBlanks (comment : Bool) : List Char → List Char
  | [] => []
  | c :: cs =>
    if comment then dropBlanks (c ≠ '\n') cs
    else if isBlank c then dropBlanks false cs
    else if c = '#' then dropBlanks true cs
    else c :: cs

def skip (f : Flags) (cs : List Char) : List Char := if f.verbose then dropBlanks false cs else cs

/-- What one item of a pattern or of a class stands for. `highByte` tells of a character
that is written as a byte of two hexadecimal digits. -/
inductive Item where
  | char (c : Char) (highByte : Bool)
  | set (negated : Bool)
  | property
  | anyChar
  | assertion

/-- Items that could match a part of a character are refused where characters are bytes. -/
def Item.isAllowed (f : Flags) : Item → Bool
  | .char _ highByte => f.unicode || !highByte
  | .set negated => f.unicode || !negated
  | .property => f.unicode
  | .anyChar => f.unicode
  | .assertion => true

def scalar? (n : Nat) : Option Char :=
  if n < 0xD800 ∨ (0xE000 ≤ n ∧ n ≤ 0x10FFFF) then some (Char.ofNat n) else none

/-- Exactly `count` hexadecimal digits. -/
def fixedHex (f : Flags) : Nat → Nat → List Char → Option (Nat × List Char)
  | 0, n, cs => some (n, cs)
  | count + 1, n, c :: cs => do fixedHex f count (n * 16 + (← Text.digit? 16 c)) (skip f cs)
  | _, _, [] => none

/-- The characters up to a closing brace. -/
def upToBrace (f : Flags) : Nat → List Char → Option (List Char × List Char)
  | 0, _ => none
  | fuel + 1, cs =>
    match skip f cs with
    | [] => none
    | '\x7d' :: r => some ([], r)
    | c :: r => (upToBrace f fuel r).map fun (text, r) => (c :: text, r)

/-- A character written by its code point: in braces, or with `count` digits. -/
def hexItem (f : Flags) (count : Nat) (cs : List Char) : Option (Item × List Char) := do
  match skip f cs with
  | '\x7b' :: r =>
    let (text, r) ← upToBrace f (r.length + 1) r
    let c ← scalar? (← Text.number? 16 text)
    some (.char c false, skip f r)
  | r =>
    let (n, r) ← fixedHex f count 0 r
    let c ← scalar? n
    some (.char c (count = 2 ∧ 128 ≤ n), r)

/-- Cuts at the first place where `mark` stands. -/
def cutAt? (mark : List Char) : List Char → Option (List Char × List Char)
  | [] => none
  | c :: cs =>
    if mark.isPrefixOf (c :: cs) then some ([], (c :: cs).drop mark.length)
    else (cutAt? mark cs).map fun (before, after) => (c :: before, after)

/-- The text between the braces of a property: a name, or a name and a value. -/
def isProperty (text : List Char) : Bool :=
  match cutAt? ['!', '='] text, cutAt? [':'] text, cutAt? ['='] text with
  | some (name, value), _, _ => isPropertyValue name value
  | none, some (name, value), _ => isPropertyValue name value
  | none, none, some (name, value) => isPropertyValue name value
  | none, none, none => isPropertyName text

def propertyItem (f : Flags) (cs : List Char) : Option (Item × List Char) := do
  match skip f cs with
  | '\x7b' :: r =>
    let (text, r) ← upToBrace f (r.length + 1) r
    if isProperty text then some (.property, r) else none
  | c :: r => if c ≠ '\\' ∧ isPropertyName [c] then some (.property, skip f r) else none
  | [] => none

def isSpecial (c : Char) : Bool := "\\.+*?()|[]\x7b\x7d^$#&-~".toList.contains c

def isBoundaryLetter (c : Char) : Bool := c.isAlpha || c = '-'

/-- A word boundary may be followed by a kind in braces; braces that start otherwise are
left to be read as a count. -/
def boundaryItem (f : Flags) (cs : List Char) : Option (Item × List Char) :=
  match cs with
  | '\x7b' :: r =>
    match skip f r with
    | [] => none
    | c :: _ =>
      if isBoundaryLetter c then do
        let (text, r) ← upToBrace f (r.length + 1) r
        let kinds := ["start", "end", "start-half", "end-half"]
        if kinds.contains (String.ofList text) then some (.assertion, r) else none
      else some (.assertion, cs)
  | _ => some (.assertion, cs)

/-- An item after its backslash. -/
def escapedItem (f : Flags) : List Char → Option (Item × List Char)
  | [] => none
  | c :: cs =>
    match c with
    | 'x' => hexItem f 2 cs
    | 'u' => hexItem f 4 cs
    | 'U' => hexItem f 8 cs
    | 'p' | 'P' => propertyItem f cs
    | 'd' | 's' | 'w' => some (.set false, cs)
    | 'D' | 'S' | 'W' => some (.set true, cs)
    | 'a' | 'f' | 't' | 'n' | 'r' | 'v' => some (.char (controlChar c) false, cs)
    | 'b' => boundaryItem f cs
    | 'A' | 'z' | 'B' | '<' | '>' => some (.assertion, cs)
    | _ =>
      if isSpecial c || (c.toNat < 128 && !c.isAlphanum) then some (.char c false, cs) else none
where
  /-- The character that a letter stands for after a backslash. -/
  controlChar (c : Char) : Char :=
    match c with
    | 'a' => '\x07'
    | 'f' => '\x0C'
    | 't' => '\t'
    | 'n' => '\n'
    | 'r' => '\r'
    | _ => '\x0B'

end Schemata.Pattern
