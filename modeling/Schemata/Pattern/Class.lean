import Schemata.Pattern.Item
import Schemata.Pattern.Nesting

/-! Classes of characters in brackets. -/
namespace Schemata.Pattern

/-- A class that is still open: the heights of its items since the last operator, and the height
of what stands in front of that operator. -/
structure OpenClass where
  negated : Bool
  items : Row := []
  left : Option Nat := none

namespace OpenClass

def add (c : OpenClass) (height : Nat) : OpenClass := { c with items := height :: c.items }

/-- The height of what stands between the brackets; an operator stands a level above both sides. -/
def height (c : OpenClass) : Nat :=
  match c.left with
  | none => c.items.height
  | some l => max l c.items.height + 1

/-- Goes on behind an operator, be it intersection, difference or symmetric difference. -/
def operator (c : OpenClass) : OpenClass := { negated := c.negated, left := some c.height }

/-- The class as an item. Where characters are bytes no part of it holds a byte beyond ASCII, so
its negation holds them all. -/
def toItem (c : OpenClass) : Item := .set c.negated

end OpenClass

/-- Hyphens at the start of a class stand for themselves. -/
def leadingHyphens (f : Flags) : Nat → OpenClass → List Char → OpenClass × List Char
  | 0, c, cs => (c, cs)
  | fuel + 1, c, cs =>
    match cs with
    | '-' :: r => leadingHyphens f fuel (c.add 0) (skip f r)
    | _ => (c, cs)

/-- The start of a class after its bracket; a closing bracket that comes first stands for itself. -/
def openClass (f : Flags) (cs : List Char) : Option (OpenClass × List Char) :=
  let (negated, cs) := match skip f cs with
    | '^' :: r => (true, skip f r)
    | r => (false, r)
  match leadingHyphens f (cs.length + 1) { negated } cs with
  | (_, []) => none
  | (c, ']' :: r) =>
    if c.items.isEmpty then
      let r := skip f r
      if r.isEmpty then none else some (c.add 0, r)
    else some (c, ']' :: r)
  | (c, r) => some (c, r)

def namedClasses : List String :=
  ["alnum", "alpha", "ascii", "blank", "cntrl", "digit", "graph", "lower", "print", "punct", "space",
    "upper", "word", "xdigit"]

/-- A named class such as `[:alpha:]`, after its bracket. -/
def namedClass? : List Char → Option (Item × List Char)
  | ':' :: cs =>
    let (negated, cs) := match cs with
      | '^' :: r => (true, r)
      | r => (false, r)
    let name := String.ofList (cs.takeWhile (· ≠ ':'))
    match cs.dropWhile (· ≠ ':') with
    | ':' :: ']' :: r => if namedClasses.contains name then some (.set negated, r) else none
    | _ => none
  | _ => none

/-- An item of a class; every character but a backslash stands for itself. -/
def classItem (f : Flags) : List Char → Option (Item × List Char)
  | '\\' :: cs => escapedItem f cs
  | c :: cs => some (.char c false, cs)
  | [] => none

def Item.classChar? (f : Flags) : Item → Option Char
  | .char c highByte => if f.unicode || (!highByte && c.toNat < 128) then some c else none
  | _ => none

/-- Whether an item that is no part of a range may stand in a class. -/
def Item.inClass (f : Flags) (i : Item) : Bool :=
  match i with
  | .char _ _ => (i.classChar? f).isSome
  | .set _ | .property => i.isAllowed f
  | _ => false

/-- The character after the next one, where blanks and a number sign do not count in verbose text. -/
def peek? (f : Flags) (cs : List Char) : Option Char :=
  if f.verbose then
    let r := cs.dropWhile isBlank
    match r with
    | '#' :: r => (r.dropWhile isBlank).head?
    | r => r.head?
  else cs.head?

/-- An item or a range of a class. -/
def classRange (f : Flags) (cs : List Char) : Option (List Char) := do
  let (first, r) ← classItem f cs
  match skip f r with
  | [] => none
  | '-' :: r' =>
    if peek? f r' = some ']' ∨ peek? f r' = some '-' then
      if first.inClass f then some ('-' :: r') else none
    else
      let (last, r) ← classItem f (skip f r')
      let a ← first.classChar? f
      let b ← last.classChar? f
      if a.toNat ≤ b.toNat then some r else none
  | r => if first.inClass f then some r else none

/-- Reads classes to the end of the outermost one, and gives its height. -/
def classRest (f : Flags) : Nat → OpenClass → List OpenClass → List Char → Option (Nat × List Char)
  | 0, _, _, _ => none
  | fuel + 1, c, outer, cs =>
    match skip f cs with
    | [] => none
    | '[' :: r =>
      match namedClass? r with
      | some (item, r) => if item.isAllowed f then classRest f fuel (c.add 0) outer r else none
      | none => do
        let (inner, r) ← openClass f r
        classRest f fuel inner (c :: outer) r
    | ']' :: r =>
      if c.toItem.isAllowed f then
        match outer with
        | [] => some (c.height + 1, r)
        | o :: outer => classRest f fuel (o.add (c.height + 1)) outer r
      else none
    | '&' :: '&' :: r | '-' :: '-' :: r | '~' :: '~' :: r => classRest f fuel c.operator outer r
    | r => do classRest f fuel (c.add 0) outer (← classRange f r)

def bracketClass (f : Flags) (cs : List Char) : Option (Nat × List Char) := do
  let (c, r) ← openClass f cs
  classRest f (r.length + 1) c [] r

end Schemata.Pattern
