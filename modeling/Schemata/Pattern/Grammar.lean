import Schemata.Pattern.Class
import Schemata.Text.Alphabetic

/-! The grammar of patterns: regular expressions without look-around and back references. -/
namespace Schemata.Pattern

/-- A decimal number among blanks, or no digits at all. -/
def count (f : Flags) : Nat → Option Nat → List Char → Option (Option Nat × List Char)
  | 0, _, _ => none
  | fuel + 1, n, cs =>
    match cs with
    | c :: r =>
      if c.isDigit then count f fuel (some (n.getD 0 * 10 + (c.toNat - 48))) (skip f r)
      else finish n (c :: r)
    | [] => finish n []
where
  finish (n : Option Nat) (cs : List Char) : Option (Option Nat × List Char) :=
    if n.getD 0 < Nat.pow 2 32 then some (n, skip f (cs.dropWhile isBlank)) else none

/-- The bounds of a repetition after the opening brace. -/
def repetition (f : Flags) (cs : List Char) : Option (List Char) := do
  let cs := skip f cs
  if cs.isEmpty then none
  let (least, r) ← count f (cs.length + 1) none (cs.dropWhile isBlank)
  let least ← least
  match r with
  | '\x7d' :: r => some r
  | ',' :: r =>
    match skip f r with
    | '\x7d' :: r => some r
    | r =>
      let (most, r) ← count f (r.length + 1) none (r.dropWhile isBlank)
      let most ← most
      match r with
      | '\x7d' :: r => if least ≤ most then some r else none
      | _ => none
  | _ => none

/-- A question mark after a repetition makes it reluctant. -/
def dropReluctant : List Char → List Char
  | '?' :: r => r
  | r => r

/-- A group name up to its closing angle bracket. -/
def groupName? : List Char → List Char → Option (String × List Char)
  | [], '>' :: _ => none
  | name, '>' :: r => some (String.ofList name, r)
  | name, c :: r =>
    if c = '_' || (if name.isEmpty then Text.isAlphabetic c
      else c = '.' || c = '[' || c = ']' || Text.isAlphanumeric c) then groupName? (name ++ [c]) r
    else none
  | _, [] => none

/-- The flags in front of a colon or a closing bracket: those seen, what they set, and the end.
No flag and no minus sign stands twice, and a minus sign stands before a flag. -/
def flagItems (seen : List Char) (f : Flags) : List Char → Option (List Char × Flags × Char × List Char)
  | [] => none
  | c :: r =>
    if c = ':' ∨ c = ')' then
      if seen.head? = some '-' then none else some (seen, f, c, r)
    else if "imsUuRx-".toList.contains c ∧ !seen.contains c then
      let on := !seen.contains '-'
      let f := if c = 'x' then { f with verbose := on }
        else if c = 'u' then { f with unicode := on } else f
      flagItems (c :: seen) f r
    else none

/-- A pattern that is read from left to right. -/
structure Scan where
  rest : List Char
  flags : Flags := {}
  /-- What has been read of the innermost open group. -/
  branches : Branches := {}
  /-- The flags and the branches to go back to at the end of each open group. -/
  groups : List (Flags × Branches) := []
  names : List String := []
  /-- Whether something stands in front that can be repeated. -/
  repeatable : Bool := false

namespace Scan

/-- Goes on with `rest` inside a new group. -/
def enter (s : Scan) (flags : Flags) (rest : List Char) : Scan :=
  { s with rest, flags, branches := {}, groups := (s.flags, s.branches) :: s.groups,
           repeatable := false }

def afterItem (s : Scan) (height : Nat) (rest : List Char) : Scan :=
  { s with rest, branches := s.branches.add height, repeatable := true }

/-- Repeats the item in front; what is repeated can be repeated again. -/
def afterRepetition (s : Scan) (rest : List Char) : Scan :=
  { s with rest := dropReluctant rest, branches := s.branches.wrap }

def namedGroup (s : Scan) (cs : List Char) : Option Scan := do
  let (name, r) ← groupName? [] cs
  if s.names.contains name then none
  else some { s.enter s.flags r with names := name :: s.names }

/-- A group, or a change of flags, after its bracket. -/
def group (s : Scan) (cs : List Char) : Option Scan :=
  match skip s.flags cs with
  | '?' :: '=' :: _ | '?' :: '!' :: _ => none
  | '?' :: '<' :: '=' :: _ | '?' :: '<' :: '!' :: _ => none
  | '?' :: 'P' :: '<' :: r | '?' :: '<' :: r => s.namedGroup r
  | '?' :: r => do
    let (seen, flags, stop, r) ← flagItems [] s.flags r
    if stop = ':' then some (s.enter flags r)
    else if seen.isEmpty then none
    else some { s with rest := r, flags, branches := s.branches.add 0, repeatable := false }
  | r => some (s.enter s.flags r)

/-- One step over a pattern whose rest starts with `c`. -/
def step (s : Scan) (c : Char) (r : List Char) : Option Scan :=
  match c with
  | '(' => s.group r
  | ')' =>
    match s.groups with
    | [] => none
    | (flags, outer) :: groups =>
      some { s with rest := r, flags, groups, branches := outer.add (s.branches.height + 1),
                    repeatable := true }
  | '|' => some { s with rest := r, branches := s.branches.next, repeatable := false }
  | '[' => (bracketClass s.flags r).map fun (height, r) => s.afterItem height r
  | '?' | '*' | '+' => if s.repeatable then some (s.afterRepetition r) else none
  | '\x7b' =>
    if s.repeatable then (repetition s.flags r).map fun r => s.afterRepetition (skip s.flags r)
    else none
  | '\\' => do
    let (item, r) ← escapedItem s.flags r
    if item.isAllowed s.flags then some (s.afterItem 0 r) else none
  | '.' => if Item.anyChar.isAllowed s.flags then some (s.afterItem 0 r) else none
  | _ => some (s.afterItem 0 r)

/-- Whether the rest can be read to its end with every group closed and no part too deep inside. -/
def accepts : Nat → Scan → Bool
  | 0, _ => false
  | fuel + 1, s =>
    match skip s.flags s.rest with
    | [] => s.groups.isEmpty && s.branches.height ≤ maxHeight
    | c :: r =>
      match s.step c r with
      | some s => accepts fuel s
      | none => false

end Scan

/-- Whether a text is a regular expression. -/
def isWellFormed (source : String) : Bool :=
  Scan.accepts (source.toList.length + 1) { rest := source.toList }

example : isWellFormed "^[a-z_][a-z0-9_]*$" = true := by decide
example : isWellFormed "(?P<n>a)(?P<n>b)" = false := by decide
example : isWellFormed "a\x7b2,1\x7d" = false := by decide
example : isWellFormed "(?-u)[[:alpha:]]" = true := by decide
example : isWellFormed "(?-u)[^[:^alpha:]]" = false := by decide

end Schemata.Pattern
