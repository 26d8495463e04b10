import Schemata.Tree.Basic
import Schemata.Yaml.Scalar

/-! YAML text of a tree, in block style. -/
namespace Schemata.Yaml

/-- Ends a line, unless it has ended already. -/
def endLine (s : String) : String :=
  if s.toList.getLast?.any isBreak then s else s ++ "\n"

def indentation (n : Nat) : String := String.ofList (spaces n)

/-- A key that fits on the line of its value. -/
def isShortKey (key : String) : Bool := !key.toList.any isBreak && key.utf8ByteSize ≤ 128

/-- Puts the first of some entries where the line stands, and the others on lines of their own. -/
def stack (indent : Nat) (entries : List String) : String := (indentation indent).intercalate entries

mutual

/-- A value behind its dash or colon, at the indentation of that. Behind a short key
a list or a map starts on a new line, and a list is not indented. -/
def after (indent : Nat) (shortKey : Bool) : Tree → String
  | .null => " null\n"
  | .bool value => if value then " true\n" else " false\n"
  | .number value => " " ++ value.text .yaml ++ "\n"
  | .string value => " " ++ endLine (scalar (indent + 2) value)
  | .list [] => " []\n"
  | .map [] => " \x7b\x7d\n"
  | .list (t :: ts) =>
    if shortKey then "\n" ++ indentation indent ++ stack indent (items indent (t :: ts))
    else " " ++ stack (indent + 2) (items (indent + 2) (t :: ts))
  | .map (e :: es) =>
    (if shortKey then "\n" ++ indentation (indent + 2) else " ") ++
      stack (indent + 2) (entries (indent + 2) (e :: es))

def items (indent : Nat) : List Tree → List String
  | [] => []
  | t :: ts => ("-" ++ after indent false t) :: items indent ts

def entries (indent : Nat) : List (String × Tree) → List String
  | [] => []
  | (k, t) :: es =>
    (if isShortKey k then scalar (indent + 2) k ++ ":" ++ after indent true t
    else "? " ++ endLine (scalar (indent + 2) k) ++ indentation indent ++ ":" ++ after indent false t) ::
      entries indent es

end

/-- The text of a document. -/
def print : Tree → String
  | .list (t :: ts) => stack 0 (items 0 (t :: ts))
  | .map (e :: es) => stack 0 (entries 0 (e :: es))
  | t => String.ofList ((after 0 false t).toList.drop 1)

end Schemata.Yaml
