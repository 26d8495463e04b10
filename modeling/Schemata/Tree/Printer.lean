import Schemata.Text.Quote
import Schemata.Tree.Basic

/-! JSON text of a tree, on one line or indented. -/
namespace Schemata.Tree

mutual

/-- JSON text without spaces. -/
def compact : Tree → String
  | null => "null"
  | bool value => if value then "true" else "false"
  | number value => value.text .json
  | string value => Text.quote value
  | list items => "[" ++ ",".intercalate (compactItems items) ++ "]"
  | map fields => "\x7b" ++ ",".intercalate (compactFields fields) ++ "\x7d"

def compactItems : List Tree → List String
  | [] => []
  | t :: ts => t.compact :: compactItems ts

def compactFields : List (String × Tree) → List String
  | [] => []
  | (k, t) :: fs => (Text.quote k ++ ":" ++ t.compact) :: compactFields fs

end

/-- Lines between two brackets, one level further in than the brackets. -/
def block (indent : Nat) (opening closing : String) (lines : List String) : String :=
  let space (n : Nat) := String.ofList (List.replicate (2 * n) ' ')
  if lines.isEmpty then opening ++ closing
  else
    opening ++ "\n" ++ ",\n".intercalate (lines.map (space (indent + 1) ++ ·)) ++ "\n" ++
      space indent ++ closing

mutual

/-- JSON text with one entry a line, two spaces a level; empty lists and maps stay on their line. -/
def pretty (indent : Nat) : Tree → String
  | list items => block indent "[" "]" (prettyItems (indent + 1) items)
  | map fields => block indent "\x7b" "\x7d" (prettyFields (indent + 1) fields)
  | t => t.compact

def prettyItems (indent : Nat) : List Tree → List String
  | [] => []
  | t :: ts => t.pretty indent :: prettyItems indent ts

def prettyFields (indent : Nat) : List (String × Tree) → List String
  | [] => []
  | (k, t) :: fs => (Text.quote k ++ ": " ++ t.pretty indent) :: prettyFields indent fs

end

end Schemata.Tree
