import Schemata.Node.Basic
import Schemata.Error
import Schemata.Text.Quote

/-! Scopes: operations that the surroundings of a schema definition offer. -/
namespace Schemata

/-- What an operation of a scope yields. A node becomes a child of the node under
construction, anything else goes back to the caller. -/
inductive ScopeValue where
  | node (node : Node)
  | raw (tree : Tree)

/-- A provider of operations; an operation that it does not have yields nothing. -/
structure Scope where
  respondsTo : String → Bool
  invoke : String → List AttrValue → Option (Except Error ScopeValue)

/-- An operation given as a function of its arguments. -/
abbrev Helper := List AttrValue → Except Error ScopeValue

/-- A scope of named helpers. -/
structure HelperScope where
  helpers : Fields Helper

namespace HelperScope

def empty : HelperScope := ⟨[]⟩

/-- Adds a helper, or replaces the one of its name. -/
def add (s : HelperScope) (name : String) (helper : Helper) : HelperScope :=
  ⟨s.helpers.insert name helper⟩

def toScope (s : HelperScope) : Scope where
  respondsTo name := s.helpers.contains name
  invoke name args := (s.helpers.get? name).map fun helper => helper args

/-- The names of the helpers in alphabetical order. -/
def names (s : HelperScope) : List String := s.helpers.keys.mergeSort fun a b => !(b < a)

def display (s : HelperScope) : String :=
  "HelperScope \x7b helpers: [" ++ ", ".intercalate (s.names.map Text.quoteForDisplay) ++ "] \x7d"

end HelperScope

end Schemata
