import Schemata.Pattern.Grammar
import Schemata.Tree.Basic

/-! Patterns that name properties. -/
namespace Schemata

/-- A regular expression used as a property name. -/
structure Pattern where
  source : String
  wellFormed : Pattern.isWellFormed source = true
  deriving DecidableEq

namespace Pattern

def ofSource? (source : String) : Option Pattern :=
  if h : isWellFormed source then some ⟨source, h⟩ else none

/-- The source between two slashes. -/
def display (p : Pattern) : String := "/" ++ p.source ++ "/"

/-- The key under which a plain tree holds a pattern. -/
def tag : String := "$pattern"

def toTree (p : Pattern) : Tree := .map [(tag, .string p.source)]

end Pattern

end Schemata
