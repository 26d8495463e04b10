import Schemata.Attribute
import Schemata.Tree.Printer

/-! Everything that can go wrong, by cause. -/
namespace Schemata

/-- The keys and list positions that lead from the root of a tree to a place in it. -/
abbrev Path := List String

/-- A slash before every step; the root is a slash alone. -/
def Path.text (p : Path) : String := if p.isEmpty then "/" else String.join (p.map ("/" ++ ·))

/-- What an attribute write should have been. -/
inductive Expectation where
  | ofType (type : AttrType)
  /-- A call that gives a value describes no nested schema besides. -/
  | valueOrSchema
  deriving DecidableEq

def Expectation.text : Expectation → String
  | ofType type => type.description
  | valueOrSchema => "either a value or a nested schema"

/-- Why the shape of a tree cannot be rendered. -/
inductive RenderFault where
  | childrenNotList
  | childNotMap
  | childWithoutName
  | childNameMalformed
  | patternRequired (pattern : String)
  | requiredNotList (found : Tree)
  | requiredNotName (entry : Tree)

def RenderFault.text : RenderFault → String
  | childrenNotList => "children must be a list"
  | childNotMap => "child must be a map"
  | childWithoutName => "child has no name"
  | childNameMalformed => "child name is neither a string nor a pattern"
  | patternRequired pattern => "pattern property /" ++ pattern ++ "/ cannot be required"
  | requiredNotList found => "required must be a list of names, found " ++ found.compact
  | requiredNotName entry => "required entry " ++ entry.compact ++ " is not a name"

/-- The causes of failure. -/
inductive Error where
  /-- The kind does not declare the attribute. -/
  | unknownAttribute (kind name : String)
  /-- The value does not fit the declared type of the attribute. -/
  | invalidAttribute (kind name : String) (expected : Expectation)
  | unknownKind (kind : String)
  /-- The source of a pattern is no regular expression. -/
  | invalidPattern (source : String)
  /-- Neither an attribute, nor a kind, nor a helper has the name. -/
  | noSuchOperation (name : String)
  /-- A pass met a shape that it cannot render. -/
  | render (pass : String) (path : Path) (fault : RenderFault)
  | general (message : String)

/-- The classes of failure that a host may tell apart. -/
inductive ErrorCategory where
  | construction
  | noSuchOperation
  | render
  | general
  deriving DecidableEq

namespace Error

def category : Error → ErrorCategory
  | unknownAttribute _ _ | invalidAttribute _ _ _ | unknownKind _ | invalidPattern _ => .construction
  | noSuchOperation _ => .noSuchOperation
  | render _ _ _ => .render
  | general _ => .general

def message : Error → String
  | unknownAttribute kind name => s!"Unknown attribute '{name}' for kind '{kind}'"
  | invalidAttribute kind name expected =>
    s!"Invalid value for '{name}' on kind '{kind}': expected {expected.text}"
  | unknownKind kind => s!"Unknown kind '{kind}'"
  | invalidPattern source => s!"Invalid pattern: {source}"
  | noSuchOperation name => s!"No such operation '{name}'"
  | render pass path fault => s!"Render Error in {pass} at '{path.text}': {fault.text}"
  | general message => s!"General Error: {message}"

end Error

end Schemata
