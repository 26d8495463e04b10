import Schemata.Text.Casing

/-! The spellings of attribute names: one inside nodes, another in documents. -/
namespace Schemata

/-- The spelling under which an attribute is declared and stored: a name with an ASCII capital
or a dollar sign becomes snake case, every other name stays. -/
def canonicalName (name : String) : String :=
  if name.toList.any fun c => c.isUpper || c = '$' then Text.snakeCase name else name

/-- Whether the first character is its own upper case and every other its own lower case. -/
def isCapitalized : List Char → Bool
  | [] => true
  | c :: cs => Text.upper c = [c] && cs.all fun c => Text.lower c = [c]

/-- The spelling of a key in a document. -/
def documentKey (key : String) : String :=
  if key = "kind" then "type"
  else if key = "ref" then "$ref"
  else if isCapitalized key.toList || !key.toList.contains '_' then key
  else Text.lowerCamelCase key

example : canonicalName "minLength" = "min_length" := by decide
example : canonicalName "$ref" = "ref" := by decide
example : documentKey "pattern_properties" = "patternProperties" := by decide
example : documentKey "Foo_bar" = "Foo_bar" := by decide

end Schemata
