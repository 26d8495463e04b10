import Schemata.Fields

/-! The declared types of attributes. -/
namespace Schemata

/-- What an attribute accepts. -/
inductive AttrType where
  | any
  | string
  | integer
  | number
  | boolean
  | name
  | array
  | schema
  | schemas
  | schemaOrSchemas
  | boolOrSchema
  | schemaMap
  | required
  deriving DecidableEq

namespace AttrType

/-- The type in words, for messages. -/
def description : AttrType → String
  | any => "any value"
  | string => "a string"
  | integer => "an integer"
  | number => "a number"
  | boolean => "a boolean"
  | name => "a name or pattern"
  | array => "an array"
  | schema => "a schema node"
  | schemas => "a list of schema nodes"
  | schemaOrSchemas => "a schema node or a list of them"
  | boolOrSchema => "a boolean or a schema node"
  | schemaMap => "a map of schema nodes"
  | required => "a boolean or a list of names"

end AttrType

end Schemata
