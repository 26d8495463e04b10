import Schemata.Error
import Schemata.Spelling

/-! Kinds: the sorts of schema that can be built, each with the attributes it declares. -/
namespace Schemata

/-- A sort of schema. Its identifier is looked up in a registry; its type name is what its
schemas carry as their `kind`, and a generic kind has none. -/
structure Kind where
  id : String
  typeName : Option String
  attributes : List (String × AttrType)
  deriving DecidableEq

namespace Kind

/-- The attributes that every kind declares. -/
def commonAttributes : Fields AttrType := [
  ("kind", .string), ("name", .name), ("title", .string), ("description", .string),
  ("default", .any), ("enum", .array), ("all_of", .schemas), ("any_of", .schemas),
  ("one_of", .schemas), ("children", .schemas), ("nullable", .boolean), ("required", .required),
  ("ref", .string), ("definitions", .schemaMap), ("not", .schema)]

/-- A kind whose type name is its identifier. -/
def new (id : String) : Kind := ⟨id, some id, commonAttributes⟩

def generic (id : String) : Kind := ⟨id, none, commonAttributes⟩

def withTypeName (k : Kind) (typeName : String) : Kind := { k with typeName := some typeName }

/-- Declares one more attribute, or another type for a declared one. -/
def declare (k : Kind) (name : String) (type : AttrType) : Kind :=
  { k with attributes := Fields.insert k.attributes (canonicalName name) type }

def declareAll (k : Kind) (entries : List (String × AttrType)) : Kind :=
  entries.foldl (fun k e => k.declare e.1 e.2) k

/-- The declared type of an attribute, in any spelling of its name. -/
def typeOf? (k : Kind) (name : String) : Option AttrType :=
  Fields.get? k.attributes (canonicalName name)

/-- The attribute declarations agree, in whatever order they stand. -/
def same (a b : Kind) : Bool :=
  a.id = b.id && a.typeName = b.typeName && sameDeclarations a.attributes b.attributes
where
  sameDeclarations : Fields AttrType → Fields AttrType → Bool
    | [], bs => bs.isEmpty
    | (k, a) :: as, bs =>
      match Fields.extract? k bs with
      | some (b, rest) => a = b && sameDeclarations as rest
      | none => false

/-- The identifier of the generic kind. -/
def entityId : String := "entity"

def entity : Kind := generic entityId
def null : Kind := new "null"
def boolean : Kind := new "boolean"

def string : Kind := (new "string").declareAll [
  ("min_length", .integer), ("max_length", .integer), ("pattern", .string), ("format", .string)]

/-- A kind of numbers with the given type name. -/
def numberKind (id typeName : String) : Kind := ((new id).withTypeName typeName).declareAll [
  ("multiple_of", .number), ("minimum", .number), ("maximum", .number),
  ("exclusive_minimum", .any), ("exclusive_maximum", .any)]

def numeric : Kind := numberKind "numeric" "number"
def number : Kind := numberKind "number" "number"
def integer : Kind := numberKind "integer" "integer"

def array : Kind := (new "array").declareAll [
  ("unique_items", .boolean), ("additional_items", .boolOrSchema), ("min_items", .integer),
  ("max_items", .integer), ("items", .schemaOrSchemas)]

def object : Kind := (new "object").declareAll [
  ("pattern_properties", .schemaMap), ("min_properties", .integer),
  ("max_properties", .integer), ("additional_properties", .boolOrSchema)]

/-- The kinds that are there from the start. -/
def builtin : List Kind :=
  [entity, null, boolean, string, numeric, number, integer, array, object]

end Kind

end Schemata
