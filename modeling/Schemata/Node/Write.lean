import Schemata.Node.Equality

/-! Writing attributes: coercion to the declared type, and the update of a node. -/
namespace Schemata

/-- The value that a type makes of another, if it accepts that. Text takes numbers, booleans
and names over as their text; a list of schemas takes over a single one. -/
def AttrType.coerce : AttrType → AttrValue → Option AttrValue
  | .any, v => some v
  | .string, .literal (.string s) => some (.string s)
  | .string, .literal (.number n) => some (.string (Tree.number n).compact)
  | .string, .literal (.bool b) => some (.string (Tree.bool b).compact)
  | .string, .name (.plain s) => some (.string s)
  | .string, .name (.pattern p) => some (.string p.source)
  | .integer, v@(.literal (.number (.int _))) => some v
  | .number, v@(.literal (.number _)) => some v
  | .boolean, v@(.literal (.bool _)) => some v
  | .name, v@(.name _) => some v
  | .name, .literal (.string s) => some (.name (.plain s))
  | .array, v@(.literal (.list _)) => some v
  | .schema, v@(.node _) => some v
  | .schemas, v@(.nodes _) => some v
  | .schemas, .node n => some (.nodes [n])
  | .schemaOrSchemas, v@(.node _) => some v
  | .schemaOrSchemas, v@(.nodes _) => some v
  | .boolOrSchema, v@(.literal (.bool _)) => some v
  | .boolOrSchema, v@(.node _) => some v
  | .schemaMap, v@(.nodeMap _) => some v
  | .required, v@(.literal (.bool _)) => some v
  | .required, v@(.literal (.list items)) => if items.all Tree.isString then some v else none
  | _, _ => none

/-- The value to store under a declared attribute, none to drop it; `name` is in canonical
spelling. A null literal drops the attribute, whatever its type. -/
def Kind.check (k : Kind) (name : String) (value : AttrValue) : Except Error (Option AttrValue) :=
  match Fields.get? k.attributes name with
  | none => .error (.unknownAttribute k.id name)
  | some type =>
    if value.isNull then .ok none
    else
      match type.coerce value with
      | some v => .ok (some v)
      | none => .error (.invalidAttribute k.id name (.ofType type))

namespace Node

/-- The node with one attribute written or dropped. -/
def update (n : Node) (name : String) (value : AttrValue) : Except Error Node :=
  let key := canonicalName name
  (n.kind.check key value).map fun v => mk n.kind (n.attributes.assign key v)

/-- A node of a kind with the given attributes, written in order. -/
def construct (k : Kind) (entries : List (String × AttrValue)) : Except Error Node :=
  entries.foldlM (fun n e => n.update e.1 e.2) (mk k [])

/-- The value of an attribute, in any spelling of its name. -/
def get? (n : Node) (name : String) : Option AttrValue := n.attributes.get? (canonicalName name)

def name? (n : Node) : Option Name :=
  match n.attributes.get? "name" with
  | some (.name name) => some name
  | _ => none

/-- The nodes added as children. -/
def children (n : Node) : List Node :=
  match n.attributes.get? "children" with
  | some (.nodes nodes) => nodes
  | _ => []

/-- The node with a child added at the end, unless an equal child is there already. -/
def addChild (n : Node) (child : Node) : Except Error Node :=
  if n.children.any fun c => c.same child then .ok n
  else n.update "children" (.nodes (n.children ++ [child]))

end Node

end Schemata
