import Schemata.Pattern.Basic
import Schemata.Render.Box

/-! Desugaring: nullable flags, children and wrapped items are written out as schemas. -/
namespace Schemata

def desugarPass : String := "desugar"

/-- The choice of null. -/
def nullSchema : Tree := .map [("kind", .string "null")]

/-- Makes null one of the choices of a nullable schema. -/
def branchNull (fs : Fields Tree) : Fields Tree :=
  if (fs.get? "nullable").any Tree.isTruthy then
    let rest := fs.erase "nullable"
    match rest.get? "any_of" with
    | some (.list branches) =>
      if nullSchema.isMember branches then rest
      else rest.insert "any_of" (.list (branches ++ [nullSchema]))
    | _ => rest.insert "any_of" (.list [nullSchema])
  else fs

/-- The only child of a wrapper takes its place as the items of an array. -/
def unwrapItems (fs : Fields Tree) : Fields Tree :=
  match fs.get? "items" with
  | some (.map wrapper) =>
    match Fields.get? wrapper "children" with
    | some (.list [only]) => fs.insert "items" only
    | _ => fs
  | _ => fs

/-- The name of a child: one property, or all that a pattern matches. -/
inductive ChildName where
  | plain (name : String)
  | pattern (source : String)

/-- Reads the name of a child; null is no name. -/
def childName (child : Fields Tree) : Except RenderFault ChildName :=
  match child.get? "name" with
  | none | some .null => .error .childWithoutName
  | some (.string name) => .ok (.plain name)
  | some (.map tagged) =>
    match Fields.get? tagged Pattern.tag with
    | some (.string source) => .ok (.pattern source)
    | _ => .error .childNameMalformed
  | some _ => .error .childNameMalformed

/-- A boolean `required` of a child, and the child without it. -/
def takeRequired (child : Fields Tree) : Bool × Fields Tree :=
  match child.get? "required" with
  | some (.bool flag) => (flag, child.erase "required")
  | _ => (false, child)

/-- What the children of a schema become. -/
structure Promotion where
  properties : Fields Tree := []
  patterns : Fields Tree := []
  required : List String := []

/-- Puts one child among the properties under its name. -/
def Promotion.add (p : Promotion) : Tree → Except RenderFault Promotion
  | .map child => do
    let name ← childName child
    let (required, child) := takeRequired child
    match name with
    | .plain name =>
      return { p with
        properties := p.properties.insert name (.map child)
        required := if required then p.required ++ [name] else p.required }
    | .pattern source =>
      if required then throw (.patternRequired source)
      else return { p with patterns := p.patterns.insert source (.map child) }
  | _ => .error .childNotMap

/-- Whether a child has no name and stands in one of the choice lists of the schema as well. -/
def isChoice (fs : Fields Tree) (child : Tree) : Bool :=
  (child.get? "name").isNone && choiceKeys.any fun key =>
    match fs.get? key with
    | some (.list members) => child.isMember members
    | _ => false

/-- Promotes the children from position `i` on, except those that are left to a choice list. -/
def promoteFrom (fs : Fields Tree) (path : Path) (i : Nat) (p : Promotion) :
    List Tree → Except Error Promotion
  | [] => .ok p
  | child :: rest =>
    if isChoice fs child then promoteFrom fs path (i + 1) p rest
    else
      match p.add child with
      | .ok p => promoteFrom fs path (i + 1) p rest
      | .error fault => .error (.render desugarPass (path ++ ["children", toString i]) fault)

/-- The names that a schema requires itself; a flag stands for none. -/
def ownRequired : Option Tree → Except RenderFault (List Tree)
  | none | some .null | some (.bool _) => .ok []
  | some (.list entries) =>
    match entries.find? fun t => !t.isString with
    | some bad => .error (.requiredNotName bad)
    | none => .ok entries
  | some other => .error (.requiredNotList other)

/-- Adds names to the required ones, each once. -/
def addRequired (own : List Tree) (names : List String) : List Tree :=
  names.foldl (fun ts name => if (Tree.string name).isMember ts then ts else ts ++ [.string name]) own

def mergeRequired (fs : Fields Tree) (path : Path) (names : List String) :
    Except Error (Fields Tree) :=
  if names.isEmpty then .ok fs
  else
    match ownRequired (fs.get? "required") with
    | .ok own => .ok ((fs.erase "required").insert "required" (.list (addRequired own names)))
    | .error fault => .error (.render desugarPass (path ++ ["required"]) fault)

/-- Writes schemas into a map under `key`; what is no map there is replaced. -/
def mergeEntries (fs : Fields Tree) (key : String) (entries : Fields Tree) : Fields Tree :=
  if entries.isEmpty then fs
  else
    match fs.get? key with
    | some (.map existing) => fs.insert key (.map (Fields.extend existing entries))
    | _ => fs.insert key (.map entries)

/-- Turns the children into properties. -/
def promote (fs : Fields Tree) (path : Path) : Tree → Except Error (Fields Tree)
  | .list children => do
    let p ← promoteFrom fs path 0 {} children
    let fs ← mergeRequired fs path p.required
    return mergeEntries (mergeEntries fs "properties" p.properties) "pattern_properties" p.patterns
  | _ => .error (.render desugarPass (path ++ ["children"]) .childrenNotList)

/-- Desugars a schema, but not the schemas inside it. The children of a schema with items
belong to another schema and stay. -/
def desugarFields (fs : Fields Tree) (path : Path) : Except Error (Fields Tree) :=
  let fs := branchNull fs
  if fs.contains "items" then .ok (unwrapItems fs)
  else
    match fs.get? "children" with
    | some children => promote (fs.erase "children") path children
    | none => .ok fs

/-- Desugars one schema, then the schemas inside it by `visit`. -/
def desugarLevel (visit : Tree → Path → Except Error Tree) : Tree → Path → Except Error Tree
  | .map fs, path => do
    let fs ← desugarFields fs path
    let fs ← visitSchemas visit path fs
    return .map fs
  | t, _ => .ok t

def desugarAt (t : Tree) (path : Path) : Except Error Tree :=
  byDepth desugarLevel (fun t _ => .ok t) t path

def desugar (t : Tree) : Except Error Tree := desugarAt t []

end Schemata
