import Schemata.Node.Write

/-! The registry of kinds, with the default attributes of each. -/
namespace Schemata

/-- Kinds in the order of registration, and default attributes under identifiers of kinds. -/
structure Registry where
  kinds : List Kind
  defaults : Fields (Fields AttrValue)

namespace Registry

/-- The built-in kinds, without defaults. -/
def builtin : Registry := ⟨Kind.builtin, []⟩

/-- Puts a kind in the place of the one with its identifier, else at the end. -/
def place (k : Kind) : List Kind → List Kind
  | [] => [k]
  | l :: ls => if l.id = k.id then k :: ls else l :: place k ls

/-- Adds a kind, or replaces the one with its identifier; defaults stay. -/
def register (r : Registry) (k : Kind) : Registry := { r with kinds := place k r.kinds }

def registerAll (r : Registry) (ks : List Kind) : Registry := ks.foldl register r

def get? (r : Registry) (id : String) : Option Kind := r.kinds.find? fun k => k.id = id

def contains (r : Registry) (id : String) : Bool := (r.get? id).isSome

def ids (r : Registry) : List String := r.kinds.map (·.id)

def require (r : Registry) (id : String) : Except Error Kind :=
  match r.get? id with
  | some k => .ok k
  | none => .error (.unknownKind id)

/-- The defaults of a kind; none were set for an unknown one. -/
def defaultsFor (r : Registry) (id : String) : Fields AttrValue := (r.defaults.get? id).getD []

/-- Checks entries against a kind: the canonical names with the values to store or to drop. -/
def checkEntries (k : Kind) : List (String × AttrValue) →
    Except Error (List (String × Option AttrValue))
  | [] => .ok []
  | (name, value) :: rest => do
    let key := canonicalName name
    let v ← k.check key value
    let rest ← checkEntries k rest
    return (key, v) :: rest

/-- Writes entries into the defaults of a kind, if all of them fit it. -/
def setDefaults (r : Registry) (id : String) (entries : List (String × AttrValue)) :
    Except Error Registry := do
  let k ← r.require id
  let checked ← checkEntries k entries
  let merged := checked.foldl (fun d e => Fields.assign d e.1 e.2) (r.defaultsFor id)
  return { r with defaults := r.defaults.insert id merged }

def resetDefaults (r : Registry) : Registry := { r with defaults := [] }

end Registry

end Schemata
