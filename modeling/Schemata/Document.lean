import Schemata.Tree.Printer
import Schemata.Yaml.Printer

/-! Documents: rendered trees as text. -/
namespace Schemata

/-- A rendered schema. -/
structure Document where
  tree : Tree

namespace Document

/-- The identifier of the seventh draft of the schema language. -/
def draft07 : String := "http://json-schema.org/draft-07/schema#"

/-- Puts `$schema` in front of the other keys; a root that is no map stays. -/
def withDialect (d : Document) (dialect : String) : Document :=
  match d.tree with
  | .map fs => ⟨.map (("$schema", .string dialect) :: fs.filter fun e => e.1 ≠ "$schema")⟩
  | t => ⟨t⟩

def toJson (d : Document) (pretty : Bool) : String :=
  if pretty then d.tree.pretty 0 else d.tree.compact

def toYaml (d : Document) : String := Yaml.print d.tree

end Document

end Schemata
