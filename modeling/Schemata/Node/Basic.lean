import Schemata.Kind
import Schemata.Pattern.Basic

/-! Schema nodes: typed attributes in the order in which they were first written. -/
namespace Schemata

/-- The name of a node among the properties of its parent: one property, or all that match. -/
inductive Name where
  | plain (name : String)
  | pattern (pattern : Pattern)
  deriving DecidableEq

def Name.toTree : Name → Tree
  | plain name => .string name
  | pattern p => p.toTree

mutual

/-- The value of an attribute. -/
inductive AttrValue where
  | literal (tree : Tree)
  | name (name : Name)
  | node (node : Node)
  | nodes (nodes : List Node)
  | nodeMap (entries : List (String × Node))

/-- A schema under construction, of one kind. Every write makes a new node. -/
inductive Node where
  | mk (kind : Kind) (attributes : List (String × AttrValue))

end

namespace Node

def kind : Node → Kind
  | mk kind _ => kind

def attributes : Node → Fields AttrValue
  | mk _ attributes => attributes

end Node

/-- The key under which a plain tree holds the identifier of a kind whose type name differs. -/
def kindTag : String := "$kind"

/-- The fields that tag the schemas of a kind with its identifier. -/
def Kind.tag (k : Kind) : List (String × Tree) :=
  match k.typeName with
  | some typeName => if typeName = k.id then [] else [(kindTag, .string k.id)]
  | none => []

mutual

/-- The plain tree of a value. -/
def AttrValue.toTree : AttrValue → Tree
  | .literal tree => tree
  | .name name => name.toTree
  | .node node => node.toTree
  | .nodes nodes => .list (Node.toTrees nodes)
  | .nodeMap entries => .map (Node.toFields entries)

/-- The plain tree of a node: its attributes, and the tag of its kind at the end. -/
def Node.toTree : Node → Tree
  | .mk kind attributes => .map (Fields.extend (AttrValue.toFields attributes) kind.tag)

def Node.toTrees : List Node → List Tree
  | [] => []
  | n :: ns => n.toTree :: Node.toTrees ns

def Node.toFields : List (String × Node) → List (String × Tree)
  | [] => []
  | (k, n) :: ns => (k, n.toTree) :: Node.toFields ns

def AttrValue.toFields : List (String × AttrValue) → List (String × Tree)
  | [] => []
  | (k, v) :: vs => (k, v.toTree) :: AttrValue.toFields vs

end

namespace AttrValue

/-- A null literal stands for no value. -/
def isNull : AttrValue → Bool
  | literal .null => true
  | _ => false

def literal? : AttrValue → Option Tree
  | literal tree => some tree
  | _ => none

def node? : AttrValue → Option Node
  | node n => some n
  | _ => none

def string (s : String) : AttrValue := literal (.string s)

end AttrValue

end Schemata
