import Schemata.Node.Basic
import Schemata.Tree.Equality

/-! Structural equality of nodes: kinds, attributes and maps of nodes compare without
regard to the order of keys. -/
namespace Schemata

mutual

def AttrValue.same : AttrValue → AttrValue → Bool
  | .literal a, .literal b => a.same b
  | .name a, .name b => a = b
  | .node a, .node b => a.same b
  | .nodes a, .nodes b => Node.sameList a b
  | .nodeMap a, .nodeMap b => Node.sameEntries a b
  | _, _ => false

def Node.same : Node → Node → Bool
  | .mk k as, .mk l bs => k.same l && AttrValue.sameEntries as bs

def Node.sameList : List Node → List Node → Bool
  | [], [] => true
  | a :: as, b :: bs => a.same b && Node.sameList as bs
  | _, _ => false

def Node.sameEntries : List (String × Node) → List (String × Node) → Bool
  | [], bs => bs.isEmpty
  | (k, a) :: as, bs =>
    match Fields.extract? k bs with
    | some (b, rest) => a.same b && Node.sameEntries as rest
    | none => false

def AttrValue.sameEntries : List (String × AttrValue) → List (String × AttrValue) → Bool
  | [], bs => bs.isEmpty
  | (k, a) :: as, bs =>
    match Fields.extract? k bs with
    | some (b, rest) => a.same b && AttrValue.sameEntries as rest
    | none => false

end

end Schemata
