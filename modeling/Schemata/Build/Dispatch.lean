import Schemata.Build.Builder

/-! Operations by name: attributes, kinds and the helpers of a scope. -/
namespace Schemata

/-- What a dispatched operation yields. -/
inductive Outcome where
  /-- The attribute after it was read or written. -/
  | value (value : Option AttrValue)
  /-- A child that was added. -/
  | node (node : Node)
  /-- The result of a helper that is no node. -/
  | raw (tree : Tree)

namespace Builder
variable {m : Type → Type} [Monad m]

/-- Whether `invoke` finds an operation of this name. -/
def respondsTo (name : String) : BuilderT m Bool := do
  let s ← read
  let n ← node
  return s.offers n.kind name

/-- Hands an operation to the scope. A node that it yields becomes a child. -/
def delegate (name : String) (args : List AttrValue) : BuilderT m Outcome := do
  let s ← read
  match s.scope with
  | none => fail (.noSuchOperation name)
  | some scope =>
    if scope.respondsTo name then
      match scope.invoke name args with
      | none => fail (.noSuchOperation name)
      | some (.error e) => fail e
      | some (.ok (.raw tree)) => return .raw tree
      | some (.ok (.node n)) => do
        adopt n
        return .node n
    else fail (.noSuchOperation name)

/-- Reads or writes a declared attribute as the call asks: a value writes it, the description
of a schema writes a new node, and a call with neither reads it. -/
def access (name : String) (call : Call m) : BuilderT m Outcome := do
  match call.value with
  | some value =>
    if call.describesSchema then
      let n ← node
      fail (.invalidAttribute n.kind.id name .valueOrSchema)
    else set name value
  | none => if call.describesSchema then setSchema name call
  let n ← node
  return .value (n.get? name)

/-- Runs an operation by its name: an attribute of the node, else a kind, else a helper. -/
def invoke (operation : String) (call : Call m) : BuilderT m Outcome := do
  let s ← read
  let n ← node
  let name := canonicalName operation
  if (n.kind.typeOf? name).isSome then access name call
  else if s.config.kinds.contains operation then return .node (← child operation call)
  else delegate operation call.args

end Builder

end Schemata
