import Schemata.Config

/-! Calls, and the nodes that they build. -/
namespace Schemata

/-- Operations on the node under construction, in a host with effects `m`. A failed operation
leaves the node as it is, so that a block may go on after it. -/
abbrev BuilderT (m : Type → Type) := ReaderT Session (ExceptT Error (StateT Node m))

/-- Operations on the node under construction, without other effects. -/
abbrev BuilderM := BuilderT Id

namespace BuilderT
variable {m : Type → Type} [Monad m] {α β : Type}

/-- Runs operations on a node: what they yield, and the node after them. -/
def exec (x : BuilderT m α) (s : Session) (n : Node) : m (Except Error α × Node) := (x s).run.run n

@[simp] theorem exec_pure (a : α) (s : Session) (n : Node) :
    exec (pure a : BuilderT m α) s n = pure (.ok a, n) := rfl

@[simp] theorem exec_read (s : Session) (n : Node) :
    exec (read : BuilderT m Session) s n = pure (.ok s, n) := rfl

/-- A failure ends the operations, at the node that they have come to. -/
@[simp] theorem exec_bind [LawfulMonad m] (x : BuilderT m α) (f : α → BuilderT m β) (s : Session)
    (n : Node) : exec (x >>= f) s n = exec x s n >>= fun r =>
      match r.1 with
      | .ok a => exec (f a) s r.2
      | .error e => pure (.error e, r.2) := by
  show ((x s).run.run n >>= fun r => (ExceptT.bindCont (fun a => f a s) r.1).run r.2) = _
  congr 1; funext r
  rcases r with ⟨_ | _, n⟩ <;> rfl

@[simp] theorem exec_map [LawfulMonad m] (f : α → β) (x : BuilderT m α) (s : Session) (n : Node) :
    exec (f <$> x) s n = (fun r => (r.1.map f, r.2)) <$> exec x s n := by
  rw [map_eq_pure_bind, map_eq_pure_bind, exec_bind]
  congr 1; funext r
  rcases r with ⟨_ | _, n⟩ <;> rfl

end BuilderT

/-- The arguments of an operation. -/
structure Call (m : Type → Type) where
  name : Option Name := none
  attributes : List (String × AttrValue) := []
  block : Option (BuilderT m Unit) := none
  value : Option AttrValue := none
  kind : Option String := none
  args : List AttrValue := []

namespace Call
variable {m : Type → Type}

/-- Attributes, a block and a kind all describe a nested schema. -/
def describesSchema (c : Call m) : Bool :=
  c.block.isSome || c.kind.isSome || !c.attributes.isEmpty

/-- The kind that the last attribute entry for `kind` names, if its value is text. -/
def explicitKind? (c : Call m) : Option String := do
  let (_, value) ← c.attributes.reverse.find? fun e => canonicalName e.1 = "kind"
  (← value.literal?).string?

end Call

/-- The attribute entries of a new node: its name, the type name of its kind, the defaults of
its kind other than these two, and the attributes of the call. -/
def seed (kinds : Registry) (id : String) (k : Kind) (name : Option Name)
    (attributes : List (String × AttrValue)) : List (String × AttrValue) :=
  (name.map fun n => ("name", .name n)).toList ++
    (k.typeName.map fun t => ("kind", .string t)).toList ++
    (kinds.defaultsFor id).filter (fun e => e.1 ≠ "name" && e.1 ≠ "kind") ++ attributes

namespace Session
variable {m : Type → Type} [Monad m]

/-- The node that a call makes before its block runs. -/
def seedNode (s : Session) (kind : String) (call : Call m) : Except Error Node := do
  let id := call.explicitKind?.getD kind
  let k ← s.config.kinds.require id
  Node.construct k (seed s.config.kinds id k call.name call.attributes)

/-- Builds a node. A `kind` among the attributes of the call goes before the given kind. -/
def build (s : Session) (kind : String) (call : Call m) : ExceptT Error m Node := do
  let n ← liftExcept (s.seedNode kind call)
  match call.block with
  | none => return n
  | some block => ExceptT.mk do
    let (result, n) ← block.exec s n
    return result.map fun _ => n
where
  liftExcept {α : Type} (r : Except Error α) : ExceptT Error m α := ExceptT.mk (pure r)

/-- Builds and renders a node. -/
def render (s : Session) (kind : String) (call : Call m) : ExceptT Error m Tree := do
  let n ← s.build kind call
  ExceptT.mk (pure (s.renderNode n))

/-- Whether schemas of a kind can be built. -/
def respondsTo (s : Session) (kind : String) : Bool := s.config.kinds.contains kind

/-- Whether nodes of a kind have an operation of this name: an attribute, a kind or a helper. -/
def offers (s : Session) (k : Kind) (name : String) : Bool :=
  (k.typeOf? name).isSome || s.config.kinds.contains name || s.scope.any fun c => c.respondsTo name

end Session

end Schemata
