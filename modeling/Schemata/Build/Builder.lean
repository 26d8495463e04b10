import Schemata.Build.Call

/-! Operations on a node under construction: its attributes are written and children added. -/
namespace Schemata

namespace Builder
variable {m : Type → Type} [Monad m]

/-- The node as built so far. -/
def node : BuilderT m Node := fun _ => ExceptT.mk fun n => pure (.ok n, n)

/-- Replaces the node by the result of a write, or fails and keeps it. -/
def write (f : Node → Except Error Node) : BuilderT m Unit := fun _ => ExceptT.mk fun n =>
  pure (match f n with
    | .ok n' => (.ok (), n')
    | .error e => (.error e, n))

def fail {α : Type} (e : Error) : BuilderT m α := fun _ => ExceptT.mk fun n => pure (.error e, n)

/-- Builds another node in the session of this one; the node under construction stays. -/
def buildNested (kind : String) (call : Call m) : BuilderT m Node := fun s => ExceptT.mk fun n => do
  let r ← (s.build kind call).run
  return (r, n)

@[simp] theorem exec_node (s : Session) (n : Node) :
    (node : BuilderT m Node).exec s n = pure (.ok n, n) := rfl

@[simp] theorem exec_write (f : Node → Except Error Node) (s : Session) (n : Node) :
    (write f : BuilderT m Unit).exec s n = pure (match f n with
      | .ok n' => (.ok (), n')
      | .error e => (.error e, n)) := rfl

@[simp] theorem exec_fail {α : Type} (e : Error) (s : Session) (n : Node) :
    (fail e : BuilderT m α).exec s n = pure (.error e, n) := rfl

@[simp] theorem exec_buildNested (kind : String) (call : Call m) (s : Session) (n : Node) :
    (buildNested kind call).exec s n = do return (← (s.build kind call).run, n) := rfl

/-- Fails unless the kind of the node declares the attribute. -/
def requireDeclared (name : String) : BuilderT m Unit := do
  let n ← node
  if (n.kind.typeOf? name).isNone then fail (.unknownAttribute n.kind.id (canonicalName name))

@[simp] theorem exec_requireDeclared [LawfulMonad m] (name : String) (s : Session) (n : Node) :
    (requireDeclared name : BuilderT m Unit).exec s n =
      pure (if (n.kind.typeOf? name).isSome then .ok ()
        else .error (.unknownAttribute n.kind.id (canonicalName name)), n) := by
  cases h : n.kind.typeOf? name <;> simp [requireDeclared, h]

/-- The value of a declared attribute. -/
def get (name : String) : BuilderT m (Option AttrValue) := do
  requireDeclared name
  let n ← node
  return n.get? name

def set (name : String) (value : AttrValue) : BuilderT m Unit := write fun n => n.update name value

/-- The kind of a nested schema that a call does not give one. -/
def nestedKind : String := "object"

/-- Writes an attribute whose value is a new node, described by the call. -/
def setSchema (name : String) (call : Call m) : BuilderT m Unit := do
  requireDeclared name
  let nested ← buildNested (call.kind.getD nestedKind) call
  set name (.node nested)

/-- Adds a node to the children, unless an equal one is there already. -/
def adopt (child : Node) : BuilderT m Unit := write fun n => n.addChild child

/-- Builds a node and adds it to the children. -/
def child (kind : String) (call : Call m) : BuilderT m Node := do
  let c ← buildNested kind call
  adopt c
  return c

/-- Renders the node as built so far. -/
def render : BuilderT m Tree := fun s => ExceptT.mk fun n => pure (s.renderNode n, n)

end Builder

end Schemata
