import Schemata.Build.Dispatch
import Schemata.Proofs.Builtin

/-! Nodes under construction: whatever operations do to one, and wherever they fail, its values
stay of the types that its kind declares. -/
namespace Schemata

section Yields
variable {m : Type → Type} [Monad m] {α β : Type} {p q : α → Prop}

/-- A computation that yields nothing but values with a property. -/
def Always (p : α → Prop) (x : m α) : Prop := ∃ y : m {a // p a}, Subtype.val <$> y = x

namespace Always
variable [LawfulMonad m]

lemma pure {a : α} (h : p a) : Always p (pure a : m α) := ⟨Pure.pure ⟨a, h⟩, by simp⟩

lemma trivial (x : m α) : Always (fun _ => True) x :=
  ⟨(fun a => ⟨a, True.intro⟩) <$> x, by simp⟩

lemma bind {x : m α} {f : α → m β} {r : β → Prop} (hx : Always p x)
    (hf : ∀ a, p a → Always r (f a)) : Always r (x >>= f) := by
  obtain ⟨y, rfl⟩ := hx
  choose g hg using hf
  refine ⟨y >>= fun a => g a.1 a.2, ?_⟩
  simp [hg]

lemma map {x : m α} {f : α → β} {r : β → Prop} (hx : Always p x) (hf : ∀ a, p a → r (f a)) :
    Always r (f <$> x) := by
  rw [map_eq_pure_bind]
  exact hx.bind fun a ha => pure (hf a ha)

lemma imp {x : m α} (hx : Always p x) (h : ∀ a, p a → q a) : Always q x := by
  simpa using hx.map (f := id) h

lemma of_id {x : Id α} (h : Always p x) : p x.run := by
  obtain ⟨y, rfl⟩ := h
  exact y.run.2

end Always

end Yields

namespace BuilderT
variable {m : Type → Type} [Monad m] {α β : Type}

/-- Operations that leave the node with a property that it has, also where they fail. -/
def Keeps (p : Node → Prop) (x : BuilderT m α) : Prop :=
  ∀ s n, p n → Always (fun r => p r.2) (x.exec s n)

namespace Keeps
variable [LawfulMonad m] {p : Node → Prop}

lemma pure (a : α) : Keeps p (pure a : BuilderT m α) := by
  intro s n hn
  rw [exec_pure]
  exact .pure hn

lemma bind {x : BuilderT m α} {f : α → BuilderT m β} (hx : Keeps p x) (hf : ∀ a, Keeps p (f a)) :
    Keeps p (x >>= f) := by
  intro s n hn
  rw [exec_bind]
  apply (hx s n hn).bind
  rintro ⟨r, n'⟩ hn'
  cases r with
  | ok a => exact hf a s n' hn'
  | error e => exact .pure hn'

lemma read : Keeps p (read : BuilderT m Session) := by
  intro s n hn
  rw [exec_read]
  exact .pure hn

lemma node : Keeps p (Builder.node : BuilderT m Node) := by
  intro s n hn
  rw [Builder.exec_node]
  exact .pure hn

lemma fail (e : Error) : Keeps p (Builder.fail e : BuilderT m α) := by
  intro s n hn
  rw [Builder.exec_fail]
  exact .pure hn

lemma write {f : Node → Except Error Node} (hf : ∀ n n', p n → f n = .ok n' → p n') :
    Keeps p (Builder.write f : BuilderT m Unit) := by
  intro s n hn
  rw [Builder.exec_write]
  apply Always.pure
  cases h : f n with
  | ok n' => exact hf n n' hn h
  | error e => exact hn

/-- Another node is built beside the one under construction. -/
lemma buildNested (kind : String) (call : Call m) : Keeps p (Builder.buildNested kind call) := by
  intro s n hn
  rw [Builder.exec_buildNested]
  exact (Always.trivial _).bind fun _ _ => .pure hn

lemma requireDeclared (name : String) :
    Keeps p (Builder.requireDeclared name : BuilderT m Unit) := by
  intro s n hn
  rw [Builder.exec_requireDeclared]
  exact .pure hn

end Keeps

end BuilderT

namespace Node

/-- A node of a kind every value of which has passed the check of that kind. -/
structure Follows (k : Kind) (n : Node) : Prop extends n.Wellformed where
  kind_eq : n.kind = k

variable {k : Kind} {n n' : Node}

lemma kind_of_update {name : String} {value : AttrValue} (h : n.update name value = .ok n') :
    n'.kind = n.kind := by
  obtain ⟨v, _, rfl⟩ := update_eq_ok_iff.mp h
  rfl

lemma Follows.update (h : n.Follows k) {name : String} {value : AttrValue}
    (hm : n.update name value = .ok n') : n'.Follows k :=
  ⟨h.toWellformed.update hm, (kind_of_update hm).trans h.kind_eq⟩

lemma Follows.addChild (h : n.Follows k) {child : Node} (hm : n.addChild child = .ok n') :
    n'.Follows k := by
  unfold Node.addChild at hm
  split at hm
  · cases hm
    exact h
  · exact h.update hm

end Node

namespace Builder
variable {m : Type → Type} [Monad m] [LawfulMonad m] {k : Kind}

open BuilderT

lemma keeps_set (name : String) (value : AttrValue) :
    Keeps (Node.Follows k) (set name value : BuilderT m Unit) :=
  .write fun _ _ hn h => hn.update h

lemma keeps_adopt (child : Node) : Keeps (Node.Follows k) (adopt child : BuilderT m Unit) :=
  .write fun _ _ hn h => hn.addChild h

lemma keeps_setSchema (name : String) (call : Call m) :
    Keeps (Node.Follows k) (setSchema name call) :=
  (Keeps.requireDeclared name).bind fun _ =>
    (Keeps.buildNested _ call).bind fun nested => keeps_set name (.node nested)

lemma keeps_child (kind : String) (call : Call m) : Keeps (Node.Follows k) (child kind call) :=
  (Keeps.buildNested kind call).bind fun c => (keeps_adopt c).bind fun _ => .pure c

lemma keeps_get (name : String) :
    Keeps (Node.Follows k) (get name : BuilderT m (Option AttrValue)) :=
  (Keeps.requireDeclared name).bind fun _ => Keeps.node.bind fun n => .pure (n.get? name)

lemma keeps_delegate (name : String) (args : List AttrValue) :
    Keeps (Node.Follows k) (delegate name args : BuilderT m Outcome) := by
  unfold delegate
  apply Keeps.read.bind
  intro s
  split
  · exact .fail _
  · split
    · split
      · exact .fail _
      · exact .fail _
      · exact .pure _
      · exact (keeps_adopt _).bind fun _ => .pure _
    · exact .fail _

lemma keeps_access (name : String) (call : Call m) :
    Keeps (Node.Follows k) (access name call) := by
  have hread : Keeps (Node.Follows k)
      (do return Outcome.value ((← node).get? name) : BuilderT m Outcome) :=
    Keeps.node.bind fun n => .pure _
  unfold access
  split
  · split
    · exact Keeps.node.bind fun n => (Keeps.fail _).bind fun _ => hread
    · exact (keeps_set name _).bind fun _ => hread
  · split
    · exact (keeps_setSchema name call).bind fun _ => hread
    · exact hread

lemma keeps_invoke (operation : String) (call : Call m) :
    Keeps (Node.Follows k) (invoke operation call) := by
  unfold invoke
  apply Keeps.read.bind
  intro s
  apply Keeps.node.bind
  intro n
  simp only
  split
  · exact keeps_access _ call
  · split
    · exact (keeps_child operation call).bind fun _ => .pure _
    · exact keeps_delegate operation call.args

end Builder

/-- One operation on a node under construction. -/
inductive Step (m : Type → Type) where
  | set (name : String) (value : AttrValue)
  | setSchema (name : String) (call : Call m)
  | child (kind : String) (call : Call m)
  | adopt (child : Node)
  | get (name : String)
  | invoke (operation : String) (call : Call m)

namespace Step
variable {m : Type → Type} [Monad m]

/-- The operation, without what it yields. -/
def run : Step m → BuilderT m Unit
  | set name value => Builder.set name value
  | setSchema name call => Builder.setSchema name call
  | child kind call => do let _ ← Builder.child kind call
  | adopt c => Builder.adopt c
  | get name => do let _ ← Builder.get name
  | invoke operation call => do let _ ← Builder.invoke operation call

/-- The node after steps of which each is taken whether or not the one before it failed. -/
def after (s : Session) (steps : List (Step m)) (n : Node) : m Node :=
  steps.foldlM (fun n step => Prod.snd <$> step.run.exec s n) n

variable [LawfulMonad m] {k : Kind}

/-- No step takes a node away from its kind. -/
theorem keeps_run (step : Step m) : step.run.Keeps (Node.Follows k) := by
  cases step with
  | set name value => exact Builder.keeps_set name value
  | setSchema name call => exact Builder.keeps_setSchema name call
  | child kind call => exact (Builder.keeps_child kind call).bind fun _ => .pure ()
  | adopt c => exact Builder.keeps_adopt c
  | get name => exact (Builder.keeps_get name).bind fun _ => .pure ()
  | invoke operation call => exact (Builder.keeps_invoke operation call).bind fun _ => .pure ()

theorem always_after (s : Session) (steps : List (Step m)) {n : Node} (h : n.Follows k) :
    Always (Node.Follows k) (after s steps n) := by
  unfold after
  induction steps generalizing n with
  | nil => exact .pure h
  | cons step steps ih =>
    rw [List.foldlM_cons]
    exact ((keeps_run step s n h).map fun _ hr => hr).bind fun _ hn => ih hn

end Step

namespace Node

/-- Each attribute of a node stands once and is declared by its kind, and its value is not null
and is what the coercion to the declared type makes of it. -/
structure WellTyped (n : Node) : Prop where
  nodup : (Fields.keys n.attributes).Nodup
  typed : ∀ key v, (key, v) ∈ n.attributes → v.isNull = false ∧
    ∃ type, Fields.get? n.kind.attributes key = some type ∧ type.coerce v = some v

lemma Wellformed.wellTyped {n : Node} (h : n.Wellformed) : n.WellTyped := by
  refine ⟨h.nodup, fun key v hv => ?_⟩
  obtain ⟨type, htype, hcheck⟩ := Kind.check_eq_ok_iff.mp (h.check_eq (key, v) hv)
  rcases hcheck with ⟨_, hnone⟩ | ⟨hnull, w, hw, heq⟩
  · cases hnone
  · cases heq
    exact ⟨hnull, type, htype, hw⟩

end Node

namespace Session
variable {m : Type → Type}

lemma follows_of_seedNode {s : Session} {kind : String} {call : Call m} {n : Node}
    (h : s.seedNode kind call = .ok n) :
    ∃ k, s.config.kinds.get? (call.explicitKind?.getD kind) = some k ∧ n.Follows k := by
  unfold seedNode Registry.require at h
  cases hk : s.config.kinds.get? (call.explicitKind?.getD kind) with
  | none =>
    simp only [hk] at h
    cases h
  | some k =>
    simp only [hk] at h
    exact ⟨k, rfl, Node.wellformed_construct h, Node.kind_of_construct h⟩

variable [Monad m] [LawfulMonad m]

/-- From the seeded node on, whatever steps are taken and wherever they fail, the node has the
definition that it was made with, and its attributes are typed as that declares. -/
theorem wellTyped_of_steps (s : Session) (kind : String) (call : Call m) {n : Node}
    (h : s.seedNode kind call = .ok n) (steps : List (Step m)) :
    ∃ k, s.config.kinds.get? (call.explicitKind?.getD kind) = some k ∧ n.kind = k ∧
      Always (fun n' => n'.kind = k ∧ n'.WellTyped) (Step.after s steps n) := by
  obtain ⟨k, hk, hn⟩ := follows_of_seedNode h
  refine ⟨k, hk, hn.kind_eq, (Step.always_after s steps hn).imp fun n' hn' => ?_⟩
  exact ⟨hn'.kind_eq, hn'.toWellformed.wellTyped⟩

def mailingKind : Kind := (Kind.new "email").declare "format" .string

/-- A session with one more kind, and a scope with one helper, which makes a node. -/
def mailing : Session where
  config := Config.register {} mailingKind
  scope := some (HelperScope.empty.add "signature" fun _ =>
    .ok (.node (.mk Kind.boolean [("kind", .string "boolean")]))).toScope

/-- Steps of which the second and the fourth fail. -/
def mailingSteps : List (Step Id) :=
  [.set "format" (.literal (.ofInt 5)), .set "sender" (.string "a"), .invoke "signature" {},
    .invoke "greeting" {}, .setSchema "not" { kind := some "null" }, .get "title"]

/-- What the session makes of a call without entries. -/
def mailingNode : Node := .mk mailingKind [("kind", .string "email")]

theorem wellTyped_of_steps_mailing :
    mailing.seedNode (m := Id) "email" {} = .ok mailingNode ∧
    ∃ n, (Step.after mailing mailingSteps mailingNode).run = n ∧ n.kind = mailingKind ∧
      n.WellTyped ∧ n.attr? "format" = some (.string "5") := by
  have hseed : mailing.seedNode (m := Id) "email" {} = .ok mailingNode := rfl
  obtain ⟨k, hk, rfl, hsteps⟩ := wellTyped_of_steps (m := Id) mailing "email" {} hseed mailingSteps
  obtain ⟨hkind, htyped⟩ := hsteps.of_id
  exact ⟨hseed, _, rfl, hkind, htyped, rfl⟩

end Session
end Schemata
