import Schemata.Proofs.Atomic
import Schemata.Proofs.Seeding

/-! Dispatch by name: an operation is missing exactly if nothing answers to its name, and the scope
is asked last. -/
namespace Schemata

namespace Node
variable {n child : Node} {name : String} {value : AttrValue} {e : Error}

/-- A write fails as a construction does, which is no missing operation. -/
lemma category_of_update (h : n.update name value = .error e) : e.category = .construction := by
  obtain ⟨k, as⟩ := n
  rw [update_mk] at h
  cases hv : k.check (canonicalName name) value with
  | ok v =>
    rw [hv] at h
    cases h
  | error x =>
    rw [hv] at h
    cases h
    exact (Kind.refuses_of_check (e := (name, value)) hv).category_eq

lemma category_of_addChild (h : n.addChild child = .error e) : e.category = .construction := by
  unfold addChild at h
  split at h
  · cases h
  · exact category_of_update h

end Node

lemma Session.category_of_seedNode {m : Type → Type} {s : Session} {kind : String} {call : Call m}
    {e : Error} (h : s.seedNode kind call = .error e) : e.category = .construction := by
  cases hk : s.config.kinds.get? (call.explicitKind?.getD kind) with
  | some k =>
    rw [seedNode_eq s kind call rfl hk] at h
    obtain ⟨_, _, _, _, _, hrefused⟩ := Node.exists_refused_of_construct h
    exact hrefused.category_eq
  | none =>
    simp only [seedNode, Registry.require, hk, bind, Except.bind] at h
    cases h
    rfl

section ScopeFree
variable {m : Type → Type} [Monad m] {α β : Type} {c : Config} {n : Node}
  {p : α → Node → Prop} {q : β → Node → Prop}

/-- Operations that come to the same end in every scope: a result and a node with a property, or
a failure of construction. -/
def ScopeFree (c : Config) (n : Node) (p : α → Node → Prop) (x : BuilderT m α) : Prop :=
  ∃ r n', (∀ scope, x.exec ⟨c, scope⟩ n = pure (r, n')) ∧
    match r with
    | .ok a => p a n'
    | .error e => e.category = .construction

namespace ScopeFree

lemma pure {a : α} (h : p a n) : ScopeFree c n p (Pure.pure a : BuilderT m α) :=
  ⟨.ok a, n, fun _ => rfl, h⟩

lemma fail {e : Error} (h : e.category = .construction) :
    ScopeFree c n p (Builder.fail e : BuilderT m α) :=
  ⟨.error e, n, fun _ => rfl, h⟩

lemma node : ScopeFree c n (fun n₀ n' => n₀ = n ∧ n' = n) (Builder.node : BuilderT m Node) :=
  ⟨.ok n, n, fun _ => rfl, rfl, rfl⟩

lemma write {f : Node → Except Error Node} {p : Unit → Node → Prop}
    (hok : ∀ n', f n = .ok n' → p () n')
    (herror : ∀ e, f n = .error e → e.category = .construction) :
    ScopeFree c n p (Builder.write f : BuilderT m Unit) := by
  cases h : f n with
  | ok n' => exact ⟨.ok (), n', fun _ => by rw [Builder.exec_write, h], hok n' h⟩
  | error e => exact ⟨.error e, n, fun _ => by rw [Builder.exec_write, h], herror e h⟩

lemma of_exec_eq {x y : BuilderT m α} (hx : ScopeFree c n p x)
    (h : ∀ scope, y.exec ⟨c, scope⟩ n = x.exec ⟨c, scope⟩ n) : ScopeFree c n p y := by
  obtain ⟨r, n', hexec, hr⟩ := hx
  exact ⟨r, n', fun scope => (h scope).trans (hexec scope), hr⟩

/-- No missing operation comes to light where the scope is not asked. -/
lemma exists_exec {x : BuilderT m α} (hx : ScopeFree c n p x) :
    ∃ r n', (∀ scope, x.exec ⟨c, scope⟩ n = Pure.pure (r, n')) ∧
      ∀ name, r ≠ .error (.noSuchOperation name) := by
  obtain ⟨r, n', hexec, hr⟩ := hx
  refine ⟨r, n', hexec, ?_⟩
  rintro name rfl
  cases hr

variable [LawfulMonad m]

lemma bind {x : BuilderT m α} {f : α → BuilderT m β} (hx : ScopeFree c n p x)
    (hf : ∀ a n', p a n' → ScopeFree c n' q (f a)) : ScopeFree c n q (x >>= f) := by
  obtain ⟨r, n', hexec, hr⟩ := hx
  cases r with
  | error e => exact ⟨.error e, n', fun scope => by rw [BuilderT.exec_bind, hexec, pure_bind], hr⟩
  | ok a =>
    obtain ⟨r', n'', hexec', hr'⟩ := hf a n' hr
    refine ⟨r', n'', fun scope => ?_, hr'⟩
    rw [BuilderT.exec_bind, hexec, pure_bind]
    exact hexec' scope

lemma requireDeclared (name : String) :
    ScopeFree c n (fun _ n' => n' = n) (Builder.requireDeclared name : BuilderT m Unit) := by
  refine ⟨_, n, fun _ => Builder.exec_requireDeclared name _ n, ?_⟩
  cases h : (n.kind.typeOf? name).isSome <;> rfl

/-- A node that is built without a block owes nothing to the scope. -/
lemma buildNested (kind : String) {call : Call m} (hblock : call.block = none) :
    ScopeFree c n (fun _ n' => n' = n) (Builder.buildNested kind call) := by
  refine ⟨Session.seedNode ⟨c, none⟩ kind call, n, fun scope => ?_, ?_⟩
  · rw [Builder.exec_buildNested, Session.build_of_no_block _ kind hblock, pure_bind]
    rfl
  · cases h : Session.seedNode ⟨c, none⟩ kind call with
    | ok n' => rfl
    | error e => exact Session.category_of_seedNode h

end ScopeFree

end ScopeFree

namespace Builder
variable {m : Type → Type} [Monad m] {c : Config} {n : Node} {call : Call m}

open BuilderT

lemma scopeFree_set (name : String) (value : AttrValue) :
    ScopeFree c n (fun _ _ => True) (set name value : BuilderT m Unit) :=
  .write (fun _ _ => trivial) fun _ h => Node.category_of_update h

lemma scopeFree_adopt (child : Node) :
    ScopeFree c n (fun _ n' => n.Gains child n') (adopt child : BuilderT m Unit) :=
  .write (fun _ h => Node.gains_of_addChild h) fun _ h => Node.category_of_addChild h

variable [LawfulMonad m]

lemma scopeFree_setSchema (name : String) (hblock : call.block = none) :
    ScopeFree c n (fun _ _ => True) (setSchema name call) := by
  apply (ScopeFree.requireDeclared name).bind
  rintro _ n' rfl
  apply (ScopeFree.buildNested _ hblock).bind
  rintro nested n' rfl
  exact scopeFree_set name (.node nested)

lemma scopeFree_child (kind : String) (hblock : call.block = none) :
    ScopeFree c n (fun child n' => n.Gains child n') (child kind call) := by
  apply (ScopeFree.buildNested kind hblock).bind
  rintro child n' rfl
  apply (scopeFree_adopt child).bind
  exact fun _ n'' hgains => .pure hgains

lemma scopeFree_access (name : String) (hblock : call.block = none) :
    ScopeFree c n (fun o n' => o = .value (n'.get? name)) (access name call) := by
  -- whatever was done to the attribute, it is read in the end
  have hread : ∀ n' : Node, ScopeFree c n' (fun o n'' => o = .value (n''.get? name))
      ((do return Outcome.value ((← node).get? name) : BuilderT m Outcome)) := by
    intro n'
    apply ScopeFree.node.bind
    rintro _ n'' ⟨rfl, rfl⟩
    exact .pure rfl
  unfold access
  split
  · split
    · apply ScopeFree.node.bind
      rintro n₀ n' ⟨rfl, rfl⟩
      exact ScopeFree.bind (p := fun _ _ => False) (.fail rfl) fun _ _ hfalse => hfalse.elim
    · exact (scopeFree_set name _).bind fun _ n' _ => hread n'
  · split
    · exact (scopeFree_setSchema name hblock).bind fun _ n' _ => hread n'
    · exact hread n

lemma exec_respondsTo (operation : String) (s : Session) (n : Node) :
    (respondsTo operation : BuilderT m Bool).exec s n =
      pure (.ok (s.offers n.kind operation), n) := by
  simp [respondsTo, Except.map]

lemma scopeFree_invoke_attribute {operation : String}
    (hattribute : (n.kind.typeOf? operation).isSome = true) (hblock : call.block = none) :
    ScopeFree c n (fun o n' => o = .value (n'.get? operation)) (invoke operation call) := by
  have haccess := scopeFree_access (c := c) (n := n) (canonicalName operation) hblock
  simp only [Node.get?_canonicalName] at haccess
  exact haccess.of_exec_eq fun scope => by rw [exec_invoke, if_pos hattribute]

lemma scopeFree_invoke_kind {operation : String}
    (hattribute : (n.kind.typeOf? operation).isSome = false)
    (hkind : c.kinds.contains operation = true) (hblock : call.block = none) :
    ScopeFree c n (fun o n' => ∃ child, o = .node child ∧ n.Gains child n')
      (invoke operation call) := by
  have hchild : ScopeFree c n (fun o n' => ∃ child, o = .node child ∧ n.Gains child n')
      (child operation call >>= fun child => pure (Outcome.node child)) :=
    (scopeFree_child operation hblock).bind fun child n' hgains => .pure ⟨child, rfl, hgains⟩
  apply hchild.of_exec_eq
  intro scope
  rw [exec_invoke, hattribute, if_neg Bool.false_ne_true, if_pos hkind]

/-- Helpers that never report a missing operation. -/
def Reliable (helpers : Option HelperScope) : Prop :=
  ∀ h, helpers = some h → ∀ name helper, h.helpers.get? name = some helper →
    ∀ args missing, helper args ≠ .error (.noSuchOperation missing)

/-- A result that reports a missing operation exactly if nothing responds to its name, and never
reports another name. -/
structure Foretold (responds : Bool) (name : String) (r : Except Error Outcome) : Prop where
  missing_iff : r = .error (.noSuchOperation name) ↔ responds = false
  name_eq : ∀ missing, r = .error (.noSuchOperation missing) → missing = name

lemma foretold_of_missing (name : String) :
    Foretold false name (.error (.noSuchOperation name)) := by
  refine ⟨by simp, ?_⟩
  rintro _ ⟨⟩
  rfl

lemma foretold_of_ne {name : String} {r : Except Error Outcome}
    (h : ∀ missing, r ≠ .error (.noSuchOperation missing)) : Foretold true name r :=
  ⟨by simp [h], fun missing heq => absurd heq (h missing)⟩

/-- What is left to the scope is missing exactly if the scope does not respond to it. -/
lemma exists_exec_delegate {s : Session} {helpers : Option HelperScope}
    (hscope : s.scope = helpers.map HelperScope.toScope) (hhelpers : Reliable helpers) (n : Node)
    (name : String) (args : List AttrValue) :
    ∃ r n', (delegate name args : BuilderT m Outcome).exec s n = pure (r, n') ∧
      Foretold (s.scope.any fun c => c.respondsTo name) name r := by
  unfold delegate
  rw [exec_bind, exec_read, pure_bind]
  simp only [hscope]
  cases helpers with
  | none => exact ⟨_, n, rfl, foretold_of_missing name⟩
  | some h =>
    have hresponds : h.toScope.respondsTo name = (h.helpers.get? name).isSome := rfl
    have hinvoke : h.toScope.invoke name args =
      (h.helpers.get? name).map fun helper => helper args := rfl
    simp only [Option.map_some, Option.any_some, hresponds, hinvoke]
    cases hget : h.helpers.get? name with
    | none => exact ⟨_, n, rfl, foretold_of_missing name⟩
    | some helper =>
      have hreliable := hhelpers h rfl name helper hget args
      simp only [Option.isSome_some, Option.map_some, if_true]
      cases hresult : helper args with
      | error e =>
        refine ⟨.error e, n, rfl, foretold_of_ne ?_⟩
        rintro missing ⟨⟩
        exact hreliable missing hresult
      | ok v =>
        cases v with
        | raw tree => exact ⟨.ok (.raw tree), n, rfl, foretold_of_ne fun _ h => nomatch h⟩
        | node c =>
          have hadopt : ScopeFree s.config n (fun _ _ => True)
              (adopt c >>= fun _ => pure (.node c) : BuilderT m Outcome) :=
            (scopeFree_adopt c).bind fun _ _ _ => .pure trivial
          obtain ⟨r, n', hexec, hne⟩ := hadopt.exists_exec
          exact ⟨r, n', hexec s.scope, foretold_of_ne hne⟩

/-- An operation is missing exactly if nothing responds to its name, where the helpers are
reliable. What is an attribute of the node, or else a kind, comes to the same end in every scope,
be it one of helpers or not. -/
theorem invoke_foretold (s : Session) (n : Node) (helpers : Option HelperScope)
    (hscope : s.scope = helpers.map HelperScope.toScope) (hhelpers : Reliable helpers)
    (operation : String) (call : Call m) (hblock : call.block = none) :
    (∃ responds r n', (respondsTo operation : BuilderT m Bool).exec s n = pure (.ok responds, n) ∧
      (invoke operation call).exec s n = pure (r, n') ∧ Foretold responds operation r) ∧
    ((n.kind.typeOf? operation).isSome = true →
      ScopeFree s.config n (fun o n' => o = .value (n'.get? operation))
        (invoke operation call)) ∧
    ((n.kind.typeOf? operation).isSome = false → s.config.kinds.contains operation = true →
      ScopeFree s.config n (fun o n' => ∃ child, o = .node child ∧ n.Gains child n')
        (invoke operation call)) := by
  refine ⟨⟨s.offers n.kind operation, ?_⟩, fun hattribute => ?_, fun hattribute hkind => ?_⟩
  · rw [exec_respondsTo, Session.offers]
    cases hattribute : (n.kind.typeOf? operation).isSome with
    | true =>
      obtain ⟨r, n', hexec, hne⟩ :=
        (scopeFree_invoke_attribute (c := s.config) hattribute hblock).exists_exec
      exact ⟨r, n', rfl, hexec s.scope, foretold_of_ne hne⟩
    | false =>
      cases hkind : s.config.kinds.contains operation with
      | true =>
        obtain ⟨r, n', hexec, hne⟩ := (scopeFree_invoke_kind hattribute hkind hblock).exists_exec
        exact ⟨r, n', rfl, hexec s.scope, foretold_of_ne hne⟩
      | false =>
        obtain ⟨r, n', hexec, hforetold⟩ :=
          exists_exec_delegate (m := m) hscope hhelpers n operation call.args
        refine ⟨r, n', rfl, ?_, hforetold⟩
        rw [exec_invoke, hattribute, if_neg Bool.false_ne_true, hkind, if_neg Bool.false_ne_true,
          hexec]
  · exact scopeFree_invoke_attribute hattribute hblock
  · exact scopeFree_invoke_kind hattribute hkind hblock

/-- Helpers two of which bear the names of an attribute and of a kind. -/
def crossing : HelperScope := ⟨[("title", fun _ => .ok (.raw .null)),
  ("email", fun _ => .error (.general "no email")), ("stamp", fun _ => .ok (.raw (.bool true)))]⟩

def crossed : Session := ⟨{ kinds := Registry.builtin.register (Kind.new "email") },
  some crossing.toScope⟩

lemma reliable_crossing : Reliable (some crossing) := by
  rintro h ⟨⟩ name helper hhelper args missing heq
  have hmem := Fields.mem_of_get? hhelper
  simp only [crossing, List.mem_cons, Prod.mk.injEq, List.not_mem_nil, or_false] at hmem
  rcases hmem with ⟨_, rfl⟩ | ⟨_, rfl⟩ | ⟨_, rfl⟩ <;> cases heq

theorem invoke_foretold_crossing : Reliable (some crossing) ∧
    (∃ n', (invoke "stamps" ({} : Call Id)).exec crossed (.mk Kind.object []) =
      pure (.error (.noSuchOperation "stamps"), n')) ∧
    ScopeFree (m := Id) crossed.config (.mk Kind.object [])
      (fun o n' => o = .value (n'.get? "Title")) (invoke "Title" { value := some (.string "t") }) ∧
    ScopeFree (m := Id) crossed.config (.mk Kind.object [])
      (fun o n' => ∃ child, o = .node child ∧ (Node.mk Kind.object []).Gains child n')
      (invoke "email" {}) := by
  have hforetold := fun operation (call : Call Id) (hblock : call.block = none) =>
    invoke_foretold (m := Id) crossed (.mk Kind.object []) (some crossing) rfl reliable_crossing
      operation call hblock
  obtain ⟨⟨responds, r, n', hresponds, hinvoke, hstamps⟩, _⟩ := hforetold "stamps" {} rfl
  have hnone : responds = false := by
    cases hresponds
    rfl
  obtain rfl := hstamps.missing_iff.mpr hnone
  obtain ⟨_, htitle, _⟩ := hforetold "Title" { value := some (.string "t") } rfl
  obtain ⟨_, _, hemail⟩ := hforetold "email" {} rfl
  exact ⟨reliable_crossing, ⟨n', hinvoke⟩, htitle rfl, hemail rfl rfl⟩

end Builder

end Schemata
