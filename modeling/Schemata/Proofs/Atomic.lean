import Schemata.Proofs.ExplicitKind
import Schemata.Proofs.WellTyped

/-! Operations on a node under construction are atomic: one that fails leaves the node as it was,
however deep in its blocks the failure lies, and one that succeeds changes what it names alone. -/
namespace Schemata

namespace Node
variable {n n' child : Node} {name : String} {value : AttrValue}

/-- Nodes of one kind that hold the same attributes in the same order, apart from one key. -/
structure AgreesBut (key : String) (n n' : Node) : Prop where
  kind_eq : n'.kind = n.kind
  erase_eq : n'.attributes.erase key = n.attributes.erase key

/-- An attribute holds what the check of the kind makes of a value, and no other one changes. -/
structure Writes (name : String) (value : AttrValue) (n n' : Node) : Prop
    extends AgreesBut (canonicalName name) n n' where
  check_eq : n.kind.check (canonicalName name) value = .ok (n'.get? name)

/-- A node is a child: it stays as it is where an equal child stands already, and else it takes
the place behind the other children. -/
inductive Gains (n child : Node) : Node → Prop where
  | present {c : Node} : c ∈ n.children → c.same child = true → Gains n child n
  | appended {n' : Node} : (∀ c ∈ n.children, c.same child = false) →
      n.AgreesBut "children" n' → n'.attr? "children" = some (.nodes (n.children ++ [child])) →
      Gains n child n'

lemma writes_of_update (h : n.update name value = .ok n') : n.Writes name value n' := by
  obtain ⟨v, hv, rfl⟩ := update_eq_ok_iff.mp h
  refine ⟨⟨rfl, Fields.erase_assign_self n.attributes _ v⟩, hv.trans ?_⟩
  exact congrArg Except.ok (Fields.get?_assign_self n.attributes _ v).symm

/-- The spelling of a name does not matter to a write. -/
lemma Writes.of_canonicalName (h : n.Writes (canonicalName name) value n') :
    n.Writes name value n' := by
  obtain ⟨hagrees, hcheck⟩ := h
  rw [canonicalName_canonicalName] at hagrees hcheck
  rw [get?_canonicalName] at hcheck
  exact ⟨hagrees, hcheck⟩

lemma gains_of_addChild (h : n.addChild child = .ok n') : n.Gains child n' := by
  unfold addChild at h
  split at h
  · rename_i hany
    cases h
    obtain ⟨c, hc, hsame⟩ := List.any_eq_true.mp hany
    exact .present hc hsame
  · rename_i hany
    have hnew : ∀ c ∈ n.children, c.same child = false := by simpa using hany
    have hchildren : canonicalName "children" = "children" := by decide
    obtain ⟨hagrees, hcheck⟩ := writes_of_update h
    rw [hchildren] at hagrees hcheck
    refine .appended hnew hagrees ?_
    obtain ⟨ty, _, ⟨hnull, _⟩ | ⟨_, w, hw, heq⟩⟩ := Kind.check_eq_ok_iff.mp hcheck
    · cases hnull
    · rw [AttrType.coerce_nodes hw, get?, hchildren] at heq
      exact heq

end Node

section Atomic
variable {α β : Type} {n n₀ : Node} {p : α → Node → Prop} {q : β → Node → Prop}

/-- The end of an operation that began at a node: that node again if it failed, and otherwise a
result and a node with a property. -/
def Atomic (n : Node) (p : α → Node → Prop) : Except Error α × Node → Prop
  | (.ok a, n') => p a n'
  | (.error _, n') => n' = n

variable {m : Type → Type} [Monad m] [LawfulMonad m] {s : Session}

lemma Atomic.pure {a : α} (h : p a n) :
    Always (Atomic n₀ p) ((Pure.pure a : BuilderT m α).exec s n) := by
  rw [BuilderT.exec_pure]
  exact .pure h

/-- What is done after an operation may still fail, as long as the node is where it began. -/
lemma Atomic.bind {x : BuilderT m α} {f : α → BuilderT m β}
    (hx : Always (Atomic n₀ p) (x.exec s n))
    (hf : ∀ a n', p a n' → Always (Atomic n₀ q) ((f a).exec s n')) :
    Always (Atomic n₀ q) ((x >>= f).exec s n) := by
  rw [BuilderT.exec_bind]
  apply hx.bind
  rintro ⟨r, n'⟩ hr
  cases r with
  | ok a => exact hf a n' hr
  | error e => exact .pure hr

lemma Atomic.write {f : Node → Except Error Node} {p : Unit → Node → Prop}
    (hf : ∀ n', f n = .ok n' → p () n') :
    Always (Atomic n p) ((Builder.write f : BuilderT m Unit).exec s n) := by
  rw [Builder.exec_write]
  apply Always.pure
  cases h : f n with
  | ok n' => exact hf n' h
  | error e => rfl

lemma Atomic.fail (e : Error) : Always (Atomic n p) ((Builder.fail e : BuilderT m α).exec s n) := by
  rw [Builder.exec_fail]
  exact .pure rfl

/-- Operations that leave the node as it is whether they fail or not. -/
lemma Atomic.of_keeps {x : BuilderT m α} (hx : x.Keeps fun n' => n' = n) :
    Always (Atomic n fun _ n' => n' = n) (x.exec s n) := by
  apply (hx s n rfl).imp
  rintro ⟨r, n'⟩ hn
  cases r <;> exact hn

end Atomic

namespace Builder
variable {m : Type → Type} [Monad m] [LawfulMonad m] {s : Session} {n : Node}

open BuilderT

lemma atomic_set (name : String) (value : AttrValue) :
    Always (Atomic n fun _ n' => n.Writes name value n')
      ((set name value : BuilderT m Unit).exec s n) :=
  Atomic.write fun _ h => Node.writes_of_update h

lemma atomic_setSchema (name : String) (call : Call m) :
    Always (Atomic n fun _ n' => ∃ nested, n.Writes name (.node nested) n')
      ((setSchema name call).exec s n) := by
  apply Atomic.bind (Atomic.of_keeps (Keeps.requireDeclared name))
  rintro _ n' rfl
  apply Atomic.bind (Atomic.of_keeps (Keeps.buildNested _ call))
  rintro nested n' rfl
  exact Atomic.write fun _ h => ⟨nested, Node.writes_of_update h⟩

lemma atomic_adopt (child : Node) :
    Always (Atomic n fun _ n' => n.Gains child n')
      ((adopt child : BuilderT m Unit).exec s n) :=
  Atomic.write fun _ h => Node.gains_of_addChild h

lemma atomic_child (kind : String) (call : Call m) :
    Always (Atomic n fun c n' => n.Gains c n') ((child kind call).exec s n) := by
  apply Atomic.bind (Atomic.of_keeps (Keeps.buildNested kind call))
  rintro c n' rfl
  apply Atomic.bind (atomic_adopt c)
  intro _ n'' hgains
  exact Atomic.pure hgains

/-- Reading fails or not, and leaves the node alone. -/
lemma atomic_get (name : String) :
    Always (Atomic n fun _ n' => n' = n)
      ((get name : BuilderT m (Option AttrValue)).exec s n) :=
  Atomic.of_keeps <| (Keeps.requireDeclared name).bind fun _ =>
    Keeps.node.bind fun n' => .pure (n'.get? name)

end Builder

/-- What an operation by name comes to: an attribute was read, or written with the value of the
call or with a new node, or a child was added, or a helper handed something back. -/
inductive Invoked {m : Type → Type} (n : Node) (operation : String) (call : Call m) :
    Outcome → Node → Prop where
  | read : call.value = none → call.describesSchema = false →
      Invoked n operation call (.value (n.get? operation)) n
  | write {value : AttrValue} {n' : Node} : call.value = some value →
      call.describesSchema = false → n.Writes operation value n' →
      Invoked n operation call (.value (n'.get? operation)) n'
  | writeSchema {nested n' : Node} : call.value = none → call.describesSchema = true →
      n.Writes operation (.node nested) n' →
      Invoked n operation call (.value (n'.get? operation)) n'
  | node {child n' : Node} : n.Gains child n' → Invoked n operation call (.node child) n'
  | raw (tree : Tree) : Invoked n operation call (.raw tree) n

namespace Builder
variable {m : Type → Type} [Monad m] [LawfulMonad m] {s : Session} {n : Node}

open BuilderT

lemma atomic_delegate (operation : String) (call : Call m) :
    Always (Atomic n (Invoked n operation call))
      ((delegate operation call.args : BuilderT m Outcome).exec s n) := by
  unfold delegate
  apply Atomic.bind (Atomic.of_keeps Keeps.read)
  rintro s' n' rfl
  split
  · exact Atomic.fail _
  · split
    · split
      · exact Atomic.fail _
      · exact Atomic.fail _
      · exact Atomic.pure (.raw _)
      · apply Atomic.bind (atomic_adopt _)
        intro _ n'' hgains
        exact Atomic.pure (.node hgains)
    · exact Atomic.fail _

lemma atomic_access (operation : String) (call : Call m) :
    Always (Atomic n (Invoked n operation call))
      ((access (canonicalName operation) call).exec s n) := by
  -- after a write the attribute is read back, which cannot fail
  have hread : ∀ n' : Node, Invoked n operation call (.value (n'.get? operation)) n' →
      Always (Atomic n (Invoked n operation call))
        ((do return Outcome.value ((← node).get? (canonicalName operation)) :
          BuilderT m Outcome).exec s n') := by
    intro n' hn'
    rw [exec_bind, exec_node, pure_bind]
    simp only [Node.get?_canonicalName]
    exact Atomic.pure hn'
  unfold access
  split
  · rename_i value hvalue
    split
    · apply Atomic.bind (Atomic.of_keeps Keeps.node)
      rintro _ n' rfl
      exact Atomic.bind (Atomic.fail (p := fun _ _ => False) _) fun _ _ hfalse => hfalse.elim
    · rename_i hdescribes
      apply Atomic.bind (atomic_set _ value)
      intro _ n' hwrites
      exact hread n' (.write hvalue (by simpa using hdescribes) hwrites.of_canonicalName)
  · rename_i hvalue
    split
    · rename_i hdescribes
      apply Atomic.bind (atomic_setSchema _ call)
      rintro _ n' ⟨nested, hwrites⟩
      exact hread n' (.writeSchema hvalue hdescribes hwrites.of_canonicalName)
    · rename_i hdescribes
      exact hread n (.read hvalue (by simpa using hdescribes))

/-- Dispatch looks among the attributes, then among the kinds, and in the scope last. -/
lemma exec_invoke (operation : String) (call : Call m) (s : Session) (n : Node) :
    (invoke operation call).exec s n =
      if (n.kind.typeOf? operation).isSome then (access (canonicalName operation) call).exec s n
      else if s.config.kinds.contains operation then
        (child operation call >>= fun c => pure (Outcome.node c)).exec s n
      else (delegate operation call.args).exec s n := by
  unfold invoke
  rw [exec_bind, exec_read, pure_bind]
  simp only
  rw [exec_bind, exec_node, pure_bind]
  simp only [Kind.typeOf?_canonicalName]
  split
  · rfl
  · split <;> rfl

theorem atomic_invoke (operation : String) (call : Call m) :
    Always (Atomic n (Invoked n operation call)) ((invoke operation call).exec s n) := by
  unfold invoke
  apply Atomic.bind (Atomic.of_keeps Keeps.read)
  rintro s' n' rfl
  apply Atomic.bind (Atomic.of_keeps Keeps.node)
  rintro _ n' rfl
  simp only
  split
  · exact atomic_access operation call
  · split
    · apply Atomic.bind (atomic_child operation call)
      intro c n'' hgains
      exact Atomic.pure (.node hgains)
    · exact atomic_delegate operation call

end Builder

namespace Session
variable {m : Type → Type} [Monad m] [LawfulMonad m]

/-- A block that fails makes the building of its node fail. -/
lemma build_of_block_fails (s : Session) (kind : String) {call : Call m} {block : BuilderT m Unit}
    {n : Node} {e : Error} (hblock : call.block = some block) (hn : s.seedNode kind call = .ok n)
    (hfails : Always (fun r => r.1 = .error e) (block.exec s n)) :
    Always (fun r => r = .error e) (s.build kind call).run := by
  have hrun : (s.build kind call).run = do
      let r ← block.exec s n
      return r.1.map fun _ => r.2 := by
    rw [build, build.liftExcept, hn, hblock]
    exact pure_bind (Except.ok n) _
  rw [hrun]
  apply hfails.bind
  rintro ⟨r, n'⟩ rfl
  exact .pure rfl

end Session

namespace Builder
variable {m : Type → Type} [Monad m] [LawfulMonad m] {s : Session} {n : Node} {e : Error}

open BuilderT

/-- A failing first part makes the whole fail, at the node that it has come to. -/
lemma fails_bind {α β : Type} {x : BuilderT m α} {f : α → BuilderT m β}
    (hx : Always (fun r => r = (.error e, n)) (x.exec s n)) :
    Always (fun r => r = (.error e, n)) ((x >>= f).exec s n) := by
  rw [exec_bind]
  apply hx.bind
  rintro _ rfl
  exact .pure rfl

lemma fails_buildNested {kind : String} {call : Call m}
    (h : Always (fun r => r = .error e) (s.build kind call).run) :
    Always (fun r => r = (.error e, n)) ((buildNested kind call).exec s n) := by
  rw [exec_buildNested]
  apply h.bind
  rintro _ rfl
  exact .pure rfl

end Builder

namespace Step
variable {m : Type → Type}

/-- The kind and the call of the node that a step builds, if it gets to build one. -/
def builds? (s : Session) (n : Node) : Step m → Option (String × Call m)
  | set .. | adopt _ | get _ => none
  | setSchema name call =>
    if (n.kind.typeOf? name).isSome then some (call.kind.getD Builder.nestedKind, call) else none
  | child kind call => some (kind, call)
  | invoke operation call =>
    if (n.kind.typeOf? operation).isSome then
      if call.value.isNone && call.describesSchema then
        some (call.kind.getD Builder.nestedKind, call)
      else none
    else if s.config.kinds.contains operation then some (operation, call) else none

variable [Monad m] [LawfulMonad m] {s : Session} {n : Node} {e : Error}

open Builder

lemma fails_setSchema {name : String} {call : Call m} (hname : (n.kind.typeOf? name).isSome = true)
    (h : Always (fun r => r = .error e) (s.build (call.kind.getD nestedKind) call).run) :
    Always (fun r => r = (.error e, n)) ((Builder.setSchema name call).exec s n) := by
  unfold Builder.setSchema
  rw [BuilderT.exec_bind, exec_requireDeclared, if_pos hname, pure_bind]
  exact fails_bind (fails_buildNested h)

lemma fails_access {name : String} {call : Call m} (hname : (n.kind.typeOf? name).isSome = true)
    (hvalue : call.value = none) (hdescribes : call.describesSchema = true)
    (h : Always (fun r => r = .error e) (s.build (call.kind.getD nestedKind) call).run) :
    Always (fun r => r = (.error e, n)) ((Builder.access name call).exec s n) := by
  unfold Builder.access
  simp only [hvalue, hdescribes, if_true]
  exact fails_bind (fails_setSchema hname h)

/-- A step whose node cannot be built fails, and the node that it was taken on stays. -/
lemma fails_run {step : Step m} {kind : String} {call : Call m}
    (hbuilds : step.builds? s n = some (kind, call))
    (h : Always (fun r => r = .error e) (s.build kind call).run) :
    Always (fun r => r = (.error e, n)) (step.run.exec s n) := by
  cases step with
  | set name value => cases hbuilds
  | adopt c => cases hbuilds
  | get name => cases hbuilds
  | setSchema name call' =>
    simp only [builds?] at hbuilds
    split at hbuilds
    · rename_i hname
      cases hbuilds
      exact fails_setSchema hname h
    · cases hbuilds
  | child kind' call' =>
    cases hbuilds
    exact fails_bind (fails_bind (fails_buildNested h))
  | invoke operation call' =>
    apply fails_bind
    rw [exec_invoke]
    simp only [builds?] at hbuilds
    split at hbuilds
    · rename_i hname
      split at hbuilds
      · rename_i hcall
        rw [Bool.and_eq_true, Option.isNone_iff_eq_none] at hcall
        cases hbuilds
        rw [if_pos hname]
        rw [← Kind.typeOf?_canonicalName] at hname
        exact fails_access hname hcall.1 hcall.2 h
      · cases hbuilds
    · rename_i hname
      split at hbuilds
      · rename_i hcontains
        cases hbuilds
        rw [if_neg hname, if_pos hcontains]
        exact fails_bind (fails_bind (fails_buildNested h))
      · cases hbuilds

end Step

namespace Builder
variable {m : Type → Type} [Monad m]

/-- A block fails: at once, or after operations that succeed, or since a step of it builds a node
whose own block fails. -/
inductive FailsInside (s : Session) (e : Error) : BuilderT m Unit → Node → Prop where
  | here {block : BuilderT m Unit} {n : Node} :
      Always (fun r => r.1 = .error e) (block.exec s n) → FailsInside s e block n
  | later {α : Type} {x : BuilderT m α} {a : α} {rest : α → BuilderT m Unit} {n n' : Node} :
      Always (fun r => r = (.ok a, n')) (x.exec s n) → FailsInside s e (rest a) n' →
      FailsInside s e (x >>= rest) n
  | nested {step : Step m} {kind : String} {call : Call m} {block : BuilderT m Unit}
      {rest : Unit → BuilderT m Unit} {n n₀ : Node} :
      step.builds? s n = some (kind, call) → call.block = some block →
      s.seedNode kind call = .ok n₀ → FailsInside s e block n₀ →
      FailsInside s e (step.run >>= rest) n

variable [LawfulMonad m] {s : Session} {n : Node} {e : Error}

open BuilderT

lemma FailsInside.fails {block : BuilderT m Unit} (h : FailsInside s e block n) :
    Always (fun r => r.1 = .error e) (block.exec s n) := by
  induction h with
  | here hfails => exact hfails
  | later hx _ ih =>
    rw [exec_bind]
    apply hx.bind
    rintro _ rfl
    exact ih
  | nested hbuilds hblock hseed _ ih =>
    have hbuild := Session.build_of_block_fails s _ hblock hseed ih
    apply (fails_bind (Step.fails_run hbuilds hbuild)).imp
    rintro _ rfl
    rfl

/-- An operation that fails leaves the node as it was, and one that succeeds changes the attribute
that it writes, or the children by the node that it yields, and nothing else. Where the block of
a node that it builds fails, however deep inside, it fails with that error. -/
theorem operations_atomic (s : Session) (n : Node) :
    (∀ name value, Always (Atomic n fun _ n' => n.Writes name value n')
      ((set name value : BuilderT m Unit).exec s n)) ∧
    (∀ name (call : Call m), Always (Atomic n fun _ n' => ∃ nested, n.Writes name (.node nested) n')
      ((setSchema name call).exec s n)) ∧
    (∀ kind (call : Call m), Always (Atomic n fun c n' => n.Gains c n')
      ((child kind call).exec s n)) ∧
    (∀ c, Always (Atomic n fun _ n' => n.Gains c n') ((adopt c : BuilderT m Unit).exec s n)) ∧
    (∀ name, Always (Atomic n fun _ n' => n' = n)
      ((get name : BuilderT m (Option AttrValue)).exec s n)) ∧
    (∀ operation (call : Call m), Always (Atomic n (Invoked n operation call))
      ((invoke operation call).exec s n)) ∧
    ∀ (step : Step m) kind (call : Call m) block n₀ e, step.builds? s n = some (kind, call) →
      call.block = some block → s.seedNode kind call = .ok n₀ → FailsInside s e block n₀ →
      Always (fun r => r = (.error e, n)) (step.run.exec s n) := by
  refine ⟨atomic_set, atomic_setSchema, atomic_child, atomic_adopt, atomic_get, atomic_invoke, ?_⟩
  intro step kind call block n₀ e hbuilds hblock hseed hfails
  exact Step.fails_run hbuilds (Session.build_of_block_fails s kind hblock hseed hfails.fails)

/-- A block that excludes a schema, in whose own block a name is misspelled. -/
def misspelled : BuilderM Unit := do
  set "title" (.string "flag")
  (Step.invoke "not" { kind := some "null", block := some (set "titel" (.string "none")) }).run
  set "description" (.string "a flag")

theorem operations_atomic_misspelled :
    ((Step.child "boolean" { block := some misspelled }).run.exec {}
      (.mk Kind.object [("title", .string "outer")])).run =
    (.error (.unknownAttribute "null" "titel"), .mk Kind.object [("title", .string "outer")]) := by
  obtain ⟨-, -, -, -, -, -, hnested⟩ :=
    operations_atomic (m := Id) {} (.mk Kind.object [("title", .string "outer")])
  have hinner : FailsInside (m := Id) {} (.unknownAttribute "null" "titel")
      (set "titel" (.string "none")) (.mk Kind.null [("kind", .string "null")]) :=
    .here (.pure rfl)
  have hblock : FailsInside {} (.unknownAttribute "null" "titel") misspelled
      (.mk Kind.boolean [("kind", .string "boolean")]) :=
    .later (.pure rfl) (.nested rfl rfl rfl hinner)
  exact (hnested _ _ _ _ _ _ rfl rfl rfl hblock).of_id

end Builder

end Schemata
