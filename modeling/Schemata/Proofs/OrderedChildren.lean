import Schemata.Proofs.Atomic
import Schemata.Proofs.EqualNodes

/-! Children as an ordered set: whatever is added to a node, and however often, its children are the
added nodes without repetition, each in the place where it came first. -/
namespace Schemata

namespace Node
variable {c n n' : Node} {cs : List Node}

/-- The members of a list that equal no earlier one and none of those before the list. -/
def firstsAfter : List Node → List Node → List Node
  | _, [] => []
  | before, c :: cs =>
    if before.any fun b => b.same c then firstsAfter (before ++ [c]) cs
    else c :: firstsAfter (before ++ [c]) cs

/-- The members of a list that equal no earlier one. -/
def firsts (cs : List Node) : List Node := firstsAfter [] cs

lemma firstsAfter_append (before cs ds : List Node) :
    firstsAfter before (cs ++ ds) = firstsAfter before cs ++ firstsAfter (before ++ cs) ds := by
  induction cs generalizing before with
  | nil => simp [firstsAfter]
  | cons c cs ih =>
    have hsplit : before ++ c :: cs = before ++ [c] ++ cs := by simp
    rw [List.cons_append, firstsAfter, firstsAfter, ih, hsplit]
    split <;> rfl

lemma firsts_concat (cs : List Node) (c : Node) : firsts (cs ++ [c]) =
    if cs.any fun b => b.same c then firsts cs else firsts cs ++ [c] := by
  rw [firsts, firstsAfter_append, List.nil_append, firstsAfter, firstsAfter]
  split
  · exact List.append_nil _
  · rfl

lemma firsts_sublist (cs : List Node) : (firsts cs).Sublist cs := by
  induction cs using List.reverseRecOn with
  | nil => exact .slnil
  | append_singleton cs c ih =>
    rw [firsts_concat]
    split
    · exact ih.trans (List.sublist_append_left cs [c])
    · exact ih.append (List.Sublist.refl [c])

/-- No member is lost: the first one that equals it stays. -/
lemma exists_mem_firsts (h : c ∈ cs) : ∃ d ∈ firsts cs, d.Alike c := by
  induction cs using List.reverseRecOn generalizing c with
  | nil => cases h
  | append_singleton cs a ih =>
    rw [firsts_concat]
    rcases List.mem_append.mp h with hmem | hlast
    · obtain ⟨d, hd, hdc⟩ := ih hmem
      split
      · exact ⟨d, hd, hdc⟩
      · exact ⟨d, List.mem_append_left _ hd, hdc⟩
    · obtain rfl := List.mem_singleton.mp hlast
      split
      · rename_i hany
        obtain ⟨b, hb, hbc⟩ := List.any_eq_true.mp hany
        obtain ⟨d, hd, hdb⟩ := ih hb
        exact ⟨d, hd, equivalence_alike.trans hdb hbc⟩
      · exact ⟨c, List.mem_append_right _ (List.mem_singleton_self c), same_refl c⟩

/-- To compare with the first members is to compare with all. -/
lemma any_firsts (cs : List Node) (c : Node) :
    ((firsts cs).any fun b => b.same c) = cs.any fun b => b.same c := by
  rw [Bool.eq_iff_iff, List.any_eq_true, List.any_eq_true]
  constructor
  · rintro ⟨b, hb, hbc⟩
    exact ⟨b, (firsts_sublist cs).subset hb, hbc⟩
  · rintro ⟨b, hb, hbc⟩
    obtain ⟨d, hd, hdb⟩ := exists_mem_firsts hb
    exact ⟨d, hd, equivalence_alike.trans hdb hbc⟩

lemma pairwise_firsts (cs : List Node) : (firsts cs).Pairwise fun c d => ¬ c.Alike d := by
  induction cs using List.reverseRecOn with
  | nil => exact .nil
  | append_singleton cs c ih =>
    rw [firsts_concat]
    split
    · exact ih
    · rename_i hany
      refine List.pairwise_append.mpr ⟨ih, List.pairwise_singleton _ c, ?_⟩
      intro b hb d hd hbd
      obtain rfl := List.mem_singleton.mp hd
      exact hany (List.any_eq_true.mpr ⟨b, (firsts_sublist cs).subset hb, hbd⟩)

lemma children_of_attr? (h : n.attr? "children" = some (.nodes cs)) : n.children = cs := by
  rw [attr?] at h
  rw [children, h]

lemma AgreesBut.children_eq {key : String} (h : n.AgreesBut key n') (hkey : key ≠ "children") :
    n'.children = n.children := by
  have hget : n'.attributes.get? "children" = n.attributes.get? "children" := by
    rw [← Fields.get?_erase_of_ne n'.attributes hkey, h.erase_eq,
      Fields.get?_erase_of_ne n.attributes hkey]
  rw [children, children, hget]

lemma Gains.kind_eq (h : n.Gains c n') : n'.kind = n.kind := by
  cases h with
  | present => rfl
  | appended _ hagrees _ => exact hagrees.kind_eq

lemma Gains.children_eq (h : n.Gains c n') : n'.children =
    if n.children.any fun b => b.same c then n.children else n.children ++ [c] := by
  cases h with
  | present hb hbc => rw [if_pos (List.any_eq_true.mpr ⟨_, hb, hbc⟩)]
  | appended hnew _ hattr =>
    rw [if_neg (by simpa using hnew)]
    exact children_of_attr? hattr

/-- What one operation makes of the children: they stay, or gain the node that it returns. -/
inductive Grows (n : Node) : Option Node → Node → Prop where
  | stays {n' : Node} : n'.kind = n.kind → n'.children = n.children → Grows n none n'
  | gains {c n' : Node} : n.Gains c n' → Grows n (some c) n'

lemma Grows.kind_eq {o : Option Node} (h : n.Grows o n') : n'.kind = n.kind := by
  cases h with
  | stays hkind _ => exact hkind
  | gains hgains => exact hgains.kind_eq

lemma Grows.children_eq {o : Option Node} (h : n.Grows o n') (hn : n.children = firsts cs) :
    n'.children = firsts (cs ++ o.toList) := by
  cases h with
  | stays _ hchildren => rw [hchildren, hn, Option.toList_none, List.append_nil]
  | gains hgains => rw [hgains.children_eq, hn, any_firsts, Option.toList_some, firsts_concat]

/-- The node with a child at the end, or as it is where an equal child is there already. -/
def withChild (n c : Node) : Node :=
  if n.children.any fun b => b.same c then n
  else mk n.kind (n.attributes.insert "children" (.nodes (n.children ++ [c])))

/-- Where children are what they are from the start, every node can be added. -/
lemma addChild_eq (hk : n.kind.typeOf? "children" = some .schemas) (c : Node) :
    n.addChild c = .ok (n.withChild c) := by
  have hname : canonicalName "children" = "children" := by decide
  have htype : Fields.get? n.kind.attributes "children" = some .schemas := by
    rw [← hk, Kind.typeOf?, hname]
  have hcheck : n.kind.check "children" (.nodes (n.children ++ [c])) =
      .ok (some (.nodes (n.children ++ [c]))) :=
    Kind.check_eq_ok_iff.mpr ⟨_, htype, .inr ⟨rfl, _, rfl, rfl⟩⟩
  rw [addChild, withChild]
  split
  · rfl
  · rw [update, hname, hcheck]
    rfl

/-- The end of an addition: the node that was to be added, or the failure to come by it. -/
def taking (n : Node) : Except Error Node → Except Error (Option Node) × Node
  | .ok c => (.ok (some c), n.withChild c)
  | .error e => (.error e, n)

end Node

namespace Step
variable {m : Type → Type}

/-- Steps that do not write the children other than by additions. -/
def SparesChildren : Step m → Prop
  | set name _ | setSchema name _ => canonicalName name ≠ "children"
  | invoke operation call =>
    canonicalName operation = "children" → call.value = none ∧ call.describesSchema = false
  | child .. | adopt _ | get _ => True

variable [Monad m]

/-- The operation, with the child that it returns if it adds one. -/
def added : Step m → BuilderT m (Option Node)
  | child kind call => do return some (← Builder.child kind call)
  | adopt c => do
    Builder.adopt c
    return some c
  | invoke operation call => do
    match ← Builder.invoke operation call with
    | .node c => return some c
    | .value _ | .raw _ => return none
  | set name value => do
    Builder.set name value
    return none
  | setSchema name call => do
    Builder.setSchema name call
    return none
  | get name => do
    let _ ← Builder.get name
    return none

/-- The children returned by steps of which each is taken whether or not the one before it failed,
and the node after them. -/
def log (s : Session) : List (Step m) → Node → m (List Node × Node)
  | [], n => return ([], n)
  | step :: steps, n => do
    let (r, n) ← step.added.exec s n
    let (cs, n) ← log s steps n
    return ((r.toOption.bind id).toList ++ cs, n)

/-- The node that a helper of the scope makes, if the scope has the helper and it makes a node. -/
def helped? (s : Session) (operation : String) (args : List AttrValue) : Option Node :=
  match s.scope with
  | none => none
  | some scope =>
    if scope.respondsTo operation then
      match scope.invoke operation args with
      | some (.ok (.node c)) => some c
      | _ => none
    else none

/-- Where a step on a node of some kind takes the child that it adds: the child is built, or it was
handed over, or a helper has made it. Other steps add none. -/
def supply (s : Session) (k : Kind) : Step m → Option (m (Except Error Node))
  | child kind call => some (s.build kind call).run
  | adopt c => some (pure (.ok c))
  | invoke operation call =>
    if (k.typeOf? operation).isSome then none
    else if s.config.kinds.contains operation then some (s.build operation call).run
    else (helped? s operation call.args).map fun c => pure (.ok c)
  | set .. | setSchema .. | get _ => none

variable [LawfulMonad m] {s : Session} {n : Node}

/-- One step adds the child that it returns, and no other. -/
lemma grows_added {step : Step m} (h : step.SparesChildren) :
    Always (Atomic n n.Grows) (step.added.exec s n) := by
  cases step with
  | set name value =>
    apply Atomic.bind (Builder.atomic_set name value)
    intro _ n' hwrites
    exact Atomic.pure (.stays hwrites.kind_eq (hwrites.toAgreesBut.children_eq h))
  | setSchema name call =>
    apply Atomic.bind (Builder.atomic_setSchema name call)
    rintro _ n' ⟨nested, hwrites⟩
    exact Atomic.pure (.stays hwrites.kind_eq (hwrites.toAgreesBut.children_eq h))
  | child kind call =>
    apply Atomic.bind (Builder.atomic_child kind call)
    exact fun c n' hgains => Atomic.pure (.gains hgains)
  | adopt c =>
    apply Atomic.bind (Builder.atomic_adopt c)
    exact fun _ n' hgains => Atomic.pure (.gains hgains)
  | get name =>
    apply Atomic.bind (Builder.atomic_get name)
    rintro _ n' rfl
    exact Atomic.pure (.stays rfl rfl)
  | invoke operation call =>
    apply Atomic.bind (Builder.atomic_invoke operation call)
    rintro _ n' hinvoked
    cases hinvoked with
    | read => exact Atomic.pure (.stays rfl rfl)
    | write hvalue _ hwrites =>
      have hname : canonicalName operation ≠ "children" := by
        intro hname
        rw [(h hname).1] at hvalue
        cases hvalue
      exact Atomic.pure (.stays hwrites.kind_eq (hwrites.toAgreesBut.children_eq hname))
    | writeSchema _ hdescribes hwrites =>
      have hname : canonicalName operation ≠ "children" := by
        intro hname
        rw [(h hname).2] at hdescribes
        cases hdescribes
      exact Atomic.pure (.stays hwrites.kind_eq (hwrites.toAgreesBut.children_eq hname))
    | node hgains => exact Atomic.pure (.gains hgains)
    | raw tree => exact Atomic.pure (.stays rfl rfl)

/-- Along all steps the children stay the first of the nodes that were returned. -/
theorem always_log (s : Session) {steps : List (Step m)} (h : ∀ step ∈ steps, step.SparesChildren)
    {n : Node} {past : List Node} (hn : n.children = Node.firsts past) :
    Always (fun r => r.2.kind = n.kind ∧ r.2.children = Node.firsts (past ++ r.1))
      (log s steps n) := by
  induction steps generalizing n past with
  | nil => exact .pure ⟨rfl, by simpa using hn⟩
  | cons step steps ih =>
    obtain ⟨hstep, hsteps⟩ := List.forall_mem_cons.mp h
    unfold log
    apply (grows_added hstep).bind
    rintro ⟨r, n'⟩ hr
    have hgrows : n.Grows (r.toOption.bind id) n' := by
      cases r with
      | ok o => exact hr
      | error e => exact .stays (congrArg Node.kind hr) (congrArg Node.children hr)
    apply (ih hsteps (hgrows.children_eq hn)).bind
    rintro ⟨cs, n''⟩ ⟨hkind, hchildren⟩
    refine .pure ⟨hkind.trans hgrows.kind_eq, ?_⟩
    rw [← List.append_assoc]
    exact hchildren

omit [LawfulMonad m] in
lemma exec_adopt (hk : n.kind.typeOf? "children" = some .schemas) (c : Node) :
    (Builder.adopt c : BuilderT m Unit).exec s n = pure (.ok (), n.withChild c) := by
  rw [Builder.adopt, Builder.exec_write, Node.addChild_eq hk]

lemma exec_child (hk : n.kind.typeOf? "children" = some .schemas) (kind : String) (call : Call m) :
    (Builder.child kind call).exec s n = (fun r => match r with
      | .ok c => (.ok c, n.withChild c)
      | .error e => (.error e, n)) <$> (s.build kind call).run := by
  simp only [Builder.child, BuilderT.exec_bind, Builder.exec_buildNested, bind_assoc, pure_bind,
    map_eq_pure_bind]
  congr 1
  funext r
  cases r with
  | ok c => simp [exec_adopt hk]
  | error e => rfl

lemma exec_delegate {operation : String} {args : List AttrValue} {c : Node}
    (hk : n.kind.typeOf? "children" = some .schemas) (hc : helped? s operation args = some c) :
    (Builder.delegate operation args : BuilderT m Outcome).exec s n =
      pure (.ok (.node c), n.withChild c) := by
  unfold Builder.delegate
  rw [BuilderT.exec_bind, BuilderT.exec_read, pure_bind]
  unfold helped? at hc
  split at hc
  · cases hc
  · rename_i scope hscope
    split at hc
    · rename_i hname
      split at hc
      · rename_i c' hinvoke
        cases hc
        simp only [hscope, hname, if_true, hinvoke]
        rw [BuilderT.exec_bind, exec_adopt hk, pure_bind]
        rfl
      · cases hc
    · cases hc

/-- An addition returns the node that it was to add, whether or not that was there already. -/
theorem exec_added {step : Step m} {x : m (Except Error Node)}
    (hk : n.kind.typeOf? "children" = some .schemas) (hx : step.supply s n.kind = some x) :
    step.added.exec s n = n.taking <$> x := by
  cases step with
  | child kind call =>
    cases hx
    simp only [added, BuilderT.exec_bind, exec_child hk, map_eq_pure_bind, bind_assoc, pure_bind]
    congr 1
    funext r
    cases r <;> rfl
  | adopt c =>
    cases hx
    simp [added, exec_adopt hk, Node.taking, Except.map]
  | invoke operation call =>
    simp only [supply] at hx
    simp only [added, BuilderT.exec_bind, Builder.exec_invoke]
    split at hx
    · cases hx
    · rename_i hattribute
      rw [if_neg hattribute]
      split at hx
      · rename_i hkind
        cases hx
        rw [if_pos hkind, exec_child hk]
        simp only [map_eq_pure_bind, bind_assoc, pure_bind]
        congr 1
        funext r
        cases r <;> simp [Node.taking]
      · rename_i hkind
        obtain ⟨c, hc, rfl⟩ := Option.map_eq_some_iff.mp hx
        simp [if_neg hkind, exec_delegate hk hc, Node.taking]
  | set name value => cases hx
  | setSchema name call => cases hx
  | get name => cases hx

/-- From no children on, steps leave a node with the nodes that they returned as children, each of
them once and where it was returned first; every addition returns the node that it was to add. -/
theorem children_of_steps (s : Session) {n : Node}
    (hk : n.kind.typeOf? "children" = some .schemas) (hempty : n.children = [])
    {steps : List (Step m)} (hsteps : ∀ step ∈ steps, step.SparesChildren) :
    (∀ (step : Step m) x n', n'.kind = n.kind → step.supply s n.kind = some x →
      step.added.exec s n' = n'.taking <$> x) ∧
    Always (fun r => r.2.kind = n.kind ∧ r.2.children = Node.firsts r.1 ∧
      (r.2.children.Pairwise fun c d => ¬ c.Alike d) ∧ r.2.children.Sublist r.1 ∧
      ∀ c ∈ r.1, ∃ d ∈ r.2.children, d.Alike c) (log s steps n) := by
  constructor
  · intro step x n' hkind hx
    rw [← hkind] at hk hx
    exact exec_added hk hx
  · have hfirsts : n.children = Node.firsts [] := hempty
    apply (always_log s hsteps hfirsts).imp
    rintro ⟨cs, n'⟩ ⟨hkind, hchildren⟩
    refine ⟨hkind, hchildren, ?_⟩
    dsimp only at hchildren ⊢
    rw [hchildren, List.nil_append]
    exact ⟨Node.pairwise_firsts cs, Node.firsts_sublist cs, fun _ => Node.exists_mem_firsts⟩

/-- A scope whose helper makes a flag. -/
def flagging : Session where
  scope := some (HelperScope.empty.add "flag" fun _ =>
    .ok (.node (.mk Kind.boolean [("kind", .string "boolean")]))).toScope

/-- Five additions by all routes, of two nodes; a step that fails and a write are among them. -/
def flags : List (Step Id) := [.child "boolean" {}, .set "title" (.string "flags"),
  .child "ghost" {}, .invoke "null" { name := some (.plain "none") }, .invoke "flag" {},
  .adopt (.mk Kind.null [("kind", .string "null"), ("name", .name (.plain "none"))]),
  .invoke "children" {}, .child "boolean" {}]

theorem children_of_steps_flags : ∃ cs n',
    (log flagging flags (.mk Kind.object [])).run = (cs, n') ∧
      cs.length = 5 ∧ n'.children.length = 2 ∧ n'.children = Node.firsts cs := by
  have hspares : ∀ step ∈ flags, step.SparesChildren := by
    have htitle : canonicalName "title" ≠ "children" := by decide
    simp [flags, SparesChildren, Call.describesSchema, htitle]
  obtain ⟨-, hlog⟩ := children_of_steps (m := Id) flagging (n := .mk Kind.object []) rfl rfl hspares
  obtain ⟨-, hchildren, -⟩ := hlog.of_id
  refine ⟨_, _, rfl, ?_, ?_, hchildren⟩
  · decide +kernel
  · decide +kernel

end Step

end Schemata
