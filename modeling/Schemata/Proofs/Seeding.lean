import Schemata.Proofs.ExplicitKind

/-! New nodes: which entry decides an attribute, and which one a failure is about. -/
namespace Schemata

namespace Kind
variable {k : Kind} {e : String × AttrValue} {name : String} {value : AttrValue}

/-- The attribute of an entry is declared, and its type accepts the value; null is accepted by
every type. -/
def Takes (k : Kind) (e : String × AttrValue) : Prop :=
  ∃ type, k.typeOf? e.1 = some type ∧ (e.2.isNull = true ∨ ∃ w, type.coerce e.2 = some w)

/-- The error that an entry is refused with. -/
inductive Refuses (k : Kind) (e : String × AttrValue) : Error → Prop where
  | undeclared : k.typeOf? e.1 = none → Refuses k e (.unknownAttribute k.id (canonicalName e.1))
  | mistyped {type : AttrType} : k.typeOf? e.1 = some type → e.2.isNull = false →
      type.coerce e.2 = none →
      Refuses k e (.invalidAttribute k.id (canonicalName e.1) (.ofType type))

/-- What a value leaves under an attribute: what the type of the attribute makes of it, and nothing
if it is null. -/
def stored? (k : Kind) (name : String) (value : AttrValue) : Option AttrValue :=
  if value.isNull then none else (k.typeOf? name).bind fun type => type.coerce value

lemma stored?_congr {other : String} (h : canonicalName name = canonicalName other) :
    k.stored? name = k.stored? other := by
  funext value
  simp only [stored?, typeOf?, h]

lemma check_of_takes (h : k.Takes e) :
    k.check (canonicalName e.1) e.2 = .ok (k.stored? e.1 e.2) := by
  obtain ⟨type, htype, hvalue⟩ := h
  refine check_eq_ok_iff.mpr ⟨type, htype, ?_⟩
  cases hn : e.2.isNull with
  | true => exact .inl ⟨rfl, by simp [stored?, hn]⟩
  | false =>
    obtain ⟨w, hw⟩ := hvalue.resolve_left (by simp [hn])
    exact .inr ⟨rfl, w, hw, by simp [stored?, hn, htype, hw]⟩

lemma takes_of_check {r : Option AttrValue} (h : k.check (canonicalName e.1) e.2 = .ok r) :
    k.Takes e := by
  obtain ⟨type, htype, ⟨hn, _⟩ | ⟨_, w, hw, _⟩⟩ := check_eq_ok_iff.mp h
  · exact ⟨type, htype, .inl hn⟩
  · exact ⟨type, htype, .inr ⟨w, hw⟩⟩

lemma refuses_of_check {x : Error} (h : k.check (canonicalName e.1) e.2 = .error x) :
    k.Refuses e x := by
  unfold check at h
  split at h
  · rename_i hnone
    cases h
    exact .undeclared hnone
  · rename_i type htype
    split at h
    · cases h
    · rename_i hnull
      split at h
      · cases h
      · rename_i hcoerce
        cases h
        exact .mistyped htype (by simpa using hnull) hcoerce

lemma check_of_refuses {x : Error} (h : k.Refuses e x) :
    k.check (canonicalName e.1) e.2 = .error x := by
  cases h with
  | undeclared htype =>
    have htype : Fields.get? k.attributes (canonicalName e.1) = none := htype
    simp [check, htype]
  | mistyped htype hnull hcoerce =>
    have htype : Fields.get? k.attributes (canonicalName e.1) = some _ := htype
    simp [check, htype, hnull, hcoerce]

lemma Refuses.category_eq {x : Error} (h : k.Refuses e x) : x.category = .construction := by
  cases h <;> rfl

/-- A value that the kind has let in is stored as it is. -/
lemma stored?_of_check {v : AttrValue} (h : k.check (canonicalName name) value = .ok (some v)) :
    k.stored? name v = some v := by
  have hagain := check_of_check h
  have htakes : k.Takes (name, v) := takes_of_check hagain
  exact Except.ok.inj ((check_of_takes htakes).symm.trans hagain)

end Kind

namespace Registry
variable {k : Kind} {es : List (String × AttrValue)}

lemma checkEntries_of_takes (h : ∀ e ∈ es, k.Takes e) :
    checkEntries k es = .ok (es.map fun e => (canonicalName e.1, k.stored? e.1 e.2)) := by
  induction es with
  | nil => rfl
  | cons e es ih =>
    obtain ⟨he, hes⟩ := List.forall_mem_cons.mp h
    exact checkEntries_cons_eq_ok.mpr ⟨_, _, Kind.check_of_takes he, ih hes, rfl⟩

lemma checkEntries_eq_ok_iff {vs : List (String × Option AttrValue)} :
    checkEntries k es = .ok vs ↔ (∀ e ∈ es, k.Takes e) ∧
      vs = es.map fun e => (canonicalName e.1, k.stored? e.1 e.2) := by
  constructor
  · intro h
    have htakes : ∀ e ∈ es, k.Takes e := by
      intro e he
      obtain ⟨v, hv⟩ := exists_checkEntries_eq_ok_iff.mp ⟨vs, h⟩ e he
      exact Kind.takes_of_check hv
    exact ⟨htakes, Except.ok.inj (h.symm.trans (checkEntries_of_takes htakes))⟩
  · rintro ⟨h, rfl⟩
    exact checkEntries_of_takes h

/-- The first entry that is refused ends the check. -/
lemma exists_refused {x : Error} (h : checkEntries k es = .error x) :
    ∃ before e after, es = before ++ e :: after ∧ (∀ f ∈ before, k.Takes f) ∧ k.Refuses e x := by
  induction es with
  | nil => cases h
  | cons e es ih =>
    simp only [checkEntries, bind, Except.bind, pure, Except.pure] at h
    cases hc : k.check (canonicalName e.1) e.2 with
    | error y =>
      rw [hc] at h
      cases h
      exact ⟨[], e, es, rfl, List.forall_mem_nil _, Kind.refuses_of_check hc⟩
    | ok r =>
      rw [hc] at h
      cases hrest : checkEntries k es with
      | ok vs =>
        rw [hrest] at h
        cases h
      | error y =>
        rw [hrest] at h
        cases h
        obtain ⟨before, f, after, rfl, hbefore, hf⟩ := ih hrest
        refine ⟨e :: before, f, after, rfl, List.forall_mem_cons.mpr ⟨?_, hbefore⟩, hf⟩
        exact Kind.takes_of_check hc

end Registry

/-- The value of the last entry for an attribute, in any spelling of its name. -/
def lastFor (entries : List (String × AttrValue)) (name : String) : Option AttrValue :=
  (entries.reverse.find? fun e => canonicalName e.1 = canonicalName name).map (·.2)

section LastFor
variable {es : List (String × AttrValue)} {name : String}

lemma lastFor_append (es fs : List (String × AttrValue)) (name : String) :
    lastFor (es ++ fs) name = (lastFor fs name).or (lastFor es name) := by
  rw [lastFor, List.reverse_append, List.find?_append, Option.map_or]
  rfl

lemma lastFor_singleton (e : String × AttrValue) (name : String) :
    lastFor [e] name = if canonicalName e.1 = canonicalName name then some e.2 else none := by
  by_cases h : canonicalName e.1 = canonicalName name <;> simp [lastFor, h]

lemma mem_of_lastFor {v : AttrValue} (h : lastFor es name = some v) :
    ∃ e ∈ es, canonicalName e.1 = canonicalName name ∧ e.2 = v := by
  obtain ⟨e, he, rfl⟩ := Option.map_eq_some_iff.mp h
  have hname := List.find?_some he
  exact ⟨e, List.mem_reverse.mp (List.mem_of_find?_eq_some he), by simpa using hname, rfl⟩

lemma lastFor_eq_none_iff :
    lastFor es name = none ↔ ∀ e ∈ es, canonicalName e.1 ≠ canonicalName name := by
  simp [lastFor]

/-- Under canonical names that are distinct the last entry is the only one. -/
lemma lastFor_eq_get? {fs : Fields AttrValue} (hn : fs.keys.Nodup)
    (hc : ∀ e ∈ fs, canonicalName e.1 = e.1) (name : String) :
    lastFor fs name = fs.get? (canonicalName name) := by
  cases hlast : lastFor fs name with
  | none =>
    symm
    rw [Fields.get?_eq_none_iff]
    intro hmem
    obtain ⟨v, hv⟩ := Fields.mem_keys.mp hmem
    exact lastFor_eq_none_iff.mp hlast _ hv (canonicalName_canonicalName name)
  | some v =>
    obtain ⟨e, he, hname, rfl⟩ := mem_of_lastFor hlast
    rw [hc e he] at hname
    exact (Fields.get?_of_mem hn (hname ▸ he)).symm

end LastFor

namespace Kind

/-- What entries leave of attributes, or of defaults, of a kind that takes them. -/
def store (k : Kind) (fs : Fields AttrValue) (entries : List (String × AttrValue)) :
    Fields AttrValue :=
  fs.assignAll (entries.map fun e => (canonicalName e.1, k.stored? e.1 e.2))

lemma store_append (k : Kind) (fs : Fields AttrValue) (p q : List (String × AttrValue)) :
    k.store fs (p ++ q) = k.store (k.store fs p) q := by
  simp only [store, List.map_append, Fields.assignAll_append]

/-- The last entry for a name decides; a name without an entry keeps what it had. -/
lemma get?_store (k : Kind) (fs : Fields AttrValue) (p : List (String × AttrValue))
    (name : String) : (k.store fs p).get? (canonicalName name) =
      match lastFor p name with
      | some value => k.stored? name value
      | none => fs.get? (canonicalName name) := by
  induction p using List.reverseRecOn with
  | nil => rfl
  | append_singleton p e ih =>
    rw [store_append, lastFor_append, lastFor_singleton]
    by_cases h : canonicalName e.1 = canonicalName name
    · rw [if_pos h, Option.some_or, ← h, ← stored?_congr h]
      exact Fields.get?_assign_self _ _ _
    · rw [if_neg h, Option.none_or, ← ih]
      exact Fields.get?_assign_of_ne _ _ h

end Kind

section Seed
variable {m : Type → Type} {r : Registry} {id : String} {k : Kind}

/-- The value that decides an attribute of a new node: that of the last entry of the call for it,
and without one the name of the call, the type name of the kind or the default of the kind. -/
def source? (r : Registry) (id : String) (k : Kind) (call : Call m) (name : String) :
    Option AttrValue :=
  match lastFor call.attributes name with
  | some value => some value
  | none =>
    if canonicalName name = "name" then call.name.map .name
    else if canonicalName name = "kind" then k.typeName.map .string
    else (r.defaultsFor id).get? (canonicalName name)

/-- The kind takes all that a new node is written with: the name and the attributes of a call, its
own type name and its defaults. -/
structure Kind.Admits (k : Kind) (defaults : Fields AttrValue) (call : Call m) : Prop where
  name : ∀ n, call.name = some n → k.Takes ("name", .name n)
  typeName : ∀ t, k.typeName = some t → k.Takes ("kind", .string t)
  defaults : ∀ e ∈ defaults, e.1 ≠ "name" → e.1 ≠ "kind" → k.Takes e
  attributes : ∀ e ∈ call.attributes, k.Takes e

lemma admits_iff (call : Call m) : k.Admits (r.defaultsFor id) call ↔
    ∀ e ∈ seed r id k call.name call.attributes, k.Takes e := by
  simp only [seed, List.mem_append, Option.mem_toList, Option.map_eq_some_iff, List.mem_filter,
    Bool.and_eq_true, decide_eq_true_eq]
  constructor
  · rintro h e (((⟨n, hn, rfl⟩ | ⟨t, ht, rfl⟩) | ⟨he, hname, hkind⟩) | he)
    · exact h.name n hn
    · exact h.typeName t ht
    · exact h.defaults e he hname hkind
    · exact h.attributes e he
  · intro h
    refine ⟨fun n hn => ?_, fun t ht => ?_, fun e he hname hkind => ?_, fun e he => ?_⟩
    · exact h _ (.inl (.inl (.inl ⟨n, hn, rfl⟩)))
    · exact h _ (.inl (.inl (.inr ⟨t, ht, rfl⟩)))
    · exact h e (.inl (.inr ⟨he, hname, hkind⟩))
    · exact h e (.inr he)

lemma lastFor_optional {α : Type} (key : String) (f : α → AttrValue) (o : Option α)
    (name : String) : lastFor (o.map fun a => (key, f a)).toList name =
      if canonicalName key = canonicalName name then o.map f else none := by
  cases o with
  | none => simp [lastFor]
  | some a => exact lastFor_singleton (key, f a) name

lemma lastFor_defaults (hc : r.Canonical) (hd : r.Distinct) (name : String) :
    lastFor ((r.defaultsFor id).filter fun e => e.1 ≠ "name" && e.1 ≠ "kind") name =
      if canonicalName name = "name" ∨ canonicalName name = "kind" then none
      else (r.defaultsFor id).get? (canonicalName name) := by
  have herase : (r.defaultsFor id).filter (fun e => e.1 ≠ "name" && e.1 ≠ "kind") =
      ((r.defaultsFor id).erase "kind").erase "name" := by
    simp [Fields.erase, List.filter_filter]
  have hnodup := Fields.nodup_erase "name" (Fields.nodup_erase "kind" (hd id))
  rw [herase, lastFor_eq_get? hnodup fun e he =>
    hc id e (Fields.mem_of_mem_erase (Fields.mem_of_mem_erase he))]
  by_cases hname : canonicalName name = "name"
  · rw [if_pos (.inl hname), hname, Fields.get?_erase_self]
  · rw [Fields.get?_erase_of_ne _ (Ne.symm hname)]
    by_cases hkind : canonicalName name = "kind"
    · rw [if_pos (.inr hkind), hkind, Fields.get?_erase_self]
    · rw [if_neg (by simp [hname, hkind]), Fields.get?_erase_of_ne _ (Ne.symm hkind)]

/-- Of all entries of a new node the one that decides an attribute is the last one for it. -/
lemma lastFor_seed (hc : r.Canonical) (hd : r.Distinct) (call : Call m) (name : String) :
    lastFor (seed r id k call.name call.attributes) name = source? r id k call name := by
  have hname : canonicalName "name" = "name" := by decide
  have hkind : canonicalName "kind" = "kind" := by decide
  rw [seed, lastFor_append, lastFor_append, lastFor_append, lastFor_optional, lastFor_optional,
    lastFor_defaults hc hd, hname, hkind, source?]
  cases lastFor call.attributes name with
  | some value => rfl
  | none =>
    by_cases h : canonicalName name = "name"
    · simp [h]
    · by_cases h' : canonicalName name = "kind"
      · simp [h']
      · simp [h, h', Ne.symm h, Ne.symm h']

end Seed

namespace Node
variable {k : Kind} {es : List (String × AttrValue)}

lemma exists_construct_iff : (∃ n, construct k es = .ok n) ↔ ∀ e ∈ es, k.Takes e := by
  simp [construct_eq_ok_iff, Registry.checkEntries_eq_ok_iff]

lemma get?_of_construct {n : Node} (h : construct k es = .ok n) (name : String) :
    n.get? name = (lastFor es name).bind (k.stored? name) := by
  obtain ⟨vs, hvs, rfl⟩ := construct_eq_ok_iff.mp h
  obtain ⟨_, rfl⟩ := Registry.checkEntries_eq_ok_iff.mp hvs
  have hstore := k.get?_store [] es name
  refine hstore.trans ?_
  cases lastFor es name <;> rfl

lemma exists_refused_of_construct {x : Error} (h : construct k es = .error x) :
    ∃ before e after, es = before ++ e :: after ∧ (∀ f ∈ before, k.Takes f) ∧ k.Refuses e x := by
  rw [construct_eq] at h
  cases hvs : Registry.checkEntries k es with
  | ok vs =>
    rw [hvs] at h
    cases h
  | error y =>
    rw [hvs] at h
    cases h
    exact Registry.exists_refused hvs

end Node

namespace Session
variable {m : Type → Type}

/-- A call without a block makes a node exactly if the kind takes every entry of it. The last entry
for an attribute decides it, be it of the call or, failing that, of the kind; its type may coerce
the value, but not one that the kind has let in before. A failure is about the first entry that is
refused. -/
theorem build_seeded [Monad m] [LawfulMonad m] (s : Session) (ops : List Config.Op)
    (hreach : s.config.kinds = (Config.run ops).kinds) (id : String) (k : Kind)
    (hk : s.config.kinds.get? id = some k) (call : Call m) (hblock : call.block = none)
    (hkind : ∀ e ∈ call.attributes, canonicalName e.1 ≠ "kind") :
    ∃ r, (s.build id call).run = pure r ∧
      ((∃ n, r = .ok n) ↔ k.Admits (s.config.kinds.defaultsFor id) call) ∧
      (∀ n, r = .ok n → n.kind = k ∧
        (∀ name, n.get? name = (source? s.config.kinds id k call name).bind (k.stored? name)) ∧
        ∀ name value v, source? s.config.kinds id k call name = some v →
          k.check (canonicalName name) value = .ok (some v) → n.get? name = some v) ∧
      (∀ x, r = .error x → ∃ before e after,
        seed s.config.kinds id k call.name call.attributes = before ++ e :: after ∧
          (∀ f ∈ before, k.Takes f) ∧ k.Refuses e x) := by
  have hseed := seedNode_eq s id call
    (by rw [Call.explicitKind?_of_notMem hkind, Option.getD_none]) hk
  have hcanonical : s.config.kinds.Canonical := by
    rw [hreach]
    exact Config.canonical_run ops
  have hdistinct : s.config.kinds.Distinct := by
    rw [hreach]
    exact Config.distinct_run ops
  refine ⟨_, build_of_no_block s id hblock, ?_⟩
  rw [hseed, admits_iff]
  refine ⟨Node.exists_construct_iff, fun n hn => ?_, fun _ => Node.exists_refused_of_construct⟩
  have hget : ∀ name,
      n.get? name = (source? s.config.kinds id k call name).bind (k.stored? name) := by
    intro name
    rw [Node.get?_of_construct hn, lastFor_seed hcanonical hdistinct]
  refine ⟨Node.kind_of_construct hn, hget, fun name value v hsource hcheck => ?_⟩
  rw [hget, hsource]
  exact Kind.stored?_of_check hcheck

/-- A kind with a format and a least length, both of which have a default. -/
def mail : Kind := (Kind.new "mail").declareAll [("format", .string), ("min_length", .integer)]

def mailOps : List Config.Op := [.register mail,
  .setDefaults "mail" [("format", .string "email"), ("minLength", .literal (.number (.int 3)))]]

/-- A call that takes the default for the least length away, after it has written another one. -/
def mailCall : Call Id := { name := some (.plain "sender"), attributes :=
  [("minLength", .literal (.number (.int 5))), ("min_length", .literal .null)] }

lemma admits_mailCall : mail.Admits ((Config.run mailOps).kinds.defaultsFor "mail") mailCall where
  name := by
    rintro n ⟨⟩
    exact ⟨.name, rfl, .inr ⟨_, rfl⟩⟩
  typeName := by
    rintro t ⟨⟩
    exact ⟨.string, rfl, .inr ⟨_, rfl⟩⟩
  defaults := by
    rintro e he _ _
    have hdefaults : (Config.run mailOps).kinds.defaultsFor "mail" =
        [("format", .string "email"), ("min_length", .literal (.number (.int 3)))] := rfl
    simp only [hdefaults, List.mem_cons, List.not_mem_nil, or_false] at he
    rcases he with rfl | rfl
    · exact ⟨.string, rfl, .inr ⟨_, rfl⟩⟩
    · exact ⟨.integer, rfl, .inr ⟨_, rfl⟩⟩
  attributes := by
    intro e he
    simp only [mailCall, List.mem_cons, List.not_mem_nil, or_false] at he
    rcases he with rfl | rfl
    · exact ⟨.integer, rfl, .inr ⟨_, rfl⟩⟩
    · exact ⟨.integer, rfl, .inl rfl⟩

theorem build_seeded_mail : (Config.run mailOps).kinds.get? "mail" = some mail ∧
    ∃ n, (build ⟨Config.run mailOps, none⟩ "mail" mailCall).run = pure (.ok n) ∧
      n.get? "name" = some (.name (.plain "sender")) ∧ n.get? "kind" = some (.string "mail") ∧
      n.get? "format" = some (.string "email") ∧ n.get? "minLength" = none := by
  obtain ⟨r, hr, hok, hvalue, _⟩ := build_seeded (m := Id) ⟨Config.run mailOps, none⟩ mailOps rfl
    "mail" mail rfl mailCall rfl (by decide)
  obtain ⟨n, rfl⟩ := hok.mpr admits_mailCall
  obtain ⟨_, hget, _⟩ := hvalue n rfl
  refine ⟨rfl, n, hr, ?_, ?_, ?_, ?_⟩
  · exact hget "name"
  · exact hget "kind"
  · exact hget "format"
  · exact hget "minLength"

/-- A kind with a size and a default for it, registered once more with sizes that are texts. -/
def resized : List Config.Op := [.register ((Kind.new "email").declare "size" .integer),
  .setDefaults "email" [("size", .literal (.number (.int 5)))],
  .register ((Kind.new "email").declare "size" .string)]

/-- A default that was stored before its kind was registered again may be coerced once more. -/
theorem default_coerced_again : ¬ ∀ (ops : List Config.Op) (id : String) (k : Kind) (n : Node),
    (Config.run ops).kinds.get? id = some k →
    (build ⟨Config.run ops, none⟩ id ({} : Call Id)).run = .ok n →
    ∀ name, (k.typeOf? name).isSome = true → canonicalName name ≠ "name" →
      canonicalName name ≠ "kind" →
      n.get? name = ((Config.run ops).kinds.defaultsFor id).get? (canonicalName name) := by
  intro h
  have hsize := h resized "email" ((Kind.new "email").declare "size" .string)
    (.mk _ [("kind", .string "email"), ("size", .string "5")]) rfl rfl "size" rfl
    (by decide) (by decide)
  change some (AttrValue.literal (.string "5")) = some (.literal (.number (.int 5))) at hsize
  cases hsize

end Session

end Schemata
