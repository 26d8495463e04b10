import Schemata.Proofs.Seeding

/-! Defaults of a kind are set all together or not at all, and one setting adds to the next. -/
namespace Schemata

namespace Registry
variable {r s : Registry} {id other : String} {k : Kind} {p q : List (String × AttrValue)}
  {x : Error}

/-- A check fails at the first entry that is refused. -/
lemma checkEntries_eq_error_iff : checkEntries k p = .error x ↔
    ∃ before e after, p = before ++ e :: after ∧ (∀ f ∈ before, k.Takes f) ∧ k.Refuses e x := by
  constructor
  · exact exists_refused
  · rintro ⟨before, e, after, rfl, hbefore, he⟩
    rw [checkEntries_append, checkEntries_of_takes hbefore]
    simp [checkEntries, Kind.check_of_refuses he, bind, Except.bind, Except.map]

/-- Defaults cannot be set for an unknown kind, and not if the kind refuses an entry; the first
one that it refuses is what the failure is about. -/
inductive RefusesDefaults (r : Registry) (id : String) (p : List (String × AttrValue)) :
    Error → Prop where
  | unknown : r.get? id = none → RefusesDefaults r id p (.unknownKind id)
  | entry {k : Kind} {before after : List (String × AttrValue)} {e : String × AttrValue}
      {x : Error} : r.get? id = some k → p = before ++ e :: after →
      (∀ f ∈ before, k.Takes f) → k.Refuses e x → RefusesDefaults r id p x

lemma setDefaults_eq_error_iff : r.setDefaults id p = .error x ↔ r.RefusesDefaults id p x := by
  cases hk : r.get? id with
  | none =>
    rw [setDefaults_of_unknown hk]
    constructor
    · rintro ⟨⟩
      exact .unknown hk
    · intro h
      cases h with
      | unknown => rfl
      | entry hk' => cases hk.symm.trans hk'
  | some k =>
    have hcheck : r.setDefaults id p = .error x ↔ checkEntries k p = .error x := by
      rw [setDefaults_of_get? hk]
      cases checkEntries k p <;> simp [Except.map]
    rw [hcheck, checkEntries_eq_error_iff]
    constructor
    · rintro ⟨before, e, after, hp, hbefore, he⟩
      exact .entry hk hp hbefore he
    · intro h
      cases h with
      | unknown hk' => cases hk.symm.trans hk'
      | entry hk' hp hbefore he =>
        cases hk.symm.trans hk'
        exact ⟨_, _, _, hp, hbefore, he⟩

lemma setDefaults_eq_ok_iff : r.setDefaults id p = .ok s ↔ ∃ k, r.get? id = some k ∧
    (∀ e ∈ p, k.Takes e) ∧ s = r.withDefaults id (k.store (r.defaultsFor id) p) := by
  cases hk : r.get? id with
  | none => simp [setDefaults_of_unknown hk]
  | some k =>
    simp only [setDefaults_of_get? hk, Option.some.injEq, exists_eq_left']
    constructor
    · intro h
      cases hvs : checkEntries k p with
      | error y =>
        rw [hvs] at h
        cases h
      | ok vs =>
        rw [hvs] at h
        cases h
        obtain ⟨htakes, rfl⟩ := checkEntries_eq_ok_iff.mp hvs
        exact ⟨htakes, rfl⟩
    · rintro ⟨htakes, rfl⟩
      rw [checkEntries_of_takes htakes]
      rfl

/-- Entries that are set in two parts are set as if they had come together. -/
lemma setDefaults_append (r : Registry) (id : String) (p q : List (String × AttrValue)) :
    r.setDefaults id (p ++ q) = (r.setDefaults id p).bind fun s => s.setDefaults id q := by
  cases hk : r.get? id with
  | none => simp only [setDefaults_of_unknown hk, Except.bind]
  | some k =>
    rw [setDefaults_of_get? hk, setDefaults_of_get? hk, checkEntries_append]
    cases checkEntries k p with
    | error y => rfl
    | ok vs =>
      have hk' : (r.withDefaults id ((r.defaultsFor id).assignAll vs)).get? id = some k := hk
      simp only [Except.map, Except.bind, setDefaults_of_get? hk']
      cases checkEntries k q with
      | error y => rfl
      | ok ws => simp [Fields.assignAll_append]

/-- What setting defaults makes of a registry: the kinds and the defaults of the other ones stay,
and every name has what the last entry for it leaves, or what it had. -/
structure Sets (k : Kind) (id : String) (p : List (String × AttrValue)) (r s : Registry) :
    Prop where
  kinds_eq : s.kinds = r.kinds
  defaultsFor_eq : ∀ other, other ≠ id → s.defaultsFor other = r.defaultsFor other
  get?_eq : ∀ name, (s.defaultsFor id).get? (canonicalName name) =
    match lastFor p name with
    | some value => k.stored? name value
    | none => (r.defaultsFor id).get? (canonicalName name)

lemma sets_withDefaults (r : Registry) (id : String) (k : Kind)
    (p : List (String × AttrValue)) :
    Sets k id p r (r.withDefaults id (k.store (r.defaultsFor id) p)) where
  kinds_eq := rfl
  defaultsFor_eq _ h := defaultsFor_withDefaults_of_ne _ _ (Ne.symm h)
  get?_eq name := by
    rw [defaultsFor_withDefaults_self]
    exact k.get?_store _ p name

/-- Runs that change a registry in place; one that fails leaves what it has written until then. -/
abbrev InPlace := ExceptT Error (StateM Registry)

namespace InPlace
variable {α β : Type}

/-- How a run ends, and the registry at its end. -/
def exec (run : InPlace α) (r : Registry) : Except Error α × Registry := (run.run).run r

@[simp] lemma exec_pure (a : α) (r : Registry) : exec (pure a) r = (.ok a, r) := rfl

@[simp] lemma exec_get (r : Registry) : exec get r = (.ok r, r) := rfl

@[simp] lemma exec_modify (f : Registry → Registry) (r : Registry) :
    exec (modify f) r = (.ok (), f r) := rfl

@[simp] lemma exec_lift (result : Except Error α) (r : Registry) :
    exec (liftM result) r = (result, r) := rfl

@[simp] lemma exec_bind (run : InPlace α) (f : α → InPlace β) (r : Registry) :
    exec (run >>= f) r = match exec run r with
      | (.ok a, s) => exec (f a) s
      | (.error x, s) => (.error x, s) := by
  change (ExceptT.bindCont f (exec run r).1).run (exec run r).2 = _
  rcases exec run r with ⟨_ | _, s⟩ <;> rfl

/-- Sets defaults of a kind: checks the entries one after the other, and then writes what they leave
one after the other. -/
def setDefaults (id : String) (entries : List (String × AttrValue)) : InPlace Unit := do
  let k ← (← get).require id
  let staged ← entries.mapM fun e => do
    let value ← k.check (canonicalName e.1) e.2
    return (canonicalName e.1, value)
  modify fun r => r.withDefaults id (r.defaultsFor id)
  forM staged fun e => modify fun r => r.withDefaults id ((r.defaultsFor id).assign e.1 e.2)

/-- Checking the entries leaves the registry as it is. -/
lemma exec_check (k : Kind) (p : List (String × AttrValue)) (r : Registry) :
    exec (p.mapM fun e => do
      let value ← k.check (canonicalName e.1) e.2
      return (canonicalName e.1, value)) r = (checkEntries k p, r) := by
  induction p with
  | nil => rfl
  | cons e p ih =>
    rw [List.mapM_cons, checkEntries]
    simp only [bind_assoc, pure_bind, exec_bind, exec_lift]
    cases k.check (canonicalName e.1) e.2 with
    | error x => rfl
    | ok v =>
      simp only [ih]
      cases checkEntries k p <;> rfl

lemma exec_write (id : String) (vs : List (String × Option AttrValue)) (r : Registry)
    (fs : Fields AttrValue) :
    exec (forM vs fun e => modify fun r =>
      r.withDefaults id ((r.defaultsFor id).assign e.1 e.2)) (r.withDefaults id fs) =
      (.ok (), r.withDefaults id (fs.assignAll vs)) := by
  induction vs generalizing fs with
  | nil => rfl
  | cons e vs ih => simp [List.forM_cons, ih]

lemma exec_setDefaults (id : String) (p : List (String × AttrValue)) (r : Registry) :
    (setDefaults id p).exec r = match r.setDefaults id p with
      | .ok s => (.ok (), s)
      | .error x => (.error x, r) := by
  cases hk : r.get? id with
  | none => simp [setDefaults, require, hk, setDefaults_of_unknown hk]
  | some k =>
    simp only [setDefaults, exec_bind, exec_get, require, hk, exec_lift, exec_check,
      setDefaults_of_get? hk]
    cases checkEntries k p with
    | error x => rfl
    | ok vs => simp [exec_write, Except.map]

/-- Defaults are set all together or not at all. A run fails exactly if the kind is unknown or
refuses an entry, wherever it stands, and then leaves the registry as it was. One that succeeds
changes the defaults of the kind alone, and the last entry for a name decides. Two settings in a row
do what one does with the entries of both. -/
theorem setDefaults_all_or_nothing (r : Registry) (id : String) (p : List (String × AttrValue)) :
    (setDefaults id p).exec r = (match r.setDefaults id p with
      | .ok s => (.ok (), s)
      | .error x => (.error x, r)) ∧
    (∀ x, r.setDefaults id p = .error x ↔ r.RefusesDefaults id p x) ∧
    ((∃ s, r.setDefaults id p = .ok s) ↔ ∃ k, r.get? id = some k ∧ ∀ e ∈ p, k.Takes e) ∧
    (∀ s, r.setDefaults id p = .ok s → ∃ k, r.get? id = some k ∧ Sets k id p r s) ∧
    ∀ q, ((r.setDefaults id p).bind fun s => s.setDefaults id q) = r.setDefaults id (p ++ q) := by
  refine ⟨exec_setDefaults id p r, fun x => setDefaults_eq_error_iff, ?_, fun s hs => ?_,
    fun q => (setDefaults_append r id p q).symm⟩
  · simp only [setDefaults_eq_ok_iff]
    constructor
    · rintro ⟨_, k, hk, htakes, _⟩
      exact ⟨k, hk, htakes⟩
    · rintro ⟨k, hk, htakes⟩
      exact ⟨_, k, hk, htakes, rfl⟩
  · obtain ⟨k, hk, _, rfl⟩ := setDefaults_eq_ok_iff.mp hs
    exact ⟨k, hk, sets_withDefaults r id k p⟩

/-- Two defaults, the first of which the next entries take away and then write once more, in other
spellings of its name. -/
def openEntries : List (String × AttrValue) :=
  [("additionalProperties", .literal (.bool true)), ("title", .string "record")]

def closedEntries : List (String × AttrValue) :=
  [("additional_properties", .literal .null), ("AdditionalProperties", .literal (.bool false))]

/-- Entries of which the last one has no place in an object. -/
def strayEntries : List (String × AttrValue) :=
  [("title", .string "stray"), ("minimum", .literal (.number (.int 1)))]

def opened : Registry := builtin.withDefaults "object"
  [("additional_properties", .literal (.bool true)), ("title", .string "record")]

def closed : Registry := builtin.withDefaults "object"
  [("title", .string "record"), ("additional_properties", .literal (.bool false))]

theorem setDefaults_all_or_nothing_object :
    (setDefaults "object" openEntries).exec builtin = (.ok (), opened) ∧
      (setDefaults "object" closedEntries).exec opened = (.ok (), closed) ∧
      (setDefaults "object" (openEntries ++ closedEntries)).exec builtin = (.ok (), closed) ∧
      closed.kinds = builtin.kinds ∧
      (setDefaults "object" strayEntries).exec closed =
        (.error (.unknownAttribute "object" "minimum"), closed) := by
  have hopened : builtin.setDefaults "object" openEntries = .ok opened := rfl
  have hclosed : opened.setDefaults "object" closedEntries = .ok closed := rfl
  have htitle : ∀ f ∈ [("title", AttrValue.string "stray")], Kind.object.Takes f := by
    rintro f hf
    obtain rfl := List.mem_singleton.mp hf
    exact ⟨.string, rfl, .inr ⟨_, rfl⟩⟩
  have hrefuses : closed.RefusesDefaults "object" strayEntries
      (.unknownAttribute "object" "minimum") := .entry rfl rfl htitle (.undeclared rfl)
  obtain ⟨hopen, _, _, _, happend⟩ := setDefaults_all_or_nothing builtin "object" openEntries
  obtain ⟨hclose, _⟩ := setDefaults_all_or_nothing opened "object" closedEntries
  obtain ⟨hboth, _, _, hsets, _⟩ :=
    setDefaults_all_or_nothing builtin "object" (openEntries ++ closedEntries)
  obtain ⟨hstray, herror, _⟩ := setDefaults_all_or_nothing closed "object" strayEntries
  have hjoint : builtin.setDefaults "object" (openEntries ++ closedEntries) = .ok closed := by
    rw [← happend, hopened]
    exact hclosed
  obtain ⟨_, _, hset⟩ := hsets _ hjoint
  rw [hopened] at hopen
  rw [hclosed] at hclose
  rw [hjoint] at hboth
  rw [(herror _).mpr hrefuses] at hstray
  exact ⟨hopen, hclose, hboth, hset.kinds_eq, hstray⟩

end InPlace

end Registry

end Schemata
