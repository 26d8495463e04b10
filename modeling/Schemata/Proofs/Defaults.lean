import Mathlib.Data.List.Induction
import Schemata.Build.Call
import Schemata.Proofs.Construct

/-! Stored defaults against the kinds they are stored for, along every run of a configuration. -/
namespace Schemata

/-- A kind with the common attributes as they are, whatever it declares besides. -/
inductive Kind.Extends : Kind → Prop where
  | new (id : String) : Extends (Kind.new id)
  | generic (id : String) : Extends (Kind.generic id)
  | withTypeName {k : Kind} (typeName : String) : Extends k → Extends (k.withTypeName typeName)
  | declare {k : Kind} (name : String) (type : AttrType) : Extends k →
      Fields.get? Kind.commonAttributes (canonicalName name) = none → Extends (k.declare name type)

namespace Kind

/-- Every one of the attributes passes the check of the kind. -/
def Accepts (k : Kind) (attributes : Fields AttrValue) : Prop :=
  ∀ e ∈ attributes, ∃ v, k.check e.1 e.2 = .ok v

lemma Extends.get?_attributes {k : Kind} (h : k.Extends) {name : String} {type : AttrType}
    (hname : Fields.get? commonAttributes name = some type) :
    Fields.get? k.attributes name = some type := by
  induction h with
  | new id => exact hname
  | generic id => exact hname
  | withTypeName typeName _ ih => exact ih
  | @declare k other type' _ hother ih =>
    have hne : canonicalName other ≠ name := by
      rintro rfl
      rw [hname] at hother
      cases hother
    change Fields.get? (Fields.insert k.attributes (canonicalName other) type') name = some type
    rw [Fields.get?_insert_of_ne _ _ hne]
    exact ih

lemma Extends.declareAll {k : Kind} (h : k.Extends) (entries : List (String × AttrType))
    (hentries : ∀ e ∈ entries, Fields.get? commonAttributes (canonicalName e.1) = none) :
    (k.declareAll entries).Extends := by
  induction entries generalizing k with
  | nil => exact h
  | cons e entries ih =>
    have hfirst := hentries e List.mem_cons_self
    have hrest := fun f hf => hentries f (List.mem_cons_of_mem e hf)
    exact ih (h.declare e.1 e.2 hfirst) hrest

lemma Extends.check_kind {k : Kind} (h : k.Extends) (s : String) :
    k.check "kind" (.string s) = .ok (some (.string s)) := by
  have hkind : Fields.get? k.attributes "kind" = some .string := h.get?_attributes rfl
  exact check_eq_ok_iff.mpr ⟨_, hkind, .inr ⟨rfl, _, rfl, rfl⟩⟩

lemma extends_of_mem_builtin {k : Kind} (h : k ∈ builtin) : k.Extends := by
  have hnum : ∀ id typeName, (numberKind id typeName).Extends := fun id typeName =>
    ((Extends.new id).withTypeName typeName).declareAll _ (by decide)
  simp only [builtin, List.mem_cons, List.not_mem_nil, or_false] at h
  rcases h with rfl | rfl | rfl | rfl | rfl | rfl | rfl | rfl | rfl
  · exact .generic _
  · exact .new _
  · exact .new _
  · exact (Extends.new _).declareAll _ (by decide)
  · exact hnum _ _
  · exact hnum _ _
  · exact hnum _ _
  · exact (Extends.new _).declareAll _ (by decide)
  · exact (Extends.new _).declareAll _ (by decide)

end Kind

namespace Registry

lemma mem_of_get? {r : Registry} {id : String} {k : Kind} (h : r.get? id = some k) :
    k ∈ r.kinds := List.mem_of_find?_eq_some h

@[simp] lemma get?_register_self (r : Registry) (k : Kind) :
    (r.register k).get? k.id = some k := by
  change (place k r.kinds).find? _ = _
  induction r.kinds with
  | nil => simp [place]
  | cons a ks ih => by_cases ha : a.id = k.id <;> simp [place, ha, ih]

lemma get?_register_of_ne (r : Registry) {k : Kind} {id : String} (h : k.id ≠ id) :
    (r.register k).get? id = r.get? id := by
  change (place k r.kinds).find? _ = r.kinds.find? _
  induction r.kinds with
  | nil => simp [place, h]
  | cons a ks ih =>
    by_cases ha : a.id = k.id
    · simp [place, ha, h]
    · by_cases hid : a.id = id <;> simp [place, ha, hid, ih, Ne.symm h]

/-- The registry with other defaults for one kind. -/
def withDefaults (r : Registry) (id : String) (fs : Fields AttrValue) : Registry :=
  { r with defaults := r.defaults.insert id fs }

@[simp] lemma defaultsFor_withDefaults_self (r : Registry) (id : String) (fs : Fields AttrValue) :
    (r.withDefaults id fs).defaultsFor id = fs := by
  simp [withDefaults, defaultsFor]

lemma defaultsFor_withDefaults_of_ne (r : Registry) (fs : Fields AttrValue) {id other : String}
    (h : id ≠ other) : (r.withDefaults id fs).defaultsFor other = r.defaultsFor other := by
  simp only [withDefaults, defaultsFor, Fields.get?_insert_of_ne _ _ h]

@[simp] lemma withDefaults_withDefaults (r : Registry) (id : String) (fs gs : Fields AttrValue) :
    (r.withDefaults id fs).withDefaults id gs = r.withDefaults id gs := by
  simp only [withDefaults, Fields.insert_insert_self]

lemma setDefaults_of_unknown {r : Registry} {id : String} (h : r.get? id = none)
    (entries : List (String × AttrValue)) :
    r.setDefaults id entries = .error (.unknownKind id) := by
  simp [setDefaults, require, h, bind, Except.bind]

lemma setDefaults_of_get? {r : Registry} {id : String} {k : Kind} (h : r.get? id = some k)
    (entries : List (String × AttrValue)) :
    r.setDefaults id entries = (checkEntries k entries).map fun vs =>
      r.withDefaults id ((r.defaultsFor id).assignAll vs) := by
  simp only [setDefaults, require, h, bind, Except.bind]
  cases checkEntries k entries <;> rfl

/-- Defaults are set for a registered kind, all of them checked, and for no other one. -/
lemma setDefaults_eq_ok {r r' : Registry} {id : String} {entries : List (String × AttrValue)}
    (h : r.setDefaults id entries = .ok r') :
    ∃ k vs, r.get? id = some k ∧ checkEntries k entries = .ok vs ∧ r'.kinds = r.kinds ∧
      r'.defaultsFor id = Fields.assignAll (r.defaultsFor id) vs ∧
      ∀ other, id ≠ other → r'.defaultsFor other = r.defaultsFor other := by
  cases hk : r.get? id with
  | none =>
    rw [setDefaults_of_unknown hk] at h
    cases h
  | some k =>
    rw [setDefaults_of_get? hk] at h
    cases hv : checkEntries k entries with
    | error e =>
      rw [hv] at h
      cases h
    | ok vs =>
      rw [hv] at h
      cases h
      exact ⟨k, vs, rfl, hv, rfl, defaultsFor_withDefaults_self r id _,
        fun _ hne => defaultsFor_withDefaults_of_ne r _ hne⟩

/-- Defaults stand under canonical names. -/
def Canonical (r : Registry) : Prop := ∀ id, ∀ e ∈ r.defaultsFor id, canonicalName e.1 = e.1

lemma canonical_builtin : builtin.Canonical := fun _ _ h => nomatch h

/-- No attribute has two defaults in one kind. -/
def Distinct (r : Registry) : Prop := ∀ id, (r.defaultsFor id).keys.Nodup

lemma distinct_of_no_defaults {r : Registry} (h : r.defaults = []) : r.Distinct := by
  intro id
  rw [defaultsFor, h]
  exact List.nodup_nil

end Registry

namespace Config

/-- The operations that change the kinds of a configuration or their defaults. -/
inductive Op where
  | register (k : Kind)
  | setDefaults (id : String) (entries : List (String × AttrValue))
  | resetDefaults
  | resetKinds
  | reset

/-- The configuration after an operation; defaults that cannot be set leave it as it is. -/
def step (c : Config) : Op → Config
  | .register k => c.register k
  | .setDefaults id entries =>
    match c.setDefaults id entries with
    | .ok c' => c'
    | .error _ => c
  | .resetDefaults => c.resetDefaults
  | .resetKinds => c.resetKinds
  | .reset => {}

/-- The configuration that operations lead to, from a new one on. -/
def run (ops : List Op) : Config := ops.foldl step {}

@[simp] lemma run_append (ops more : List Op) : run (ops ++ more) = more.foldl step (run ops) :=
  List.foldl_append

lemma run_concat (ops : List Op) (op : Op) : run (ops ++ [op]) = (run ops).step op := by simp

/-- The kinds extend the common attributes, and their defaults stand under canonical names. -/
structure Wellformed (c : Config) : Prop where
  extends_of_get? : ∀ id k, c.kinds.get? id = some k → k.Extends
  canonical : c.kinds.Canonical

/-- A registered kind builds from a call that asks for nothing, in every host. -/
def Builds (c : Config) (id : String) : Prop :=
  ∀ (m : Type → Type) [Monad m] [LawfulMonad m] (scope : Option Scope),
    ∃ n, (Session.build ⟨c, scope⟩ id ({} : Call m)).run = pure (.ok n)

/-- Every registered kind accepts the defaults that are stored for it, and builds with them. -/
def Sound (c : Config) : Prop :=
  ∀ id k, c.kinds.get? id = some k → k.Accepts (c.kinds.defaultsFor id) ∧ c.Builds id

lemma setDefaults_eq_ok {c c' : Config} {id : String} {entries : List (String × AttrValue)}
    (h : c.setDefaults id entries = .ok c') : c.kinds.setDefaults id entries = .ok c'.kinds := by
  unfold setDefaults at h
  cases hr : c.kinds.setDefaults id entries with
  | error e => simp [hr, Except.map] at h
  | ok r =>
    simp only [hr, Except.map, Except.ok.injEq] at h
    subst h
    rfl

lemma step_setDefaults (c : Config) (id : String) (entries : List (String × AttrValue)) :
    c.step (.setDefaults id entries) = c ∨
      c.setDefaults id entries = .ok (c.step (.setDefaults id entries)) := by
  cases hset : c.setDefaults id entries with
  | error e => simp [step, hset]
  | ok c' => simp [step, hset]

lemma get?_step_setDefaults (c : Config) (id : String) (entries : List (String × AttrValue))
    (other : String) :
    (c.step (.setDefaults id entries)).kinds.get? other = c.kinds.get? other := by
  rcases step_setDefaults c id entries with hstep | hset
  · rw [hstep]
  · obtain ⟨_, _, _, _, hkinds, _⟩ := Registry.setDefaults_eq_ok (setDefaults_eq_ok hset)
    simp only [Registry.get?, hkinds]

/-- A default that is stored after defaults were set was there, or has passed the check. -/
lemma mem_defaultsFor_step {c : Config} {id other : String}
    {entries : List (String × AttrValue)} {e : String × AttrValue}
    (he : e ∈ (c.step (.setDefaults id entries)).kinds.defaultsFor other) :
    e ∈ c.kinds.defaultsFor other ∨ id = other ∧ ∃ k name value, c.kinds.get? id = some k ∧
      canonicalName name = e.1 ∧ k.check e.1 value = .ok (some e.2) := by
  rcases step_setDefaults c id entries with hstep | hset
  · rw [hstep] at he
    exact .inl he
  · obtain ⟨k, vs, hk, hvs, _, hown, hother⟩ :=
      Registry.setDefaults_eq_ok (setDefaults_eq_ok hset)
    by_cases hid : id = other
    · subst hid
      rw [hown] at he
      rcases Fields.mem_assignAll he with he | he
      · exact .inl he
      · obtain ⟨f, _, hname, hcheck⟩ := Registry.mem_of_checkEntries hvs he
        exact .inr ⟨rfl, k, f.1, f.2, hk, hname, hcheck⟩
    · rw [hother other hid] at he
      exact .inl he

lemma canonical_step {c : Config} (h : c.kinds.Canonical) (op : Op) :
    (c.step op).kinds.Canonical := by
  cases op with
  | register k => exact h
  | setDefaults id entries =>
    intro other e he
    rcases mem_defaultsFor_step he with he | ⟨_, _, name, _, _, hname, _⟩
    · exact h other e he
    · rw [← hname]
      exact canonicalName_canonicalName name
  | resetDefaults => exact fun _ _ he => nomatch he
  | resetKinds => exact Registry.canonical_builtin
  | reset => exact Registry.canonical_builtin

lemma canonical_run (ops : List Op) : (run ops).kinds.Canonical := by
  induction ops using List.reverseRecOn with
  | nil => exact Registry.canonical_builtin
  | append_singleton ops op ih =>
    rw [run_concat]
    exact canonical_step ih op

lemma distinct_step {c : Config} (h : c.kinds.Distinct) (op : Op) :
    (c.step op).kinds.Distinct := by
  cases op with
  | register k => exact h
  | setDefaults id entries =>
    rcases step_setDefaults c id entries with hstep | hset
    · rw [hstep]
      exact h
    · obtain ⟨_, vs, _, _, _, hown, hother⟩ :=
        Registry.setDefaults_eq_ok (setDefaults_eq_ok hset)
      intro other
      by_cases hid : id = other
      · subst hid
        rw [hown]
        exact Fields.nodup_assignAll vs (h id)
      · rw [hother other hid]
        exact h other
  | resetDefaults => exact Registry.distinct_of_no_defaults rfl
  | resetKinds => exact Registry.distinct_of_no_defaults rfl
  | reset => exact Registry.distinct_of_no_defaults rfl

lemma distinct_run (ops : List Op) : (run ops).kinds.Distinct := by
  induction ops using List.reverseRecOn with
  | nil => exact Registry.distinct_of_no_defaults rfl
  | append_singleton ops op ih =>
    rw [run_concat]
    exact distinct_step ih op

lemma wellformed_reset : Wellformed {} where
  extends_of_get? _ _ h := Kind.extends_of_mem_builtin (Registry.mem_of_get? h)
  canonical := Registry.canonical_builtin

lemma Wellformed.step {c : Config} (h : c.Wellformed) {op : Op}
    (hop : ∀ k, op = .register k → k.Extends) : (c.step op).Wellformed := by
  refine ⟨fun id l hl => ?_, canonical_step h.canonical op⟩
  cases op with
  | register k =>
    by_cases hid : k.id = id
    · subst hid
      have hself := Registry.get?_register_self c.kinds k
      exact Option.some.inj (hself.symm.trans hl) ▸ hop k rfl
    · exact h.extends_of_get? id l ((Registry.get?_register_of_ne c.kinds hid).symm.trans hl)
  | setDefaults other entries =>
    rw [get?_step_setDefaults] at hl
    exact h.extends_of_get? id l hl
  | resetDefaults => exact h.extends_of_get? id l hl
  | resetKinds => exact wellformed_reset.extends_of_get? id l hl
  | reset => exact wellformed_reset.extends_of_get? id l hl

lemma wellformed_run {ops : List Op} (h : ∀ k, .register k ∈ ops → k.Extends) :
    (run ops).Wellformed := by
  induction ops using List.reverseRecOn with
  | nil => exact wellformed_reset
  | append_singleton ops op ih =>
    rw [run_concat]
    have hops := ih fun k hk => h k (List.mem_append_left _ hk)
    exact hops.step fun k hk => h k (by simp [hk])

lemma builds_of_accepts {c : Config} (h : c.Wellformed) {id : String} {k : Kind}
    (hk : c.kinds.get? id = some k) (ha : k.Accepts (c.kinds.defaultsFor id)) : c.Builds id := by
  have hname : canonicalName "kind" = "kind" := by decide
  have hpass : ∀ e ∈ seed c.kinds id k none [],
      ∃ v, k.check (canonicalName e.1) e.2 = .ok v := by
    intro e he
    simp only [seed, Option.map_none, Option.toList_none, List.nil_append, List.append_nil,
      List.mem_append, List.mem_filter] at he
    rcases he with he | ⟨he, _⟩
    · obtain ⟨t, _, rfl⟩ : ∃ t, k.typeName = some t ∧ ("kind", AttrValue.string t) = e := by
        simpa using he
      rw [hname]
      exact ⟨_, (h.extends_of_get? id k hk).check_kind t⟩
    · rw [h.canonical id e he]
      exact ha e he
  obtain ⟨vs, hvs⟩ := Registry.exists_checkEntries_eq_ok_iff.mpr hpass
  intro m _ _ scope
  refine ⟨.mk k (Fields.assignAll [] vs), ?_⟩
  have hseed : Session.seedNode ⟨c, scope⟩ id ({} : Call m) =
      .ok (.mk k (Fields.assignAll [] vs)) := by
    have hid : ({} : Call m).explicitKind?.getD id = id := rfl
    simp only [Session.seedNode, hid, Registry.require, hk, bind, Except.bind,
      Node.construct_eq, hvs, Except.map]
  simp [Session.build, Session.build.liftExcept, hseed]

lemma Wellformed.sound_iff {c : Config} (h : c.Wellformed) :
    c.Sound ↔ ∀ id k, c.kinds.get? id = some k → k.Accepts (c.kinds.defaultsFor id) := by
  constructor
  · intro hs id k hk
    exact (hs id k hk).1
  · intro ha id k hk
    exact ⟨ha id k hk, builds_of_accepts h hk (ha id k hk)⟩

lemma sound_reset : Sound {} := by
  rw [wellformed_reset.sound_iff]
  intro _ _ _ _ he
  cases he

/-- An operation keeps a configuration sound unless it registers a kind that rejects what is
stored for the kind before it. -/
lemma sound_step_iff {c : Config} (h : c.Wellformed) (hs : c.Sound) {op : Op}
    (hop : ∀ k, op = .register k → k.Extends) :
    (c.step op).Sound ↔ ∀ k, op = .register k → k.Accepts (c.kinds.defaultsFor k.id) := by
  rw [(h.step hop).sound_iff]
  rw [h.sound_iff] at hs
  cases op with
  | register k =>
    constructor
    · rintro ha _ ⟨⟩
      exact ha k.id k (Registry.get?_register_self c.kinds k)
    · intro ha id l hl
      change l.Accepts (c.kinds.defaultsFor id)
      by_cases hid : k.id = id
      · subst hid
        have hself := Registry.get?_register_self c.kinds k
        exact Option.some.inj (hself.symm.trans hl) ▸ ha k rfl
      · exact hs id l ((Registry.get?_register_of_ne c.kinds hid).symm.trans hl)
  | setDefaults id entries =>
    refine ⟨fun _ k hk => (nomatch hk), fun _ other l hl e he => ?_⟩
    rw [get?_step_setDefaults] at hl
    rcases mem_defaultsFor_step he with he | ⟨rfl, k, _, _, hk, _, hcheck⟩
    · exact hs other l hl e he
    · obtain rfl : k = l := Option.some.inj (hk.symm.trans hl)
      exact ⟨_, Kind.check_of_check hcheck⟩
  | resetDefaults => exact ⟨fun _ k hk => (nomatch hk), fun _ _ _ _ _ he => nomatch he⟩
  | resetKinds => exact ⟨fun _ k hk => (nomatch hk), fun _ _ _ _ _ he => nomatch he⟩
  | reset => exact ⟨fun _ k hk => (nomatch hk), fun _ _ _ _ _ he => nomatch he⟩

/-- All configurations of a run are sound exactly if every kind that it registers accepts the
defaults that are then stored under the identifier of the kind. -/
theorem sound_throughout_iff (ops : List Op) (hops : ∀ k, .register k ∈ ops → k.Extends) :
    (∀ past rest, ops = past ++ rest → (run past).Sound) ↔
      ∀ past k rest, ops = past ++ .register k :: rest →
        k.Accepts ((run past).kinds.defaultsFor k.id) := by
  constructor
  · intro hsound past k rest heq
    have hnext := hsound (past ++ [.register k]) rest (by simp [heq])
    have hext : k.Extends := hops k (by simp [heq])
    have hwf : (run past).Wellformed := wellformed_run fun l hl => hops l (by simp [heq, hl])
    rw [run_concat] at hnext
    exact (sound_step_iff hwf (hsound past _ heq) (by rintro _ ⟨⟩; exact hext)).mp hnext k rfl
  · intro haccepts past
    induction past using List.reverseRecOn with
    | nil => exact fun _ _ => sound_reset
    | append_singleton past op ih =>
      intro rest heq
      have hsplit : ops = past ++ op :: rest := by simpa using heq
      have hwf : (run past).Wellformed := wellformed_run fun l hl => hops l (by simp [hsplit, hl])
      rw [run_concat]
      refine (sound_step_iff hwf (ih _ hsplit) ?_).mpr ?_
      · rintro k rfl
        exact hops k (by simp [hsplit])
      · rintro k rfl
        exact haccepts past k rest hsplit

def formattedEmail : Kind := (Kind.new "email").declare "format" .string

/-- A kind with a format and a default for it, registered once more in another shape. -/
def registerAgain (again : Kind) : List Op :=
  [.register formattedEmail, .setDefaults "email" [("format", .string "email")], .register again]

lemma extends_of_mem_registerAgain {again k : Kind} (h : again.Extends)
    (hk : .register k ∈ registerAgain again) : k.Extends := by
  simp only [registerAgain, List.mem_cons, Op.register.injEq, reduceCtorEq, List.not_mem_nil,
    or_false, false_or] at hk
  rcases hk with rfl | rfl
  · exact (Kind.Extends.new _).declare _ _ rfl
  · exact h

theorem sound_throughout_registerAgain :
    (formattedEmail.withTypeName "string").Extends ∧
      (run (registerAgain (formattedEmail.withTypeName "string"))).Sound := by
  have hext : (formattedEmail.withTypeName "string").Extends :=
    ((Kind.Extends.new _).declare _ _ rfl).withTypeName _
  have hsound := (sound_throughout_iff _ fun k hk => extends_of_mem_registerAgain hext hk).mpr (by
    intro past k rest heq
    rcases past with _ | ⟨first, _ | ⟨second, past⟩⟩
    · rintro e ⟨⟩
    · cases heq
    · injection heq with _ heq
      injection heq with _ heq
      rcases past with _ | ⟨third, past⟩
      · cases heq
        subst_vars
        rintro e (_ | ⟨_, ⟨⟩⟩)
        exact ⟨_, rfl⟩
      · simp at heq)
  exact ⟨hext, hsound _ [] (List.append_nil _).symm⟩

/-- A kind that is registered again without the attribute that has a default cannot be built. -/
theorem stale_default_not_sound :
    (Kind.new "email").Extends ∧
      (run (registerAgain (Kind.new "email"))).kinds.get? "email" = some (Kind.new "email") ∧
      ¬(Kind.new "email").Accepts
        ((run (registerAgain (Kind.new "email"))).kinds.defaultsFor "email") ∧
      (Session.build ⟨run (registerAgain (Kind.new "email")), none⟩ "email" ({} : Call Id)).run =
        .error (.unknownAttribute "email" "format") := by
  refine ⟨.new _, rfl, fun ha => ?_, rfl⟩
  obtain ⟨v, hv⟩ := ha ("format", .string "email") (.head _)
  cases hv

end Config

end Schemata
