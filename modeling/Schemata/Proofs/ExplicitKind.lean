import Schemata.Proofs.Defaults

/-! Kinds that calls name among their attributes, against the operations of these kinds. -/
namespace Schemata

/-- Both fail, or both yield equal nodes. -/
def SameOutcome : Except Error Node → Except Error Node → Prop
  | .ok n, .ok m => n.same m = true
  | .error _, .error _ => True
  | _, _ => False

lemma Fields.get?_assignAll_congr {α : Type u} {fs gs : Fields α} {key : String}
    (h : get? fs key = get? gs key) (vs : List (String × Option α)) :
    get? (assignAll fs vs) key = get? (assignAll gs vs) key := by
  induction vs generalizing fs gs with
  | nil => exact h
  | cons e vs ih =>
    refine ih ?_
    by_cases hk : e.1 = key
    · subst hk
      rw [get?_assign_self, get?_assign_self]
    · rw [get?_assign_of_ne _ _ hk, get?_assign_of_ne _ _ hk, h]

/-- An attribute that takes one text takes every text, and tells them apart. -/
lemma Kind.check_text {d : Kind} {name s : String} {v : Option AttrValue}
    (h : d.check name (.string s) = .ok v) : ∃ w, v = some w ∧
      ∀ t, ∃ u, d.check name (.string t) = .ok (some u) ∧ (u.same w = true → t = s) := by
  obtain ⟨ty, hty, ⟨hnull, _⟩ | ⟨_, w, hw, rfl⟩⟩ := check_eq_ok_iff.mp h
  · cases hnull
  · refine ⟨w, rfl, fun t => ?_⟩
    rcases AttrType.coerce_text hw with ⟨rfl, ht⟩ | ⟨rfl, ht⟩
    · refine ⟨_, check_eq_ok_iff.mpr ⟨ty, hty, .inr ⟨rfl, _, ht t, rfl⟩⟩, fun hsame => ?_⟩
      simpa [AttrValue.same, Tree.same] using hsame
    · refine ⟨_, check_eq_ok_iff.mpr ⟨ty, hty, .inr ⟨rfl, _, ht t, rfl⟩⟩, fun hsame => ?_⟩
      simpa [AttrValue.same] using hsame

/-- Fields that hold the type name of a kind under `kind`, and nothing where it has none. -/
def Kind.Labels (d : Kind) (fs : Fields AttrValue) : Prop :=
  match d.typeName with
  | some t => ∃ v, d.check "kind" (.string t) = .ok (some v) ∧ fs.get? "kind" = some v
  | none => fs.get? "kind" = none

lemma Registry.notMem_keys_of_checkEntries {d : Kind} {es : List (String × AttrValue)}
    {vs : List (String × Option AttrValue)} {key : String}
    (hes : ∀ e ∈ es, canonicalName e.1 ≠ key) (h : checkEntries d es = .ok vs) :
    key ∉ Fields.keys vs := by
  rw [keys_of_checkEntries h]
  intro hmem
  obtain ⟨e, he, heq⟩ := List.mem_map.mp hmem
  exact hes e he heq

namespace Node
variable {d : Kind} {es more : List (String × AttrValue)} {key k : String}

lemma construct_append_eq_ok {n : Node} : construct d (es ++ more) = .ok n ↔
    ∃ as bs, Registry.checkEntries d es = .ok as ∧ Registry.checkEntries d more = .ok bs ∧
      n = mk d (Fields.assignAll (Fields.assignAll [] as) bs) := by
  rw [construct_eq]
  cases hc : Registry.checkEntries d (es ++ more) with
  | error e =>
    refine ⟨fun h => (nomatch h), fun h => ?_⟩
    obtain ⟨as, bs, ha, hb, _⟩ := h
    rw [Registry.checkEntries_append_eq_ok.mpr ⟨as, bs, ha, hb, rfl⟩] at hc
    cases hc
  | ok vs =>
    obtain ⟨as, bs, ha, hb, rfl⟩ := Registry.checkEntries_append_eq_ok.mp hc
    constructor
    · rintro ⟨⟩
      exact ⟨as, bs, ha, hb, by simp only [Fields.assignAll_append]⟩
    · rintro ⟨as', bs', ha', hb', rfl⟩
      obtain rfl : as = as' := Except.ok.inj (ha.symm.trans ha')
      obtain rfl : bs = bs' := Except.ok.inj (hb.symm.trans hb')
      rw [← Fields.assignAll_append]
      rfl

lemma construct_text_eq_ok (hkey : canonicalName key = "kind") {n : Node} :
    construct d (es ++ (key, .string k) :: more) = .ok n ↔
      ∃ as w bs, Registry.checkEntries d es = .ok as ∧
        d.check "kind" (.string k) = .ok (some w) ∧ Registry.checkEntries d more = .ok bs ∧
        n = mk d (Fields.assignAll ((Fields.assignAll [] as).insert "kind" w) bs) := by
  rw [construct_append_eq_ok]
  constructor
  · rintro ⟨as, _, ha, hrest, rfl⟩
    obtain ⟨v, bs, hv, hb, rfl⟩ := Registry.checkEntries_cons_eq_ok.mp hrest
    rw [hkey] at hv ⊢
    obtain ⟨w, rfl, _⟩ := Kind.check_text hv
    exact ⟨as, w, bs, ha, hv, hb, rfl⟩
  · rintro ⟨as, w, bs, ha, hw, hb, rfl⟩
    refine ⟨as, ("kind", some w) :: bs, ha, ?_, rfl⟩
    rw [Registry.checkEntries_cons_eq_ok]
    exact ⟨some w, bs, by rw [hkey]; exact hw, hb, by rw [hkey]⟩

/-- The text is the only difference that one more entry for `kind` makes. -/
lemma construct_text_agrees (hkey : canonicalName key = "kind")
    (hmore : ∀ e ∈ more, canonicalName e.1 ≠ "kind") {n : Node}
    (h : construct d (es ++ (key, .string k) :: more) = .ok n) :
    n.kind = d ∧ (∃ v, d.check "kind" (.string k) = .ok (some v) ∧
        Fields.get? n.attributes "kind" = some v) ∧
      ∃ n', construct d (es ++ more) = .ok n' ∧ n'.kind = d ∧ ∀ name, name ≠ "kind" →
        Fields.get? n.attributes name = Fields.get? n'.attributes name := by
  obtain ⟨as, w, bs, ha, hw, hb, rfl⟩ := (construct_text_eq_ok hkey).mp h
  refine ⟨rfl, ⟨w, hw, ?_⟩, _, construct_append_eq_ok.mpr ⟨as, bs, ha, hb, rfl⟩, rfl, ?_⟩
  · have hbs := Registry.notMem_keys_of_checkEntries hmore hb
    exact (Fields.get?_assignAll_of_notMem _ hbs).trans (Fields.get?_insert_self _ _ _)
  · intro name hname
    exact Fields.get?_assignAll_congr (Fields.get?_insert_of_ne _ _ (Ne.symm hname)) bs

/-- One more entry for `kind` leaves labelled fields as they are exactly if it repeats the label. -/
lemma same_insert_text_iff {fs : Fields AttrValue} (hlabels : d.Labels fs) {w : AttrValue}
    (hw : d.check "kind" (.string k) = .ok (some w)) {bs : List (String × Option AttrValue)}
    (hbs : "kind" ∉ Fields.keys bs) :
    (mk d (Fields.assignAll (fs.insert "kind" w) bs)).same (mk d (Fields.assignAll fs bs)) = true ↔
      d.typeName = some k := by
  unfold Kind.Labels at hlabels
  constructor
  · intro hsame
    have hrel := Node.get?_of_same hsame "kind"
    simp only [attributes, Fields.get?_assignAll_of_notMem _ hbs,
      Fields.get?_insert_self] at hrel
    cases ht : d.typeName with
    | none =>
      simp only [ht] at hlabels
      rw [hlabels] at hrel
      cases hrel
    | some t =>
      simp only [ht] at hlabels
      obtain ⟨v, hv, hget⟩ := hlabels
      obtain ⟨_, ⟨⟩, htext⟩ := Kind.check_text hv
      obtain ⟨u, hu, heq⟩ := htext k
      obtain rfl : w = u := Option.some.inj (Except.ok.inj (hw.symm.trans hu))
      rw [hget] at hrel
      cases hrel with
      | some hwv => rw [heq hwv]
  · intro ht
    simp only [ht] at hlabels
    obtain ⟨v, hv, hget⟩ := hlabels
    obtain rfl : w = v := Option.some.inj (Except.ok.inj (hw.symm.trans hv))
    rw [Fields.insert_of_get? hget]
    exact Node.same_refl _

/-- Where the entries before set `kind` to the type name alone, one more entry for `kind`
makes no difference exactly if it repeats the type name. -/
lemma sameOutcome_construct_text_iff (hkey : canonicalName key = "kind")
    (hmore : ∀ e ∈ more, canonicalName e.1 ≠ "kind")
    (hes : ∀ as, Registry.checkEntries d es = .ok as → d.Labels (Fields.assignAll [] as)) :
    SameOutcome (construct d (es ++ (key, .string k) :: more)) (construct d (es ++ more)) ↔
      d.typeName = some k ∨ ∃ e, construct d (es ++ more) = .error e := by
  cases hr : construct d (es ++ (key, .string k) :: more) with
  | ok n =>
    obtain ⟨as, w, bs, ha, hw, hb, rfl⟩ := (construct_text_eq_ok hkey).mp hr
    rw [construct_append_eq_ok.mpr ⟨as, bs, ha, hb, rfl⟩]
    simp only [SameOutcome, reduceCtorEq, exists_false, or_false]
    exact same_insert_text_iff (hes as ha) hw (Registry.notMem_keys_of_checkEntries hmore hb)
  | error e =>
    cases hown : construct d (es ++ more) with
    | error f => simp [SameOutcome]
    | ok n' =>
      simp only [SameOutcome, reduceCtorEq, exists_false, or_false, false_iff]
      intro ht
      obtain ⟨as, bs, ha, hb, rfl⟩ := construct_append_eq_ok.mp hown
      have hlabels := hes as ha
      simp only [Kind.Labels, ht] at hlabels
      obtain ⟨v, hv, _⟩ := hlabels
      rw [(construct_text_eq_ok hkey).mpr ⟨as, v, bs, ha, hv, hb, rfl⟩] at hr
      cases hr

end Node

lemma mem_seed {r : Registry} {id : String} {k : Kind} {name : Option Name}
    {attributes : List (String × AttrValue)} {e : String × AttrValue}
    (h : e ∈ seed r id k name attributes) :
    e.1 = "name" ∨ e.1 = "kind" ∨ e ∈ r.defaultsFor id ∨ e ∈ attributes := by
  simp only [seed, List.mem_append, Option.mem_toList, Option.map_eq_some_iff] at h
  rcases h with ((⟨_, _, rfl⟩ | ⟨_, _, rfl⟩) | h) | h
  · exact .inl rfl
  · exact .inr (.inl rfl)
  · exact .inr (.inr (.inl (List.mem_filter.mp h).1))
  · exact .inr (.inr (.inr h))

/-- A seeded node is labelled with its kind. -/
lemma labels_of_seed_of_defaults {r : Registry} {id : String} {d : Kind}
    (hr : ∀ e ∈ r.defaultsFor id, canonicalName e.1 = e.1) {name : Option Name}
    {attributes : List (String × AttrValue)}
    (hother : ∀ e ∈ attributes, canonicalName e.1 ≠ "kind") {vs : List (String × Option AttrValue)}
    (h : Registry.checkEntries d (seed r id d name attributes) = .ok vs) :
    d.Labels (Fields.assignAll [] vs) := by
  have hkind : canonicalName "kind" = "kind" := by decide
  unfold seed at h
  rw [List.append_assoc, List.append_assoc] at h
  obtain ⟨as, _, ha, hrest, rfl⟩ := Registry.checkEntries_append_eq_ok.mp h
  obtain ⟨bs, cs, hb, hc, rfl⟩ := Registry.checkEntries_append_eq_ok.mp hrest
  have has : "kind" ∉ Fields.keys as := by
    rw [Registry.keys_of_checkEntries ha]
    cases name <;> simp
    decide
  have hcs : "kind" ∉ Fields.keys cs := by
    refine Registry.notMem_keys_of_checkEntries (fun e he => ?_) hc
    rcases List.mem_append.mp he with he | he
    · obtain ⟨he, hne⟩ := List.mem_filter.mp he
      rw [hr e he]
      rintro hkey
      simp [hkey] at hne
    · exact hother e he
  unfold Kind.Labels
  rw [Fields.assignAll_append, Fields.assignAll_append, Fields.get?_assignAll_of_notMem _ hcs]
  cases ht : d.typeName with
  | none =>
    rw [ht] at hb
    cases hb
    exact Fields.get?_assignAll_of_notMem _ has
  | some t =>
    rw [ht] at hb
    obtain ⟨u, _, hu, hnil, rfl⟩ := Registry.checkEntries_cons_eq_ok.mp hb
    cases hnil
    rw [hkind] at hu ⊢
    obtain ⟨w, rfl, _⟩ := Kind.check_text hu
    exact ⟨w, hu, Fields.get?_insert_self _ _ _⟩

lemma labels_of_seed {r : Registry} (hr : r.Canonical) {id : String} {d : Kind}
    {name : Option Name} {attributes : List (String × AttrValue)}
    (hother : ∀ e ∈ attributes, canonicalName e.1 ≠ "kind") {vs : List (String × Option AttrValue)}
    (h : Registry.checkEntries d (seed r id d name attributes) = .ok vs) :
    d.Labels (Fields.assignAll [] vs) := labels_of_seed_of_defaults (hr id) hother h

namespace Call
variable {m : Type → Type} {call : Call m} {pre post : List (String × AttrValue)}

lemma explicitKind?_of_mem {key k : String} (hkey : canonicalName key = "kind")
    (hattrs : call.attributes = pre ++ (key, .string k) :: post)
    (hother : ∀ e ∈ pre ++ post, canonicalName e.1 ≠ "kind") : call.explicitKind? = some k := by
  have hpost : post.reverse.find? (fun e => canonicalName e.1 = "kind") = none := by
    rw [List.find?_eq_none]
    intro e he
    simpa using hother e (List.mem_append_right _ (List.mem_reverse.mp he))
  simp [explicitKind?, hattrs, List.find?_append, hpost, hkey, AttrValue.string,
    AttrValue.literal?, Tree.string?]

lemma explicitKind?_of_notMem (hother : ∀ e ∈ call.attributes, canonicalName e.1 ≠ "kind") :
    call.explicitKind? = none := by
  have hnone : call.attributes.reverse.find? (fun e => canonicalName e.1 = "kind") = none := by
    rw [List.find?_eq_none]
    intro e he
    simpa using hother e (List.mem_reverse.mp he)
  simp [explicitKind?, hnone]

end Call

namespace Session
variable {m : Type → Type}

lemma build_of_no_block [Monad m] [LawfulMonad m] (s : Session) (kind : String) {call : Call m}
    (hb : call.block = none) : (s.build kind call).run = pure (s.seedNode kind call) := by
  cases h : s.seedNode kind call <;> simp [build, build.liftExcept, h, hb]

lemma seedNode_eq (s : Session) (kind : String) (call : Call m) {k : String} {d : Kind}
    (hk : call.explicitKind?.getD kind = k) (hd : s.config.kinds.get? k = some d) :
    s.seedNode kind call =
      Node.construct d (seed s.config.kinds k d call.name call.attributes) := by
  simp only [seedNode, hk, Registry.require, hd]
  rfl

/-- A call that names a kind among its attributes makes a node of that kind, as the operation of
the kind does without the entry, but the entry is written as well: the outcomes are the same
exactly if the kind bears its identifier as its type name, or the operation fails. -/
theorem build_explicitKind [Monad m] [LawfulMonad m] (s : Session) (ops : List Config.Op)
    (hreach : s.config.kinds = (Config.run ops).kinds) (operation k key : String) (d : Kind)
    (hd : s.config.kinds.get? k = some d) (call : Call m) (hblock : call.block = none)
    (pre post : List (String × AttrValue)) (hkey : canonicalName key = "kind")
    (hattrs : call.attributes = pre ++ (key, .string k) :: post)
    (hother : ∀ e ∈ pre ++ post, canonicalName e.1 ≠ "kind") :
    ∃ r own, (s.build operation call).run = pure r ∧
      (s.build k { call with attributes := pre ++ post }).run = pure own ∧
      (SameOutcome r own ↔ d.typeName = some k ∨ ∃ e, own = .error e) ∧
      ∀ n, r = .ok n → n.kind = d ∧
        (∃ v, d.check "kind" (.string k) = .ok (some v) ∧
          Fields.get? n.attributes "kind" = some v) ∧
        ∃ n', own = .ok n' ∧ n'.kind = d ∧ ∀ name, name ≠ "kind" →
          Fields.get? n.attributes name = Fields.get? n'.attributes name := by
  have hcanonical : s.config.kinds.Canonical := by
    rw [hreach]
    exact Config.canonical_run ops
  have hpre : ∀ e ∈ pre, canonicalName e.1 ≠ "kind" :=
    fun e he => hother e (List.mem_append_left _ he)
  have hpost : ∀ e ∈ post, canonicalName e.1 ≠ "kind" :=
    fun e he => hother e (List.mem_append_right _ he)
  have hr := seedNode_eq s operation call
    (by rw [Call.explicitKind?_of_mem hkey hattrs hother, Option.getD_some]) hd
  have hown := seedNode_eq s k { call with attributes := pre ++ post }
    (by rw [Call.explicitKind?_of_notMem hother, Option.getD_none]) hd
  refine ⟨_, _, build_of_no_block s operation hblock, build_of_no_block s k hblock, ?_⟩
  rw [hr, hown, hattrs]
  have hsplit : ∀ rest, seed s.config.kinds k d call.name (pre ++ rest) =
      seed s.config.kinds k d call.name pre ++ rest := fun rest => by
    simp only [seed, List.append_assoc]
  simp only [hsplit]
  constructor
  · exact Node.sameOutcome_construct_text_iff hkey hpost fun as ha =>
      labels_of_seed hcanonical hpre ha
  · intro n hn
    exact Node.construct_text_agrees hkey hpost hn

def emailSession : Session := ⟨Config.run (Config.registerAgain Config.formattedEmail), none⟩

def emailCall : Call Id := { attributes := [("title", .string "mail"), ("Kind", .string "email")] }

theorem build_explicitKind_email :
    ∃ r own, (build emailSession "entity" emailCall).run = pure r ∧
      (build emailSession "email" ({ attributes := [("title", .string "mail")] } : Call Id)).run =
        pure own ∧
      SameOutcome r own := by
  have hkey : canonicalName "Kind" = "kind" := by decide
  obtain ⟨r, own, hr, hown, hiff, _⟩ := build_explicitKind (m := Id) emailSession _ rfl
    "entity" "email" "Kind" Config.formattedEmail rfl emailCall rfl
    [("title", .string "mail")] [] hkey rfl (by decide)
  exact ⟨r, own, hr, hown, hiff.mpr (.inl rfl)⟩

/-- The numeric kind bears another type name than its identifier: named explicitly, it shows. -/
theorem build_explicit_numeric_differs :
    Registry.builtin.get? "numeric" = some Kind.numeric ∧
      (build {} "entity" ({ attributes := [("kind", .string "numeric")] } : Call Id)).run =
        .ok (.mk Kind.numeric [("kind", .string "numeric")]) ∧
      (build {} "numeric" ({} : Call Id)).run =
        .ok (.mk Kind.numeric [("kind", .string "number")]) ∧
      ¬SameOutcome (.ok (.mk Kind.numeric [("kind", .string "numeric")]))
        (.ok (.mk Kind.numeric [("kind", .string "number")])) := by
  have hext : Kind.numeric.Extends := Kind.extends_of_mem_builtin (by simp [Kind.builtin])
  have hkind : canonicalName "kind" = "kind" := by decide
  have hupdate : ∀ fs s, (Node.mk Kind.numeric fs).update "kind" (.string s) =
      .ok (.mk Kind.numeric (Fields.insert fs "kind" (.string s))) := by
    intro fs s
    rw [Node.update_mk, hkind, hext.check_kind s]
    rfl
  have hnamed : seed Registry.builtin "numeric" Kind.numeric none [("kind", .string "numeric")] =
      [("kind", .string "number"), ("kind", .string "numeric")] := rfl
  have hown : seed Registry.builtin "numeric" Kind.numeric none [] =
      [("kind", .string "number")] := rfl
  refine ⟨rfl, ?_, ?_, fun hsame => ?_⟩
  · rw [build_of_no_block _ _ rfl, seedNode_eq _ _ _ (k := "numeric") (d := Kind.numeric) rfl rfl,
      hnamed]
    simp only [Node.construct, List.foldlM_cons, List.foldlM_nil, hupdate, bind, Except.bind]
    rfl
  · rw [build_of_no_block _ _ rfl, seedNode_eq _ _ _ (k := "numeric") (d := Kind.numeric) rfl rfl,
      hown]
    simp only [Node.construct, List.foldlM_cons, List.foldlM_nil, hupdate, bind, Except.bind]
    rfl
  · have hrel := Node.get?_of_same (n := .mk Kind.numeric [("kind", .string "numeric")]) hsame
      "kind"
    cases hrel with
    | some hv => simp [AttrValue.same, AttrValue.string, Tree.same] at hv

end Session

end Schemata
