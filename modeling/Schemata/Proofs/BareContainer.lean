import Schemata.Proofs.ExplicitKind
import Schemata.Proofs.Remainder

/-! Objects that only contain choices: the object is a choice as well where more than its defaults
is left of it, and defaults are compared as they were stored. -/
namespace Schemata

/-- What remains of an object carries meaning exactly if some entry but its kind is shown. -/
theorem carriesMeaning_object_iff {kinds : Registry} {rest : Fields Tree} {id : String}
    (hn : rest.keys.Nodup) (hkind : rest.get? "kind" = some (.string "object"))
    (hid : ((rest.get? kindTag).bind Tree.string?).getD "object" = id)
    (hdefault : "kind" ∉ (kinds.defaultsFor id).keys) :
    carriesMeaning kinds "object" rest = true ↔
      ∃ e ∈ rest, e.1 ≠ "kind" ∧ Shown (kinds.defaultsFor id) e :=
  carriesMeaning_object_iff_of_kind hn hkind hid
    ⟨by decide, rfl, fun _ hd => absurd (Fields.mem_keys_of_mem hd) hdefault⟩

/-- Fields of an object with choices, and without anything that desugaring works on. -/
structure Container (fs : Fields Tree) (ms : List Tree) : Prop where
  kind_eq : fs.get? "kind" = some (.string "object")
  choices_eq : fs.get? "one_of" = some (.list ms)
  nonempty : ms ≠ []
  maps : ∀ m ∈ ms, m.isMap = true
  others : ∀ key ∈ ["nullable", "children", "items", "any_of", "all_of"], fs.get? key = none

lemma settle_branchNull_of_plain {fs : Fields Tree}
    (h : ∀ key ∈ ["nullable", "children", "items"], fs.get? key = none) (path : Path) :
    settle (branchNull fs) path = .ok fs := by
  have hnullable : isNullable fs = false := by
    rw [isNullable, h "nullable" (by decide)]
    rfl
  rw [branchNull_of_not_nullable hnullable, settle, Fields.contains, h "items" (by decide),
    h "children" (by decide)]
  rfl

/-- The members that a box of choices keeps. -/
def keptMembers (us : List Tree) : List Tree := Tree.dedupe (us.filter fun u => !u.isBlank)

/-- The document of an entity with choices under `oneOf`. -/
def choiceDocument (us : List Tree) : Tree := .map (("type", .string "entity") ::
  if (keptMembers us).isEmpty then [] else [("oneOf", .list (finishMembers (keptMembers us)))])

lemma finish_boxed_one_of (us : List Tree) : finish (boxed "one_of" us) = choiceDocument us := by
  have hkey : documentKey "one_of" = "oneOf" := by decide
  rw [boxed, finish_box (by decide), hkey]
  rfl

namespace Container
variable {fs : Fields Tree} {ms : List Tree}

lemma box_eq {hs : Fields Tree} {ds : List Tree} (h : Container hs ds) (kinds : Registry) :
    box kinds (.map hs) = boxed "one_of" (ds.map (box kinds) ++
      if carriesMeaning kinds "object" (hs.erase "one_of")
        then [box kinds (.map (hs.erase "one_of"))] else []) := by
  have hspecific : specificKind? hs = some "object" := by
    rw [specificKind?, h.kind_eq]
    rfl
  have hfirst : firstChoices? hs = some ("one_of", ds) := by
    obtain ⟨d, ds, rfl⟩ := List.exists_cons_of_ne_nil h.nonempty
    simp [firstChoices?, choiceKeys, choicesAt?, h.others "any_of" (by decide), h.choices_eq]
  exact box_eq_boxed kinds hspecific hfirst

lemma get?_eq_none (h : Container fs ms) (key : String)
    (hk : key ∈ ["nullable", "children", "items"]) : fs.get? key = none :=
  h.others key (List.mem_append_left ["any_of", "all_of"] hk)

/-- The choices of a container are desugared one by one. -/
lemma desugared {hs : Fields Tree} (h : Container fs ms)
    (hrel : Fields.Rel (InSlot Desugars) fs hs) :
    ∃ ds, List.Forall₂ Desugars ms ds ∧ Container hs ds := by
  obtain ⟨v, hv, hkind⟩ := hrel.exists_of_get? h.kind_eq
  obtain rfl := hkind.eq_of_literal rfl
  obtain ⟨w, hw, hchoices⟩ := hrel.exists_of_get? h.choices_eq
  obtain ⟨m, rest, rfl⟩ := List.exists_cons_of_ne_nil h.nonempty
  have hslot : slot "one_of" (.list (m :: rest)) = .items (m :: rest) :=
    slot_eq_items_iff.mpr ⟨by decide, rfl, m, rest, rfl, h.maps m List.mem_cons_self⟩
  obtain ⟨ds, rfl, hds⟩ := hchoices.exists_items hslot
  refine ⟨ds, hds, hv, hw, ?_, ?_, ?_⟩
  · rintro rfl
    cases hds
  · intro d hd
    obtain ⟨m, hm, hmd⟩ := exists_of_mem_right hds hd
    exact hmd.isMap_eq.trans (h.maps m hm)
  · intro key hk
    rw [Fields.get?_eq_none_iff, ← hrel.keys_eq, ← Fields.get?_eq_none_iff]
    exact h.others key hk

/-- The chain takes the choices on their own, and what remains of the object if it carries
meaning. -/
theorem exists_of_renders (h : Container fs ms) {c : RenderContext} {t : Tree}
    (ht : Renders c (.map fs) t) :
    ∃ us rest, List.Forall₂ (fun m u => Pass.run c [.desugar, .box] m = .ok u) ms us ∧
      Fields.Rel (InSlot Desugars) (fs.erase "one_of") rest ∧
      Desugars (.map (fs.erase "one_of")) (.map rest) ∧
      t = choiceDocument (us ++
        if carriesMeaning c.kinds "object" rest then [box c.kinds (.map rest)] else []) := by
  obtain ⟨d, hd, rfl⟩ := renders_iff.mp ht
  obtain ⟨gs, hs, hgs, hrel, rfl⟩ := desugars_map_iff.mp hd
  rw [settle_branchNull_of_plain h.get?_eq_none] at hgs
  cases hgs
  obtain ⟨ds, hds, hcontainer⟩ := h.desugared hrel
  have hrest := hrel.erase "one_of"
  have hplain : ∀ key ∈ ["nullable", "children", "items"], (fs.erase "one_of").get? key = none := by
    intro key hk
    have hne : "one_of" ≠ key := by
      rintro rfl
      exact absurd hk (by decide)
    rw [Fields.get?_erase_of_ne _ hne]
    exact h.get?_eq_none key hk
  refine ⟨ds.map (box c.kinds), hs.erase "one_of", ?_, hrest, ?_, ?_⟩
  · rw [List.forall₂_map_right_iff]
    exact hds.imp fun m d hmd => run_desugar_box_eq_ok_iff.mpr ⟨d, hmd, rfl⟩
  · exact desugars_map_iff.mpr ⟨_, _, settle_branchNull_of_plain hplain [], hrest, rfl⟩
  · rw [hcontainer.box_eq, finish_boxed_one_of]

end Container

/-- An object seeded from choices, and from defaults that are no sugar and no choices. -/
structure ObjectOfChoices (r : Registry) (id : String) (k : Kind) (name : Option Name)
    (ms : List Node) (n : Node) : Prop where
  canonical : r.Canonical
  get?_eq : r.get? id = some k
  typeName_eq : k.typeName = some "object"
  avoids : ∀ key ∈ ["kind", "nullable", "children", "items"] ++ choiceKeys,
    key ∉ (r.defaultsFor id).keys
  nonempty : ms ≠ []
  construct_eq : Node.construct k (seed r id k name [("one_of", .nodes ms)]) = .ok n

namespace ObjectOfChoices
variable {r : Registry} {id : String} {k : Kind} {name : Option Name} {ms : List Node} {n : Node}

/-- Where the attributes of the node come from. -/
lemma source (h : ObjectOfChoices r id k name ms n) {key : String} {v : AttrValue}
    (hv : n.attr? key = some v) : key ∈ ["name", "kind", "one_of"] ∨
      ∃ d, (key, d) ∈ r.defaultsFor id ∧ k.check key d = .ok (some v) := by
  obtain ⟨vs, hvs, rfl⟩ := Node.construct_eq_ok_iff.mp h.construct_eq
  have hmem := (Fields.mem_assignAll (Fields.mem_of_get? hv)).resolve_left List.not_mem_nil
  obtain ⟨⟨written, d⟩, he, hkey, hcheck⟩ := Registry.mem_of_checkEntries hvs hmem
  change canonicalName written = key at hkey
  have hfixed : ∀ key ∈ ["name", "kind", "one_of"], canonicalName key = key := by decide
  have hfew : written ∈ ["name", "kind", "one_of"] ∨ (written, d) ∈ r.defaultsFor id := by
    rcases mem_seed he with rfl | rfl | hdefault | hattr
    · exact .inl (by decide)
    · exact .inl (by decide)
    · exact .inr hdefault
    · cases List.mem_singleton.mp hattr
      exact .inl (by decide)
  rcases hfew with hfew | hdefault
  · rw [← hkey, hfixed written hfew]
    exact .inl hfew
  · have hcanonical : canonicalName written = written := h.canonical id _ hdefault
    obtain rfl : written = key := hcanonical.symm.trans hkey
    exact .inr ⟨d, hdefault, hcheck⟩

lemma attr?_eq_none (h : ObjectOfChoices r id k name ms n) {key : String}
    (hkey : key ∉ ["name", "kind", "one_of"]) (hdefault : key ∉ (r.defaultsFor id).keys) :
    n.attr? key = none := by
  cases hv : n.attr? key with
  | none => rfl
  | some v =>
    rcases h.source hv with hfew | ⟨d, hd, _⟩
    · exact absurd hfew hkey
    · exact absurd (Fields.mem_keys_of_mem hd) hdefault

lemma attr?_one_of (h : ObjectOfChoices r id k name ms n) :
    n.attr? "one_of" = some (.nodes ms) := by
  obtain ⟨as, bs, _, hb, rfl⟩ := Node.construct_append_eq_ok.mp h.construct_eq
  obtain ⟨v, _, hv, hnil, rfl⟩ := Registry.checkEntries_cons_eq_ok.mp hb
  cases hnil
  have hkey : canonicalName "one_of" = "one_of" := by decide
  rw [hkey] at hv ⊢
  obtain ⟨ty, _, ⟨hnull, _⟩ | ⟨_, w, hw, rfl⟩⟩ := Kind.check_eq_ok_iff.mp hv
  · cases hnull
  · rw [AttrType.coerce_nodes hw]
    exact Fields.get?_insert_self _ _ _

lemma get?_kind (h : ObjectOfChoices r id k name ms n) :
    n.fields.get? "kind" = some (.string "object") := by
  obtain ⟨vs, hvs, rfl⟩ := Node.construct_eq_ok_iff.mp h.construct_eq
  have hone : canonicalName "one_of" ≠ "kind" := by decide
  have hlabels := labels_of_seed h.canonical (by simpa using hone) hvs
  simp only [Kind.Labels, h.typeName_eq] at hlabels
  obtain ⟨v, hv, hget⟩ := hlabels
  have htext : v.toTree = .string "object" := by
    obtain ⟨ty, _, ⟨hnull, _⟩ | ⟨_, w, hw, heq⟩⟩ := Kind.check_eq_ok_iff.mp hv
    · cases hnull
    · cases heq
      rcases AttrType.coerce_text hw with ⟨rfl, _⟩ | ⟨rfl, _⟩
      · exact AttrValue.toTree_literal _
      · exact AttrValue.toTree_name _
  rw [Node.get?_fields _ (by decide), Node.attr?, Node.attributes, hget, Option.map_some, htext]

/-- The tag names the kind whose defaults were taken, where that is not the object. -/
lemma get?_tag (h : ObjectOfChoices r id k name ms n) :
    n.fields.get? kindTag = none ∧ id = "object" ∨
      n.fields.get? kindTag = some (.string id) := by
  have hid : k.id = id := by simpa using List.find?_some h.get?_eq
  have hkind := Node.kind_of_construct h.construct_eq
  have hdefault : kindTag ∉ (r.defaultsFor id).keys := by
    intro hmem
    obtain ⟨d, hd⟩ := Fields.mem_keys.mp hmem
    have hcanonical : canonicalName kindTag = kindTag := h.canonical id _ hd
    exact absurd hcanonical (by decide)
  unfold Node.fields Kind.tag
  simp only [hkind, h.typeName_eq, hid]
  split
  · rename_i heq
    rw [Fields.extend_nil, Fields.get?_mapValues, ← Node.attr?,
      h.attr?_eq_none (by decide) hdefault]
    exact .inl ⟨rfl, heq.symm⟩
  · rw [Fields.extend_cons, Fields.extend_nil, Fields.get?_insert_self]
    exact .inr rfl

lemma container (h : ObjectOfChoices r id k name ms n) :
    Container n.fields (ms.map Node.toTree) where
  kind_eq := h.get?_kind
  choices_eq := by
    rw [Node.get?_fields _ (by decide), h.attr?_one_of, Option.map_some, AttrValue.toTree_nodes]
  nonempty := by simpa using h.nonempty
  maps := by simp
  others key hk := by
    have hall : ∀ key ∈ ["nullable", "children", "items", "any_of", "all_of"], key ≠ kindTag ∧
        key ∉ ["name", "kind", "one_of"] ∧
        key ∈ ["kind", "nullable", "children", "items"] ++ choiceKeys := by decide
    obtain ⟨htag, hfew, havoid⟩ := hall key hk
    rw [Node.get?_fields _ htag, h.attr?_eq_none hfew (h.avoids key havoid)]
    rfl

/-- What remains of the node is its kind, bookkeeping, and defaults as they are when they are
coerced and desugared. -/
lemma exists_default (h : ObjectOfChoices r id k name ms n) {rest : Fields Tree}
    (hrel : Fields.Rel (InSlot Desugars) (n.fields.erase "one_of") rest) {e : String × Tree}
    (he : e ∈ rest) (hkind : e.1 ≠ "kind") (hbook : e.1 ∉ bookkeepingKeys) :
    ∃ d v, (e.1, d) ∈ r.defaultsFor id ∧ k.check e.1 d = .ok (some v) ∧
      InSlot Desugars e.1 v.toTree e.2 := by
  obtain ⟨key, w⟩ := e
  obtain ⟨⟨other, value⟩, hf, hkey, hslot⟩ := exists_of_mem_right hrel he
  obtain rfl : other = key := hkey
  obtain ⟨hf, hone⟩ := Fields.mem_erase.mp hf
  have hnodup := Node.nodup_fields (Node.wellformed_construct h.construct_eq)
  have hbookkeeping : kindTag ∈ bookkeepingKeys ∧ "name" ∈ bookkeepingKeys := by decide
  have htag : other ≠ kindTag := by
    rintro rfl
    exact hbook hbookkeeping.1
  have hget := Fields.get?_of_mem hnodup hf
  rw [Node.get?_fields _ htag, Option.map_eq_some_iff] at hget
  obtain ⟨v, hv, rfl⟩ := hget
  rcases h.source hv with hfew | ⟨d, hd, hcheck⟩
  · simp only [List.mem_cons, List.not_mem_nil, or_false] at hfew
    rcases hfew with rfl | rfl | rfl
    · exact absurd hbookkeeping.2 hbook
    · exact absurd rfl hkind
    · exact absurd rfl hone
  · exact ⟨d, v, hd, hcheck, hslot⟩

/-- What remains carries meaning exactly if a default is shown in it. -/
lemma carriesMeaning_iff (h : ObjectOfChoices r id k name ms n) {rest : Fields Tree}
    (hrel : Fields.Rel (InSlot Desugars) (n.fields.erase "one_of") rest) :
    carriesMeaning r "object" rest = true ↔
      ∃ e ∈ rest, e.1 ≠ "kind" ∧ Shown (r.defaultsFor id) e := by
  have hnodup := Node.nodup_fields (Node.wellformed_construct h.construct_eq)
  -- the kind and the tag are texts, which desugaring keeps
  have htext : ∀ key, "one_of" ≠ key → ∀ s, n.fields.get? key = some (.string s) →
      rest.get? key = some (.string s) := by
    intro key hne s hs
    rw [← Fields.get?_erase_of_ne _ hne] at hs
    obtain ⟨w, hw, hslot⟩ := hrel.exists_of_get? hs
    rw [hw, hslot.eq_of_literal (slot_of_depth_eq_zero rfl key)]
  apply carriesMeaning_object_iff
  · rw [← hrel.keys_eq]
    exact Fields.nodup_erase _ hnodup
  · exact htext "kind" (by decide) "object" h.get?_kind
  · rcases h.get?_tag with ⟨hnone, hid⟩ | hsome
    · rw [← Fields.get?_erase_of_ne _ (show "one_of" ≠ kindTag by decide),
        Fields.get?_eq_none_iff, hrel.keys_eq, ← Fields.get?_eq_none_iff] at hnone
      rw [hnone, hid]
      rfl
    · rw [htext kindTag (by decide) id hsome]
      rfl
  · exact h.avoids "kind" (by decide)

end ObjectOfChoices

namespace Session
variable {m : Type → Type}

/-- An object built from choices alone renders to its choices. What remains of it stands among
them exactly if some default shows: it does not equal what is stored once it is coerced and
desugared, and it is not blank once it is stripped. -/
theorem run_of_choices (s : Session) (ops : List Config.Op)
    (hreach : s.config.kinds = (Config.run ops).kinds) (id : String) (k : Kind)
    (hk : s.config.kinds.get? id = some k) (hobject : k.typeName = some "object")
    (hdefaults : ∀ key ∈ ["kind", "nullable", "children", "items", "required"] ++ choiceKeys,
      key ∉ (s.config.kinds.defaultsFor id).keys)
    (name : Option Name) (ms : List Node) (hms : ms ≠ []) {n : Node}
    (hn : s.seedNode id ({ name, attributes := [("one_of", .nodes ms)] } : Call m) = .ok n)
    {t : Tree} (ht : Pass.run ⟨s.config.kinds, s.scope⟩ Pass.defaults n.toTree = .ok t) :
    ∃ us rest,
      List.Forall₂ (fun m u =>
        Pass.run ⟨s.config.kinds, s.scope⟩ [.desugar, .box] (Node.toTree m) = .ok u) ms us ∧
      Desugars (.map (n.fields.erase "one_of")) (.map rest) ∧
      (∀ e ∈ rest, e.1 ≠ "kind" → e.1 ∉ bookkeepingKeys → ∃ d v,
        (e.1, d) ∈ s.config.kinds.defaultsFor id ∧ k.check e.1 d = .ok (some v) ∧
          InSlot Desugars e.1 v.toTree e.2) ∧
      ((∀ e ∈ rest, e.1 ≠ "kind" → ¬ Shown (s.config.kinds.defaultsFor id) e) →
        t = choiceDocument us) ∧
      ((∃ e ∈ rest, e.1 ≠ "kind" ∧ Shown (s.config.kinds.defaultsFor id) e) →
        t = choiceDocument (us ++ [box s.config.kinds (.map rest)])) := by
  have hone : canonicalName "one_of" ≠ "kind" := by decide
  have hseed := seedNode_eq s id ({ name, attributes := [("one_of", .nodes ms)] } : Call m)
    (by rw [Call.explicitKind?_of_notMem (by simpa using hone), Option.getD_none]) hk
  have h : ObjectOfChoices s.config.kinds id k name ms n := {
    canonical := hreach ▸ Config.canonical_run ops
    get?_eq := hk
    typeName_eq := hobject
    avoids := fun key hkey => hdefaults key (by simp_all; tauto)
    nonempty := hms
    construct_eq := hseed.symm.trans hn }
  rw [Node.toTree_eq] at ht
  obtain ⟨us, rest, hus, hrel, hrest, rfl⟩ := h.container.exists_of_renders ht
  have hmeaning := h.carriesMeaning_iff hrel
  rw [List.forall₂_map_left_iff] at hus
  refine ⟨us, rest, hus, hrest, fun e he => h.exists_default hrel he, fun hnone => ?_, ?_⟩
  · have hfalse : carriesMeaning s.config.kinds "object" rest ≠ true := by
      rw [ne_eq, hmeaning]
      rintro ⟨e, he, hkind, hshown⟩
      exact hnone e he hkind hshown
    rw [if_neg hfalse, List.append_nil]
  · intro hshown
    rw [if_pos (hmeaning.mpr hshown)]

/-- A kind of objects under another identifier, with a text and a schema among its defaults. -/
def recordDefaults : List Config.Op :=
  [.register (((Kind.new "record").withTypeName "object").declare "owner" .schema),
    .setDefaults "record" [("title", .string "a record"),
      ("owner", .node (.mk .string [("kind", .string "string")]))]]

/-- A record of which nothing but a choice was asked for. -/
def recordNode : Node := .mk (((Kind.new "record").withTypeName "object").declare "owner" .schema)
  [("name", .name (.plain "r")), ("kind", .string "object"), ("title", .string "a record"),
    ("owner", .node (.mk .string [("kind", .string "string")])),
    ("one_of", .nodes [.mk .null [("kind", .string "null")]])]

/-- The call that asks for it. -/
def recordCall : Call Id where
  name := some (.plain "r")
  attributes := [("one_of", .nodes [.mk .null [("kind", .string "null")]])]

theorem run_of_choices_record :
    seedNode ⟨Config.run recordDefaults, none⟩ "record" recordCall = .ok recordNode ∧
    ∃ t us, Pass.run ⟨(Config.run recordDefaults).kinds, none⟩ Pass.defaults recordNode.toTree =
        .ok t ∧
      List.Forall₂ (fun m u => Pass.run ⟨(Config.run recordDefaults).kinds, none⟩ [.desugar, .box]
        (Node.toTree m) = .ok u) [.mk .null [("kind", .string "null")]] us ∧
      t = choiceDocument us := by
  have hrun : Pass.run ⟨(Config.run recordDefaults).kinds, none⟩ Pass.defaults recordNode.toTree =
      .ok (.map [("type", .string "entity"),
        ("oneOf", .list [.map [("type", .string "null")]])]) := rfl
  obtain ⟨us, rest, hus, hrest, _, hhidden, _⟩ := run_of_choices (m := Id)
    ⟨Config.run recordDefaults, none⟩ recordDefaults rfl "record" _ rfl rfl (by decide)
    (some (.plain "r")) [.mk .null [("kind", .string "null")]] (List.cons_ne_nil _ _)
    (n := recordNode) rfl hrun
  have hdesugars : Desugars (.map (recordNode.fields.erase "one_of")) (.map [
      ("name", .string "r"), ("kind", .string "object"), ("title", .string "a record"),
      ("owner", .map [("kind", .string "string")]), (kindTag, .string "record")]) := rfl
  obtain rfl := Tree.map.inj (hrest.unique hdesugars)
  refine ⟨rfl, _, us, hrun, hus, hhidden ?_⟩
  intro e he hkind hshown
  simp only [List.mem_cons, List.not_mem_nil, or_false] at he
  rcases he with rfl | rfl | rfl | rfl | rfl
  · exact hshown.not_bookkeeping (by decide)
  · exact hkind rfl
  · cases hshown.not_default (.string "a record") (.head _)
  · cases hshown.not_default (.node (.mk .string [("kind", .string "string")])) (.tail _ (.head _))
  · exact hshown.not_bookkeeping (by decide)

/-- A default of the object that desugaring rewrites. -/
def nullableDefault : List Config.Op :=
  [.setDefaults "object" [("additional_properties", .node (.mk .string
    [("kind", .string "string"), ("nullable", .literal (.bool true))]))]]

/-- The document of an object with a choice, which its default has joined. -/
def nullableDocument : Tree := .map [("type", .string "entity"), ("oneOf", .list [
  .map [("type", .string "string")],
  .map [("type", .string "object"), ("additionalProperties", .map [("type", .string "entity"),
    ("anyOf", .list [.map [("type", .string "null")], .map [("type", .string "string")]])])]])]

/-- A default that desugaring rewrites makes the object one of its own choices. -/
theorem default_in_document : ¬ ∀ (ops : List Config.Op) (id : String) (k : Kind) (ms : List Node)
    (n : Node) (t : Tree), (Config.run ops).kinds.get? id = some k → k.typeName = some "object" →
    (∀ key ∈ ["kind", "nullable", "children", "items", "required"] ++ choiceKeys,
      key ∉ ((Config.run ops).kinds.defaultsFor id).keys) → ms ≠ [] →
    seedNode ⟨Config.run ops, none⟩ id ({ attributes := [("one_of", .nodes ms)] } : Call Id) =
      .ok n →
    Pass.run ⟨(Config.run ops).kinds, none⟩ Pass.defaults n.toTree = .ok t →
    ∃ us, List.Forall₂ (fun m u => Pass.run ⟨(Config.run ops).kinds, none⟩ [.desugar, .box]
      (Node.toTree m) = .ok u) ms us ∧ t = choiceDocument us := by
  intro h
  obtain ⟨us, hus, ht⟩ := h nullableDefault "object" .object
    [.mk .string [("kind", .string "string")]] _ nullableDocument rfl rfl (by decide)
    (List.cons_ne_nil _ _) rfl rfl
  obtain ⟨u, _, hu, hnil, rfl⟩ := List.forall₂_cons_left_iff.mp hus
  cases hnil
  have hmember : Pass.run ⟨(Config.run nullableDefault).kinds, none⟩ [.desugar, .box]
      (Node.toTree (.mk .string [("kind", .string "string")])) =
        .ok (.map [("kind", .string "string")]) := rfl
  obtain rfl := Except.ok.inj (hmember.symm.trans hu)
  have hdocument : choiceDocument [.map [("kind", .string "string")]] =
      .map [("type", .string "entity"), ("oneOf", .list [.map [("type", .string "string")]])] := rfl
  rw [hdocument] at ht
  simp [nullableDocument] at ht

end Session

end Schemata
