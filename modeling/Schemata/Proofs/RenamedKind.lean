import Schemata.Proofs.Builtin
import Schemata.Proofs.ExplicitKind
import Schemata.Proofs.Unread

/-! Kinds under another identifier: the tag that tells them from the kind whose type name they
bear goes through all passes, and none of them decides by it. -/
namespace Schemata

/-- Fields of a kind that has no defaults, with a tag and without lists of choices. -/
structure TaggedLevel (kinds : Registry) (fs : Fields Tree) (kind id : String) : Prop where
  nodup : fs.keys.Nodup
  kind_eq : fs.get? "kind" = some (.string kind)
  tag_eq : fs.get? kindTag = some (.string id)
  no_choices : ∀ key ∈ choiceKeys, fs.get? key = none
  not_null : kind ≠ "null"
  defaults_kind : kinds.defaultsFor kind = []
  defaults_id : kinds.defaultsFor id = []

/-- Such fields once they are desugared: null is the one choice there may be. -/
structure TaggedDesugared (kinds : Registry) (fs : Fields Tree) (kind id : String) : Prop where
  kind_eq : fs.get? "kind" = some (.string kind)
  tag_eq : fs.get? kindTag = some (.string id)
  any_of : fs.get? "any_of" = none ∨ fs.get? "any_of" = some (.list [nullSchema])
  one_of : fs.get? "one_of" = none
  all_of : fs.get? "all_of" = none
  not_null : kind ≠ "null"
  defaults_kind : kinds.defaultsFor kind = []
  defaults_id : kinds.defaultsFor id = []

section Tagged
variable {kinds : Registry} {fs hs : Fields Tree} {kind id : String}

lemma get?_any_of_branchNull_of_none (h : fs.get? "any_of" = none) :
    (branchNull fs).get? "any_of" = none ∨
      (branchNull fs).get? "any_of" = some (.list [nullSchema]) := by
  have hrest : (fs.erase "nullable").get? "any_of" = none := by
    rw [Fields.get?_erase_of_ne _ (by decide), h]
  unfold branchNull
  split
  · simp only [hrest]
    exact .inr (Fields.get?_insert_self _ _ _)
  · exact .inl h

lemma TaggedLevel.desugared (h : TaggedLevel kinds fs kind id)
    (hd : Desugars (.map fs) (.map hs)) : TaggedDesugared kinds hs kind id := by
  obtain ⟨gs, hs', hgs, hrel, heq⟩ := desugars_map_iff.mp hd
  cases heq
  have hsettle := settle_agree hgs
  have hbranch := branchNull_agree fs
  have hleaf : ∀ key text, key ∉ sugarKeys → key ∉ ["nullable", "any_of"] →
      fs.get? key = some (.string text) → hs.get? key = some (.string text) := by
    intro key text hsugar hnull hvalue
    rw [← hbranch.get?_eq key hnull, ← hsettle.get?_eq key hsugar] at hvalue
    obtain ⟨w, hw, hslot⟩ := hrel.exists_of_get? hvalue
    rwa [hslot.eq_of_literal (slot_of_depth_eq_zero rfl key)] at hw
  have hnone : ∀ key, gs.get? key = none → hs.get? key = none := by
    intro key hkey
    rw [Fields.get?_eq_none_iff] at hkey ⊢
    rwa [← hrel.keys_eq]
  have hmissing : ∀ key ∈ choiceKeys, key ≠ "any_of" → hs.get? key = none := by
    intro key hk hany
    have hall : ∀ key ∈ choiceKeys, key ∉ sugarKeys ∧ key ≠ "nullable" := by decide
    obtain ⟨hsugar, hnullable⟩ := hall key hk
    apply hnone
    rw [hsettle.get?_eq key hsugar, hbranch.get?_eq key (by simp [hnullable, hany]),
      h.no_choices key hk]
  refine ⟨hleaf _ _ (by decide) (by decide) h.kind_eq, hleaf _ _ (by decide) (by decide) h.tag_eq,
    ?_, hmissing _ (by decide) (by decide), hmissing _ (by decide) (by decide), h.not_null,
    h.defaults_kind, h.defaults_id⟩
  have hany := get?_any_of_branchNull_of_none (h.no_choices "any_of" (by decide))
  rw [← hsettle.get?_eq "any_of" (by decide)] at hany
  rcases hany with hany | hany
  · exact .inl (hnone _ hany)
  · obtain ⟨w, hw, hslot⟩ := hrel.exists_of_get? hany
    have hnull : Desugars nullSchema nullSchema := rfl
    have hitems : slot "any_of" (.list [nullSchema]) = .items [nullSchema] := rfl
    obtain ⟨us, rfl, hus⟩ := hslot.exists_items hitems
    cases hus with
    | cons hu hrest =>
      cases hrest
      rw [hu.unique hnull] at hw
      exact .inr hw

/-- Without its tag an object says as much as with it. -/
lemma carriesMeaning_erase_tag {rest : Fields Tree} (htag : rest.get? kindTag = some (.string id))
    (hkind : kinds.defaultsFor kind = []) (hid : kinds.defaultsFor id = []) :
    carriesMeaning kinds kind (rest.erase kindTag) = carriesMeaning kinds kind rest := by
  have hbook : kindTag ∈ bookkeepingKeys := by decide
  simp only [carriesMeaning, Fields.get?_erase_self, htag, Option.bind_none, Option.bind_some,
    Tree.string?, Option.getD_none, Option.getD_some, hkind, hid]
  rw [dropDefaults, dropDefaults, List.foldl_nil, List.foldl_nil, strip_erase hbook]

/-- Null as the one choice joins what remains of a schema, if that says anything. -/
lemma box_of_null_choice (kinds : Registry) (hkind : specificKind? fs = some kind)
    (hany : fs.get? "any_of" = some (.list [nullSchema])) (hone : fs.get? "one_of" = none)
    (hall : fs.get? "all_of" = none) : box kinds (.map fs) = boxed "any_of" (nullSchema ::
      if carriesMeaning kinds kind (fs.erase "any_of") then
        [.map (mapSchemas (box kinds) (fs.erase "any_of"))] else []) := by
  have hnull : box kinds nullSchema = nullSchema := by
    rw [nullSchema, box_map]
    rfl
  have hrest : Unboxed (fs.erase "any_of") := by
    right
    intro key hk
    simp only [choiceKeys, List.mem_cons, List.not_mem_nil, or_false] at hk
    rcases hk with rfl | rfl | rfl
    · exact .inl (Fields.get?_erase_self fs "any_of")
    · exact .inl (by rw [Fields.get?_erase_of_ne _ (by decide), hone])
    · exact .inl (by rw [Fields.get?_erase_of_ne _ (by decide), hall])
  have hfirst := firstChoices?_of_any_of hany (List.cons_ne_nil nullSchema [])
  rw [box_eq_boxed kinds hkind hfirst, box_of_unboxed kinds hrest, List.map_singleton, hnull,
    List.singleton_append]

lemma finish_boxed_null {t : Tree} (hmap : t.isMap = true) (hblank : t.isBlank = false)
    (hne : t ≠ nullSchema) : finish (boxed "any_of" [nullSchema, t]) =
      .map [("type", .string "entity"), ("anyOf", .list [finish nullSchema, finish t])] := by
  have hsame : nullSchema.same t = false := by
    rw [← Bool.not_eq_true, Tree.nullSchema_same_iff]
    exact hne
  have hkept : Tree.dedupe ([nullSchema, t].filter fun m => !m.isBlank) = [nullSchema, t] := by
    have hnull : nullSchema.isBlank = false := rfl
    simp [Tree.dedupe, Tree.isMember, hnull, hblank, hsame]
  have hmaps : ∀ m ∈ [nullSchema, t], m.isMap = true := by
    intro m hm
    rw [List.mem_cons, List.mem_singleton] at hm
    rcases hm with rfl | rfl
    · rfl
    · exact hmap
  have hany : documentKey "any_of" = "anyOf" := by decide
  rw [boxed, hkept, finish_box (by decide), finishMembers_of_maps hmaps, hany]
  rfl

/-- What remains of the schema beside null is a schema of its kind. -/
lemma TaggedDesugared.rest (h : TaggedDesugared kinds fs kind id) (visit : Tree → Tree) :
    ∀ rest : Fields Tree, rest.get? "kind" = fs.get? "kind" →
      (Tree.map (mapSchemas visit rest)).isBlank = false ∧
        Tree.map (mapSchemas visit rest) ≠ nullSchema := by
  intro rest hrest
  rw [h.kind_eq] at hrest
  obtain ⟨w, hw, hslot⟩ := (rel_mapSchemas visit rest).exists_of_get? hrest
  rw [hslot.eq_of_literal (slot_of_depth_eq_zero rfl "kind")] at hw
  constructor
  · cases hm : mapSchemas visit rest with
    | nil =>
      rw [hm] at hw
      cases hw
    | cons e es => rfl
  · intro hnull
    rw [nullSchema] at hnull
    rw [Tree.map.inj hnull] at hw
    cases hw
    exact h.not_null rfl

lemma specificKind?_of_kind (h : fs.get? "kind" = some (.string kind)) :
    specificKind? fs = if kind = Kind.entityId then none else some kind := by
  rw [specificKind?, h]

lemma specificKind?_erase_tag (fs : Fields Tree) :
    specificKind? (fs.erase kindTag) = specificKind? fs := by
  rw [specificKind?, specificKind?, Fields.get?_erase_of_ne _ (by decide)]

lemma finish_box_erase_of_unboxed (kinds : Registry) (h : specificKind? fs = none ∨
      ∀ key ∈ choiceKeys, fs.get? key = none ∨ fs.get? key = some (.list [])) :
    finish (box kinds (.map (fs.erase kindTag))) = finish (box kinds (.map fs)) := by
  have hbook : kindTag ∈ bookkeepingKeys := by decide
  have herased : specificKind? (fs.erase kindTag) = none ∨ ∀ key ∈ choiceKeys,
      (fs.erase kindTag).get? key = none ∨ (fs.erase kindTag).get? key = some (.list []) := by
    rw [specificKind?_erase_tag]
    refine h.imp_right fun hchoices key hk => ?_
    have hall : ∀ key ∈ choiceKeys, kindTag ≠ key := by decide
    rw [Fields.get?_erase_of_ne _ (hall key hk)]
    exact hchoices key hk
  rw [box_map, box_map, boxAlong_of_unboxed kinds _ h, boxAlong_of_unboxed kinds _ herased,
    ← erase_mapSchemas, finish_erase hbook]

lemma TaggedDesugared.finish_box_erase_of_null_choice (h : TaggedDesugared kinds fs kind id)
    (hentity : kind ≠ Kind.entityId) (hany : fs.get? "any_of" = some (.list [nullSchema])) :
    finish (box kinds (.map (fs.erase kindTag))) = finish (box kinds (.map fs)) := by
  have hget : ∀ key, kindTag ≠ key → (fs.erase kindTag).get? key = fs.get? key :=
    fun key hk => Fields.get?_erase_of_ne fs hk
  have hspecific : specificKind? fs = some kind := by
    rw [specificKind?_of_kind h.kind_eq, if_neg hentity]
  have hspecific' := (specificKind?_erase_tag fs).trans hspecific
  have htag : (fs.erase "any_of").get? kindTag = some (.string id) := by
    rw [Fields.get?_erase_of_ne _ (by decide), h.tag_eq]
  have hkind : (fs.erase "any_of").get? "kind" = fs.get? "kind" :=
    Fields.get?_erase_of_ne _ (by decide)
  rw [box_of_null_choice kinds hspecific hany h.one_of h.all_of,
    box_of_null_choice kinds hspecific' ((hget _ (by decide)).trans hany)
      ((hget _ (by decide)).trans h.one_of) ((hget _ (by decide)).trans h.all_of),
    Fields.erase_comm, carriesMeaning_erase_tag htag h.defaults_kind h.defaults_id,
    ← erase_mapSchemas]
  split
  · obtain ⟨hblank, hne⟩ := h.rest (box kinds) _ hkind
    obtain ⟨hblank', hne'⟩ := h.rest (box kinds) ((fs.erase "any_of").erase kindTag)
      ((Fields.get?_erase_of_ne _ (by decide)).trans hkind)
    rw [← erase_mapSchemas] at hblank' hne'
    rw [finish_boxed_null rfl hblank' hne', finish_boxed_null rfl hblank hne,
      finish_erase (by decide)]
  · rfl

/-- The tag makes no difference to the document of a schema. -/
theorem TaggedDesugared.finish_box_erase (h : TaggedDesugared kinds fs kind id) :
    finish (box kinds (.map (fs.erase kindTag))) = finish (box kinds (.map fs)) := by
  rcases h.any_of with hany | hany
  · refine finish_box_erase_of_unboxed kinds (.inr fun key hk => .inl ?_)
    simp only [choiceKeys, List.mem_cons, List.not_mem_nil, or_false] at hk
    rcases hk with rfl | rfl | rfl
    · exact hany
    · exact h.one_of
    · exact h.all_of
  · by_cases hentity : kind = Kind.entityId
    · apply finish_box_erase_of_unboxed kinds
      left
      rw [specificKind?_of_kind h.kind_eq, if_pos hentity]
    · exact h.finish_box_erase_of_null_choice hentity hany

end Tagged

/-- The tag makes no difference to whether a schema renders, nor to what it renders to. -/
theorem TaggedLevel.run_erase {c : RenderContext} {fs : Fields Tree} {kind id : String}
    (h : TaggedLevel c.kinds fs kind id) :
    (Pass.run c Pass.defaults (.map fs)).toOption =
      (Pass.run c Pass.defaults (.map (fs.erase kindTag))).toOption := by
  have hslot : ∀ v, fs.get? kindTag = some v → slot kindTag v = .literal := by
    intro v hv
    rw [h.tag_eq] at hv
    cases hv
    exact slot_of_depth_eq_zero rfl kindTag
  have hiff : ∀ t, Renders c (.map fs) t ↔ Renders c (.map (fs.erase kindTag)) t := by
    intro t
    rw [renders_iff, renders_iff]
    constructor
    · rintro ⟨d, hd, rfl⟩
      obtain ⟨hs, rfl⟩ := Tree.isMap_eq_true_iff.mp hd.isMap_eq
      refine ⟨.map (Fields.erase hs kindTag), hd.erase (by decide), ?_⟩
      exact (h.desugared hd).finish_box_erase.symm
    · rintro ⟨own, hown, rfl⟩
      obtain ⟨hs, hd, rfl⟩ := (desugars_erase_iff (by decide) h.nodup hslot).mp hown
      exact ⟨.map hs, hd, (h.desugared hd).finish_box_erase⟩
  apply Option.ext
  intro t
  have htoOption : ∀ r : Except Error Tree, r.toOption = some t ↔ r = .ok t := by
    intro r
    cases r <;> simp [Except.toOption]
  rw [htoOption, htoOption]
  exact hiff t

/-- A text that passes a check stands in trees as itself. -/
lemma Kind.toTree_of_check_text {d : Kind} {name text : String} {w : AttrValue}
    (h : d.check name (.string text) = .ok (some w)) : w.toTree = .string text := by
  obtain ⟨ty, _, ⟨hnull, _⟩ | ⟨_, v, hv, heq⟩⟩ := check_eq_ok_iff.mp h
  · cases hnull
  · cases heq
    rcases AttrType.coerce_text hv with ⟨rfl, _⟩ | ⟨rfl, _⟩
    · rw [AttrValue.toTree_literal]
    · rw [AttrValue.toTree_name, Name.toTree]

/-- Kinds that declare the same attributes let the same values through. -/
lemma Kind.check_ok_congr {k l : Kind}
    (h : ∀ name, Fields.get? k.attributes name = Fields.get? l.attributes name) {name : String}
    {v : AttrValue} {r : Option AttrValue} (hk : k.check name v = .ok r) :
    l.check name v = .ok r := by
  rw [check_eq_ok_iff] at hk ⊢
  rwa [← h name]

lemma Registry.checkEntries_ok_congr {k l : Kind}
    (h : ∀ name, Fields.get? k.attributes name = Fields.get? l.attributes name)
    {es : List (String × AttrValue)} {vs : List (String × Option AttrValue)}
    (hk : checkEntries k es = .ok vs) : checkEntries l es = .ok vs := by
  induction es generalizing vs with
  | nil => exact hk
  | cons e es ih =>
    obtain ⟨v, ws, hv, hw, rfl⟩ := checkEntries_cons_eq_ok.mp hk
    exact checkEntries_cons_eq_ok.mpr ⟨v, ws, Kind.check_ok_congr h hv, ih hw, rfl⟩

/-- A kind bears the type name of another one, which is the identifier of that, and declares
the same attributes; neither has defaults. -/
structure Registry.Renames (r : Registry) (id original : String) (k l : Kind) : Prop where
  get?_id : r.get? id = some k
  get?_original : r.get? original = some l
  ne : id ≠ original
  typeName_eq : k.typeName = some original
  typeName_original : l.typeName = some original
  attributes_eq : ∀ name, Fields.get? k.attributes name = Fields.get? l.attributes name
  defaults_id : r.defaultsFor id = []
  defaults_original : r.defaultsFor original = []

namespace Registry.Renames
variable {r : Registry} {id original : String} {k l : Kind}

lemma tag_eq (h : r.Renames id original k l) : k.tag = [(kindTag, .string id)] := by
  have hid : k.id = id := by simpa using List.find?_some h.get?_id
  rw [Kind.tag, h.typeName_eq]
  simp only [hid]
  exact if_neg (Ne.symm h.ne)

lemma tag_original (h : r.Renames id original k l) : l.tag = [] := by
  have hid : l.id = original := by simpa using List.find?_some h.get?_original
  simp [Kind.tag, h.typeName_original, hid]

lemma seed_eq (h : r.Renames id original k l) (name : Option Name)
    (attributes : List (String × AttrValue)) :
    seed r id k name attributes = seed r original l name attributes := by
  rw [seed, seed, h.typeName_eq, h.typeName_original, h.defaults_id, h.defaults_original]

/-- The tag is all that tells the tree of a node of the one kind from that of the other. -/
lemma fields_erase (h : r.Renames id original k l) {as : Fields AttrValue}
    (hkeys : kindTag ∉ Fields.keys as) :
    (Node.mk k as).fields.erase kindTag = (Node.mk l as).fields := by
  have hnone : kindTag ∉ Fields.keys (Fields.mapValues AttrValue.toTree as) := by
    rwa [Fields.keys_mapValues]
  have hk : (Node.mk k as).fields =
      Fields.insert (Fields.mapValues AttrValue.toTree as) kindTag (.string id) := by
    rw [Node.fields, Node.kind, Node.attributes, h.tag_eq]
    rfl
  have hl : (Node.mk l as).fields = Fields.mapValues AttrValue.toTree as := by
    rw [Node.fields, Node.kind, Node.attributes, h.tag_original]
    rfl
  rw [hk, hl, Fields.erase_insert_self, Fields.erase_of_notMem hnone]

/-- The node that a plain call makes of a renamed kind is tagged, and has no lists of choices. -/
lemma taggedLevel (h : r.Renames id original k l) (hnull : original ≠ "null") {name : Option Name}
    {attributes : List (String × AttrValue)}
    (hplain : ∀ e ∈ attributes, canonicalName e.1 ∉ "kind" :: choiceKeys)
    {vs : List (String × Option AttrValue)}
    (hvs : checkEntries k (seed r id k name attributes) = .ok vs) :
    kindTag ∉ Fields.keys (Fields.assignAll [] vs) ∧
      TaggedLevel r (Node.mk k (Fields.assignAll [] vs)).fields original id := by
  have hmem : ∀ key ∈ Fields.keys (Fields.assignAll [] vs),
      ∃ e ∈ seed r id k name attributes, canonicalName e.1 = key := by
    intro key hk
    obtain ⟨v, hv⟩ := Fields.mem_keys.mp hk
    rcases Fields.mem_assignAll hv with hv | hv
    · cases hv
    · obtain ⟨e, he, hname, _⟩ := mem_of_checkEntries hvs hv
      exact ⟨e, he, hname⟩
  have htag : kindTag ∉ Fields.keys (Fields.assignAll [] vs) := by
    intro hk
    obtain ⟨e, _, hname⟩ := hmem kindTag hk
    exact canonicalName_ne_kindTag e.1 hname
  have hconstruct : Node.construct k (seed r id k name attributes) =
      .ok (.mk k (Fields.assignAll [] vs)) := Node.construct_eq_ok_iff.mpr ⟨vs, hvs, rfl⟩
  have hlabels : k.Labels (Fields.assignAll [] vs) := by
    refine labels_of_seed_of_defaults (fun e he => ?_) (fun e he hkey => ?_) hvs
    · rw [h.defaults_id] at he
      cases he
    · exact hplain e he (hkey ▸ List.mem_cons_self)
  refine ⟨htag, Node.nodup_fields (Node.wellformed_construct hconstruct), ?_, ?_, ?_, hnull,
    h.defaults_original, h.defaults_id⟩
  · rw [Kind.Labels, h.typeName_eq] at hlabels
    obtain ⟨w, hw, hget⟩ := hlabels
    rw [Node.get?_fields _ (by decide), Node.attr?, Node.attributes, hget, Option.map_some,
      Kind.toTree_of_check_text hw]
  · rw [Node.fields, Node.kind, h.tag_eq]
    exact Fields.get?_insert_self _ _ _
  · intro key hk
    have hall : ∀ key ∈ choiceKeys, key ≠ kindTag ∧ key ≠ canonicalName "name" ∧
        key ≠ canonicalName "kind" := by decide
    obtain ⟨hne, hname, hkind⟩ := hall key hk
    rw [Node.get?_fields _ hne, Option.map_eq_none_iff, Node.attr?, Fields.get?_eq_none_iff]
    intro hmemkey
    obtain ⟨e, he, rfl⟩ := hmem key hmemkey
    rcases mem_seed he with hfirst | hfirst | hdefault | hattr
    · exact hname (congrArg canonicalName hfirst)
    · exact hkind (congrArg canonicalName hfirst)
    · rw [h.defaults_id] at hdefault
      cases hdefault
    · exact hplain e hattr (List.mem_cons_of_mem _ hk)

end Registry.Renames

namespace Session
variable {m : Type → Type} [Monad m] [LawfulMonad m]

lemma render_of_no_block (s : Session) (kind : String) {call : Call m} (hb : call.block = none) :
    (s.render kind call).run = pure (s.seedNode kind call >>= s.renderNode) := by
  rw [render, ExceptT.run_bind, build_of_no_block s kind hb, pure_bind]
  cases s.seedNode kind call <;> rfl

end Session

/-- Two operations fail on the same calls that have no block and name neither a kind nor choices,
and render the others to the same documents. -/
def Session.RenderAlike (s : Session) (id other : String) : Prop :=
  ∀ (m : Type → Type) [Monad m] [LawfulMonad m] (call : Call m), call.block = none →
    (∀ e ∈ call.attributes, canonicalName e.1 ∉ "kind" :: choiceKeys) →
    ∃ r own, (s.render id call).run = pure r ∧ (s.render other call).run = pure own ∧
      r.toOption = own.toOption

namespace Session
variable {s : Session} {id original : String} {k l : Kind}

lemma renderAlike_of_renames (hpasses : s.config.passes = Pass.defaults)
    (h : s.config.kinds.Renames id original k l) (hnull : original ≠ "null") :
    s.RenderAlike id original := by
  intro m _ _ call hblock hplain
  refine ⟨_, _, render_of_no_block s id hblock, render_of_no_block s original hblock, ?_⟩
  have hexplicit : call.explicitKind? = none := by
    apply Call.explicitKind?_of_notMem
    intro e he hkey
    exact hplain e he (hkey ▸ List.mem_cons_self)
  rw [seedNode_eq s id call (by rw [hexplicit, Option.getD_none]) h.get?_id,
    seedNode_eq s original call (by rw [hexplicit, Option.getD_none]) h.get?_original,
    ← h.seed_eq, Node.construct_eq, Node.construct_eq]
  cases hk : Registry.checkEntries k (seed s.config.kinds id k call.name call.attributes) with
  | ok vs =>
    obtain ⟨htag, hlevel⟩ := h.taggedLevel hnull hplain hk
    rw [Registry.checkEntries_ok_congr h.attributes_eq hk]
    change (s.renderNode _).toOption = (s.renderNode _).toOption
    rw [renderNode, renderNode, hpasses, Node.toTree_eq, Node.toTree_eq, ← h.fields_erase htag]
    exact TaggedLevel.run_erase hlevel
  | error e =>
    cases hl : Registry.checkEntries l (seed s.config.kinds id k call.name call.attributes) with
    | ok vs =>
      have hback := Registry.checkEntries_ok_congr (fun name => (h.attributes_eq name).symm) hl
      rw [hback] at hk
      cases hk
    | error e' => rfl

/-- A kind that renames another one renders as that other, unless it renames null. So do the two
kinds of numbers, as long as neither has defaults. -/
theorem renderAlike_renamed (hpasses : s.config.passes = Pass.defaults) :
    (∀ id original k l, s.config.kinds.Renames id original k l → original ≠ "null" →
      s.RenderAlike id original) ∧
    (s.config.kinds.get? "numeric" = some Kind.numeric →
      s.config.kinds.get? "number" = some Kind.number →
      s.config.kinds.defaultsFor "numeric" = [] → s.config.kinds.defaultsFor "number" = [] →
      s.RenderAlike "numeric" "number") := by
  refine ⟨fun id original k l h hnull => renderAlike_of_renames hpasses h hnull, ?_⟩
  intro hnumeric hnumber hdefaults hdefaults'
  refine renderAlike_of_renames hpasses (k := Kind.numeric) (l := Kind.number) ?_ (by decide)
  exact ⟨hnumeric, hnumber, by decide, rfl, rfl, fun _ => rfl, hdefaults, hdefaults'⟩

/-- A session in which integers have a second name. -/
def counting : Session where
  config := Config.register {} { Kind.integer with id := "count" }

theorem renderAlike_renamed_count :
    counting.RenderAlike "count" "integer" ∧ counting.RenderAlike "numeric" "number" := by
  obtain ⟨hrenames, hnumbers⟩ := renderAlike_renamed (s := counting) rfl
  refine ⟨hrenames "count" "integer" { Kind.integer with id := "count" } Kind.integer ?_
    (by decide), hnumbers rfl rfl rfl rfl⟩
  exact ⟨rfl, rfl, by decide, rfl, rfl, fun _ => rfl, rfl, rfl⟩

end Session

end Schemata
