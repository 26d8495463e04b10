import Schemata.Proofs.BareContainer
import Schemata.Proofs.DesugarOrder

/-! What rendering reads of a registry: the defaults of objects, under their own identifier and
under those that tag the schemas of a tree. Everything else about the registry may change. -/
namespace Schemata

namespace Tree

/-- A text stands under the tag key somewhere in a tree, be it a schema or data of the caller. -/
inductive Tagged (id : String) : Tree → Prop where
  | here {fs : Fields Tree} : (kindTag, .string id) ∈ fs → Tagged id (.map fs)
  | value {fs : Fields Tree} {e : String × Tree} : e ∈ fs → Tagged id e.2 → Tagged id (.map fs)
  | item {ts : List Tree} {t : Tree} : t ∈ ts → Tagged id t → Tagged id (.list ts)

/-- All texts under the tag key have a property. -/
def TagsAmong (p : String → Prop) (t : Tree) : Prop := ∀ id, t.Tagged id → p id

variable {p : String → Prop} {t : Tree} {ts : List Tree} {fs gs : Fields Tree} {key : String}

lemma tagsAmong_list_iff : (Tree.list ts).TagsAmong p ↔ ∀ t ∈ ts, t.TagsAmong p := by
  constructor
  · intro h t ht id hid
    exact h id (.item ht hid)
  · rintro h id (_ | _ | ⟨ht, hid⟩)
    exact h _ ht id hid

lemma tagsAmong_map_iff : (Tree.map fs).TagsAmong p ↔
    ∀ e ∈ fs, e.2.TagsAmong p ∧ ∀ id, e = (kindTag, .string id) → p id := by
  constructor
  · intro h e he
    refine ⟨fun id hid => h id (.value he hid), ?_⟩
    rintro id rfl
    exact h id (.here he)
  · rintro h id (hid | ⟨he, hid⟩)
    · exact (h _ hid).2 id rfl
    · exact (h _ he).1 id hid

namespace TagsAmong

lemma of_depth_eq_zero (h : t.depth = 0) : t.TagsAmong p := by
  rintro id (_ | _ | _) <;> cases h

lemma of_subset (h : (Tree.map fs).TagsAmong p) (hsub : ∀ e ∈ gs, e ∈ fs) :
    (Tree.map gs).TagsAmong p :=
  tagsAmong_map_iff.mpr fun e he => tagsAmong_map_iff.mp h e (hsub e he)

lemma of_get? (h : (Tree.map fs).TagsAmong p) {v : Tree} (hv : fs.get? key = some v) :
    v.TagsAmong p :=
  (tagsAmong_map_iff.mp h _ (Fields.mem_of_get? hv)).1

lemma insert (h : (Tree.map fs).TagsAmong p) {v : Tree} (hv : v.TagsAmong p)
    (htag : key ≠ kindTag ∨ v.isMap = true) : (Tree.map (Fields.insert fs key v)).TagsAmong p := by
  rw [tagsAmong_map_iff] at h ⊢
  intro e he
  rcases Fields.mem_insert he with he | rfl
  · exact h e he
  · refine ⟨hv, fun id heq => ?_⟩
    cases heq
    rcases htag with hne | hmap
    · exact absurd rfl hne
    · cases hmap

lemma erase (h : (Tree.map fs).TagsAmong p) (key : String) :
    (Tree.map (Fields.erase fs key)).TagsAmong p :=
  h.of_subset fun _ he => Fields.mem_of_mem_erase he

lemma extend (h : (Tree.map fs).TagsAmong p) (hgs : (Tree.map gs).TagsAmong p) :
    (Tree.map (Fields.extend fs gs)).TagsAmong p := by
  rw [tagsAmong_map_iff] at h hgs ⊢
  intro e he
  rcases Fields.mem_extend he with he | he
  · exact h e he
  · exact hgs e he

lemma of_mem_schemasUnder {v : Tree} (h : v.TagsAmong p) (ht : t ∈ schemasUnder key v) :
    t.TagsAmong p := by
  unfold schemasUnder at ht
  split at ht
  · cases ht
  · rwa [List.mem_singleton.mp ht]
  · rename_i us hs
    cases slot_eq_items hs
    exact tagsAmong_list_iff.mp h t ht
  · rename_i gs hs
    cases slot_eq_entries hs
    obtain ⟨e, he, rfl⟩ := List.mem_map.mp ht
    exact (tagsAmong_map_iff.mp h e he).1

end TagsAmong

end Tree

namespace Tree.TagsAmong
variable {p : String → Prop} {fs gs : Fields Tree} {key : String}

lemma nullSchema : nullSchema.TagsAmong p := by
  refine tagsAmong_map_iff.mpr fun e he => ?_
  obtain rfl := List.mem_singleton.mp he
  refine ⟨.of_depth_eq_zero rfl, fun id heq => ?_⟩
  have hkey : "kind" = kindTag := congrArg Prod.fst heq
  simp [kindTag] at hkey

lemma branchNull (h : (Tree.map fs).TagsAmong p) : (Tree.map (branchNull fs)).TagsAmong p := by
  have hrest := h.erase "nullable"
  have hany : "any_of" ≠ kindTag := by decide
  unfold Schemata.branchNull
  split
  · simp only
    split
    · rename_i branches hbranches
      split
      · exact hrest
      · refine hrest.insert (tagsAmong_list_iff.mpr fun t ht => ?_) (.inl hany)
        rcases List.mem_append.mp ht with ht | ht
        · exact tagsAmong_list_iff.mp (hrest.of_get? hbranches) t ht
        · rw [List.mem_singleton.mp ht]
          exact nullSchema
    · refine hrest.insert (tagsAmong_list_iff.mpr fun t ht => ?_) (.inl hany)
      rw [List.mem_singleton.mp ht]
      exact nullSchema
  · exact h

lemma unwrapItems (h : (Tree.map fs).TagsAmong p) : (Tree.map (unwrapItems fs)).TagsAmong p := by
  have hitems : "items" ≠ kindTag := by decide
  unfold Schemata.unwrapItems
  split
  · rename_i wrapper hwrapper
    split
    · rename_i only honly
      have hchildren := (h.of_get? hwrapper).of_get? honly
      have htags := tagsAmong_list_iff.mp hchildren only (List.mem_singleton_self _)
      exact h.insert htags (.inl hitems)
    · exact h
  · exact h

lemma mergeEntries (h : (Tree.map fs).TagsAmong p) (hgs : (Tree.map gs).TagsAmong p)
    (key : String) : (Tree.map (mergeEntries fs key gs)).TagsAmong p := by
  unfold Schemata.mergeEntries
  split
  · exact h
  · split
    · rename_i existing hexisting
      exact h.insert ((h.of_get? hexisting).extend hgs) (.inr rfl)
    · exact h.insert hgs (.inr rfl)

lemma mergeRequired (h : (Tree.map fs).TagsAmong p) {path : Path} {names : List String}
    (hr : mergeRequired fs path names = .ok gs) : (Tree.map gs).TagsAmong p := by
  rw [tagsAmong_map_iff] at h ⊢
  intro e he
  rcases mem_mergeRequired hr he with he | ⟨hkey, ts, hts, hleaf⟩
  · exact h e he
  · refine ⟨?_, ?_⟩
    · rw [hts]
      exact tagsAmong_list_iff.mpr fun t ht => .of_depth_eq_zero (hleaf t ht)
    · rintro id rfl
      cases hts

lemma withoutFlag {t : Tree} (h : t.TagsAmong p) : t.withoutFlag.TagsAmong p := by
  cases t with
  | map fs =>
    rw [Tree.withoutFlag]
    split
    · exact h.erase "required"
    · exact h
  | _ => exact h

/-- Children bring no tags but their own, whatever their names are. -/
lemma addChildren {children : List Tree} (h : ∀ c ∈ children, c.TagsAmong p) :
    (Tree.map (({} : Promotion).addChildren children).properties).TagsAmong p ∧
      (Tree.map (({} : Promotion).addChildren children).patterns).TagsAmong p := by
  have hchild : ∀ c ∈ children, ∀ name, c.get? "name" = some name → ∀ e : String × Tree,
      c.withoutFlag = e.2 → e.2.TagsAmong p ∧ ∀ id, e = (kindTag, .string id) → p id := by
    rintro c hc name hname ⟨key, value⟩ rfl
    refine ⟨(h c hc).withoutFlag, fun id heq => ?_⟩
    have hmap := (isMap_withoutFlag c).trans (isMap_of_get? hname)
    rw [(Prod.mk.inj heq).2] at hmap
    cases hmap
  constructor
  · refine tagsAmong_map_iff.mpr fun e he => ?_
    have hnamed := (Fields.mem_extend he).resolve_left List.not_mem_nil
    obtain ⟨c, hc, hplain, heq⟩ := exists_of_mem_plainNamed hnamed
    obtain ⟨name, hname, _⟩ := Option.bind_eq_some_iff.mp hplain
    exact hchild c hc name hname e heq
  · refine tagsAmong_map_iff.mpr fun e he => ?_
    have hnamed := (Fields.mem_extend he).resolve_left List.not_mem_nil
    obtain ⟨c, hc, hpattern, heq⟩ := exists_of_mem_patternNamed hnamed
    obtain ⟨tagged, htagged, _⟩ := Option.bind_eq_some_iff.mp hpattern
    obtain ⟨name, hname, _⟩ := Option.bind_eq_some_iff.mp htagged
    exact hchild c hc name hname e heq

lemma promote (h : (Tree.map fs).TagsAmong p) {path : Path} {children : Tree}
    (hc : children.TagsAmong p) (hgs : promote fs path children = .ok gs) :
    (Tree.map gs).TagsAmong p := by
  cases children with
  | list children =>
    obtain ⟨q, hs, hq, hr, rfl⟩ := promote_eq_ok_iff.mp hgs
    obtain ⟨_, rfl⟩ := promoteFrom_eq_ok_iff.mp hq
    obtain ⟨hplain, hpattern⟩ := addChildren (tagsAmong_list_iff.mp hc)
    have hproperties := (h.mergeRequired hr).mergeEntries hplain "properties"
    exact hproperties.mergeEntries hpattern "pattern_properties"
  | _ => cases hgs

lemma settle (h : (Tree.map fs).TagsAmong p) {path : Path} (hgs : settle fs path = .ok gs) :
    (Tree.map gs).TagsAmong p := by
  unfold Schemata.settle at hgs
  split at hgs
  · cases hgs
    exact h.unwrapItems
  · split at hgs
    · rename_i children hchildren
      exact (h.erase "children").promote (h.of_get? hchildren) hgs
    · cases hgs
      exact h

end Tree.TagsAmong

lemma Desugars.eq_string {t : Tree} {text : String} (h : Desugars t (.string text)) :
    t = .string text := by
  have hm : t.isMap = false := h.isMap_eq.symm
  exact (desugars_of_not_map hm).unique h

lemma InSlot.eq_string {key text : String} {v : Tree} (h : InSlot Desugars key v (.string text)) :
    v = .string text := by
  cases h with
  | literal _ => rfl
  | schema _ hr => exact hr.eq_string

lemma InSlot.tagsAmong {p : String → Prop} {key : String} {v w : Tree}
    (h : InSlot Desugars key v w) (hv : v.TagsAmong p)
    (hinner : ∀ t ∈ schemasUnder key v, ∀ u, Desugars t u → u.TagsAmong p) : w.TagsAmong p := by
  cases h with
  | literal _ => exact hv
  | schema hs hr =>
    rw [schemasUnder_of_schema hs] at hinner
    exact hinner v (List.mem_singleton_self v) w hr
  | items hs hr =>
    rw [schemasUnder_of_items hs] at hinner
    refine Tree.tagsAmong_list_iff.mpr fun u hu => ?_
    obtain ⟨t, ht, htu⟩ := exists_of_mem_right hr hu
    exact hinner t ht u htu
  | entries hs hr =>
    rw [schemasUnder_of_entries hs] at hinner
    cases slot_eq_entries hs
    refine Tree.tagsAmong_map_iff.mpr fun f hf => ?_
    obtain ⟨e, he, hkey, htu⟩ := exists_of_mem_right hr hf
    refine ⟨hinner e.2 (List.mem_map_of_mem he) f.2 htu, ?_⟩
    rintro id rfl
    exact (Tree.tagsAmong_map_iff.mp hv e he).2 id (Prod.ext hkey htu.eq_string)

/-- Desugaring makes no tags, and changes none. -/
theorem Tree.TagsAmong.of_desugars {p : String → Prop} {t u : Tree} (ht : t.TagsAmong p)
    (h : Desugars t u) : u.TagsAmong p := by
  induction t using Tree.depth_induction generalizing u with
  | leaf t hm => rwa [h.unique (desugars_of_not_map hm)]
  | map fs ih =>
    obtain ⟨gs, hs, hgs, hrel, rfl⟩ := desugars_map_iff.mp h
    have hsettled := ht.branchNull.settle hgs
    have hinner : ∀ e ∈ gs, ∀ t ∈ schemasUnder e.1 e.2, ∀ u, Desugars t u → u.TagsAmong p := by
      intro e he t htmem u htu
      rcases depth_of_settle hgs he htmem with hless | rfl
      · have hvalue := (tagsAmong_map_iff.mp hsettled e he).1
        exact ih t hless (hvalue.of_mem_schemasUnder htmem) htu
      · have hnull : Desugars Schemata.nullSchema Schemata.nullSchema := rfl
        rw [htu.unique hnull]
        exact .nullSchema
    refine tagsAmong_map_iff.mpr fun f hf => ?_
    obtain ⟨e, he, hkey, hslot⟩ := exists_of_mem_right hrel hf
    obtain ⟨hvalue, htag⟩ := tagsAmong_map_iff.mp hsettled e he
    refine ⟨hslot.tagsAmong hvalue (hinner e he), ?_⟩
    rintro id rfl
    exact htag id (Prod.ext hkey hslot.eq_string)

/-- A key of fields holds one of the defaults. -/
def holdsDefault (defaults : Fields AttrValue) (fs : Fields Tree) (key : String) : Bool :=
  (fs.get? key).any fun t => (defaults.valuesAt key).any fun d => t.same d.toTree

section Drop
variable {d : String × AttrValue} {ds : Fields AttrValue} {fs : Fields Tree} {key : String}

lemma holdsDefault_cons_of_ne (h : d.1 ≠ key) :
    holdsDefault (d :: ds) fs key = holdsDefault ds fs key := by
  rw [holdsDefault, Fields.valuesAt_cons, if_neg h, holdsDefault]

lemma holdsDefault_cons_self :
    holdsDefault (d :: ds) fs d.1 = ((fs.get? d.1).any (fun t => t.same d.2.toTree) ||
      holdsDefault ds fs d.1) := by
  rw [holdsDefault, holdsDefault, Fields.valuesAt_cons, if_pos rfl]
  cases fs.get? d.1 <;> simp

lemma dropDefault_eq (fs : Fields Tree) (d : String × AttrValue) : dropDefault fs d =
    if (fs.get? d.1).any (fun t => t.same d.2.toTree) then fs.erase d.1 else fs := by
  unfold dropDefault
  cases fs.get? d.1 <;> simp

/-- The keys that hold defaults leave, in whatever order the defaults stand. -/
lemma dropDefaults_eq_filter (defaults : Fields AttrValue) (fs : Fields Tree) :
    dropDefaults defaults fs = fs.filter fun e => !holdsDefault defaults fs e.1 := by
  induction defaults generalizing fs with
  | nil =>
    symm
    apply List.filter_eq_self.mpr
    intro e _
    cases h : fs.get? e.1 <;> simp [holdsDefault, h]
  | cons d ds ih =>
    rw [dropDefaults_cons, ih, dropDefault_eq]
    split
    · rename_i hsame
      rw [Fields.erase, List.filter_filter]
      apply List.filter_congr
      intro e _
      by_cases hkey : d.1 = e.1
      · rw [← hkey, holdsDefault_cons_self, hsame]
        simp
      · have hget := Fields.get?_erase_of_ne fs hkey
        rw [holdsDefault_cons_of_ne hkey, holdsDefault, ← Fields.erase, hget, ← holdsDefault]
        simp [Ne.symm hkey]
    · rename_i hdiffers
      apply List.filter_congr
      intro e _
      by_cases hkey : d.1 = e.1
      · rw [← hkey, holdsDefault_cons_self]
        simp [Bool.eq_false_iff.mpr hdiffers]
      · rw [holdsDefault_cons_of_ne hkey]

/-- Equal defaults leave the same fields. -/
lemma dropDefaults_congr {defaults defaults' : Fields AttrValue}
    (h : AttrValue.sameEntries defaults defaults' = true) (fs : Fields Tree) :
    dropDefaults defaults fs = dropDefaults defaults' fs := by
  rw [AttrValue.sameEntries_eq, Fields.sameBy_iff] at h
  have hholds : ∀ key, holdsDefault defaults fs key = holdsDefault defaults' fs key := by
    intro key
    unfold holdsDefault
    congr 1
    funext t
    generalize defaults.valuesAt key = ds, defaults'.valuesAt key = ds', h key = hds
    induction hds with
    | nil => rfl
    | @cons d d' _ _ hdd _ ih =>
      have hsame : t.same d.toTree = t.same d'.toTree := by
        rw [Bool.eq_iff_iff]
        have htree : Tree.Alike d.toTree d'.toTree := AttrValue.same_toTree d d' hdd
        exact ⟨fun ht => Tree.Alike.trans ht htree, fun ht => Tree.Alike.trans ht htree.symm⟩
      rw [List.any_cons, List.any_cons, hsame, ih]
  rw [dropDefaults_eq_filter, dropDefaults_eq_filter]
  simp only [hholds]

end Drop

namespace Registry

/-- The defaults of a kind are equal in both registries. -/
def AgreeOn (r r' : Registry) (id : String) : Prop :=
  AttrValue.sameEntries (r.defaultsFor id) (r'.defaultsFor id) = true

lemma AgreeOn.of_eq {r r' : Registry} {id : String} (h : r.defaultsFor id = r'.defaultsFor id) :
    r.AgreeOn r' id := by
  rw [AgreeOn, h]
  exact AttrValue.sameEntries_refl _

end Registry

section Boxing
variable {r r' : Registry} {p : String → Prop}

lemma carriesMeaning_congr (hobject : r.AgreeOn r' "object") (hp : ∀ id, p id → r.AgreeOn r' id)
    (kind : String) {rest : Fields Tree} (hrest : (Tree.map rest).TagsAmong p) :
    carriesMeaning r kind rest = carriesMeaning r' kind rest := by
  by_cases hkind : kind = "object"
  · subst hkind
    have hid : r.AgreeOn r' (((rest.get? kindTag).bind Tree.string?).getD "object") := by
      cases htag : (rest.get? kindTag).bind Tree.string? with
      | none => exact hobject
      | some id =>
        obtain ⟨t, ht, hstring⟩ := Option.bind_eq_some_iff.mp htag
        cases t with
        | string text =>
          cases hstring
          exact hp id (hrest id (.here (Fields.mem_of_get? ht)))
        | _ => cases hstring
    simp only [carriesMeaning, dropDefaults_congr hid]
  · simp [carriesMeaning, hkind]

lemma boxAlong_congr_registry (hobject : r.AgreeOn r' "object")
    (hp : ∀ id, p id → r.AgreeOn r' id) {v w : Tree → Tree} (keys : List String)
    {fs : Fields Tree} (hfs : (Tree.map fs).TagsAmong p)
    (h : ∀ u, u.depth < (Tree.map fs).depth → u.TagsAmong p → v u = w u) :
    boxAlong r v keys fs = boxAlong r' w keys fs := by
  induction keys generalizing fs with
  | nil =>
    apply congrArg Tree.map
    apply List.map_congr_left
    intro e he
    have hslot : mapSlot v e.1 e.2 = mapSlot w e.1 e.2 := by
      apply mapSlot_congr_of_schemasUnder
      intro t ht
      have hvalue := (Tree.tagsAmong_map_iff.mp hfs e he).1
      exact h t (depth_of_mem_fields he ht) (hvalue.of_mem_schemasUnder ht)
    rw [hslot]
  | cons key keys ih =>
    simp only [boxAlong]
    split
    · rename_i kind m ms _ hk
      have hrest := hfs.erase key
      have hown : boxAlong r v keys (fs.erase key) = boxAlong r' w keys (fs.erase key) := by
        apply ih hrest
        intro u hu
        refine h u ?_
        have := Tree.depthOfFields_filter_le (fun e => decide (e.1 ≠ key)) fs
        simp only [Tree.depth, Fields.erase] at hu ⊢
        omega
      have hmembers : (m :: ms).map v = (m :: ms).map w := by
        apply List.map_congr_left
        intro u hu
        have hdepth := depth_item_lt (Fields.mem_of_get? hk) hu
        refine h u ?_ (Tree.tagsAmong_list_iff.mp (hfs.of_get? hk) u hu)
        simp only [Tree.depth]
        omega
      rw [hown, hmembers, carriesMeaning_congr hobject hp kind hrest]
    · exact ih hfs h

theorem box_congr_registry (hobject : r.AgreeOn r' "object") (hp : ∀ id, p id → r.AgreeOn r' id)
    {t : Tree} (ht : t.TagsAmong p) : box r t = box r' t := by
  induction t using Tree.depth_induction with
  | leaf t hm => rw [box_of_not_map hm, box_of_not_map hm]
  | map fs ih =>
    rw [box_map, box_map]
    exact boxAlong_congr_registry hobject hp choiceKeys ht ih

end Boxing

namespace Config

/-- An operation that leaves the defaults of some kinds alone. -/
def Op.KeepsDefaults (p : String → Prop) : Op → Prop
  | .register _ => True
  | .setDefaults id _ => ¬p id
  | .resetDefaults | .resetKinds | .reset => False

variable {p : String → Prop} {id : String}

lemma defaultsFor_step (c : Config) {op : Op} (hop : op.KeepsDefaults p) (hid : p id) :
    (c.step op).kinds.defaultsFor id = c.kinds.defaultsFor id := by
  cases op with
  | register k => rfl
  | setDefaults other entries =>
    rcases step_setDefaults c other entries with hstep | hset
    · rw [hstep]
    · obtain ⟨_, _, _, _, _, _, hothers⟩ := Registry.setDefaults_eq_ok (setDefaults_eq_ok hset)
      apply hothers id
      rintro rfl
      exact hop hid
  | _ => cases hop

lemma defaultsFor_foldl_step (c : Config) {ops : List Op} (hops : ∀ op ∈ ops, op.KeepsDefaults p)
    (hid : p id) : (ops.foldl step c).kinds.defaultsFor id = c.kinds.defaultsFor id := by
  induction ops generalizing c with
  | nil => rfl
  | cons op ops ih =>
    rw [List.forall_mem_cons] at hops
    rw [List.foldl_cons, ih (c.step op) hops.2, defaultsFor_step c hops.1 hid]

end Config

namespace Pass

/-- The default passes read of a registry the defaults of objects alone, under their identifier
and those that tag a schema of the tree. So they come to the same end whatever kinds there are,
and after operations that leave these defaults alone. -/
theorem run_defaults_congr_registry (t : Tree) (scope scope' : Option Scope) :
    (∀ r r' : Registry, r.AgreeOn r' "object" → (∀ id, t.Tagged id → r.AgreeOn r' id) →
      run ⟨r, scope⟩ defaults t = run ⟨r', scope'⟩ defaults t) ∧
    (∀ (r : Registry) (kinds : List Kind),
      run ⟨{ r with kinds }, scope⟩ defaults t = run ⟨r, scope'⟩ defaults t) ∧
    ∀ (c : Config) (ops : List Config.Op),
      (∀ op ∈ ops, op.KeepsDefaults fun id => id = "object" ∨ t.Tagged id) →
      run ⟨(ops.foldl Config.step c).kinds, scope⟩ defaults t =
        run ⟨c.kinds, scope'⟩ defaults t := by
  have hagree : ∀ r r' : Registry, r.AgreeOn r' "object" →
      (∀ id, t.Tagged id → r.AgreeOn r' id) →
      run ⟨r, scope⟩ defaults t = run ⟨r', scope'⟩ defaults t := by
    intro r r' hobject htags
    rw [run_defaults, run_defaults, run_desugar_box, run_desugar_box]
    cases hd : Schemata.desugar t with
    | error e => rfl
    | ok d =>
      have hall : t.TagsAmong t.Tagged := fun _ hid => hid
      have hbox := box_congr_registry hobject htags (hall.of_desugars hd)
      simp only [Except.map, hbox]
  refine ⟨hagree, fun r kinds => ?_, fun c ops hops => ?_⟩
  · exact hagree _ _ (.of_eq rfl) fun id _ => .of_eq rfl
  · apply hagree
    · exact .of_eq (Config.defaultsFor_foldl_step c hops (.inl rfl))
    · intro id hid
      exact .of_eq (Config.defaultsFor_foldl_step c hops (.inr hid))

/-- An object with a choice, tagged with another kind of objects. -/
def taggedRecord : Tree :=
  .map [("kind", .string "object"), ("title", .string "entry"),
    ("one_of", .list [.map [("kind", .string "string")]]), (kindTag, .string "record")]

lemma tagsAmong_taggedRecord : taggedRecord.TagsAmong fun id => id = "record" := by
  have hleaf : ∀ text, (Tree.string text).TagsAmong fun id => id = "record" :=
    fun _ => .of_depth_eq_zero rfl
  simp [taggedRecord, Tree.tagsAmong_map_iff, Tree.tagsAmong_list_iff, kindTag, hleaf]

theorem run_defaults_congr_registry_record :
    run ⟨⟨Kind.builtin, [("record", [("title", .string "entry"), ("ref", .string "#")])]⟩, none⟩
        defaults taggedRecord =
      run ⟨⟨[], [("email", [("title", .string "mail")]),
        ("record", [("ref", .string "#"), ("title", .string "entry")])]⟩, none⟩
        defaults taggedRecord ∧
    run ⟨([.register (Kind.new "email"), .setDefaults "email" [("title", .string "mail")]].foldl
        Config.step {}).kinds, none⟩ defaults taggedRecord =
      run ⟨.builtin, none⟩ defaults taggedRecord := by
  obtain ⟨hagree, -, hops⟩ := run_defaults_congr_registry taggedRecord none none
  refine ⟨hagree _ _ (.of_eq rfl) ?_, hops {} _ ?_⟩
  · intro id hid
    obtain rfl := tagsAmong_taggedRecord id hid
    simp [Registry.AgreeOn, Registry.defaultsFor, Fields.get?, AttrValue.sameEntries,
      Fields.extract?, AttrValue.string]
  · intro op hop
    rw [List.mem_cons, List.mem_singleton] at hop
    rcases hop with rfl | rfl
    · trivial
    · rintro (heq | htagged)
      · simp at heq
      · simpa using tagsAmong_taggedRecord _ htagged

end Pass

end Schemata
