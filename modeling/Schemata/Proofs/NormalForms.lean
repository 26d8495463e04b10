import Schemata.Proofs.Children
import Schemata.Proofs.DesugarOrder

/-! Normal forms: the trees on which desugaring and boxing have nothing to do, and one run of each
that leads there. -/
namespace Schemata

section Slots
variable {f : Tree → Tree} {R : Tree → Tree → Prop}

lemma mapSlot_id (key : String) (value : Tree) : mapSlot id key value = value := by
  cases hs : slot key value with
  | literal => simp only [mapSlot, hs]
  | schema => simp only [mapSlot, hs, id]
  | items ts =>
    obtain rfl := slot_eq_items hs
    simp only [mapSlot, hs, List.map_id]
  | entries fs =>
    obtain rfl := slot_eq_entries hs
    simp [mapSlot, hs, Fields.mapValues]

lemma mapSchemas_eq_self {fs : Fields Tree}
    (h : ∀ e ∈ fs, ∀ t ∈ schemasUnder e.1 e.2, f t = t) : mapSchemas f fs = fs := by
  rw [mapSchemas]
  refine (List.map_congr_left fun e he => ?_).trans (List.map_id fs)
  rw [mapSlot_congr_of_schemasUnder (g := id) (h e he), mapSlot_id]
  rfl

lemma InSlot.refl {key : String} {value : Tree} (h : ∀ t ∈ schemasUnder key value, R t t) :
    InSlot R key value value := by
  cases hs : slot key value with
  | literal => exact .literal hs
  | schema =>
    rw [schemasUnder_of_schema hs] at h
    exact .schema hs (h value (List.mem_singleton_self value))
  | items ts =>
    rw [schemasUnder_of_items hs] at h
    obtain rfl := slot_eq_items hs
    exact .items hs (List.forall₂_same.mpr h)
  | entries fs =>
    rw [schemasUnder_of_entries hs] at h
    obtain rfl := slot_eq_entries hs
    refine .entries hs (List.forall₂_same.mpr fun e he => ⟨rfl, ?_⟩)
    exact h e.2 (List.mem_map_of_mem he)

/-- A schema that is visited in what a pass makes of fields is made of one that is visited in
them. -/
lemma Visits.exists_of_rel (hR : ∀ t u, R t u → u.isMap = t.isMap) {fs gs : Fields Tree}
    (hrel : Fields.Rel (InSlot R) fs gs) {u : Tree} (hu : Visits (.map gs) u) :
    ∃ t, Visits (.map fs) t ∧ R t u := by
  obtain ⟨hmem, hu⟩ := hu
  obtain ⟨⟨key, value⟩, he, rfl, hslot⟩ := exists_of_mem_right hrel hmem
  obtain ⟨t, ht, htu⟩ := hslot.exists_of_mem_schemasUnder hR hu
  exact ⟨t, .under he ht, htu⟩

end Slots

namespace Tree

/-- A member of a list, or a value of a map. -/
inductive Holds : Tree → Tree → Prop where
  | item {ts : List Tree} {t : Tree} : t ∈ ts → Holds (.list ts) t
  | value {fs : Fields Tree} {e : String × Tree} : e ∈ fs → Holds (.map fs) e.2

/-- No map in a tree has items and children at once. -/
def Unmixed (t : Tree) : Prop := ∀ fs : Fields Tree, Relation.ReflTransGen Holds t (.map fs) →
  fs.get? "items" = none ∨ fs.get? "children" = none

variable {t u : Tree} {ts : List Tree} {fs gs : Fields Tree}

lemma holds_of_mem_schemasUnder {key : String} (h : u ∈ schemasUnder key t) :
    Relation.ReflTransGen Holds t u := by
  unfold schemasUnder at h
  split at h
  · cases h
  · rw [List.mem_singleton.mp h]
  · rename_i us hs
    obtain rfl := slot_eq_items hs
    exact .single (.item h)
  · rename_i gs hs
    obtain rfl := slot_eq_entries hs
    obtain ⟨e, he, rfl⟩ := List.mem_map.mp h
    exact .single (.value he)

lemma unmixed_list_iff : (list ts).Unmixed ↔ ∀ t ∈ ts, t.Unmixed := by
  constructor
  · exact fun h t ht fs hfs => h fs (.head (.item ht) hfs)
  · intro h fs hfs
    rcases hfs.cases_head with heq | ⟨u, hu, hfs⟩
    · cases heq
    · cases hu with
      | item ht => exact h _ ht fs hfs

lemma unmixed_map_iff : (map fs).Unmixed ↔
    (fs.get? "items" = none ∨ fs.get? "children" = none) ∧ ∀ e ∈ fs, e.2.Unmixed := by
  constructor
  · exact fun h => ⟨h fs .refl, fun e he gs hgs => h gs (.head (.value he) hgs)⟩
  · rintro ⟨hroot, h⟩ gs hgs
    rcases hgs.cases_head with heq | ⟨u, hu, hgs⟩
    · cases heq
      exact hroot
    · cases hu with
      | value he => exact h _ he gs hgs

namespace Unmixed

lemma of_holds (h : t.Unmixed) (hu : Relation.ReflTransGen Holds t u) : u.Unmixed :=
  fun fs hfs => h fs (hu.trans hfs)

lemma of_depth_eq_zero (h : t.depth = 0) : t.Unmixed := by
  intro gs hgs
  rcases hgs.cases_head with rfl | ⟨u, hu, _⟩
  · cases h
  · cases hu <;> cases h

lemma erase (h : (Tree.map fs).Unmixed) (key : String) :
    (Tree.map (Fields.erase fs key)).Unmixed := by
  have hnone : ∀ other, fs.get? other = none → (fs.erase key).get? other = none := by
    intro other hother
    rw [Fields.get?_eq_none_iff] at hother ⊢
    rw [Fields.keys_erase]
    exact fun hmem => hother (List.mem_of_mem_filter hmem)
  obtain ⟨hroot, hvalues⟩ := unmixed_map_iff.mp h
  refine unmixed_map_iff.mpr ⟨hroot.imp (hnone "items") (hnone "children"), fun e he => ?_⟩
  exact hvalues e (Fields.mem_of_mem_erase he)

lemma withoutFlag (h : t.Unmixed) : t.withoutFlag.Unmixed := by
  cases t with
  | map fs =>
    rw [Tree.withoutFlag]
    split
    · exact h.erase "required"
    · exact h
  | _ => exact h

lemma nullSchema : nullSchema.Unmixed := by
  refine unmixed_map_iff.mpr ⟨.inl rfl, fun e he => ?_⟩
  rw [List.mem_singleton.mp he]
  exact of_depth_eq_zero rfl

end Unmixed

end Tree

/-- A schema that stands under a level once it is settled: the choice of null, a part of the level,
or such a part as a child without its flag. -/
inductive Stems (fs : Fields Tree) : Tree → Prop where
  | null : Stems fs nullSchema
  | part {t : Tree} : Relation.TransGen Tree.Holds (.map fs) t → Stems fs t
  | child {c : Tree} : Relation.TransGen Tree.Holds (.map fs) c → Stems fs c.withoutFlag

/-- Fields under which stand schemas from a level alone. -/
def Stemming (fs gs : Fields Tree) : Prop := ∀ e ∈ gs, ∀ t ∈ schemasUnder e.1 e.2, Stems fs t

namespace Stemming
variable {fs gs hs : Fields Tree} {key : String}

lemma part_of_mem {e : String × Tree} (he : e ∈ fs) {t : Tree}
    (ht : Relation.ReflTransGen Tree.Holds e.2 t) : Stems fs t :=
  .part (.head' (.value he) ht)

lemma refl (fs : Fields Tree) : Stemming fs fs :=
  fun _ he _ ht => part_of_mem he (Tree.holds_of_mem_schemasUnder ht)

lemma erase (h : Stemming fs gs) (key : String) : Stemming fs (gs.erase key) :=
  fun e he => h e (Fields.mem_of_mem_erase he)

lemma insert (h : Stemming fs gs) {value : Tree} (hv : ∀ t ∈ schemasUnder key value, Stems fs t) :
    Stemming fs (gs.insert key value) := by
  intro e he
  rcases Fields.mem_insert he with he | rfl
  · exact h e he
  · exact hv

lemma branchNull (fs : Fields Tree) : Stemming fs (branchNull fs) := by
  have herase := (refl fs).erase "nullable"
  unfold Schemata.branchNull
  split
  · simp only
    split
    · rename_i branches hbranches
      split
      · exact herase
      · apply herase.insert
        intro t ht
        rcases List.mem_append.mp (mem_of_mem_schemasUnder_list ht) with ht | ht
        · have hmem := Fields.mem_of_mem_erase (Fields.mem_of_get? hbranches)
          exact part_of_mem hmem (.single (.item ht))
        · rw [List.mem_singleton.mp ht]
          exact .null
    · apply herase.insert
      intro t ht
      rw [List.mem_singleton.mp (mem_of_mem_schemasUnder_list ht)]
      exact .null
  · exact refl fs

lemma unwrapItems (h : Stemming fs gs) (hitems : gs.get? "items" = fs.get? "items") :
    Stemming fs (unwrapItems gs) := by
  unfold Schemata.unwrapItems
  rw [hitems]
  split
  · rename_i wrapper hwrapper
    split
    · rename_i only honly
      apply h.insert
      intro t ht
      have honly : Relation.ReflTransGen Tree.Holds (.map wrapper) only :=
        .tail (.single (.value (Fields.mem_of_get? honly))) (.item (List.mem_singleton_self only))
      exact part_of_mem (Fields.mem_of_get? hwrapper)
        (honly.trans (Tree.holds_of_mem_schemasUnder ht))
    · exact h
  · exact h

lemma mergeRequired (h : Stemming fs gs) {path : Path} {names : List String}
    (hr : mergeRequired gs path names = .ok hs) : Stemming fs hs := by
  intro e he t ht
  rcases mem_mergeRequired hr he with he | ⟨_, ts, hts, hleaf⟩
  · exact h e he t ht
  · -- a list of names holds no schemas
    rw [hts] at ht
    unfold schemasUnder at ht
    split at ht
    · cases ht
    · rename_i hs
      cases (slot_eq_schema_iff.mp hs).2.2
    · rename_i us hs
      obtain ⟨_, heq, u, rest, rfl, hmap⟩ := slot_eq_items_iff.mp hs
      cases heq
      obtain ⟨fs, rfl⟩ := Tree.isMap_eq_true_iff.mp hmap
      cases hleaf _ List.mem_cons_self
    · rename_i hs
      cases slot_eq_entries hs

lemma mergeEntries (h : Stemming fs gs) {entries : Fields Tree}
    (hkey : ∀ es, slot key (.map es) = .entries es) (hentries : ∀ e ∈ entries, Stems fs e.2) :
    Stemming fs (mergeEntries gs key entries) := by
  have hunder : ∀ es, schemasUnder key (.map es) = es.map (·.2) :=
    fun es => schemasUnder_of_entries (hkey es)
  unfold Schemata.mergeEntries
  split
  · exact h
  · split
    · rename_i existing hexisting
      apply h.insert
      intro t ht
      rw [hunder] at ht
      obtain ⟨e, he, rfl⟩ := List.mem_map.mp ht
      rcases Fields.mem_extend he with he | he
      · apply h _ (Fields.mem_of_get? hexisting)
        rw [hunder]
        exact List.mem_map_of_mem he
      · exact hentries e he
    · apply h.insert
      intro t ht
      rw [hunder] at ht
      obtain ⟨e, he, rfl⟩ := List.mem_map.mp ht
      exact hentries e he

lemma promote (h : Stemming fs gs) {path : Path} {cs : List Tree}
    (hcs : ("children", .list cs) ∈ fs) (hp : promote gs path (.list cs) = .ok hs) :
    Stemming fs hs := by
  obtain ⟨p, ks, hpromoted, hr, rfl⟩ := promote_eq_ok_iff.mp hp
  obtain ⟨_, rfl⟩ := promoteFrom_eq_ok_iff.mp hpromoted
  have hchild : ∀ c ∈ cs, Stems fs c.withoutFlag :=
    fun c hc => .child (.tail (.single (.value hcs)) (.item hc))
  have hplain : ∀ e ∈ (({} : Promotion).addChildren cs).properties, Stems fs e.2 := by
    intro e he
    have hnamed := (Fields.mem_extend he).resolve_left List.not_mem_nil
    obtain ⟨c, hc, _, heq⟩ := Tree.exists_of_mem_plainNamed hnamed
    exact heq ▸ hchild c hc
  have hpattern : ∀ e ∈ (({} : Promotion).addChildren cs).patterns, Stems fs e.2 := by
    intro e he
    have hnamed := (Fields.mem_extend he).resolve_left List.not_mem_nil
    obtain ⟨c, hc, _, heq⟩ := Tree.exists_of_mem_patternNamed hnamed
    exact heq ▸ hchild c hc
  have hproperties : Stemming fs (Schemata.mergeEntries ks "properties" _) :=
    (h.mergeRequired hr).mergeEntries (fun _ => rfl) hplain
  exact hproperties.mergeEntries (fun _ => rfl) hpattern

/-- A settled level has its schemas from itself. -/
theorem settle {path : Path} (h : settle (Schemata.branchNull fs) path = .ok gs) :
    Stemming fs gs := by
  have hbranch := branchNull fs
  have hagree := branchNull_agree fs
  unfold Schemata.settle at h
  split at h
  · cases h
    exact hbranch.unwrapItems (hagree.get?_eq "items" (by decide))
  · split at h
    · rename_i children hchildren
      cases children with
      | list cs =>
        rw [hagree.get?_eq "children" (by decide)] at hchildren
        exact (hbranch.erase "children").promote (Fields.mem_of_get? hchildren) h
      | _ => cases h
    · cases h
      exact hbranch

end Stemming

lemma Stems.unmixed {fs : Fields Tree} {t : Tree} (h : Stems fs t) (hfs : (Tree.map fs).Unmixed) :
    t.Unmixed := by
  cases h with
  | null => exact .nullSchema
  | part ht => exact hfs.of_holds ht.to_reflTransGen
  | child hc => exact (hfs.of_holds hc.to_reflTransGen).withoutFlag

/-- Fields that hold nothing that desugaring would rewrite. -/
structure Sugarless (fs : Fields Tree) : Prop where
  children_eq : fs.get? "children" = none
  nullable_eq : ∀ v, fs.get? "nullable" = some v → v = .null ∨ v = .bool false

namespace Sugarless
variable {fs gs : Fields Tree}

lemma nullable_iff : isNullable fs = false ↔
    ∀ v, fs.get? "nullable" = some v → v = .null ∨ v = .bool false := by
  unfold isNullable
  cases fs.get? "nullable" with
  | none => simp
  | some v => cases v <;> simp [Tree.isTruthy]

lemma of_rel {R : Tree → Tree → Prop} (hrel : Fields.Rel (InSlot R) fs gs) (h : Sugarless fs) :
    Sugarless gs where
  children_eq := by
    rw [Fields.get?_eq_none_iff, ← hrel.keys_eq, ← Fields.get?_eq_none_iff]
    exact h.children_eq
  nullable_eq := by
    intro w hw
    obtain ⟨v, hv, hslot⟩ := hrel.exists_of_get?_right hw
    have hvalue := h.nullable_eq v hv
    have hliteral : slot "nullable" v = .literal := by
      rcases hvalue with rfl | rfl <;> rfl
    rwa [hslot.eq_of_literal hliteral]

/-- The level of a schema that does not have items and children at once loses its sugar. -/
lemma of_settle (h : fs.get? "items" = none ∨ fs.get? "children" = none) {path : Path}
    (hgs : settle (branchNull fs) path = .ok gs) : Sugarless gs where
  children_eq := by
    have hagree := branchNull_agree fs
    rcases get?_children_of_settle hgs with hnone | ⟨hitems, hsame⟩
    · exact hnone
    · rw [Fields.contains, hagree.get?_eq "items" (by decide)] at hitems
      rw [hsame, hagree.get?_eq "children" (by decide)]
      refine h.resolve_left fun hnone => ?_
      rw [hnone] at hitems
      cases hitems
  nullable_eq := by
    rw [← nullable_iff, isNullable, (settle_agree hgs).get?_eq "nullable" (by decide),
      get?_nullable_branchNull]
    split
    · rfl
    · rename_i hnot
      simpa [isNullable] using hnot

/-- A level without sugar stays if no wrapper stands under its items. -/
lemma settle_eq (h : Sugarless fs)
    (hitems : ∀ wrapper : Fields Tree, fs.get? "items" = some (.map wrapper) →
      wrapper.get? "children" = none) (path : Path) : settle (branchNull fs) path = .ok fs := by
  have hunwrap : unwrapItems fs = fs := by
    unfold unwrapItems
    split
    · rename_i wrapper hwrapper
      rw [hitems wrapper hwrapper]
    · rfl
  rw [branchNull_of_not_nullable (nullable_iff.mpr h.nullable_eq), settle, hunwrap, h.children_eq]
  exact ite_self _

end Sugarless

theorem Desugars.sugarless {t u : Tree} (h : Desugars t u) (ht : t.Unmixed) :
    Throughout Sugarless u := by
  induction t using Tree.depth_induction generalizing u with
  | leaf t hm =>
    apply Throughout.of_not_map
    rw [h.isMap_eq, hm]
  | map fs ih =>
    obtain ⟨gs, hs, hgs, hrel, rfl⟩ := desugars_map_iff.mp h
    have hroot : Sugarless gs := .of_settle (ht fs .refl) hgs
    apply Throughout.map (hroot.of_rel hrel)
    intro u hu
    obtain ⟨t, ⟨hmem, hunder⟩, htu⟩ := hu.exists_of_rel (fun _ _ htu => htu.isMap_eq) hrel
    rcases depth_of_settle hgs hmem hunder with hless | rfl
    · exact ih t hless htu ((Stemming.settle hgs _ hmem t hunder).unmixed ht)
    · have hnull : Desugars nullSchema nullSchema := rfl
      rw [htu.unique hnull]
      refine Throughout.map ⟨rfl, fun v hv => nomatch hv⟩ fun u hu => ?_
      cases hu with
      | under hmem hu =>
        cases List.mem_singleton.mp hmem
        cases hu

/-- Desugaring has nothing to do on a tree without sugar. -/
theorem desugars_of_sugarless {t : Tree} (h : Throughout Sugarless t) : Desugars t t := by
  induction t using Tree.depth_induction with
  | leaf t hm => exact desugars_of_not_map hm
  | map fs ih =>
    have hvisited : ∀ e ∈ fs, ∀ t ∈ schemasUnder e.1 e.2, Visits (.map fs) t :=
      fun _ he _ ht => .under he ht
    have hitems : ∀ wrapper : Fields Tree, fs.get? "items" = some (.map wrapper) →
        wrapper.get? "children" = none := by
      intro wrapper hwrapper
      have hslot : slot "items" (.map wrapper) = .schema := rfl
      have hunder : Tree.map wrapper ∈ schemasUnder "items" (.map wrapper) := by
        rw [schemasUnder_of_schema hslot]
        exact List.mem_singleton_self _
      exact (h.visited (hvisited _ (Fields.mem_of_get? hwrapper) _ hunder)).root.children_eq
    refine desugars_map_iff.mpr ⟨fs, fs, h.root.settle_eq hitems [], ?_, rfl⟩
    refine List.forall₂_same.mpr fun e he => ⟨rfl, InSlot.refl fun t ht => ?_⟩
    have hvisits := hvisited e he t ht
    exact ih t hvisits.depth_lt (h.visited hvisits)

/-- One run of desugaring leaves no sugar, and a second one changes nothing, provided that no map
has items and children at once: the children of such a map would stay. -/
theorem desugar_desugar {t u : Tree} (ht : t.Unmixed) (h : desugar t = .ok u) :
    Throughout Sugarless u ∧ desugar u = .ok u := by
  have hsugarless := Desugars.sugarless h ht
  exact ⟨hsugarless, desugars_of_sugarless hsugarless⟩

/-- A nullable object with a property that is called like its sugar; the items of a list in it
are wrapped. -/
def sugared : Tree := .map [("kind", .string "object"), ("nullable", .bool true),
  ("children", .list [.map [("kind", .string "array"), ("name", .string "children"),
    ("items", .map [("children", .list [.map [("nullable", .bool true)]])])]])]

lemma unmixed_sugared : sugared.Unmixed := by
  have hbool : ∀ flag, (Tree.bool flag).Unmixed := fun _ => .of_depth_eq_zero rfl
  have hstring : ∀ text, (Tree.string text).Unmixed := fun _ => .of_depth_eq_zero rfl
  simp [sugared, Tree.unmixed_map_iff, Tree.unmixed_list_iff, Fields.get?, hbool, hstring]

theorem desugar_desugar_sugared : sugared.Unmixed ∧
    ∃ u, desugar sugared = .ok u ∧ Throughout Sugarless u ∧ desugar u = .ok u :=
  ⟨unmixed_sugared, _, rfl, desugar_desugar unmixed_sugared rfl⟩

/-- Fields that boxing leaves: a specific kind has no choices beside it. -/
def Boxless (fs : Fields Tree) : Prop :=
  ∀ kind, fs.get? "kind" = some (.string kind) → kind ≠ Kind.entityId →
    ∀ key ∈ choiceKeys, ∀ ms, fs.get? key = some (.list ms) → ms = []

section Slots
variable {R : Tree → Tree → Prop} {key : String} {v w : Tree}

/-- A pass that leaves everything but schemas makes a text of this text alone. -/
lemma InSlot.eq_of_string (hR : ∀ t u, R t u → u.isMap = t.isMap) {text : String}
    (h : InSlot R key v (.string text)) : v = .string text := by
  cases h with
  | literal _ => rfl
  | schema hs hr =>
    obtain ⟨_, _, hmap⟩ := slot_eq_schema_iff.mp hs
    rw [← hR _ _ hr] at hmap
    cases hmap

/-- A pass makes a list with members of such a list alone. -/
lemma InSlot.exists_of_list (hR : ∀ t u, R t u → u.isMap = t.isMap) {us : List Tree}
    (h : InSlot R key v (.list us)) : ∃ ts, v = .list ts ∧ (ts = [] → us = []) := by
  cases h with
  | literal _ => exact ⟨us, rfl, id⟩
  | schema hs hr =>
    obtain ⟨_, _, hmap⟩ := slot_eq_schema_iff.mp hs
    rw [← hR _ _ hr] at hmap
    cases hmap
  | items hs hr =>
    refine ⟨_, slot_eq_items hs, ?_⟩
    rintro rfl
    cases hr
    rfl

lemma Boxless.of_rel {fs gs : Fields Tree} (hR : ∀ t u, R t u → u.isMap = t.isMap)
    (hrel : Fields.Rel (InSlot R) fs gs) (h : Boxless fs) : Boxless gs := by
  intro kind hkind hne key hkey us hus
  obtain ⟨v, hv, hslot⟩ := hrel.exists_of_get?_right hkind
  obtain rfl := hslot.eq_of_string hR
  obtain ⟨w, hw, hslot⟩ := hrel.exists_of_get?_right hus
  obtain ⟨ts, rfl, hnil⟩ := hslot.exists_of_list hR
  exact hnil (h kind hv hne key hkey ts hw)

end Slots

/-- The schemas that are visited in a box are its members. -/
lemma Visits.mem_of_boxed {key : String} {ts : List Tree} {t : Tree}
    (h : Visits (boxed key ts) t) : t ∈ ts := by
  obtain ⟨hmem, ht⟩ := h
  rcases List.mem_cons.mp hmem with heq | hmem
  · cases heq
    cases ht
  · obtain ⟨rfl, rfl⟩ := Prod.mk.inj (List.mem_singleton.mp hmem)
    exact Tree.mem_of_mem_dedupe_filter (mem_of_mem_schemasUnder_list ht)

/-- A box is generic, whatever its members are. -/
lemma throughout_boxed {key : String} {ts : List Tree} (h : ∀ t ∈ ts, Throughout Boxless t) :
    Throughout Boxless (boxed key ts) := by
  apply Throughout.map
  · intro kind hkind hne
    cases hkind
    exact absurd rfl hne
  · exact fun t ht => h t ht.mem_of_boxed

section Boxing
variable {visit : Tree → Tree}

/-- The keys before those that are left have no members any more, since they boxed the fields
around these. -/
lemma throughout_boxAlong (kinds : Registry) (hmap : ∀ t, (visit t).isMap = t.isMap)
    {keys : List String} {fs : Fields Tree}
    (hvisit : ∀ t, t.depth < (Tree.map fs).depth → Throughout Boxless (visit t))
    (hdone : ∀ kind, specificKind? fs = some kind → ∀ key ∈ choiceKeys, key ∉ keys →
      ∀ ms, fs.get? key = some (.list ms) → ms = []) :
    Throughout Boxless (boxAlong kinds visit keys fs) := by
  induction keys generalizing fs with
  | nil =>
    have hroot : Boxless fs := fun kind hkind hne key hkey =>
      hdone kind (specificKind?_eq_some_iff.mpr ⟨hkind, hne⟩) key hkey List.not_mem_nil
    have hrel := rel_mapSchemas visit fs
    apply Throughout.map (hroot.of_rel (isMap_of_apply_eq hmap) hrel)
    intro u hu
    obtain ⟨t, ht, rfl⟩ := hu.exists_of_rel (isMap_of_apply_eq hmap) hrel
    exact hvisit t ht.depth_lt
  | cons key keys ih =>
    unfold boxAlong
    split
    · rename_i kind m ms hkind hget
      apply throughout_boxed
      intro u hu
      rcases mem_members hu with ⟨t, ht, rfl⟩ | rfl
      · apply hvisit t
        have hdepth := depth_item_lt (Fields.mem_of_get? hget) ht
        simp only [Tree.depth]
        omega
      · apply ih
        · intro t ht
          apply hvisit t
          have hdepth := Tree.depthOfFields_filter_le (fun e => decide (e.1 ≠ key)) fs
          simp only [Tree.depth, Fields.erase] at ht ⊢
          omega
        · intro kind' hkind' other hother hnot ts hts
          obtain ⟨hget', hne⟩ := specificKind?_eq_some_iff.mp hkind'
          have hspecific := specificKind?_eq_some_iff.mpr ⟨Fields.get?_of_get?_erase hget', hne⟩
          by_cases heq : key = other
          · subst heq
            rw [Fields.get?_erase_self] at hts
            cases hts
          · apply hdone kind' hspecific other hother _ ts (Fields.get?_of_get?_erase hts)
            exact mt List.mem_cons.mp (not_or.mpr ⟨Ne.symm heq, hnot⟩)
    · rename_i hnone
      apply ih hvisit
      intro kind hkind other hother hnot ts hts
      by_cases heq : key = other
      · subst heq
        cases ts with
        | nil => rfl
        | cons m ms => exact absurd hts (hnone kind m ms hkind)
      · apply hdone kind hkind other hother _ ts hts
        exact mt List.mem_cons.mp (not_or.mpr ⟨Ne.symm heq, hnot⟩)

theorem throughout_box (kinds : Registry) (t : Tree) : Throughout Boxless (box kinds t) := by
  induction t using Tree.depth_induction with
  | leaf t hm =>
    rw [box_of_not_map hm]
    exact .of_not_map hm
  | map fs ih =>
    rw [box_map]
    exact throughout_boxAlong kinds (isMap_box kinds) ih fun _ _ key hkey hnot => absurd hkey hnot

/-- Boxing has nothing to do on a tree without a schema to box. -/
theorem box_of_boxless (kinds : Registry) {t : Tree} (h : Throughout Boxless t) :
    box kinds t = t := by
  induction t using Tree.depth_induction with
  | leaf t hm => exact box_of_not_map hm
  | map fs ih =>
    have hnone : specificKind? fs = none ∨
        ∀ key ∈ choiceKeys, ∀ ms, fs.get? key = some (.list ms) → ms = [] := by
      cases hkind : specificKind? fs with
      | none => exact .inl rfl
      | some kind =>
        obtain ⟨hget, hne⟩ := specificKind?_eq_some_iff.mp hkind
        exact .inr (h.root kind hget hne)
    rw [box_map, boxAlong_of_no_members kinds _ hnone, mapSchemas_eq_self]
    intro e he t ht
    have hvisits : Visits (.map fs) t := .under he ht
    exact ih t hvisits.depth_lt (h.visited hvisits)

end Boxing

/-- One run of boxing leaves no schema to box. What is left no registry boxes again, be it the
one of the first run or another. -/
theorem box_box (kinds : Registry) (t : Tree) :
    Throughout Boxless (box kinds t) ∧
    (∀ u, Throughout Boxless u → ∀ kinds', box kinds' u = u) ∧
    ∀ kinds', box kinds' (box kinds t) = box kinds t := by
  have hbox := throughout_box kinds t
  refine ⟨hbox, fun u hu kinds' => ?_, fun kinds' => ?_⟩
  · exact box_of_boxless kinds' hu
  · exact box_of_boxless kinds' hbox

/-- An integer with two lists of choices, one of which has a text with choices in it. -/
def twofold : Tree := .map [("kind", .string "integer"),
  ("all_of", .list [.map [("kind", .string "boolean")]]),
  ("any_of", .list [.map [("kind", .string "string"), ("one_of", .list [nullSchema])]])]

def twofoldBoxed : Tree := .map [("kind", .string "entity"), ("any_of", .list [
  .map [("kind", .string "entity"),
    ("one_of", .list [nullSchema, .map [("kind", .string "string")]])],
  .map [("kind", .string "entity"),
    ("all_of", .list [.map [("kind", .string "boolean")], .map [("kind", .string "integer")]])]])]

theorem box_box_twofold : box .builtin twofold = twofoldBoxed ∧
    Throughout Boxless twofoldBoxed ∧ box .builtin twofoldBoxed = twofoldBoxed := by
  have hboxed : box .builtin twofold = twofoldBoxed := rfl
  obtain ⟨hboxless, hinert, _⟩ := box_box .builtin twofold
  rw [hboxed] at hboxless
  exact ⟨hboxed, hboxless, hinert twofoldBoxed hboxless .builtin⟩

end Schemata
