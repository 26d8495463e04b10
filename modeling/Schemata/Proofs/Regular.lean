import Schemata.Proofs.Boxing
import Schemata.Proofs.Parts

/-! Properties that the levels of a node of built-in kinds get from desugaring, and that boxing
keeps. -/
namespace Schemata

/-- A property of levels that is kept by the schemas inside changing, by a key leaving, and by
boxing; choices are schemas where it holds. -/
structure LevelRule (p : Fields Tree → Prop) : Prop where
  rel : ∀ fs gs, Fields.Rel (InSlot fun t u => u.isMap = t.isMap) fs gs → p fs → p gs
  erase : ∀ fs key, p fs → p (fs.erase key)
  choices : ∀ fs key ts, p fs → key ∈ choiceKeys → fs.get? key = some (.list ts) →
    ∀ t ∈ ts, t.isMap = true
  boxed : ∀ key ∈ choiceKeys, ∀ ts, (∀ t ∈ ts, t.isMap = true) →
    p [("kind", .string Kind.entityId), (key, .list ts)]

namespace LevelRule
variable {p : Fields Tree → Prop} {fs gs : Fields Tree}

lemma of_desugars (hp : LevelRule p) (hrel : Fields.Rel (InSlot Desugars) fs gs) (h : p fs) :
    p gs := by
  apply hp.rel fs gs _ h
  apply hrel.imp
  exact fun _ _ hef => ⟨hef.1, hef.2.imp fun _ _ ht => ht.isMap_eq⟩

lemma of_mapSchemas (hp : LevelRule p) {f : Tree → Tree} (hf : ∀ t, (f t).isMap = t.isMap)
    (h : p fs) : p (mapSchemas f fs) := by
  apply hp.rel fs _ _ h
  apply (rel_mapSchemas f fs).imp
  exact fun _ _ hef => ⟨hef.1, hef.2.imp (isMap_of_apply_eq hf)⟩

end LevelRule

lemma literalKeys_disjoint_choiceKeys : ∀ key ∈ choiceKeys, key ∉ literalKeys := by decide

lemma bookkeepingKeys_disjoint_choiceKeys : ∀ key ∈ choiceKeys, key ∉ bookkeepingKeys := by decide

lemma Inside.of_erase {fs : Fields Tree} {key : String} {t : Tree}
    (h : Inside (.map (fs.erase key)) t) : Inside (.map fs) t := by
  obtain ⟨hmem, hbook, ht⟩ := h
  exact .under (Fields.mem_of_mem_erase hmem) hbook ht

lemma Inside.exists_of_rel {R : Tree → Tree → Prop} (hR : ∀ t u, R t u → u.isMap = t.isMap)
    {fs gs : Fields Tree} (hrel : Fields.Rel (InSlot R) fs gs) {u : Tree}
    (hu : Inside (.map gs) u) : ∃ t, Inside (.map fs) t ∧ R t u := by
  obtain ⟨hmem, hbook, hu⟩ := hu
  obtain ⟨e, he, hkey, hslot⟩ := exists_of_mem_right hrel hmem
  obtain ⟨t, ht, hr⟩ := hslot.exists_of_mem_schemasUnder hR (by rw [hkey]; exact hu)
  refine ⟨t, .under he ?_ ht, hr⟩
  rw [hkey]
  exact hbook

lemma Inside.exists_of_rel_left {R : Tree → Tree → Prop} (hR : ∀ t u, R t u → u.isMap = t.isMap)
    {fs gs : Fields Tree} (hrel : Fields.Rel (InSlot R) fs gs) {t : Tree}
    (ht : Inside (.map fs) t) : ∃ u, Inside (.map gs) u ∧ R t u := by
  obtain ⟨hmem, hbook, ht⟩ := ht
  obtain ⟨e, he, hkey, hslot⟩ := exists_of_mem_left hrel hmem
  obtain ⟨u, hu, hr⟩ := exists_of_mem_left (hslot.forall₂_schemasUnder hR) ht
  refine ⟨u, .under he ?_ (hkey ▸ hu), hr⟩
  rw [← hkey]
  exact hbook

lemma Inside.exists_of_mapSchemas {f : Tree → Tree} (hf : ∀ t, (f t).isMap = t.isMap)
    {fs : Fields Tree} {u : Tree} (hu : Inside (.map (mapSchemas f fs)) u) :
    ∃ t, Inside (.map fs) t ∧ f t = u :=
  Inside.exists_of_rel (isMap_of_apply_eq hf) (rel_mapSchemas f fs) hu

/-- The members of a choice list are inside their schema. -/
lemma Inside.of_choice {fs : Fields Tree} {key : String} (hk : key ∈ choiceKeys) {ts : List Tree}
    (hmem : (key, .list ts) ∈ fs) (hts : ∀ t ∈ ts, t.isMap = true) {t : Tree} (ht : t ∈ ts) :
    Inside (.map fs) t := by
  apply Inside.under hmem (bookkeepingKeys_disjoint_choiceKeys key hk)
  rw [schemasUnder_of_maps (literalKeys_disjoint_choiceKeys key hk) hts]
  exact ht

/-- The schemas inside a box are its members. -/
lemma Inside.mem_of_boxed {key : String} {ts : List Tree} {t : Tree}
    (h : Inside (boxed key ts) t) : t ∈ ts := by
  obtain ⟨hmem, _, ht⟩ := h
  rename_i k value
  rcases List.mem_cons.mp hmem with heq | hmem
  · cases heq
    cases ht
  · obtain ⟨rfl, rfl⟩ := Prod.mk.inj (List.mem_singleton.mp hmem)
    exact Tree.mem_of_mem_dedupe_filter (mem_of_mem_schemasUnder_list ht)

/-- A member of a box is one of the choices or what remains of the schema. -/
lemma mem_members {visit : Tree → Tree} {ms : List Tree} {rest u : Tree} {b : Bool}
    (h : u ∈ ms.map visit ++ (if b then [rest] else [])) : (∃ t ∈ ms, visit t = u) ∨ u = rest := by
  rcases List.mem_append.mp h with h | h
  · exact .inl (List.mem_map.mp h)
  · split at h
    · exact .inr (List.mem_singleton.mp h)
    · cases h

namespace EveryLevel
variable {p : Fields Tree → Prop}

lemma erase {fs : Fields Tree} (hp : LevelRule p) (h : EveryLevel p (.map fs)) (key : String) :
    EveryLevel p (.map (fs.erase key)) := by
  apply EveryLevel.map (hp.erase fs key h.root)
  intro u hu
  exact h.inside hu.of_erase

lemma boxAlong (hp : LevelRule p) (kinds : Registry) {visit : Tree → Tree}
    (hmap : ∀ t, (visit t).isMap = t.isMap) {keys : List String}
    (hkeys : ∀ key ∈ keys, key ∈ choiceKeys) {fs : Fields Tree}
    (hvisit : ∀ t, Inside (.map fs) t → EveryLevel p t → EveryLevel p (visit t))
    (h : EveryLevel p (.map fs)) : EveryLevel p (Schemata.boxAlong kinds visit keys fs) := by
  induction keys generalizing fs with
  | nil =>
    apply EveryLevel.map (hp.of_mapSchemas hmap h.root)
    intro u hu
    obtain ⟨t, ht, rfl⟩ := Inside.exists_of_mapSchemas hmap hu
    exact hvisit t ht (h.inside ht)
  | cons key keys ih =>
    have hrest := fun k hk => hkeys k (List.mem_cons_of_mem key hk)
    have hkey := hkeys key List.mem_cons_self
    unfold Schemata.boxAlong
    split
    · rename_i kind m ms _ hget
      have hmaps := hp.choices fs key (m :: ms) h.root hkey hget
      have hmembers : ∀ u ∈ (m :: ms).map visit ++ (if carriesMeaning kinds kind (fs.erase key)
          then [Schemata.boxAlong kinds visit keys (fs.erase key)] else []),
          u.isMap = true ∧ EveryLevel p u := by
        intro u hu
        rcases mem_members hu with ⟨t, ht, rfl⟩ | rfl
        · have hinside := Inside.of_choice hkey (Fields.mem_of_get? hget) hmaps ht
          exact ⟨(hmap t).trans (hmaps t ht), hvisit t hinside (h.inside hinside)⟩
        · refine ⟨isMap_boxAlong kinds visit _ keys, ih hrest ?_ (h.erase hp key)⟩
          exact fun t ht => hvisit t ht.of_erase
      apply EveryLevel.map
      · apply hp.boxed key hkey
        intro u hu
        exact (hmembers u (Tree.mem_of_mem_dedupe_filter hu)).1
      · exact fun u hu => (hmembers u hu.mem_of_boxed).2
    · exact ih hrest hvisit h

/-- Boxing keeps what it keeps of one level throughout a tree. -/
theorem box (hp : LevelRule p) (kinds : Registry) {t : Tree} (h : EveryLevel p t) :
    EveryLevel p (Schemata.box kinds t) := by
  induction t using Tree.inside_induction with
  | leaf t hm => rwa [box_of_not_map hm]
  | map fs ih =>
    rw [box_map]
    exact boxAlong hp kinds (isMap_box kinds) (fun key hk => hk) ih h

end EveryLevel

lemma everyLevel_nullSchema {p : Fields Tree → Prop} (h : p [("kind", .string "null")]) :
    EveryLevel p nullSchema := by
  apply EveryLevel.map h
  rintro u ⟨hmem, _, hu⟩
  cases List.mem_singleton.mp hmem
  cases hu

/-- What the levels of a node and of its parts have in common, every level has when the node
is desugared. -/
theorem Node.everyLevel_of_desugars {p : Fields Tree → Prop} (hp : LevelRule p)
    (hnull : p [("kind", .string "null")]) {n : Node} (h : n.AllBuiltin)
    (hlevel : ∀ m gs, Relation.ReflTransGen Part n m → m.AllBuiltin → m.Level gs → p gs)
    {d : Tree} (hd : Desugars n.toTree d) : EveryLevel p d := by
  induction n using part_induction generalizing d with
  | step n ih =>
    rw [n.toTree_eq] at hd
    obtain ⟨gs, hs, hgs, hrel, rfl⟩ := desugars_map_iff.mp hd
    have hself := h.level_of_settle hgs
    apply EveryLevel.map (hp.of_desugars hrel (hlevel n gs .refl h hself))
    intro u hu
    obtain ⟨t, ht, hdt⟩ := Inside.exists_of_rel (fun _ _ ht => ht.isMap_eq) hrel hu
    rcases hself.exists_part h.isBuiltin ht with rfl | ⟨m, hm, rfl⟩
    · have hself : Desugars nullSchema nullSchema := rfl
      rw [hdt.unique hself]
      exact everyLevel_nullSchema hnull
    · apply ih m (.inl hm) (h.part hm) _ hdt
      intro l ls hl
      exact hlevel l ls (.head hm hl)

/-- The fields of a level of built-in kinds: each key stands once, and choices are schemas. -/
structure Regular (fs : Fields Tree) : Prop where
  nodup : fs.keys.Nodup
  mem_levelKeys : ∀ key ∈ fs.keys, key ∈ levelKeys
  choices : ∀ key ∈ choiceKeys, ∀ ts, fs.get? key = some (.list ts) → ∀ t ∈ ts, t.isMap = true

lemma Regular.nodup_documentKey {fs : Fields Tree} (h : Regular fs) :
    (fs.keys.map documentKey).Nodup :=
  h.nodup.map_on fun key hk other ho heq =>
    documentKey_injOn (h.mem_levelKeys key hk) (h.mem_levelKeys other ho) heq

lemma InSlot.forall_isMap {key : String} {value : Tree} {us : List Tree}
    (h : InSlot (fun t u => u.isMap = t.isMap) key value (.list us))
    (hts : ∀ ts, value = .list ts → ∀ t ∈ ts, t.isMap = true) : ∀ u ∈ us, u.isMap = true := by
  generalize hw : Tree.list us = w at h
  cases h with
  | literal hs => exact hts us hw.symm
  | schema hs hmap =>
    subst hw
    rw [(slot_eq_schema_iff.mp hs).2.2] at hmap
    cases hmap
  | @items ts us' hs hrel =>
    cases hw
    intro u hu
    obtain ⟨t, ht, hmap⟩ := exists_of_mem_right hrel hu
    exact hmap.trans (hts ts (slot_eq_items hs) t ht)
  | entries hs hrel => cases hw

lemma regular_null : Regular [("kind", .string "null")] := by
  refine ⟨by decide, by decide, ?_⟩
  have hall : ∀ key ∈ choiceKeys, "kind" ≠ key := by decide
  intro key hk ts hts
  rw [Fields.get?_cons, if_neg (hall key hk)] at hts
  cases hts

lemma levelRule_regular : LevelRule Regular where
  rel fs gs hrel h := by
    refine ⟨hrel.keys_eq ▸ h.nodup, hrel.keys_eq ▸ h.mem_levelKeys, ?_⟩
    intro key hk us hus
    obtain ⟨value, hfs, hslot⟩ := hrel.exists_of_get?_right hus
    apply hslot.forall_isMap
    intro ts hts
    exact h.choices key hk ts (hts ▸ hfs)
  erase fs key h := by
    refine ⟨Fields.nodup_erase key h.nodup, ?_, ?_⟩
    · intro k hk
      rw [Fields.keys_erase] at hk
      exact h.mem_levelKeys k (List.mem_filter.mp hk).1
    · intro k hk ts hts
      exact h.choices k hk ts (Fields.get?_of_get?_erase hts)
  choices fs key ts h hk hts := h.choices key hk ts hts
  boxed key hk ts hts := by
    have hall : ∀ key ∈ choiceKeys, key ∈ levelKeys ∧ "kind" ≠ key ∧ "kind" ∈ levelKeys := by
      decide
    obtain ⟨hkey, hne, hkind⟩ := hall key hk
    refine ⟨by simp [hne], by simp [hkind, hkey], ?_⟩
    intro k hk us hus
    rw [Fields.get?_cons] at hus
    split at hus
    · cases hus
    · rw [Fields.get?_cons] at hus
      split at hus
      · cases hus
        exact hts
      · cases hus

namespace Node

lemma Level.regular {n : Node} {gs : Fields Tree} (h : n.Level gs) (hn : n.IsBuiltin) :
    Regular gs := by
  refine ⟨h.nodup, h.mem_levelKeys, ?_⟩
  have hown : ∀ key ∈ choiceKeys, ∀ ts, n.fields.get? key = some (.list ts) →
      ∀ t ∈ ts, t.isMap = true := by
    intro key hk ts hts t ht
    rcases hn.get?_choices hk with ⟨hnone, _⟩ | hsome
    · rw [hnone] at hts
      cases hts
    · rw [hsome] at hts
      cases hts
      exact isMap_of_mem_trees ht
  intro key hk ts hts
  by_cases hany : key = "any_of"
  · subst hany
    rcases h.any_of with heq | heq
    · exact hown _ hk ts (heq ▸ hts)
    · rw [heq] at hts
      cases hts
      exact fun _ ht => isMap_of_mem_append_null ht
  · have hall : ∀ key ∈ choiceKeys, key ∉ "nullable" :: sugarKeys := by decide
    have hsugar : key ∉ "nullable" :: "any_of" :: sugarKeys := by
      have hkey := hall key hk
      simp only [List.mem_cons, not_or] at hkey ⊢
      exact ⟨hkey.1, hany, hkey.2⟩
    rw [h.get?_eq key hsugar] at hts
    exact hown key hk ts hts

end Node

end Schemata
