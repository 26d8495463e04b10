import Schemata.Proofs.EqualTrees
import Schemata.Proofs.Regular

/-! Stripping and respelling on regular trees: they may go in either order, and respelling keeps
trees apart that are different once they are stripped. -/
namespace Schemata

section Slots
variable {f g : Tree → Tree} {key : String} {value : Tree}

lemma mapSlot_congr_of_schemasUnder (h : ∀ t ∈ schemasUnder key value, f t = g t) :
    mapSlot f key value = mapSlot g key value := by
  unfold mapSlot
  cases hs : slot key value with
  | literal => rfl
  | schema => exact h value (schemasUnder_of_schema hs ▸ List.mem_singleton_self value)
  | items ts =>
    rw [schemasUnder_of_items hs] at h
    exact congrArg Tree.list (List.map_congr_left h)
  | entries fs =>
    rw [schemasUnder_of_entries hs] at h
    apply congrArg Tree.map
    apply List.map_congr_left
    intro e he
    rw [h e.2 (List.mem_map_of_mem he)]

lemma mapSlot_mapSlot (hf : ∀ t, (f t).isMap = t.isMap) :
    mapSlot g key (mapSlot f key value) = mapSlot (fun t => g (f t)) key value := by
  cases hs : slot key value with
  | literal => simp only [mapSlot, hs]
  | schema =>
    obtain ⟨hl, hm, hmap⟩ := slot_eq_schema_iff.mp hs
    have hs' : slot key (f value) = .schema :=
      slot_eq_schema_iff.mpr ⟨hl, hm, (hf value).trans hmap⟩
    simp only [mapSlot, hs, hs']
  | items ts =>
    obtain ⟨hl, rfl, t, rest, rfl, hmap⟩ := slot_eq_items_iff.mp hs
    have hs' : slot key (.list ((t :: rest).map f)) = .items ((t :: rest).map f) :=
      slot_eq_items_iff.mpr ⟨hl, rfl, f t, rest.map f, rfl, (hf t).trans hmap⟩
    simp only [mapSlot, hs, hs', List.map_map]
    rfl
  | entries fs =>
    obtain ⟨hl, hm, rfl⟩ := slot_eq_entries_iff.mp hs
    have hs' : slot key (.map (Fields.mapValues f fs)) = .entries (Fields.mapValues f fs) :=
      slot_eq_entries_iff.mpr ⟨hl, hm, rfl⟩
    simp only [mapSlot, hs, hs']
    simp only [Fields.mapValues, List.map_map]
    rfl

lemma isBlank_mapSlot (hf : ∀ t, (f t).isBlank = t.isBlank) :
    (mapSlot f key value).isBlank = value.isBlank := by
  cases hs : slot key value with
  | literal => simp only [mapSlot, hs]
  | schema =>
    simp only [mapSlot, hs]
    exact hf value
  | items ts =>
    obtain rfl := slot_eq_items hs
    simp [mapSlot, hs, Tree.isBlank]
  | entries fs =>
    obtain rfl := slot_eq_entries hs
    simp [mapSlot, hs, Tree.isBlank, Fields.mapValues]

end Slots

/-- An entry under the spelling of documents. -/
def respellEntry (e : String × Tree) : String × Tree := (documentKey e.1, mapSlot respell e.1 e.2)

lemma respell_map_of_nodup {fs : Fields Tree} (h : (fs.keys.map documentKey).Nodup) :
    respell (.map fs) = .map (fs.map respellEntry) := by
  have hkeys : Fields.keys ((mapSchemas respell fs).map fun e => (documentKey e.1, e.2)) =
      fs.keys.map documentKey := by
    simp [Fields.keys, mapSchemas]
  rw [respell_map, respellKeys, Fields.ofEntries_of_nodup (hkeys ▸ h), mapSchemas, List.map_map]
  rfl

lemma isBlank_respell (t : Tree) : (respell t).isBlank = t.isBlank := by
  cases t with
  | map fs =>
    rw [respell_map]
    cases fs with
    | nil => rfl
    | cons e fs =>
      have hkey : documentKey e.1 ∈ Fields.keys (respellKeys (mapSchemas respell (e :: fs))) := by
        rw [respellKeys, Fields.ofEntries, Fields.mem_keys_extend]
        exact .inr List.mem_cons_self
      obtain ⟨v, hv⟩ := Fields.mem_keys.mp hkey
      cases hfields : respellKeys (mapSchemas respell (e :: fs)) with
      | nil =>
        rw [hfields] at hv
        cases hv
      | cons _ _ => rfl
  | _ => rw [respell_of_not_map rfl]

lemma Regular.filter {fs : Fields Tree} (h : Regular fs) (q : String × Tree → Bool) :
    Regular (fs.filter q) := by
  have hsub : List.Sublist (Fields.keys (fs.filter q)) fs.keys := List.filter_sublist.map Prod.fst
  refine ⟨h.nodup.sublist hsub, fun key hk => h.mem_levelKeys key (hsub.subset hk), ?_⟩
  intro key hk ts hts
  have hmem := (List.mem_filter.mp (Fields.mem_of_get? hts)).1
  exact h.choices key hk ts (Fields.get?_of_mem h.nodup hmem)

/-- A regular level without the keys that only construction needs. -/
structure Stripped (fs : Fields Tree) : Prop extends Regular fs where
  not_bookkeeping : ∀ key ∈ fs.keys, key ∉ bookkeepingKeys

lemma mem_dropBookkeeping {fs : Fields Tree} {e : String × Tree} :
    e ∈ dropBookkeeping fs ↔ e ∈ fs ∧ e.1 ∉ bookkeepingKeys := by
  simp [dropBookkeeping]

lemma mem_strip {fs : Fields Tree} {key : String} {w : Tree} :
    (key, w) ∈ dropBlankValues (mapSchemas strip (dropBookkeeping fs)) ↔
      ∃ value, (key, value) ∈ fs ∧ key ∉ bookkeepingKeys ∧ mapSlot strip key value = w ∧
        w.isBlank = false := by
  simp only [dropBlankValues, mapSchemas, List.mem_filter, List.mem_map]
  constructor
  · rintro ⟨⟨e, he, heq⟩, hblank⟩
    cases heq
    obtain ⟨hmem, hbook⟩ := mem_dropBookkeeping.mp he
    exact ⟨e.2, hmem, hbook, rfl, by simpa using hblank⟩
  · rintro ⟨value, hmem, hbook, rfl, hblank⟩
    exact ⟨⟨_, mem_dropBookkeeping.mpr ⟨hmem, hbook⟩, rfl⟩, by simpa using hblank⟩

lemma Regular.strip {fs : Fields Tree} (h : Regular fs) :
    Stripped (dropBlankValues (mapSchemas strip (dropBookkeeping fs))) := by
  have hregular := (levelRule_regular.of_mapSchemas isMap_strip
    (h.filter fun e => !bookkeepingKeys.contains e.1)).filter fun e => !e.2.isBlank
  refine ⟨hregular, fun key hk => ?_⟩
  obtain ⟨w, hw⟩ := Fields.mem_keys.mp hk
  obtain ⟨_, _, hbook, _⟩ := mem_strip.mp hw
  exact hbook

lemma Inside.exists_of_strip {fs : Fields Tree} {u : Tree}
    (h : Inside (.map (dropBlankValues (mapSchemas strip (dropBookkeeping fs)))) u) :
    ∃ t, Inside (.map fs) t ∧ strip t = u := by
  obtain ⟨hmem, hbook, hu⟩ := h
  obtain ⟨value, hvalue, _, rfl, _⟩ := mem_strip.mp hmem
  obtain ⟨t, ht, hstrip⟩ := (InSlot.of_mapSlot Schemata.strip _ value).exists_of_mem_schemasUnder
    (isMap_of_apply_eq isMap_strip) hu
  exact ⟨t, .under hvalue hbook ht, hstrip⟩

theorem EveryLevel.strip {t : Tree} (h : EveryLevel Regular t) :
    EveryLevel Stripped (Schemata.strip t) := by
  induction t using Tree.inside_induction with
  | leaf t hm =>
    rw [strip_of_not_map hm]
    exact .of_not_map hm
  | map fs ih =>
    rw [strip_map]
    apply EveryLevel.map h.root.strip
    intro u hu
    obtain ⟨t, ht, rfl⟩ := hu.exists_of_strip
    exact ih t ht (h.inside ht)

lemma dropBookkeeping_respellEntry {fs : Fields Tree} (h : ∀ key ∈ fs.keys, StableKey key) :
    dropBookkeeping (fs.map respellEntry) = (dropBookkeeping fs).map respellEntry := by
  unfold dropBookkeeping
  rw [List.filter_map]
  apply congrArg
  apply List.filter_congr
  intro e he
  have hstable := h e.1 (Fields.mem_keys_of_mem he)
  have hkey : bookkeepingKeys.contains (documentKey e.1) = bookkeepingKeys.contains e.1 := by
    rw [Bool.eq_iff_iff, List.contains_iff_mem, List.contains_iff_mem]
    exact hstable.bookkeeping.symm
  rw [Function.comp_apply, respellEntry, hkey]

lemma dropBlankValues_respellEntry (fs : Fields Tree) :
    dropBlankValues (fs.map respellEntry) = (dropBlankValues fs).map respellEntry := by
  unfold dropBlankValues
  rw [List.filter_map]
  apply congrArg
  apply List.filter_congr
  intro e _
  simp only [Function.comp_apply, respellEntry, isBlank_mapSlot isBlank_respell]

/-- Stripping after respelling is respelling after stripping. -/
theorem finish_eq_respell_strip {t : Tree} (h : EveryLevel Regular t) :
    finish t = respell (strip t) := by
  induction t using Tree.inside_induction with
  | leaf t hm => rw [finish, respell_of_not_map hm, strip_of_not_map hm, respell_of_not_map hm]
  | map fs ih =>
    have hroot := h.root
    have hstable := fun key hk => stableKey_of_mem_levelKeys (hroot.mem_levelKeys key hk)
    -- under every key that stays, the schemas inside go through both passes in either order
    have hvisit : mapSchemas strip ((dropBookkeeping fs).map respellEntry) =
        (mapSchemas strip (dropBookkeeping fs)).map respellEntry := by
      simp only [mapSchemas, List.map_map]
      apply List.map_congr_left
      rintro ⟨key, value⟩ he
      obtain ⟨hmem, hbook⟩ := mem_dropBookkeeping.mp he
      have hslot : mapSlot strip (documentKey key) (mapSlot respell key value) =
          mapSlot strip key (mapSlot respell key value) := by
        unfold mapSlot
        rw [(hstable key (Fields.mem_keys_of_mem hmem)).slot_eq]
      simp only [Function.comp_apply, respellEntry, hslot, mapSlot_mapSlot isMap_respell,
        mapSlot_mapSlot isMap_strip, Prod.mk.injEq, true_and]
      apply mapSlot_congr_of_schemasUnder
      intro t ht
      have hinside : Inside (.map fs) t := .under hmem hbook ht
      exact ih t hinside (h.inside hinside)
    rw [finish, respell_map_of_nodup hroot.nodup_documentKey, strip_map, strip_map,
      respell_map_of_nodup hroot.strip.toRegular.nodup_documentKey,
      dropBookkeeping_respellEntry hstable, hvisit, dropBlankValues_respellEntry]

lemma extract?_respellEntry {key : String} (hkey : key ∈ levelKeys) {fs : Fields Tree}
    (h : ∀ key ∈ fs.keys, key ∈ levelKeys) :
    Fields.extract? (documentKey key) (fs.map respellEntry) =
      (Fields.extract? key fs).map fun r => (mapSlot respell key r.1, r.2.map respellEntry) := by
  induction fs with
  | nil => rfl
  | cons e fs ih =>
    obtain ⟨k, v⟩ := e
    have hk : k ∈ levelKeys := h k List.mem_cons_self
    have hrest := ih fun k hk => h k (List.mem_cons_of_mem _ hk)
    by_cases heq : k = key
    · subst heq
      simp [respellEntry, Fields.extract?]
    · have hne : documentKey k ≠ documentKey key := fun hdoc =>
        heq (documentKey_injOn hk hkey hdoc)
      rw [List.map_cons, respellEntry, Fields.extract?, if_neg hne, hrest, Fields.extract?,
        if_neg heq, Option.map_map, Option.map_map]
      rfl

namespace Tree
variable {f : Tree → Tree}

lemma same_eq_false_of_isMap {t u : Tree} (h : t.isMap ≠ u.isMap) : t.same u = false := by
  cases hs : t.same u with
  | false => rfl
  | true => exact absurd (isMap_of_same hs) h

lemma same_apply_of_isMap_ne (hf : ∀ t, (f t).isMap = t.isMap) {t u : Tree}
    (h : t.isMap ≠ u.isMap) : (f t).same (f u) = t.same u := by
  rw [same_eq_false_of_isMap h, same_eq_false_of_isMap]
  rwa [hf, hf]

lemma sameItems_map {ts us : List Tree}
    (h : ∀ t ∈ ts, ∀ u ∈ us, (f t).same (f u) = t.same u) :
    sameItems (ts.map f) (us.map f) = sameItems ts us := by
  induction ts generalizing us with
  | nil => cases us <;> rfl
  | cons t ts ih =>
    cases us with
    | nil => rfl
    | cons u us =>
      have hrest := ih fun t ht u hu =>
        h t (List.mem_cons_of_mem _ ht) u (List.mem_cons_of_mem _ hu)
      simp only [List.map_cons, sameItems, hrest, h t List.mem_cons_self u List.mem_cons_self]

lemma sameFields_mapValues {fs gs : Fields Tree}
    (h : ∀ e ∈ fs, ∀ e' ∈ gs, (f e.2).same (f e'.2) = e.2.same e'.2) :
    sameFields (Fields.mapValues f fs) (Fields.mapValues f gs) = sameFields fs gs := by
  induction fs generalizing gs with
  | nil => cases gs <;> rfl
  | cons e fs ih =>
    obtain ⟨k, v⟩ := e
    change sameFields ((k, f v) :: Fields.mapValues f fs) _ = _
    simp only [sameFields, Fields.extract?_mapValues]
    cases hx : Fields.extract? k gs with
    | none => rfl
    | some r =>
      obtain ⟨w, rest⟩ := r
      have hmem := Fields.mem_iff_of_extract? hx
      have hvalue := h (k, v) List.mem_cons_self (k, w) ((hmem _).mpr (.inl rfl))
      have hrest := ih fun e he e' he' =>
        h e (List.mem_cons_of_mem _ he) e' ((hmem e').mpr (.inr he'))
      simp only [Option.map_some, hvalue, hrest]

end Tree

lemma mapSlot_of_depth_eq_zero (f : Tree → Tree) {key : String} {value : Tree}
    (h : value.depth = 0) : mapSlot f key value = value := by
  rw [mapSlot, slot_of_depth_eq_zero h]

lemma schemasUnder_of_startsWithMap {key : String} (hl : key ∉ literalKeys) {ts : List Tree}
    (h : startsWithMap ts = true) : schemasUnder key (.list ts) = ts := by
  cases ts with
  | nil => cases h
  | cons t ts => exact schemasUnder_of_items (slot_eq_items_iff.mpr ⟨hl, rfl, t, ts, rfl, h⟩)

lemma sameItems_eq_false {ts us : List Tree} (h : startsWithMap ts ≠ startsWithMap us) :
    Tree.sameItems ts us = false := by
  cases ts with
  | nil =>
    cases us with
    | nil => exact absurd rfl h
    | cons u us => rfl
  | cons t ts =>
    cases us with
    | nil => rfl
    | cons u us =>
      have hne : t.isMap ≠ u.isMap := by simpa [startsWithMap] using h
      rw [Tree.sameItems, Tree.same_eq_false_of_isMap hne, Bool.false_and]

lemma isMap_mapSlot {f : Tree → Tree} (hf : ∀ t, (f t).isMap = t.isMap) (key : String)
    (value : Tree) : (mapSlot f key value).isMap = value.isMap := by
  cases hs : slot key value with
  | literal => simp only [mapSlot, hs]
  | schema =>
    simp only [mapSlot, hs]
    exact hf value
  | items ts =>
    obtain rfl := slot_eq_items hs
    simp only [mapSlot, hs, Tree.isMap_list]
  | entries fs =>
    obtain rfl := slot_eq_entries hs
    simp only [mapSlot, hs, Tree.isMap_map]

section SameSlots
variable {f : Tree → Tree} {key : String}

lemma same_mapSlot_map (hl : key ∉ literalKeys) {fs gs : Fields Tree}
    (h : ∀ t ∈ schemasUnder key (.map fs), ∀ u ∈ schemasUnder key (.map gs),
      (f t).same (f u) = t.same u) :
    (mapSlot f key (.map fs)).same (mapSlot f key (.map gs)) = (Tree.map fs).same (.map gs) := by
  by_cases hm : key ∈ schemaMapKeys
  · have hv : slot key (.map fs) = .entries fs := slot_eq_entries_iff.mpr ⟨hl, hm, rfl⟩
    have hw : slot key (.map gs) = .entries gs := slot_eq_entries_iff.mpr ⟨hl, hm, rfl⟩
    rw [schemasUnder_of_entries hv, schemasUnder_of_entries hw] at h
    simp only [mapSlot, hv, hw]
    apply Tree.sameFields_mapValues
    exact fun e he e' he' => h _ (List.mem_map_of_mem he) _ (List.mem_map_of_mem he')
  · have hv : slot key (.map fs) = .schema := slot_eq_schema_iff.mpr ⟨hl, hm, rfl⟩
    have hw : slot key (.map gs) = .schema := slot_eq_schema_iff.mpr ⟨hl, hm, rfl⟩
    rw [schemasUnder_of_schema hv, schemasUnder_of_schema hw] at h
    simp only [mapSlot, hv, hw]
    exact h _ (List.mem_singleton_self _) _ (List.mem_singleton_self _)

lemma same_mapSlot_list (hf : ∀ t, (f t).isMap = t.isMap) (hl : key ∉ literalKeys)
    {ts us : List Tree} (h : ∀ t ∈ schemasUnder key (.list ts), ∀ u ∈ schemasUnder key (.list us),
      (f t).same (f u) = t.same u) :
    (mapSlot f key (.list ts)).same (mapSlot f key (.list us)) =
      (Tree.list ts).same (.list us) := by
  rw [mapSlot_list f hl, mapSlot_list f hl, Tree.same, Tree.same]
  by_cases hstart : startsWithMap ts = startsWithMap us
  · cases hts : startsWithMap ts with
    | false => simp [← hstart, hts]
    | true =>
      have hus : startsWithMap us = true := hstart ▸ hts
      rw [schemasUnder_of_startsWithMap hl hts, schemasUnder_of_startsWithMap hl hus] at h
      rw [hus, if_pos rfl, if_pos rfl]
      exact Tree.sameItems_map h
  · rw [sameItems_eq_false hstart, sameItems_eq_false]
    split <;> split <;> simpa only [startsWithMap_map hf] using hstart

/-- What keeps the schemas under a key apart keeps the values there apart. -/
lemma same_mapSlot (hf : ∀ t, (f t).isMap = t.isMap) {v w : Tree}
    (h : ∀ t ∈ schemasUnder key v, ∀ u ∈ schemasUnder key w, (f t).same (f u) = t.same u) :
    (mapSlot f key v).same (mapSlot f key w) = v.same w := by
  by_cases hl : key ∈ literalKeys
  · simp [mapSlot, slot, hl]
  · by_cases hmap : v.isMap = w.isMap
    · cases v with
      | map fs =>
        obtain ⟨gs, rfl⟩ := Tree.isMap_eq_true_iff.mp hmap.symm
        exact same_mapSlot_map hl h
      | list ts =>
        cases w with
        | list us => exact same_mapSlot_list hf hl h
        | map gs => cases hmap
        | _ =>
          rw [mapSlot_list f hl, mapSlot_of_depth_eq_zero f rfl]
          rfl
      | _ =>
        rw [mapSlot_of_depth_eq_zero f rfl]
        cases w with
        | list us =>
          rw [mapSlot_list f hl]
          rfl
        | map gs => cases hmap
        | _ => rw [mapSlot_of_depth_eq_zero f rfl]
    · exact Tree.same_apply_of_isMap_ne (isMap_mapSlot hf key) hmap

end SameSlots

lemma sameFields_respellEntry {fs gs : Fields Tree} (hfs : ∀ key ∈ fs.keys, key ∈ levelKeys)
    (hgs : ∀ key ∈ gs.keys, key ∈ levelKeys)
    (h : ∀ key v w, (key, v) ∈ fs → (key, w) ∈ gs →
      (mapSlot respell key v).same (mapSlot respell key w) = v.same w) :
    Tree.sameFields (fs.map respellEntry) (gs.map respellEntry) = Tree.sameFields fs gs := by
  induction fs generalizing gs with
  | nil => cases gs <;> rfl
  | cons e fs ih =>
    obtain ⟨k, v⟩ := e
    rw [List.map_cons, respellEntry, Tree.sameFields,
      extract?_respellEntry (hfs k List.mem_cons_self) hgs, Tree.sameFields]
    cases hx : Fields.extract? k gs with
    | none => rfl
    | some r =>
      obtain ⟨w, rest⟩ := r
      have hmem := Fields.mem_iff_of_extract? hx
      have hvalue := h k v w List.mem_cons_self ((hmem _).mpr (.inl rfl))
      have hkeys : ∀ key ∈ Fields.keys rest, key ∈ levelKeys := by
        intro key hk
        obtain ⟨x, hx⟩ := Fields.mem_keys.mp hk
        exact hgs key (Fields.mem_keys_of_mem ((hmem _).mpr (.inr hx)))
      have hrest := ih (fun key hk => hfs key (List.mem_cons_of_mem _ hk)) hkeys
        fun key v w hv hw => h key v w (List.mem_cons_of_mem _ hv) ((hmem _).mpr (.inr hw))
      simp only [Option.map_some, hvalue, hrest]

/-- Stripped trees are equal if and only if they are when their keys are respelled. -/
theorem same_respell {t u : Tree} (ht : EveryLevel Stripped t) (hu : EveryLevel Stripped u) :
    (respell t).same (respell u) = t.same u := by
  induction t using Tree.inside_induction generalizing u with
  | leaf t hm =>
    cases hum : u.isMap with
    | false => rw [respell_of_not_map hm, respell_of_not_map hum]
    | true => exact Tree.same_apply_of_isMap_ne isMap_respell (by simp [hm, hum])
  | map fs ih =>
    cases hum : u.isMap with
    | false => exact Tree.same_apply_of_isMap_ne isMap_respell (by simp [hum])
    | true =>
      obtain ⟨gs, rfl⟩ := Tree.isMap_eq_true_iff.mp hum
      have hfs := ht.root
      have hgs := hu.root
      rw [respell_map_of_nodup hfs.toRegular.nodup_documentKey,
        respell_map_of_nodup hgs.toRegular.nodup_documentKey, Tree.same, Tree.same]
      apply sameFields_respellEntry hfs.mem_levelKeys hgs.mem_levelKeys
      intro key v w hv hw
      have hbook := hfs.not_bookkeeping key (Fields.mem_keys_of_mem hv)
      apply same_mapSlot isMap_respell
      intro x hx y hy
      have hxin : Inside (.map fs) x := .under hv hbook hx
      have hyin : Inside (.map gs) y := .under hw hbook hy
      exact ih x hxin (ht.inside hxin) (hu.inside hyin)

end Schemata
