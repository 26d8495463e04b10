import Schemata.Proofs.Chain
import Schemata.Proofs.Boxing
import Schemata.Proofs.Matching
import Schemata.Proofs.Respelling

/-! The order of keys has no meaning: of two trees that are equal but for it every pass makes
trees that are again, or fails on both. -/
namespace Schemata

open Schemata.Tree (Alike)

/-- Two lists that are related item by item, and each to a third one, relate the third ones. -/
lemma forall₂_square {α β γ δ : Type} {P : α → β → Prop} {R : α → γ → Prop} {S : β → δ → Prop}
    {Q : γ → δ → Prop} {as : List α} {bs : List β} {cs : List γ} {ds : List δ}
    (hP : List.Forall₂ P as bs) (hR : List.Forall₂ R as cs) (hS : List.Forall₂ S bs ds)
    (h : ∀ a ∈ as, ∀ b c d, P a b → R a c → S b d → Q c d) : List.Forall₂ Q cs ds := by
  induction hP generalizing cs ds with
  | nil =>
    cases hR
    cases hS
    exact .nil
  | @cons a b as bs hab _ ih =>
    obtain ⟨c, cs, hac, hcs, rfl⟩ := List.forall₂_cons_left_iff.mp hR
    obtain ⟨d, ds, hbd, hds, rfl⟩ := List.forall₂_cons_left_iff.mp hS
    rw [List.forall_mem_cons] at h
    exact .cons (h.1 b c d hab hac hbd) (ih hcs hds h.2)

namespace Fields
variable {α β : Type} {R : String → α → β → Prop} {fs : Fields α} {gs : Fields β}

lemma Rel.valuesAt (h : Rel R fs gs) (key : String) :
    List.Forall₂ (R key) (fs.valuesAt key) (gs.valuesAt key) := by
  induction h with
  | nil => exact .nil
  | @cons e f _ _ hef _ ih =>
    rw [valuesAt_cons, valuesAt_cons, ← hef.1]
    split
    · rename_i hkey
      exact .cons (hkey ▸ hef.2) ih
    · exact ih

lemma Rel.insert (h : Rel R fs gs) (key : String) {a : α} {b : β} (hab : R key a b) :
    Rel R (fs.insert key a) (gs.insert key b) := by
  induction h with
  | nil => exact .cons ⟨rfl, hab⟩ .nil
  | @cons e f fs gs hef hrest ih =>
    obtain ⟨k, v⟩ := e
    obtain ⟨l, w⟩ := f
    obtain ⟨rfl, hvw⟩ := hef
    by_cases hk : k = key
    · subst hk
      simp only [Fields.insert, if_true]
      exact .cons ⟨rfl, hab⟩ hrest
    · simp only [Fields.insert, if_neg hk]
      exact .cons ⟨rfl, hvw⟩ ih

end Fields

/-- What holds of a schema if it holds of all less deep trees holds of every tree. -/
@[elab_as_elim] theorem Tree.depth_induction {p : Tree → Prop}
    (leaf : ∀ t : Tree, t.isMap = false → p t)
    (map : ∀ fs : Fields Tree, (∀ u, u.depth < (Tree.map fs).depth → p u) → p (.map fs))
    (t : Tree) : p t := by
  induction hdepth : t.depth using Nat.strongRecOn generalizing t with
  | ind depth ih =>
    cases hm : t.isMap with
    | false => exact leaf t hm
    | true =>
      obtain ⟨fs, rfl⟩ := Tree.isMap_eq_true_iff.mp hm
      exact map fs fun u hu => ih u.depth (hdepth ▸ hu) u rfl

namespace Tree.Alike
variable {key : String} {v w : Tree}

lemma slot_schema (h : Alike v w) (hs : slot key v = .schema) : slot key w = .schema := by
  obtain ⟨hl, hm, hmap⟩ := slot_eq_schema_iff.mp hs
  exact slot_eq_schema_iff.mpr ⟨hl, hm, h.isMap_eq.trans hmap⟩

lemma slot_items (h : Alike v w) {ts : List Tree} (hs : slot key v = .items ts) :
    ∃ us, slot key w = .items us ∧ List.Forall₂ Alike ts us := by
  obtain ⟨hl, rfl, t, rest, rfl, hmap⟩ := slot_eq_items_iff.mp hs
  obtain ⟨us, rfl, hus⟩ := h.exists_list
  obtain ⟨u, us, htu, hrest, rfl⟩ := List.forall₂_cons_left_iff.mp hus
  exact ⟨u :: us, slot_eq_items_iff.mpr ⟨hl, rfl, u, us, rfl, htu.isMap_eq.trans hmap⟩, hus⟩

lemma slot_entries (h : Alike v w) {fs : Fields Tree} (hs : slot key v = .entries fs) :
    ∃ gs, slot key w = .entries gs ∧ Fields.Matches Alike fs gs := by
  obtain ⟨hl, hm, rfl⟩ := slot_eq_entries_iff.mp hs
  obtain ⟨gs, rfl, hgs⟩ := h.exists_map
  exact ⟨gs, slot_eq_entries_iff.mpr ⟨hl, hm, rfl⟩, hgs⟩

lemma slot_literal (h : Alike v w) (hs : slot key v = .literal) : slot key w = .literal := by
  cases hw : slot key w with
  | literal => rfl
  | schema =>
    rw [h.symm.slot_schema hw] at hs
    cases hs
  | items us =>
    obtain ⟨ts, hv, _⟩ := h.symm.slot_items hw
    rw [hv] at hs
    cases hs
  | entries gs =>
    obtain ⟨fs, hv, _⟩ := h.symm.slot_entries hw
    rw [hv] at hs
    cases hs

end Tree.Alike

section Slots
variable {R : Tree → Tree → Prop} {key : String} {v w x y : Tree}

/-- Equal values have equal results if the schemas in them have. -/
theorem InSlot.alike (hx : InSlot R key v x) (hy : InSlot R key w y) (h : Alike v w)
    (hR : ∀ t ∈ schemasUnder key v, ∀ u t' u', Alike t u → R t t' → R u u' → Alike t' u') :
    Alike x y := by
  cases hx with
  | literal hs =>
    rw [hy.eq_of_literal (h.slot_literal hs)]
    exact h
  | schema hs hr =>
    rw [schemasUnder_of_schema hs] at hR
    exact hR v (List.mem_singleton_self v) w x y h hr (hy.of_schema (h.slot_schema hs))
  | items hs hr =>
    obtain ⟨us, hus, hall⟩ := h.slot_items hs
    obtain ⟨ys, rfl, hys⟩ := hy.exists_items hus
    rw [schemasUnder_of_items hs] at hR
    exact Tree.alike_list_iff.mpr (forall₂_square hall hr hys hR)
  | entries hs hr =>
    obtain ⟨gs, hgs, hall⟩ := h.slot_entries hs
    obtain ⟨ys, rfl, hys⟩ := hy.exists_entries hgs
    rw [schemasUnder_of_entries hs] at hR
    refine Tree.alike_map_iff.mpr fun name => ?_
    refine forall₂_square (hall name) (hr.valuesAt name) (hys.valuesAt name) fun t ht => ?_
    exact hR t (List.mem_map_of_mem (Fields.mem_valuesAt.mp ht))

/-- A pass goes from matching fields to matching fields if it goes from equal schemas under them
to equal schemas. -/
theorem Fields.Matches.of_rel_inSlot {fs gs hs ks : Fields Tree} (h : Fields.Matches Alike fs gs)
    (hfs : Fields.Rel (InSlot R) fs hs) (hgs : Fields.Rel (InSlot R) gs ks)
    (hR : ∀ e ∈ fs, ∀ t ∈ schemasUnder e.1 e.2, ∀ u t' u', Alike t u → R t t' → R u u' →
      Alike t' u') : Fields.Matches Alike hs ks := by
  intro key
  refine forall₂_square (h key) (hfs.valuesAt key) (hgs.valuesAt key) fun v hv w x y hvw hx hy => ?_
  exact hx.alike hy hvw (hR (key, v) (Fields.mem_valuesAt.mp hv))

lemma Fields.Matches.mapSchemas {f : Tree → Tree} {fs gs : Fields Tree}
    (h : Fields.Matches Alike fs gs)
    (hf : ∀ e ∈ fs, ∀ t ∈ schemasUnder e.1 e.2, ∀ u, Alike t u → Alike (f t) (f u)) :
    Fields.Matches Alike (mapSchemas f fs) (mapSchemas f gs) := by
  refine h.of_rel_inSlot (rel_mapSchemas f fs) (rel_mapSchemas f gs) ?_
  rintro e he t ht u _ _ htu rfl rfl
  exact hf e he t ht u htu

end Slots

namespace Tree.Alike
variable {t u : Tree} {ts us : List Tree}

lemma isBlank_eq (h : Alike t u) : t.isBlank = u.isBlank := by
  cases h.level with
  | list hus => cases hus <;> rfl
  | map hgs =>
    rename_i fs gs
    cases fs with
    | nil => rw [hgs.eq_nil]
    | cons e fs =>
      cases gs with
      | nil => cases hgs.flip.eq_nil
      | cons f gs => rfl
  | _ => rfl

lemma isTruthy_eq (h : Alike t u) : t.isTruthy = u.isTruthy := by cases h.level <;> rfl

lemma string?_eq (h : Alike t u) : t.string? = u.string? := by cases h.level <;> rfl

lemma isMember_eq (h : Alike t u) (hts : List.Forall₂ Alike ts us) :
    t.isMember ts = u.isMember us := by
  unfold isMember
  induction hts with
  | nil => rfl
  | @cons a b _ _ hab _ ih =>
    have hsame : a.same t = b.same u := by
      rw [Bool.eq_iff_iff]
      exact ⟨fun hat => (hab.symm.trans hat).trans h, fun hbu => (hab.trans hbu).trans h.symm⟩
    rw [List.any_cons, List.any_cons, hsame, ih]

end Tree.Alike

theorem strip_alike {t u : Tree} (h : Alike t u) : Alike (strip t) (strip u) := by
  induction t using Tree.inside_induction generalizing u with
  | leaf t hm =>
    have hum : u.isMap = false := h.isMap_eq.trans hm
    rwa [strip_of_not_map hm, strip_of_not_map hum]
  | map fs ih =>
    obtain ⟨gs, rfl, hgs⟩ := h.exists_map
    have hkept : Fields.Matches Alike (dropBookkeeping fs) (dropBookkeeping gs) :=
      hgs.filter (p := fun key _ => !bookkeepingKeys.contains key)
        (q := fun key _ => !bookkeepingKeys.contains key) fun _ _ _ _ => rfl
    have hvisited := hkept.mapSchemas (f := strip) fun e he t ht u htu => by
      obtain ⟨hmem, hbook⟩ := mem_dropBookkeeping.mp he
      exact ih t (.under hmem hbook ht) htu
    rw [strip_map, strip_map]
    refine Tree.alike_map_iff.mpr (hvisited.filter (p := fun _ t => !t.isBlank)
      (q := fun _ t => !t.isBlank) fun _ a b hab => ?_)
    rw [hab.isBlank_eq]

section Members
variable {ts us kept kept' : List Tree}

lemma forall₂_foldl_keepNew (h : List.Forall₂ Alike ts us) (hkept : List.Forall₂ Alike kept kept') :
    List.Forall₂ Alike (ts.foldl Tree.keepNew kept) (us.foldl Tree.keepNew kept') := by
  induction h generalizing kept kept' with
  | nil => exact hkept
  | @cons t u _ _ htu _ ih =>
    apply ih
    unfold Tree.keepNew
    rw [htu.isMember_eq hkept]
    split
    · exact hkept
    · exact List.rel_append hkept (.cons htu .nil)

lemma boxed_alike (key : String) (h : List.Forall₂ Alike ts us) :
    Alike (boxed key ts) (boxed key us) := by
  have hkept := List.rel_filter (p := fun t => !t.isBlank) (q := fun t => !t.isBlank)
    (fun t u htu => by simp only [htu.isBlank_eq]) h
  refine Tree.alike_map_iff.mpr (.of_rel (.cons ⟨rfl, .refl _⟩ (.cons ⟨rfl, ?_⟩ .nil)))
  exact Tree.alike_list_iff.mpr (forall₂_foldl_keepNew hkept .nil)

end Members

section Levels
variable {fs gs : Fields Tree}

lemma specificKind?_eq (h : Fields.Matches Alike fs gs) : specificKind? fs = specificKind? gs := by
  have hkind := h.get? "kind"
  unfold specificKind?
  generalize fs.get? "kind" = v, gs.get? "kind" = w at hkind
  cases hkind with
  | none => rfl
  | some hvw => cases hvw.level <;> rfl

lemma Fields.Matches.dropDefaults (h : Fields.Matches Alike fs gs) (defaults : Fields AttrValue) :
    Fields.Matches Alike (dropDefaults defaults fs) (dropDefaults defaults gs) := by
  induction defaults generalizing fs gs with
  | nil => exact h
  | cons d ds ih =>
    apply ih
    have hd := h.get? d.1
    simp only
    generalize fs.get? d.1 = v, gs.get? d.1 = w at hd
    cases hd with
    | none => exact h
    | some hvw =>
      simp only [Tree.same_congr hvw]
      split
      · exact h.erase d.1
      · exact h

lemma carriesMeaning_eq (kinds : Registry) (kind : String) (h : Fields.Matches Alike fs gs) :
    carriesMeaning kinds kind fs = carriesMeaning kinds kind gs := by
  have hid : (fs.get? kindTag).bind Tree.string? = (gs.get? kindTag).bind Tree.string? := by
    generalize fs.get? kindTag = v, gs.get? kindTag = w, h.get? kindTag = htag
    cases htag with
    | none => rfl
    | some hvw => exact hvw.string?_eq
  simp only [carriesMeaning, hid]
  have hstrip := strip_alike (Tree.alike_map_iff.mpr
    (h.dropDefaults (kinds.defaultsFor (((gs.get? kindTag).bind Tree.string?).getD kind))))
  rw [strip_map, strip_map] at hstrip ⊢
  rw [Tree.Alike, Tree.same, Tree.sameFields_eq] at hstrip
  simp only [Fields.length_of_sameBy hstrip]

end Levels

lemma boxAlong_alike (kinds : Registry) {visit : Tree → Tree} {keys : List String}
    {fs gs : Fields Tree} (h : Fields.Matches Alike fs gs)
    (hvisit : ∀ t, t.depth < (Tree.map fs).depth → ∀ u, Alike t u → Alike (visit t) (visit u)) :
    Alike (boxAlong kinds visit keys fs) (boxAlong kinds visit keys gs) := by
  induction keys generalizing fs gs with
  | nil =>
    refine Tree.alike_map_iff.mpr (h.mapSchemas fun e he t ht => hvisit t ?_)
    exact depth_of_mem_fields he ht
  | cons key keys ih =>
    have hrest := ih (h.erase key) fun t ht => hvisit t (by
      have := Tree.depthOfFields_filter_le (fun e => decide (e.1 ≠ key)) fs
      simp only [Tree.depth, Fields.erase] at ht ⊢
      omega)
    have hkey := h.get? key
    unfold boxAlong
    rw [specificKind?_eq h]
    cases hv : fs.get? key with
    | none =>
      rw [h.get?_eq_none hv]
      cases specificKind? gs <;> exact ih h hvisit
    | some v =>
      obtain ⟨w, hw, hvw⟩ := h.exists_of_get? hv
      rw [hw]
      cases specificKind? gs with
      | none => exact ih h hvisit
      | some kind =>
        cases hvw.level with
        | list hms =>
          cases hms with
          | nil => exact ih h hvisit
          | cons hm hms =>
            simp only [carriesMeaning_eq kinds kind (h.erase key)]
            apply boxed_alike
            apply List.rel_append
            · rw [List.forall₂_map_left_iff, List.forall₂_map_right_iff]
              refine forall₂_imp_of_mem (.cons hm hms) fun t ht u htu => hvisit t ?_ u htu
              have hdepth := depth_item_lt (Fields.mem_of_get? hv) ht
              simp only [Tree.depth]
              omega
            · split
              · exact .cons hrest .nil
              · exact .nil
        | _ => exact ih h hvisit

theorem box_alike (kinds : Registry) {t u : Tree} (h : Alike t u) :
    Alike (box kinds t) (box kinds u) := by
  induction t using Tree.depth_induction generalizing u with
  | leaf t hm =>
    have hum : u.isMap = false := h.isMap_eq.trans hm
    rwa [box_of_not_map hm, box_of_not_map hum]
  | map fs ih =>
    obtain ⟨gs, rfl, hgs⟩ := h.exists_map
    rw [box_map, box_map]
    apply boxAlong_alike kinds hgs
    intro t ht u htu
    exact ih t ht htu

namespace Fields
variable {α : Type} {fs : Fields α} {key : String}

/-- Writes leave the last value of a key in the place of the first. -/
lemma valuesAt_extend (fs more : Fields α) (key : String) : valuesAt (extend fs more) key =
    match (valuesAt more key).getLast? with
    | none => valuesAt fs key
    | some v => v :: (valuesAt fs key).tail := by
  induction more generalizing fs with
  | nil => rfl
  | cons e more ih =>
    obtain ⟨k, v⟩ := e
    rw [extend_cons, ih, valuesAt_cons]
    by_cases hk : k = key
    · subst hk
      rw [if_pos rfl, List.getLast?_cons, valuesAt_insert_self]
      cases (valuesAt more k).getLast? <;> rfl
    · rw [if_neg hk, valuesAt_insert_of_ne _ _ hk]

lemma valuesAt_ofEntries (fs : Fields α) (key : String) :
    valuesAt (ofEntries fs) key = (valuesAt fs key).getLast?.toList := by
  rw [ofEntries, valuesAt_extend]
  cases (valuesAt fs key).getLast? <;> rfl

lemma valuesAt_rename {f : String → String} (h : ∀ other ∈ keys fs, f other = f key → other = key) :
    valuesAt (fs.map fun e => (f e.1, e.2)) (f key) = valuesAt fs key := by
  induction fs with
  | nil => rfl
  | cons e fs ih =>
    rw [keys_cons, List.forall_mem_cons] at h
    have hiff : f e.1 = f key ↔ e.1 = key := ⟨h.1, congrArg f⟩
    simp only [List.map_cons, valuesAt_cons, hiff, ih h.2]

lemma valuesAt_rename_of_notMem {f : String → String} (h : ∀ other ∈ keys fs, f other ≠ key) :
    valuesAt (fs.map fun e => (f e.1, e.2)) key = [] := by
  rw [List.eq_nil_iff_forall_not_mem]
  intro v hv
  obtain ⟨e, he, heq⟩ := List.mem_map.mp (mem_valuesAt.mp hv)
  exact h e.1 (mem_keys_of_mem he) (congrArg Prod.fst heq)

end Fields

lemma forall₂_getLast? {α β : Type} {R : α → β → Prop} {as : List α} {bs : List β}
    (h : List.Forall₂ R as bs) : List.Forall₂ R as.getLast?.toList bs.getLast?.toList := by
  induction h with
  | nil => exact .nil
  | @cons a b as bs hab _ ih =>
    rw [List.getLast?_cons, List.getLast?_cons]
    generalize as.getLast? = v, bs.getLast? = w at ih
    cases v with
    | none =>
      cases w with
      | none => exact .cons hab .nil
      | some w => cases ih
    | some v =>
      cases w with
      | none => cases ih
      | some w => exact ih

/-- Keys of which no two have one document spelling. -/
def DistinctSpellings (fs : Fields Tree) : Prop :=
  ∀ key ∈ fs.keys, ∀ other ∈ fs.keys, documentKey key = documentKey other → key = other

instance (fs : Fields Tree) : Decidable (DistinctSpellings fs) :=
  inferInstanceAs (Decidable (∀ key ∈ fs.keys, ∀ other ∈ fs.keys,
    documentKey key = documentKey other → key = other))

lemma Fields.Matches.respellKeys {fs gs : Fields Tree} (h : Fields.Matches Alike fs gs)
    (hfs : DistinctSpellings fs) : Fields.Matches Alike (respellKeys fs) (respellKeys gs) := by
  intro spelling
  rw [Schemata.respellKeys, Schemata.respellKeys, valuesAt_ofEntries, valuesAt_ofEntries]
  apply forall₂_getLast?
  by_cases hspelling : ∃ key ∈ fs.keys, documentKey key = spelling
  · obtain ⟨key, hk, rfl⟩ := hspelling
    rw [valuesAt_rename fun other ho heq => hfs other ho key hk heq,
      valuesAt_rename fun other ho heq => hfs other (h.mem_keys_iff.mpr ho) key hk heq]
    exact h key
  · have hnone : ∀ other ∈ fs.keys, documentKey other ≠ spelling :=
      fun other ho heq => hspelling ⟨other, ho, heq⟩
    rw [valuesAt_rename_of_notMem hnone,
      valuesAt_rename_of_notMem fun other ho => hnone other (h.mem_keys_iff.mpr ho)]
    exact .nil

/-- The schemas directly inside a schema, as respelling visits them. -/
inductive Visits : Tree → Tree → Prop where
  | under {fs : Fields Tree} {key : String} {value t : Tree} : (key, value) ∈ fs →
      t ∈ schemasUnder key value → Visits (.map fs) t

lemma Visits.depth_lt {t u : Tree} (h : Visits t u) : u.depth < t.depth := by
  obtain ⟨hmem, hu⟩ := h
  exact depth_of_mem_fields hmem hu

/-- A property of the fields of every schema that a pass visits in a tree. -/
def Throughout (p : Fields Tree → Prop) (t : Tree) : Prop :=
  ∀ fs, Relation.ReflTransGen Visits t (.map fs) → p fs

namespace Throughout
variable {p : Fields Tree → Prop} {fs : Fields Tree} {t u : Tree}

lemma map (hroot : p fs) (h : ∀ t, Visits (.map fs) t → Throughout p t) :
    Throughout p (.map fs) := by
  intro gs hgs
  rcases hgs.cases_head with heq | ⟨t, ht, hgs⟩
  · cases heq
    exact hroot
  · exact h t ht gs hgs

lemma of_not_map (h : t.isMap = false) : Throughout p t := by
  intro gs hgs
  rcases hgs.cases_head with rfl | ⟨u, hu, _⟩
  · cases h
  · cases hu
    cases h

lemma root (h : Throughout p (.map fs)) : p fs := h fs .refl

lemma visited (h : Throughout p t) (hu : Visits t u) : Throughout p u :=
  fun fs hfs => h fs (.head hu hfs)

end Throughout

/-- No schema that respelling visits in a tree has two keys of one spelling. -/
def SpelledApart (t : Tree) : Prop :=
  ∀ fs, Relation.ReflTransGen Visits t (.map fs) → DistinctSpellings fs

lemma SpelledApart.map {fs : Fields Tree} (hroot : DistinctSpellings fs)
    (h : ∀ t, Visits (.map fs) t → SpelledApart t) : SpelledApart (.map fs) :=
  Throughout.map hroot h

lemma SpelledApart.visited {t u : Tree} (h : SpelledApart t) (hu : Visits t u) : SpelledApart u :=
  Throughout.visited h hu

theorem respell_alike {t u : Tree} (ht : SpelledApart t) (h : Alike t u) :
    Alike (respell t) (respell u) := by
  induction t using Tree.depth_induction generalizing u with
  | leaf t hm =>
    have hum : u.isMap = false := h.isMap_eq.trans hm
    rwa [respell_of_not_map hm, respell_of_not_map hum]
  | map fs ih =>
    obtain ⟨gs, rfl, hgs⟩ := h.exists_map
    have hvisited := hgs.mapSchemas (f := respell) fun e he t hu u htu => by
      have hvisits : Visits (.map fs) t := .under he hu
      exact ih t hvisits.depth_lt (ht.visited hvisits) htu
    have hroot : DistinctSpellings (mapSchemas respell fs) := by
      have hfs := ht fs .refl
      unfold DistinctSpellings at hfs ⊢
      rwa [keys_mapSchemas]
    rw [respell_map, respell_map]
    exact Tree.alike_map_iff.mpr (hvisited.respellKeys hroot)

end Schemata
