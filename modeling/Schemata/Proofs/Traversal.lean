import Mathlib.Data.List.Forall2
import Mathlib.Logic.Relation
import Schemata.Proofs.Fields
import Schemata.Render.Slot

/-! Traversals as relations: a pass changes the schemas inside a schema one by one,
and keeps every key and every literal. -/
namespace Schemata

lemma exists_of_mem_right {α : Type u} {β : Type v} {R : α → β → Prop} {as : List α} {bs : List β}
    (h : List.Forall₂ R as bs) {b : β} (hb : b ∈ bs) : ∃ a ∈ as, R a b := by
  induction h with
  | nil => cases hb
  | @cons a b' as bs hab _ ih =>
    rcases List.mem_cons.mp hb with rfl | hb
    · exact ⟨a, List.mem_cons_self, hab⟩
    · obtain ⟨a', ha', hr⟩ := ih hb
      exact ⟨a', List.mem_cons_of_mem _ ha', hr⟩

lemma exists_of_mem_left {α : Type u} {β : Type v} {R : α → β → Prop} {as : List α} {bs : List β}
    (h : List.Forall₂ R as bs) {a : α} (ha : a ∈ as) : ∃ b ∈ bs, R a b :=
  exists_of_mem_right h.flip ha

lemma exists_forall₂_iff {α : Type u} {β : Type v} {R : α → β → Prop} {as : List α} :
    (∃ bs, List.Forall₂ R as bs) ↔ ∀ a ∈ as, ∃ b, R a b := by
  induction as with
  | nil => exact ⟨fun _ _ ha => (nomatch ha), fun _ => ⟨[], .nil⟩⟩
  | cons a as ih =>
    rw [List.forall_mem_cons, ← ih]
    constructor
    · rintro ⟨_, _ | ⟨hb, hrest⟩⟩
      exact ⟨⟨_, hb⟩, _, hrest⟩
    · rintro ⟨⟨b, hb⟩, bs, hrest⟩
      exact ⟨b :: bs, .cons hb hrest⟩

namespace Fields
variable {α : Type u} {β : Type v} {R : String → α → β → Prop}

/-- The same keys in the same order, with related values under each. -/
def Rel (R : String → α → β → Prop) : Fields α → Fields β → Prop :=
  List.Forall₂ fun e f => e.1 = f.1 ∧ R e.1 e.2 f.2

lemma Rel.keys_eq {fs : Fields α} {gs : Fields β} (h : Rel R fs gs) : keys fs = keys gs := by
  induction h with
  | nil => rfl
  | cons hef _ ih => rw [keys_cons, keys_cons, hef.1, ih]

lemma Rel.get? {fs : Fields α} {gs : Fields β} (h : Rel R fs gs) (key : String) :
    Option.Rel (R key) (fs.get? key) (gs.get? key) := by
  induction h with
  | nil => exact .none
  | @cons e f fs gs hef _ ih =>
    obtain ⟨k, v⟩ := e
    obtain ⟨l, w⟩ := f
    obtain ⟨rfl, hvw⟩ := hef
    rw [get?_cons, get?_cons]
    by_cases hk : k = key
    · subst hk
      rw [if_pos rfl, if_pos rfl]
      exact .some hvw
    · rw [if_neg hk, if_neg hk]
      exact ih

lemma Rel.exists_of_get? {fs : Fields α} {gs : Fields β} (h : Rel R fs gs) {key : String} {v : α}
    (hv : fs.get? key = some v) : ∃ w, gs.get? key = some w ∧ R key v w := by
  have hrel := h.get? key
  rw [hv] at hrel
  cases hg : gs.get? key with
  | none =>
    rw [hg] at hrel
    cases hrel
  | some w =>
    rw [hg] at hrel
    cases hrel with
    | some hvw => exact ⟨w, rfl, hvw⟩

lemma Rel.exists_of_get?_right {fs : Fields α} {gs : Fields β} (h : Rel R fs gs) {key : String}
    {w : β} (hw : gs.get? key = some w) : ∃ v, fs.get? key = some v ∧ R key v w := by
  have hrel := h.get? key
  rw [hw] at hrel
  cases hf : fs.get? key with
  | none =>
    rw [hf] at hrel
    cases hrel
  | some v =>
    rw [hf] at hrel
    cases hrel with
    | some hvw => exact ⟨v, rfl, hvw⟩

lemma Rel.erase {fs : Fields α} {gs : Fields β} (h : Rel R fs gs) (key : String) :
    Rel R (fs.erase key) (gs.erase key) := by
  induction h with
  | nil => exact .nil
  | @cons e f fs gs hef _ ih =>
    rw [erase_cons, erase_cons, ← hef.1]
    by_cases hk : e.1 = key
    · rw [if_pos hk, if_pos hk]
      exact ih
    · rw [if_neg hk, if_neg hk]
      exact .cons hef ih

lemma exists_rel_iff {fs : Fields α} : (∃ gs, Rel R fs gs) ↔ ∀ e ∈ fs, ∃ w, R e.1 e.2 w := by
  refine exists_forall₂_iff.trans (forall₂_congr fun e _ => ?_)
  constructor
  · rintro ⟨f, _, hw⟩
    exact ⟨f.2, hw⟩
  · rintro ⟨w, hw⟩
    exact ⟨(e.1, w), rfl, hw⟩

end Fields

/-- The value under a key with every schema in it changed by `R`, and nothing else. -/
inductive InSlot (R : Tree → Tree → Prop) (key : String) (value : Tree) : Tree → Prop where
  | literal : slot key value = .literal → InSlot R key value value
  | schema {t : Tree} : slot key value = .schema → R value t → InSlot R key value t
  | items {ts us : List Tree} : slot key value = .items ts → List.Forall₂ R ts us →
      InSlot R key value (.list us)
  | entries {fs gs : Fields Tree} : slot key value = .entries fs → Fields.Rel (fun _ => R) fs gs →
      InSlot R key value (.map gs)

namespace InSlot
variable {R : Tree → Tree → Prop} {key : String} {value w : Tree}

lemma eq_of_literal (h : InSlot R key value w) (hs : slot key value = .literal) : w = value := by
  rcases h with _ | ⟨h', _⟩ | ⟨h', _⟩ | ⟨h', _⟩
  · rfl
  all_goals rw [hs] at h'; cases h'

lemma of_schema (h : InSlot R key value w) (hs : slot key value = .schema) : R value w := by
  rcases h with h' | ⟨_, hr⟩ | ⟨h', _⟩ | ⟨h', _⟩
  · rw [hs] at h'; cases h'
  · exact hr
  all_goals rw [hs] at h'; cases h'

lemma exists_items (h : InSlot R key value w) {ts : List Tree} (hs : slot key value = .items ts) :
    ∃ us, w = .list us ∧ List.Forall₂ R ts us := by
  rcases h with h' | ⟨h', _⟩ | ⟨h', hr⟩ | ⟨h', _⟩
  · rw [hs] at h'; cases h'
  · rw [hs] at h'; cases h'
  · rw [hs] at h'
    cases h'
    exact ⟨_, rfl, hr⟩
  · rw [hs] at h'; cases h'

lemma exists_entries (h : InSlot R key value w) {fs : Fields Tree}
    (hs : slot key value = .entries fs) : ∃ gs, w = .map gs ∧ Fields.Rel (fun _ => R) fs gs := by
  rcases h with h' | ⟨h', _⟩ | ⟨h', _⟩ | ⟨h', hr⟩
  · rw [hs] at h'; cases h'
  · rw [hs] at h'; cases h'
  · rw [hs] at h'; cases h'
  · rw [hs] at h'
    cases h'
    exact ⟨_, rfl, hr⟩

end InSlot

@[simp] lemma Tree.isMap_map (fs : List (String × Tree)) : (Tree.map fs).isMap = true := rfl

@[simp] lemma Tree.isMap_list (ts : List Tree) : (Tree.list ts).isMap = false := rfl

lemma slot_eq_schema_iff {key : String} {value : Tree} : slot key value = .schema ↔
    key ∉ literalKeys ∧ key ∉ schemaMapKeys ∧ value.isMap = true := by
  by_cases hl : key ∈ literalKeys
  · simp [slot, hl]
  · cases value with
    | map fs => by_cases hm : key ∈ schemaMapKeys <;> simp [slot, hl, hm]
    | list ts =>
      cases ts with
      | nil => simp [slot, hl]
      | cons t ts => by_cases ht : t.isMap = true <;> simp [slot, hl, ht]
    | _ => simp [slot, hl, Tree.isMap]

lemma slot_eq_items_iff {key : String} {value : Tree} {ts : List Tree} :
    slot key value = .items ts ↔
      key ∉ literalKeys ∧ value = .list ts ∧ ∃ t rest, ts = t :: rest ∧ t.isMap = true := by
  by_cases hl : key ∈ literalKeys
  · simp [slot, hl]
  · cases value with
    | map fs => by_cases hm : key ∈ schemaMapKeys <;> simp [slot, hl, hm]
    | list us =>
      cases us with
      | nil =>
        simp only [slot, List.contains_eq_mem, hl, decide_false, Bool.false_eq_true, if_false,
          reduceCtorEq, not_false_eq_true, Tree.list.injEq, true_and, false_iff, not_and]
        rintro rfl ⟨t, rest, hts, _⟩
        cases hts
      | cons u us =>
        simp only [slot, List.contains_eq_mem, hl, decide_false, Bool.false_eq_true, if_false,
          not_false_eq_true, Tree.list.injEq, true_and]
        by_cases hu : u.isMap = true
        · rw [if_pos hu, Slot.items.injEq]
          constructor
          · rintro rfl
            exact ⟨rfl, u, us, rfl, hu⟩
          · exact fun h => h.1
        · rw [if_neg hu]
          constructor
          · intro h
            cases h
          · rintro ⟨rfl, t, rest, hts, ht⟩
            cases hts
            exact absurd ht hu
    | _ => simp [slot, hl]

lemma slot_eq_entries_iff {key : String} {value : Tree} {fs : Fields Tree} :
    slot key value = .entries fs ↔ key ∉ literalKeys ∧ key ∈ schemaMapKeys ∧ value = .map fs := by
  by_cases hl : key ∈ literalKeys
  · simp [slot, hl]
  · cases value with
    | map gs => by_cases hm : key ∈ schemaMapKeys <;> simp [slot, hl, hm]
    | list ts =>
      cases ts with
      | nil => simp [slot, hl]
      | cons t ts => by_cases ht : t.isMap = true <;> simp [slot, hl, ht]
    | _ => simp [slot, hl]

lemma slot_congr {key other : String} (hl : key ∈ literalKeys ↔ other ∈ literalKeys)
    (hm : key ∈ schemaMapKeys ↔ other ∈ schemaMapKeys) (value : Tree) :
    slot key value = slot other value := by
  simp only [slot, List.contains_eq_mem, hl, hm]

lemma slot_of_mem_literalKeys {key : String} (h : key ∈ literalKeys) (value : Tree) :
    slot key value = .literal := by
  simp [slot, h]

lemma literalKeys_disjoint_schemaMapKeys : ∀ key ∈ schemaMapKeys, key ∉ literalKeys := by decide

lemma slot_of_mem_schemaMapKeys {key : String} (h : key ∈ schemaMapKeys) (es : Fields Tree) :
    slot key (.map es) = .entries es :=
  slot_eq_entries_iff.mpr ⟨literalKeys_disjoint_schemaMapKeys key h, h, rfl⟩

lemma forall₂_comp {α : Type u} {β : Type v} {γ : Type w} {R : α → β → Prop} {S : β → γ → Prop}
    {as : List α} {bs : List β} {cs : List γ} (h : List.Forall₂ R as bs)
    (h' : List.Forall₂ S bs cs) : List.Forall₂ (Relation.Comp R S) as cs := by
  induction h generalizing cs with
  | nil =>
    cases h'
    exact .nil
  | cons hab _ ih =>
    cases h' with
    | cons hbc hrest => exact .cons ⟨_, hab, hbc⟩ (ih hrest)

namespace InSlot
variable {R S : Tree → Tree → Prop} {key : String} {value w x : Tree}

lemma imp (h : InSlot R key value w) (hRS : ∀ t u, R t u → S t u) : InSlot S key value w := by
  cases h with
  | literal hs => exact .literal hs
  | schema hs hr => exact .schema hs (hRS _ _ hr)
  | items hs hr => exact .items hs (hr.imp hRS)
  | entries hs hr => exact .entries hs (hr.imp fun _ _ hef => ⟨hef.1, hRS _ _ hef.2⟩)

lemma of_slot_eq {other : String} (hs : ∀ v, slot key v = slot other v)
    (h : InSlot R key value w) : InSlot R other value w := by
  cases h with
  | literal h => exact .literal (hs value ▸ h)
  | schema h hr => exact .schema (hs value ▸ h) hr
  | items h hr => exact .items (hs value ▸ h) hr
  | entries h hr => exact .entries (hs value ▸ h) hr

/-- A function is a pass as well. -/
lemma of_mapSlot (f : Tree → Tree) (key : String) (value : Tree) :
    InSlot (fun t u => f t = u) key value (mapSlot f key value) := by
  unfold mapSlot
  cases hs : slot key value with
  | literal => exact .literal hs
  | schema => exact .schema hs rfl
  | items ts =>
    refine .items hs ?_
    rw [List.forall₂_map_right_iff, List.forall₂_same]
    exact fun _ _ => rfl
  | entries fs =>
    refine .entries hs ?_
    unfold Fields.Rel Fields.mapValues
    rw [List.forall₂_map_right_iff, List.forall₂_same]
    exact fun _ _ => ⟨rfl, rfl⟩

/-- Two passes after one another are one pass, if the first of them makes maps of maps alone. -/
theorem comp (hR : ∀ t u, R t u → u.isMap = t.isMap) (h : InSlot R key value w)
    (h' : InSlot S key w x) : InSlot (Relation.Comp R S) key value x := by
  cases h with
  | literal hs =>
    obtain rfl := h'.eq_of_literal hs
    exact .literal hs
  | schema hs hr =>
    obtain ⟨hl, hm, hmap⟩ := slot_eq_schema_iff.mp hs
    have hs' : slot key w = .schema := slot_eq_schema_iff.mpr ⟨hl, hm, (hR _ _ hr).trans hmap⟩
    exact .schema hs ⟨w, hr, h'.of_schema hs'⟩
  | @items ts us hs hr =>
    obtain ⟨hl, rfl, t, rest, rfl, ht⟩ := slot_eq_items_iff.mp hs
    cases hr with
    | @cons _ u _ us htu hrest =>
      have hs' : slot key (.list (u :: us)) = .items (u :: us) :=
        slot_eq_items_iff.mpr ⟨hl, rfl, u, us, rfl, (hR _ _ htu).trans ht⟩
      obtain ⟨xs, rfl, hx⟩ := h'.exists_items hs'
      exact .items hs (forall₂_comp (.cons htu hrest) hx)
  | @entries fs gs hs hr =>
    obtain ⟨hl, hm, rfl⟩ := slot_eq_entries_iff.mp hs
    have hs' : slot key (.map gs) = .entries gs := slot_eq_entries_iff.mpr ⟨hl, hm, rfl⟩
    obtain ⟨xs, rfl, hx⟩ := h'.exists_entries hs'
    refine .entries hs ((forall₂_comp hr hx).imp ?_)
    rintro e f ⟨g, ⟨hkey, hval⟩, hkey', hval'⟩
    exact ⟨hkey.trans hkey', g.2, hval, hval'⟩

end InSlot

lemma rel_mapSchemas (f : Tree → Tree) (fs : Fields Tree) :
    Fields.Rel (InSlot fun t u => f t = u) fs (mapSchemas f fs) := by
  unfold Fields.Rel mapSchemas
  rw [List.forall₂_map_right_iff, List.forall₂_same]
  exact fun e _ => ⟨rfl, InSlot.of_mapSlot f e.1 e.2⟩

lemma Tree.isMap_eq_true_iff {t : Tree} : t.isMap = true ↔ ∃ fs, t = .map fs := by
  cases t <;> simp [Tree.isMap]

lemma isMap_of_apply_eq {f : Tree → Tree} (hf : ∀ t, (f t).isMap = t.isMap) (t u : Tree)
    (h : f t = u) : u.isMap = t.isMap := by
  rw [← h, hf]

variable {visit : Tree → Path → Except Error Tree} {R : Tree → Tree → Prop}

lemma visitItems_eq_ok_iff (h : ∀ t path u, visit t path = .ok u ↔ R t u) {path : Path} {i : Nat}
    {ts us : List Tree} : visitItems visit path i ts = .ok us ↔ List.Forall₂ R ts us := by
  induction ts generalizing i us with
  | nil => simp [visitItems, eq_comm]
  | cons t ts ih =>
    simp only [visitItems, bind, Except.bind, pure, Except.pure, List.forall₂_cons_left_iff,
      ← h t (path ++ [toString i]), ← ih (i := i + 1)]
    cases visit t (path ++ [toString i]) with
    | error e => simp
    | ok u => cases visitItems visit path (i + 1) ts <;> simp [eq_comm]

lemma visitEntries_eq_ok_iff {visit : String → Tree → Path → Except Error Tree}
    {R : String → Tree → Tree → Prop} (h : ∀ key t path u, visit key t path = .ok u ↔ R key t u)
    {path : Path} {fs gs : Fields Tree} :
    visitEntries visit path fs = .ok gs ↔ Fields.Rel R fs gs := by
  induction fs generalizing gs with
  | nil => simp [visitEntries, Fields.Rel, eq_comm]
  | cons e fs ih =>
    obtain ⟨k, t⟩ := e
    unfold Fields.Rel at ih ⊢
    simp only [visitEntries, bind, Except.bind, pure, Except.pure, List.forall₂_cons_left_iff,
      ← h k t (path ++ [k]), ← ih]
    cases visit k t (path ++ [k]) with
    | error e => simp
    | ok u => cases visitEntries visit path fs <;> simp [eq_comm]

lemma visitSlot_eq_ok_iff (h : ∀ t path u, visit t path = .ok u ↔ R t u) {key : String}
    {value w : Tree} {path : Path} :
    visitSlot visit key value path = .ok w ↔ InSlot R key value w := by
  unfold visitSlot
  cases hs : slot key value with
  | literal =>
    constructor
    · rintro ⟨⟩
      exact .literal hs
    · intro hw
      rw [hw.eq_of_literal hs]
  | schema =>
    constructor
    · intro hw
      exact .schema hs ((h value path w).mp hw)
    · intro hw
      exact (h value path w).mpr (hw.of_schema hs)
  | items ts =>
    constructor
    · intro hw
      cases hus : visitItems visit path 0 ts with
      | error e => simp [hus, Except.map] at hw
      | ok us =>
        obtain rfl : Tree.list us = w := by simpa [hus, Except.map] using hw
        exact .items hs ((visitItems_eq_ok_iff h).mp hus)
    · intro hw
      obtain ⟨us, rfl, hr⟩ := hw.exists_items hs
      simp [(visitItems_eq_ok_iff h).mpr hr, Except.map]
  | entries fs =>
    constructor
    · intro hw
      cases hgs : visitEntries (fun _ => visit) path fs with
      | error e => simp [hgs, Except.map] at hw
      | ok gs =>
        obtain rfl : Tree.map gs = w := by simpa [hgs, Except.map] using hw
        exact .entries hs ((visitEntries_eq_ok_iff fun _ => h).mp hgs)
    · intro hw
      obtain ⟨gs, rfl, hr⟩ := hw.exists_entries hs
      simp [(visitEntries_eq_ok_iff fun _ => h).mpr hr, Except.map]

/-- A visit succeeds exactly if it does on every schema, wherever they stand. -/
theorem visitSchemas_eq_ok_iff (h : ∀ t path u, visit t path = .ok u ↔ R t u) {path : Path}
    {fs gs : Fields Tree} : visitSchemas visit path fs = .ok gs ↔ Fields.Rel (InSlot R) fs gs := by
  have hslot : ∀ key value path w, visitSlot visit key value path = .ok w ↔ InSlot R key value w :=
    fun _ _ _ _ => visitSlot_eq_ok_iff h
  exact visitEntries_eq_ok_iff hslot

end Schemata
