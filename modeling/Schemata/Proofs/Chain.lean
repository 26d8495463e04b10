import Schemata.Proofs.Settle
import Schemata.Render.Pass

/-! The chain of all passes: every pass goes from a schema to the schemas inside it, and so
does their composition where none of them boxes the schema. -/
namespace Schemata

/-- The last two passes, which turn a boxed schema into a document. -/
def finish (t : Tree) : Tree := strip (respell t)

lemma Pass.run_desugar_box (c : RenderContext) (t : Tree) :
    Pass.run c [.desugar, .box] t = (Schemata.desugar t).map (Schemata.box c.kinds) := by
  simp only [run, List.foldlM_cons, List.foldlM_nil, desugar, box]
  cases Schemata.desugar t <;> rfl

lemma Pass.run_defaults (c : RenderContext) (t : Tree) :
    Pass.run c Pass.defaults t = (Pass.run c [.desugar, .box] t).map finish := by
  rw [run_desugar_box]
  simp only [run, defaults, List.foldlM_cons, List.foldlM_nil, desugar, box, respell, strip]
  cases Schemata.desugar t <;> rfl

lemma isMap_boxAlong (kinds : Registry) (visit : Tree → Tree) (fs : Fields Tree)
    (keys : List String) : (boxAlong kinds visit keys fs).isMap = true := by
  induction keys with
  | nil => rfl
  | cons key keys ih =>
    unfold boxAlong
    split
    · rfl
    · exact ih

@[simp] lemma isMap_box (kinds : Registry) (t : Tree) : (box kinds t).isMap = t.isMap := by
  cases h : t.isMap with
  | false => rw [box_of_not_map h, h]
  | true =>
    obtain ⟨fs, rfl⟩ := Tree.isMap_eq_true_iff.mp h
    rw [box_map]
    exact isMap_boxAlong kinds _ fs choiceKeys

@[simp] lemma isMap_respell (t : Tree) : (respell t).isMap = t.isMap := by
  cases h : t.isMap with
  | false => rw [respell_of_not_map h, h]
  | true =>
    obtain ⟨fs, rfl⟩ := Tree.isMap_eq_true_iff.mp h
    rw [respell_map]
    rfl

@[simp] lemma isMap_strip (t : Tree) : (strip t).isMap = t.isMap := by
  cases h : t.isMap with
  | false => rw [strip_of_not_map h, h]
  | true =>
    obtain ⟨fs, rfl⟩ := Tree.isMap_eq_true_iff.mp h
    rw [strip_map]
    rfl

@[simp] lemma isMap_finish (t : Tree) : (finish t).isMap = t.isMap := by
  rw [finish, isMap_strip, isMap_respell]

lemma run_desugar_box_eq_ok_iff {c : RenderContext} {t u : Tree} :
    Pass.run c [.desugar, .box] t = .ok u ↔ ∃ d, Desugars t d ∧ u = box c.kinds d := by
  rw [Pass.run_desugar_box]
  constructor
  · intro h
    cases hd : desugar t with
    | error e =>
      rw [hd] at h
      cases h
    | ok d =>
      rw [hd] at h
      cases h
      exact ⟨d, hd, rfl⟩
  · rintro ⟨d, hd, rfl⟩
    rw [Desugars] at hd
    rw [hd]
    rfl

lemma isMap_of_run {c : RenderContext} {t u : Tree} (h : Pass.run c [.desugar, .box] t = .ok u) :
    u.isMap = t.isMap := by
  obtain ⟨d, hd, rfl⟩ := run_desugar_box_eq_ok_iff.mp h
  rw [isMap_box, hd.isMap_eq]

/-- A tree that the whole chain turns into another one. -/
def Renders (c : RenderContext) (t u : Tree) : Prop := Pass.run c Pass.defaults t = .ok u

lemma renders_iff {c : RenderContext} {t u : Tree} :
    Renders c t u ↔ ∃ d, Desugars t d ∧ u = finish (box c.kinds d) := by
  rw [Renders, Pass.run_defaults]
  constructor
  · intro h
    cases hd : Pass.run c [.desugar, .box] t with
    | error e =>
      rw [hd] at h
      cases h
    | ok v =>
      rw [hd] at h
      obtain ⟨e, he, rfl⟩ := run_desugar_box_eq_ok_iff.mp hd
      cases h
      exact ⟨e, he, rfl⟩
  · rintro ⟨d, hd, rfl⟩
    rw [run_desugar_box_eq_ok_iff.mpr ⟨d, hd, rfl⟩]
    rfl

/-- What the last two passes make of the value under a key. -/
def finishValue (key : String) (value : Tree) : Tree :=
  mapSlot strip (documentKey key) (mapSlot respell key value)

/-- What the passes after desugaring make of the value under a key. -/
def finishSlot (kinds : Registry) (key : String) (value : Tree) : Tree :=
  mapSlot strip (documentKey key) (mapSlot respell key (mapSlot (box kinds) key value))

/-- A key that means the same in its document spelling. -/
structure StableKey (key : String) : Prop where
  literal : key ∈ literalKeys ↔ documentKey key ∈ literalKeys
  schemaMap : key ∈ schemaMapKeys ↔ documentKey key ∈ schemaMapKeys
  bookkeeping : key ∈ bookkeepingKeys ↔ documentKey key ∈ bookkeepingKeys

lemma StableKey.slot_eq {key : String} (hk : StableKey key) (value : Tree) :
    slot (documentKey key) value = slot key value :=
  slot_congr hk.literal.symm hk.schemaMap.symm value

/-- The last two passes reach the schemas under a stable key one by one. -/
lemma inSlot_finish {key : String} (hk : StableKey key) (value : Tree) :
    InSlot (fun t u => finish t = u) key value (finishValue key value) := by
  have hrespell := InSlot.of_mapSlot respell key value
  have hstrip := (InSlot.of_mapSlot strip (documentKey key)
    (mapSlot respell key value)).of_slot_eq hk.slot_eq
  apply (hrespell.comp (isMap_of_apply_eq isMap_respell) hstrip).imp
  rintro t u ⟨r, rfl, rfl⟩
  rfl

/-- The chain reaches the schemas under a stable key one by one. -/
lemma inSlot_renders {c : RenderContext} {key : String} {value w : Tree} (hk : StableKey key)
    (h : InSlot Desugars key value w) :
    InSlot (Renders c) key value (finishSlot c.kinds key w) := by
  have hbox := InSlot.of_mapSlot (box c.kinds) key w
  have hfinish := inSlot_finish hk (mapSlot (box c.kinds) key w)
  have hboxed := h.comp (fun _ _ ht => ht.isMap_eq) hbox
  have hfinished := hboxed.comp (fun t u ⟨d, hd, hu⟩ => by
    rw [← hu, isMap_box, hd.isMap_eq]) hfinish
  apply hfinished.imp
  rintro t u ⟨b, ⟨d, hd, rfl⟩, rfl⟩
  exact renders_iff.mpr ⟨d, hd, rfl⟩

/-- Fields that are not boxed: they have no kind, or no choices. -/
def Unboxed (fs : Fields Tree) : Prop :=
  fs.get? "kind" = none ∨ ∀ key ∈ choiceKeys, fs.get? key = none ∨ fs.get? key = some (.list [])

lemma specificKind?_eq_some_iff {fs : Fields Tree} {kind : String} :
    specificKind? fs = some kind ↔
      fs.get? "kind" = some (.string kind) ∧ kind ≠ Kind.entityId := by
  unfold specificKind?
  cases fs.get? "kind" with
  | none => simp
  | some v =>
    cases v with
    | string value =>
      by_cases hentity : value = Kind.entityId
      · simp only [hentity, if_true, reduceCtorEq, Option.some.injEq, Tree.string.injEq, false_iff]
        rintro ⟨rfl, hne⟩
        exact hne rfl
      · simp only [hentity, if_false, Option.some.injEq, Tree.string.injEq]
        constructor
        · rintro rfl
          exact ⟨rfl, hentity⟩
        · exact fun h => h.1
    | _ => simp

/-- Without a specific kind, or without members under the keys, nothing is boxed. -/
lemma boxAlong_of_no_members {fs : Fields Tree} (kinds : Registry) (visit : Tree → Tree)
    {keys : List String} (h : specificKind? fs = none ∨
      ∀ key ∈ keys, ∀ ms, fs.get? key = some (.list ms) → ms = []) :
    boxAlong kinds visit keys fs = .map (mapSchemas visit fs) := by
  induction keys with
  | nil => rfl
  | cons key keys ih =>
    have hrest := ih (h.imp_right fun hkeys k hk => hkeys k (List.mem_cons_of_mem _ hk))
    rw [boxAlong, hrest]
    split
    · rename_i kind m ms hkind hm
      rcases h with h | h
      · rw [h] at hkind
        cases hkind
      · cases h key List.mem_cons_self _ hm
    · rfl

lemma boxAlong_of_unboxed {fs : Fields Tree} (kinds : Registry) (visit : Tree → Tree)
    {keys : List String} (h : specificKind? fs = none ∨
      ∀ key ∈ keys, fs.get? key = none ∨ fs.get? key = some (.list [])) :
    boxAlong kinds visit keys fs = .map (mapSchemas visit fs) := by
  refine boxAlong_of_no_members kinds visit (h.imp_right fun hkeys key hk ms hms => ?_)
  rcases hkeys key hk with hnone | hnil
  · rw [hnone] at hms
    cases hms
  · rw [hnil] at hms
    cases hms
    rfl

lemma box_of_unboxed {fs : Fields Tree} (kinds : Registry) (h : Unboxed fs) :
    box kinds (.map fs) = .map (mapSchemas (box kinds) fs) := by
  rw [box_map]
  refine boxAlong_of_unboxed kinds _ (h.imp_left fun hkind => ?_)
  rw [specificKind?, hkind]

/-- A key with the choices under it, if there are any. -/
def choicesAt? (fs : Fields Tree) (key : String) : Option (String × List Tree) :=
  match fs.get? key with
  | some (.list (m :: ms)) => some (key, m :: ms)
  | _ => none

/-- The key that a schema is boxed at, the first one with choices, and these. -/
def firstChoices? (fs : Fields Tree) : Option (String × List Tree) :=
  choiceKeys.findSome? (choicesAt? fs)

section Box
variable {fs : Fields Tree} {key kind : String} {ms : List Tree}

lemma firstChoices?_of_any_of (hany : fs.get? "any_of" = some (.list ms)) (hms : ms ≠ []) :
    firstChoices? fs = some ("any_of", ms) := by
  obtain ⟨m, ms, rfl⟩ := List.exists_cons_of_ne_nil hms
  simp [firstChoices?, choiceKeys, choicesAt?, hany]

lemma choicesAt?_eq_some_iff {other : String} : choicesAt? fs other = some (key, ms) ↔
    other = key ∧ fs.get? other = some (.list ms) ∧ ms ≠ [] := by
  unfold choicesAt?
  split
  · rename_i m rest hget
    simp only [hget, Option.some.injEq, Prod.mk.injEq, Tree.list.injEq]
    refine and_congr_right fun _ => ⟨?_, And.left⟩
    rintro rfl
    exact ⟨rfl, List.cons_ne_nil m rest⟩
  · rename_i hnone
    simp only [reduceCtorEq, false_iff]
    rintro ⟨_, hget, hms⟩
    obtain ⟨m, rest, rfl⟩ := List.exists_cons_of_ne_nil hms
    exact hnone m rest hget

/-- Keys without choices are passed over. -/
lemma boxAlong_append (kinds : Registry) (visit : Tree → Tree) {before : List String}
    (h : ∀ other ∈ before, choicesAt? fs other = none) (after : List String) :
    boxAlong kinds visit (before ++ after) fs = boxAlong kinds visit after fs := by
  induction before with
  | nil => rfl
  | cons other before ih =>
    rw [List.forall_mem_cons] at h
    rw [List.cons_append, boxAlong, ih h.2]
    split
    · rename_i kind m ms _ hget
      have hsome : choicesAt? fs other = some (other, m :: ms) :=
        choicesAt?_eq_some_iff.mpr ⟨rfl, hget, List.cons_ne_nil m ms⟩
      rw [hsome] at h
      cases h.1
    · rfl

lemma choicesAt?_erase (h : choicesAt? fs key = none) (other : String) :
    choicesAt? (fs.erase other) key = none := by
  cases hat : choicesAt? (fs.erase other) key with
  | none => rfl
  | some found =>
    obtain ⟨found, ms⟩ := found
    obtain ⟨hkey, hget, hms⟩ := choicesAt?_eq_some_iff.mp hat
    rw [choicesAt?_eq_some_iff.mpr ⟨hkey, Fields.get?_of_get?_erase hget, hms⟩] at h
    cases h

lemma choicesAt?_erase_self (fs : Fields Tree) (key : String) :
    choicesAt? (fs.erase key) key = none := by
  unfold choicesAt?
  rw [Fields.get?_erase_self]

/-- A schema of a specific kind becomes a box at its first choices. What remains of it is boxed on
its own, and comes behind the other members if it carries meaning. -/
theorem box_eq_boxed (kinds : Registry) (hkind : specificKind? fs = some kind)
    (hfirst : firstChoices? fs = some (key, ms)) : box kinds (.map fs) =
      boxed key (ms.map (box kinds) ++
        if carriesMeaning kinds kind (fs.erase key) then [box kinds (.map (fs.erase key))]
        else []) := by
  obtain ⟨before, other, after, hkeys, hat, hbefore⟩ := List.findSome?_eq_some_iff.mp hfirst
  obtain ⟨rfl, hget, hms⟩ := choicesAt?_eq_some_iff.mp hat
  obtain ⟨m, ms, rfl⟩ := List.exists_cons_of_ne_nil hms
  have hrest : box kinds (.map (fs.erase other)) =
      boxAlong kinds (box kinds) after (fs.erase other) := by
    have hpassed : ∀ k ∈ before ++ [other], choicesAt? (fs.erase other) k = none := by
      intro k hk
      rcases List.mem_append.mp hk with hk | hk
      · exact choicesAt?_erase (hbefore k hk) other
      · rw [List.mem_singleton.mp hk]
        exact choicesAt?_erase_self fs other
    have hsplit : choiceKeys = (before ++ [other]) ++ after := by
      rw [hkeys, List.append_assoc, List.singleton_append]
    rw [box_map, hsplit]
    exact boxAlong_append kinds (box kinds) hpassed after
  rw [hrest, box_map, hkeys, boxAlong_append kinds (box kinds) hbefore]
  simp only [boxAlong, hkind, hget]

end Box

lemma Unboxed.of_rel {R : Tree → Tree → Prop} {fs gs : Fields Tree} (h : Unboxed fs)
    (hrel : Fields.Rel (InSlot R) fs gs) : Unboxed gs := by
  have hnone : ∀ key, fs.get? key = none → gs.get? key = none := fun key hk => by
    rw [Fields.get?_eq_none_iff] at hk ⊢
    rw [← hrel.keys_eq]
    exact hk
  refine h.imp (hnone "kind") fun hkeys key hk => ?_
  rcases hkeys key hk with hn | hnil
  · exact .inl (hnone key hn)
  · obtain ⟨w, hw, hslot⟩ := hrel.exists_of_get? hnil
    have hliteral : slot key (.list []) = .literal := by simp [slot]
    rw [hslot.eq_of_literal hliteral] at hw
    exact .inr hw

/-- The value of a key that stays in a document, if it is not blank. -/
def nonblank (t : Tree) : Option Tree := if t.isBlank then none else some t

/-- The fields of a level in a document: under every key that is no bookkeeping the rendered
value, unless it is blank. -/
structure RendersLevel (c : RenderContext) (fs out : Fields Tree) : Prop where
  nodup : out.keys.Nodup
  get?_eq : ∀ key value, fs.get? key = some value → key ∉ bookkeepingKeys →
    ∃ w, InSlot (Renders c) key value w ∧ out.get? (documentKey key) = nonblank w
  exists_key : ∀ k ∈ out.keys, ∃ key ∈ fs.keys, key ∉ bookkeepingKeys ∧ documentKey key = k

lemma keys_mapSchemas (visit : Tree → Tree) (fs : Fields Tree) :
    Fields.keys (mapSchemas visit fs) = fs.keys := by
  simp [Fields.keys, mapSchemas]

/-- The fields that the last two passes make of fields whose keys have different spellings. -/
lemma finish_map {fs : Fields Tree} (hnodup : (fs.keys.map documentKey).Nodup) :
    ∃ out : Fields Tree, finish (.map fs) = .map out ∧ out.keys.Nodup ∧
      ∀ k w, (k, w) ∈ out ↔ ∃ e ∈ fs, documentKey e.1 = k ∧ finishValue e.1 e.2 = w ∧
        k ∉ bookkeepingKeys ∧ w.isBlank = false := by
  have hkeys : Fields.keys ((mapSchemas respell fs).map fun e => (documentKey e.1, e.2)) =
      fs.keys.map documentKey := by
    simp [Fields.keys, mapSchemas]
  rw [finish, respell_map, respellKeys, Fields.ofEntries_of_nodup (hkeys ▸ hnodup), strip_map]
  refine ⟨_, rfl, ?_, fun k w => ?_⟩
  · refine hnodup.sublist ?_
    rw [← hkeys]
    refine (List.filter_sublist.map Prod.fst).trans ?_
    change List.Sublist (Fields.keys _) _
    rw [keys_mapSchemas]
    exact List.filter_sublist.map Prod.fst
  · simp only [dropBlankValues, dropBookkeeping, mapSchemas, List.mem_filter, List.mem_map,
      List.map_map, Function.comp_apply]
    constructor
    · rintro ⟨⟨_, ⟨⟨e, he, rfl⟩, hk⟩, heq⟩, hblank⟩
      cases heq
      exact ⟨e, he, rfl, rfl, by simpa using hk, by simpa using hblank⟩
    · rintro ⟨e, he, rfl, rfl, hk, hblank⟩
      exact ⟨⟨_, ⟨⟨e, he, rfl⟩, by simpa using hk⟩, rfl⟩, by simpa using hblank⟩

/-- The fields that the passes after desugaring make of fields that are not boxed. -/
lemma finish_box_of_unboxed {fs : Fields Tree} (kinds : Registry) (h : Unboxed fs)
    (hnodup : (fs.keys.map documentKey).Nodup) :
    ∃ out : Fields Tree, finish (box kinds (.map fs)) = .map out ∧ out.keys.Nodup ∧
      ∀ k w, (k, w) ∈ out ↔ ∃ e ∈ fs, documentKey e.1 = k ∧ finishSlot kinds e.1 e.2 = w ∧
        k ∉ bookkeepingKeys ∧ w.isBlank = false := by
  rw [← keys_mapSchemas (box kinds) fs] at hnodup
  obtain ⟨out, heq, hn, hmem⟩ := finish_map hnodup
  refine ⟨out, ?_, hn, fun k w => ?_⟩
  · rw [box_of_unboxed kinds h, heq]
  · rw [hmem]
    constructor
    · rintro ⟨_, hmapped, hdoc, hw, hrest⟩
      obtain ⟨e, he, rfl⟩ := List.mem_map.mp hmapped
      exact ⟨e, he, hdoc, hw, hrest⟩
    · rintro ⟨e, he, hdoc, hw, hrest⟩
      exact ⟨_, List.mem_map_of_mem he, hdoc, hw, hrest⟩

/-- Where no two keys have one document spelling, an entry is found by the spelling of its key. -/
lemma entry_eq_of_documentKey_eq {fs : Fields Tree} (hnodup : (fs.keys.map documentKey).Nodup)
    {key : String} {v : Tree} (hv : fs.get? key = some v) {e : String × Tree} (he : e ∈ fs)
    (hdoc : documentKey e.1 = documentKey key) : e = (key, v) := by
  have hkey : e.1 = key := List.inj_on_of_nodup_map hnodup (Fields.mem_keys_of_mem he)
    (Fields.mem_keys_of_get? hv) hdoc
  have hvalue : fs.get? e.1 = some e.2 := Fields.get?_of_mem (List.Nodup.of_map _ hnodup) he
  rw [hkey, hv] at hvalue
  exact Prod.ext hkey (Option.some.inj hvalue).symm

/-- The chain on fields that are not boxed, from the fields that its first step settles on. -/
theorem rendersLevel_of_renders {c : RenderContext} {fs gs : Fields Tree} {t : Tree}
    (ht : Renders c (.map fs) t) (hgs : settle (branchNull fs) [] = .ok gs) (h : Unboxed gs)
    (hstable : ∀ key ∈ gs.keys, StableKey key) (hnodup : (gs.keys.map documentKey).Nodup) :
    ∃ out, t = .map out ∧ RendersLevel c gs out := by
  obtain ⟨d, hd, rfl⟩ := renders_iff.mp ht
  obtain ⟨gs', hs, hgs', hrel, rfl⟩ := desugars_map_iff.mp hd
  obtain rfl : gs = gs' := Except.ok.inj (hgs.symm.trans hgs')
  have hkeys := hrel.keys_eq
  obtain ⟨out, heq, hn, hmem⟩ :=
    finish_box_of_unboxed c.kinds (h.of_rel hrel) (hkeys ▸ hnodup)
  refine ⟨out, heq, hn, ?_, ?_⟩
  · intro key value hvalue hbook
    obtain ⟨v, hv, hslot⟩ := hrel.exists_of_get? hvalue
    have hkey := hstable key (Fields.mem_keys_of_get? hvalue)
    refine ⟨_, inSlot_renders hkey hslot, ?_⟩
    unfold nonblank
    cases hblank : (finishSlot c.kinds key v).isBlank with
    | true =>
      rw [if_pos rfl, Fields.get?_eq_none_iff, Fields.mem_keys]
      rintro ⟨w, hw⟩
      obtain ⟨e, he, hdoc, rfl, _, hnb⟩ := (hmem _ w).mp hw
      rw [entry_eq_of_documentKey_eq (hkeys ▸ hnodup) hv he hdoc, hblank] at hnb
      cases hnb
    | false =>
      have hentry : (key, v) ∈ hs := Fields.mem_of_get? hv
      refine Fields.get?_of_mem hn ((hmem _ _).mpr ⟨(key, v), hentry, rfl, rfl, ?_, hblank⟩)
      exact fun hb => hbook (hkey.bookkeeping.mpr hb)
  · intro k hk
    obtain ⟨w, hw⟩ := Fields.mem_keys.mp hk
    obtain ⟨e, he, rfl, _, hbook, _⟩ := (hmem k w).mp hw
    have hmemkey : e.1 ∈ gs.keys := hkeys ▸ Fields.mem_keys_of_mem he
    exact ⟨e.1, hmemkey, fun hb => hbook ((hstable _ hmemkey).bookkeeping.mp hb), rfl⟩

end Schemata
