import Schemata.Proofs.Chain
import Schemata.Proofs.Equality

/-! The chain of all passes on a schema with choices: the choices and what remains of
the schema go through the chain on their own. -/
namespace Schemata

lemma Fields.eq_of_extract?_nil {α : Type u} {key : String} {fs : Fields α} {v : α}
    (h : extract? key fs = some (v, [])) : fs = [(key, v)] := by
  obtain ⟨before, behind, rfl, hnil, _⟩ := exists_of_extract? h
  obtain ⟨rfl, rfl⟩ := List.append_eq_nil_iff.mp hnil.symm
  rfl

namespace Tree

lemma nullSchema_same_iff {t : Tree} : nullSchema.same t = true ↔ t = nullSchema := by
  refine ⟨fun h => ?_, fun h => h ▸ same_refl _⟩
  cases t with
  | map fs =>
    change sameFields [("kind", string "null")] fs = true at h
    unfold sameFields at h
    split at h
    · rename_i b rest hx
      obtain ⟨hb, hrest⟩ := Bool.and_eq_true_iff.mp h
      obtain rfl : rest = [] := by cases rest <;> simp_all [sameFields]
      rw [Fields.eq_of_extract?_nil hx]
      cases b <;> simp_all [nullSchema, same]
    · cases h
  | _ => simp [nullSchema, same] at h

/-- A list with a tree at its end, unless an equal one is in it. -/
def keepNew (kept : List Tree) (t : Tree) : List Tree :=
  if t.isMember kept then kept else kept ++ [t]

lemma mem_foldl_keepNew {t : Tree} {ts kept : List Tree} (h : t ∈ ts.foldl keepNew kept) :
    t ∈ kept ∨ t ∈ ts := by
  induction ts generalizing kept with
  | nil => exact .inl h
  | cons u ts ih =>
    rcases ih h with h | h
    · unfold keepNew at h
      split at h
      · exact .inl h
      · rcases List.mem_append.mp h with h | h
        · exact .inl h
        · exact .inr (List.mem_singleton.mp h ▸ List.mem_cons_self)
    · exact .inr (List.mem_cons_of_mem _ h)

lemma foldl_keepNew_ne_nil {ts kept : List Tree} (h : kept ≠ []) : ts.foldl keepNew kept ≠ [] := by
  induction ts generalizing kept with
  | nil => exact h
  | cons u ts ih =>
    refine ih ?_
    unfold keepNew
    split
    · exact h
    · simp

lemma mem_dedupe {t : Tree} {ts : List Tree} (h : t ∈ dedupe ts) : t ∈ ts :=
  (mem_foldl_keepNew h).resolve_left List.not_mem_nil

lemma mem_of_mem_dedupe_filter {q : Tree → Bool} {t : Tree} {ts : List Tree}
    (h : t ∈ dedupe (ts.filter q)) : t ∈ ts :=
  (List.mem_filter.mp (mem_dedupe h)).1

lemma mem_foldl_keepNew_of_mem {t : Tree} (ts : List Tree) {kept : List Tree} (h : t ∈ kept) :
    t ∈ ts.foldl keepNew kept := by
  induction ts generalizing kept with
  | nil => exact h
  | cons u ts ih =>
    apply ih
    unfold keepNew
    split
    · exact h
    · exact List.mem_append_left _ h

/-- Of equal trees one is kept. -/
lemma exists_mem_foldl_keepNew {t : Tree} {ts : List Tree} (kept : List Tree) (h : t ∈ ts) :
    ∃ u ∈ ts.foldl keepNew kept, u.same t = true := by
  induction ts generalizing kept with
  | nil => cases h
  | cons u ts ih =>
    rcases List.mem_cons.mp h with rfl | h
    · have hkept : ∃ v ∈ keepNew kept t, v.same t = true := by
        unfold keepNew
        split
        · rename_i hmember
          exact List.any_eq_true.mp hmember
        · exact ⟨t, by simp, same_refl t⟩
      obtain ⟨v, hv, hsame⟩ := hkept
      exact ⟨v, mem_foldl_keepNew_of_mem ts hv, hsame⟩
    · exact ih (keepNew kept u) h

lemma exists_mem_dedupe {t : Tree} {ts : List Tree} (h : t ∈ ts) :
    ∃ u ∈ dedupe ts, u.same t = true := exists_mem_foldl_keepNew [] h

lemma dedupe_ne_nil {ts : List Tree} (h : ts ≠ []) : dedupe ts ≠ [] := by
  cases ts with
  | nil => exact absurd rfl h
  | cons t ts =>
    change ts.foldl keepNew [t] ≠ []
    exact foldl_keepNew_ne_nil (List.cons_ne_nil t [])

end Tree

def isNullable (fs : Fields Tree) : Bool := (fs.get? "nullable").any Tree.isTruthy

/-- A schema of a specific kind with choices, null among them when it is nullable. -/
structure Choosing (fs : Fields Tree) (kind : String) (ms : List Tree) : Prop where
  nodup : fs.keys.Nodup
  kind_eq : fs.get? "kind" = some (.string kind)
  not_entity : kind ≠ Kind.entityId
  not_object : kind ≠ "object"
  members : fs.get? "any_of" = some (.list ms) ∨ fs.get? "any_of" = none ∧ ms = []
  maps : ∀ m ∈ ms, m.isMap = true
  named : ∀ cs, fs.get? "children" = some (.list cs) → ∀ c ∈ cs, (c.get? "name").isSome = true
  nonempty : isNullable fs = true ∨ ms ≠ []

/-- The choice of null that a nullable schema adds to its choices. -/
def nullChoice (fs : Fields Tree) (ms : List Tree) : List Tree :=
  if isNullable fs && !nullSchema.isMember ms then [nullSchema] else []

lemma isMap_of_mem_nullChoice {fs : Fields Tree} {ms : List Tree} {t : Tree}
    (h : t ∈ nullChoice fs ms) : t.isMap = true := by
  unfold nullChoice at h
  split at h
  · rw [List.mem_singleton.mp h]
    rfl
  · cases h

lemma desugars_nullChoice (fs : Fields Tree) (ms : List Tree) :
    List.Forall₂ Desugars (nullChoice fs ms) (nullChoice fs ms) := by
  have hnull : Desugars nullSchema nullSchema := rfl
  unfold nullChoice
  split
  · exact .cons hnull .nil
  · exact .nil

/-- A schema without its choices, and without what makes it nullable. -/
def withoutChoices (fs : Fields Tree) : Fields Tree :=
  (if isNullable fs then fs.erase "nullable" else fs).erase "any_of"

lemma branchNull_agree (fs : Fields Tree) :
    AgreeOutside ["nullable", "any_of"] fs (branchNull fs) := by
  have hnullable : "nullable" ∈ ["nullable", "any_of"] := by decide
  have hany : "any_of" ∈ ["nullable", "any_of"] := by decide
  have herase := (AgreeOutside.refl fs).erase hnullable
  unfold branchNull
  split
  · simp only
    split
    · split
      · exact herase
      · exact herase.insert hany _
    · exact herase.insert hany _
  · exact .refl fs

lemma branchNull_of_not_nullable {fs : Fields Tree} (h : isNullable fs = false) :
    branchNull fs = fs := by
  simp only [branchNull]
  rw [if_neg (by simpa [isNullable] using h)]

/-- The flag goes with the branch that it makes. -/
lemma get?_nullable_branchNull (fs : Fields Tree) : (branchNull fs).get? "nullable" =
    if isNullable fs then none else fs.get? "nullable" := by
  cases hn : isNullable fs with
  | false =>
    rw [branchNull_of_not_nullable hn]
    rfl
  | true =>
    have hnone : (fs.erase "nullable").get? "nullable" = none := Fields.get?_erase_self _ _
    have hinsert : ∀ t, ((fs.erase "nullable").insert "any_of" t).get? "nullable" = none := by
      intro t
      rw [Fields.get?_insert_of_ne _ _ (by decide), hnone]
    rw [if_pos rfl]
    simp only [branchNull]
    rw [if_pos (by simpa [isNullable] using hn)]
    split
    · split
      · exact hnone
      · exact hinsert _
    · exact hinsert _

lemma isNullable_withoutChoices (fs : Fields Tree) : isNullable (withoutChoices fs) = false := by
  unfold withoutChoices
  cases h : isNullable fs with
  | false =>
    rw [isNullable, if_neg (by simp), Fields.get?_erase_of_ne _ (by decide)]
    exact h
  | true =>
    rw [isNullable, if_pos rfl, Fields.get?_erase_of_ne _ (by decide), Fields.get?_erase_self]
    rfl

namespace Choosing
variable {fs : Fields Tree} {kind : String} {ms : List Tree}

/-- Null becomes a choice behind the others, and nothing else changes. -/
lemma branchNull_eq (h : Choosing fs kind ms) :
    (branchNull fs).get? "any_of" = some (.list (ms ++ nullChoice fs ms)) ∧
      (branchNull fs).erase "any_of" = withoutChoices fs := by
  cases hn : isNullable fs with
  | false =>
    have hms : ms ≠ [] := h.nonempty.resolve_left (by simp [hn])
    have hany : fs.get? "any_of" = some (.list ms) :=
      h.members.resolve_right fun hnone => hms hnone.2
    rw [branchNull_of_not_nullable hn]
    simp [nullChoice, withoutChoices, hn, hany]
  | true =>
    have hget : (fs.erase "nullable").get? "any_of" = fs.get? "any_of" :=
      Fields.get?_erase_of_ne _ (by decide)
    simp only [branchNull]
    rw [if_pos (by simpa [isNullable] using hn), hget]
    rcases h.members with hany | ⟨hany, rfl⟩
    · rw [hany]
      by_cases hm : nullSchema.isMember ms = true
      · simp [hm, hget, hany, nullChoice, withoutChoices, hn]
      · simp [hm, nullChoice, withoutChoices, hn, Fields.erase_insert_self]
    · rw [hany]
      simp [nullChoice, withoutChoices, hn, Fields.erase_insert_self, Tree.isMember]

lemma named_branchNull (h : Choosing fs kind ms) (cs : List Tree)
    (hcs : (branchNull fs).get? "children" = some (.list cs)) (c : Tree) (hc : c ∈ cs) :
    (c.get? "name").isSome = true := by
  rw [(branchNull_agree fs).get?_eq _ (by decide)] at hcs
  exact h.named cs hcs c hc

lemma choices_ne_nil (h : Choosing fs kind ms) : ms ++ nullChoice fs ms ≠ [] := by
  rcases ms with _ | ⟨m, ms⟩
  · rcases h.nonempty with hn | hn
    · simp [nullChoice, hn, Tree.isMember]
    · exact absurd rfl hn
  · simp

lemma slot_choices (h : Choosing fs kind ms) :
    slot "any_of" (.list (ms ++ nullChoice fs ms)) = .items (ms ++ nullChoice fs ms) := by
  have hmaps : ∀ m ∈ ms ++ nullChoice fs ms, m.isMap = true := by
    intro m hm
    rcases List.mem_append.mp hm with hm | hm
    · exact h.maps m hm
    · exact isMap_of_mem_nullChoice hm
  cases hms : ms ++ nullChoice fs ms with
  | nil => exact absurd hms h.choices_ne_nil
  | cons m rest =>
    have hm := hmaps m (by simp [hms])
    simp [slot, literalKeys, hm]

/-- Desugaring reaches every choice, and leaves the rest as if it stood alone. -/
theorem exists_of_desugars (h : Choosing fs kind ms) {u : Tree} (hu : Desugars (.map fs) u) :
    ∃ (ds : List Tree) (hs : Fields Tree), u = .map hs ∧ List.Forall₂ Desugars ms ds ∧
      Desugars (.map (withoutChoices fs)) (.map (hs.erase "any_of")) ∧
      hs.get? "any_of" = some (.list (ds ++ nullChoice fs ms)) ∧
      hs.get? "kind" = some (.string kind) := by
  obtain ⟨gs, hs, hgs, hrel, rfl⟩ := desugars_map_iff.mp hu
  obtain ⟨hany, hrest⟩ := h.branchNull_eq
  have hagree := settle_agree hgs
  have hbranch := branchNull_agree fs
  have hgsany : gs.get? "any_of" = some (.list (ms ++ nullChoice fs ms)) :=
    (hagree.get?_eq _ (by decide)).trans hany
  obtain ⟨w, hw, hslot⟩ := hrel.exists_of_get? hgsany
  have hgskind : gs.get? "kind" = some (.string kind) :=
    (hagree.get?_eq _ (by decide)).trans ((hbranch.get?_eq _ (by decide)).trans h.kind_eq)
  obtain ⟨v, hv, hkind⟩ := hrel.exists_of_get? hgskind
  obtain ⟨es, rfl, hes⟩ := hslot.exists_items h.slot_choices
  obtain rfl := hkind.eq_of_literal rfl
  have hds := List.forall₂_take ms.length hes
  have hnull := List.forall₂_drop ms.length hes
  rw [List.take_left] at hds
  rw [List.drop_left] at hnull
  have hunique : Relator.RightUnique Desugars := fun _ _ _ hu hv => hu.unique hv
  rw [← List.take_append_drop ms.length es,
    List.right_unique_forall₂' hunique hnull (desugars_nullChoice fs ms)] at hw
  refine ⟨es.take ms.length, hs, rfl, hds, ?_, hw, hv⟩
  rw [desugars_map_iff, branchNull_of_not_nullable (isNullable_withoutChoices fs)]
  refine ⟨gs.erase "any_of", hs.erase "any_of", ?_, hrel.erase _, rfl⟩
  rw [← hrest, settle_erase (by decide) _ (h.named_branchNull), hgs]
  rfl

lemma exists_desugars (h : Choosing fs kind ms) {ds : List Tree} {own : Tree}
    (hds : List.Forall₂ Desugars ms ds) (hown : Desugars (.map (withoutChoices fs)) own) :
    ∃ u, Desugars (.map fs) u := by
  obtain ⟨gs', hs', hgs', hrel, rfl⟩ := desugars_map_iff.mp hown
  obtain ⟨hany, hrest⟩ := h.branchNull_eq
  rw [branchNull_of_not_nullable (isNullable_withoutChoices fs), ← hrest,
    settle_erase (by decide) _ h.named_branchNull] at hgs'
  cases hgs : settle (branchNull fs) [] with
  | error e =>
    rw [hgs] at hgs'
    cases hgs'
  | ok gs =>
    rw [hgs] at hgs'
    cases hgs'
    have hagree := settle_agree hgs
    have hgsany : gs.get? "any_of" = some (.list (ms ++ nullChoice fs ms)) :=
      (hagree.get?_eq _ (by decide)).trans hany
    have hnodup : gs.keys.Nodup := hagree.nodup ((branchNull_agree fs).nodup h.nodup)
    have hslots : ∀ e ∈ gs, ∃ w, InSlot Desugars e.1 e.2 w := by
      intro e he
      by_cases hkey : e.1 = "any_of"
      · have hval := Fields.get?_of_mem hnodup he
        rw [hkey, hgsany] at hval
        have hall := List.rel_append hds (desugars_nullChoice fs ms)
        rw [hkey, ← Option.some.inj hval]
        exact ⟨_, .items h.slot_choices hall⟩
      · exact Fields.exists_rel_iff.mp ⟨hs', hrel⟩ e (Fields.mem_erase.mpr ⟨he, hkey⟩)
    obtain ⟨hs, hhs⟩ := Fields.exists_rel_iff.mpr hslots
    exact ⟨.map hs, desugars_map_iff.mpr ⟨gs, hs, hgs, hhs, rfl⟩⟩

end Choosing

lemma isBlank_boxAlong (kinds : Registry) (visit : Tree → Tree) {fs : Fields Tree} (h : fs ≠ [])
    (keys : List String) : (boxAlong kinds visit keys fs).isBlank = false := by
  induction keys with
  | nil =>
    cases fs with
    | nil => exact absurd rfl h
    | cons e fs => rfl
  | cons key keys ih =>
    unfold boxAlong
    split
    · rfl
    · exact ih

lemma map_box_nullChoice (kinds : Registry) (fs : Fields Tree) (ms : List Tree) :
    (nullChoice fs ms).map (box kinds) = nullChoice fs ms := by
  have hnull : box kinds nullSchema = nullSchema := by
    rw [nullSchema, box_map]
    rfl
  unfold nullChoice
  split
  · rw [List.map_singleton, hnull]
  · rfl

/-- A schema of a specific kind other than object joins its choices, which it boxes. -/
lemma box_of_choices (kinds : Registry) {fs : Fields Tree} {kind : String} {ds : List Tree}
    (hkind : fs.get? "kind" = some (.string kind)) (hentity : kind ≠ Kind.entityId)
    (hobject : kind ≠ "object") (hany : fs.get? "any_of" = some (.list ds)) (hne : ds ≠ []) :
    box kinds (.map fs) =
      boxed "any_of" (ds.map (box kinds) ++ [box kinds (.map (fs.erase "any_of"))]) := by
  have hspecific := specificKind?_eq_some_iff.mpr ⟨hkind, hentity⟩
  have hmeaning : carriesMeaning kinds kind (fs.erase "any_of") = true := by
    simp [carriesMeaning, hobject]
  rw [box_eq_boxed kinds hspecific (firstChoices?_of_any_of hany hne), if_pos hmeaning]

/-- Whether a list starts with a map, as a list of schemas does. -/
def startsWithMap (ts : List Tree) : Bool := ts.head?.any Tree.isMap

lemma startsWithMap_map {f : Tree → Tree} (hf : ∀ t, (f t).isMap = t.isMap) (ts : List Tree) :
    startsWithMap (ts.map f) = startsWithMap ts := by
  cases ts with
  | nil => rfl
  | cons t ts => simp [startsWithMap, hf]

lemma mapSlot_list (f : Tree → Tree) {key : String} (hl : key ∉ literalKeys) (ts : List Tree) :
    mapSlot f key (.list ts) = .list (if startsWithMap ts then ts.map f else ts) := by
  cases ts with
  | nil => simp [mapSlot, slot, hl, startsWithMap]
  | cons t ts => cases ht : t.isMap <;> simp [mapSlot, slot, hl, startsWithMap, ht]

/-- The members of a box in a document. -/
def finishMembers (ts : List Tree) : List Tree := if startsWithMap ts then ts.map finish else ts

lemma finishMembers_of_maps {ts : List Tree} (h : ∀ t ∈ ts, t.isMap = true) :
    finishMembers ts = ts.map finish := by
  cases ts with
  | nil => rfl
  | cons t ts =>
    have ht := h t List.mem_cons_self
    simp [finishMembers, startsWithMap, ht]

lemma respell_box {key : String} (hk : key ∈ choiceKeys) (ts : List Tree) :
    respell (.map [("kind", .string Kind.entityId), (key, .list ts)]) =
      .map [("type", .string "entity"), (documentKey key, mapSlot respell key (.list ts))] := by
  have hall : ∀ key ∈ choiceKeys, "type" ≠ documentKey key := by decide
  have hkind : documentKey "kind" = "type" := by decide
  have hnodup : (Fields.keys [("type", Tree.string "entity"),
      (documentKey key, mapSlot respell key (.list ts))]).Nodup := by simp [hall key hk]
  rw [respell_map, respellKeys]
  simp only [mapSchemas, List.map_cons, List.map_nil, hkind]
  exact congrArg Tree.map (Fields.ofEntries_of_nodup hnodup)

lemma strip_box {key : String} (hbook : key ∉ bookkeepingKeys) (members : Tree) :
    strip (.map [("type", .string "entity"), (key, members)]) =
      .map (("type", .string "entity") :: if (mapSlot strip key members).isBlank then []
        else [(key, mapSlot strip key members)]) := by
  have htype : "type" ∉ bookkeepingKeys := by decide
  have hkept : dropBookkeeping [("type", Tree.string "entity"), (key, members)] =
      [("type", .string "entity"), (key, members)] := by simp [dropBookkeeping, hbook, htype]
  have hslot : mapSlot strip "type" (.string "entity") = .string "entity" := rfl
  have hentity : (Tree.string "entity").isBlank = false := rfl
  rw [strip_map, hkept]
  simp only [mapSchemas, List.map_cons, List.map_nil, hslot]
  cases hblank : (mapSlot strip key members).isBlank <;> simp [dropBlankValues, hentity, hblank]

/-- The last two passes go through a box into its members. -/
lemma finish_box {key : String} (hk : key ∈ choiceKeys) (ts : List Tree) :
    finish (.map [("kind", .string Kind.entityId), (key, .list ts)]) =
      .map (("type", .string "entity") ::
        if ts.isEmpty then [] else [(documentKey key, .list (finishMembers ts))]) := by
  have hall : ∀ key ∈ choiceKeys, key ∉ literalKeys ∧ documentKey key ∉ literalKeys ∧
      documentKey key ∉ bookkeepingKeys := by decide
  obtain ⟨hl, hdocument, hbook⟩ := hall key hk
  have hmembers : mapSlot strip (documentKey key) (mapSlot respell key (.list ts)) =
      .list (finishMembers ts) := by
    rw [mapSlot_list respell hl, mapSlot_list strip hdocument, finishMembers]
    cases hts : startsWithMap ts with
    | false => simp [hts]
    | true =>
      simp only [if_true, startsWithMap_map isMap_respell, hts, List.map_map]
      rfl
  have hblank : (Tree.list (finishMembers ts)).isBlank = ts.isEmpty := by
    unfold finishMembers
    split <;> simp [Tree.isBlank]
  rw [finish, respell_box hk, strip_box hbook, hmembers, hblank]

namespace Choosing
variable {fs : Fields Tree} {kind : String} {ms : List Tree}

/-- The first two passes make a box of the choices and of the rest, each passed on its own. -/
lemma run_desugar_box_eq_ok_iff (h : Choosing fs kind ms) (c : RenderContext) {t : Tree} :
    Pass.run c [.desugar, .box] (.map fs) = .ok t ↔
      ∃ us own, List.Forall₂ (fun m u => Pass.run c [.desugar, .box] m = .ok u) ms us ∧
        Pass.run c [.desugar, .box] (.map (withoutChoices fs)) = .ok own ∧
        t = boxed "any_of" (us ++ nullChoice fs ms ++ [own]) := by
  have hforward : ∀ t, Pass.run c [.desugar, .box] (.map fs) = .ok t →
      ∃ us own, List.Forall₂ (fun m u => Pass.run c [.desugar, .box] m = .ok u) ms us ∧
        Pass.run c [.desugar, .box] (.map (withoutChoices fs)) = .ok own ∧
        t = boxed "any_of" (us ++ nullChoice fs ms ++ [own]) := by
    intro t ht
    obtain ⟨_, hd, rfl⟩ := Schemata.run_desugar_box_eq_ok_iff.mp ht
    obtain ⟨ds, hs, rfl, hds, hrest, hany, hkind⟩ := h.exists_of_desugars hd
    have hne : ds ++ nullChoice fs ms ≠ [] := by
      intro hnil
      obtain ⟨rfl, hnull⟩ := List.append_eq_nil_iff.mp hnil
      cases hds
      exact h.choices_ne_nil hnull
    have hus : List.Forall₂ (fun m u => Pass.run c [.desugar, .box] m = .ok u) ms
        (ds.map (box c.kinds)) := by
      rw [List.forall₂_map_right_iff]
      exact hds.imp fun m d hmd => Schemata.run_desugar_box_eq_ok_iff.mpr ⟨d, hmd, rfl⟩
    have hown := Schemata.run_desugar_box_eq_ok_iff (c := c).mpr ⟨_, hrest, rfl⟩
    refine ⟨_, _, hus, hown, ?_⟩
    rw [box_of_choices c.kinds hkind h.not_entity h.not_object hany hne, List.map_append,
      map_box_nullChoice]
  refine ⟨hforward t, ?_⟩
  rintro ⟨us, own, hus, hown, rfl⟩
  have hunique : Relator.RightUnique fun m u => Pass.run c [.desugar, .box] m = .ok u :=
    fun _ _ _ hu hv => Except.ok.inj (hu.symm.trans hv)
  have hms : ∀ m ∈ ms, ∃ d, Desugars m d := by
    intro m hm
    obtain ⟨u, hu⟩ := exists_forall₂_iff.mp ⟨us, hus⟩ m hm
    obtain ⟨d, hd, _⟩ := Schemata.run_desugar_box_eq_ok_iff.mp hu
    exact ⟨d, hd⟩
  obtain ⟨ds, hds⟩ := exists_forall₂_iff.mpr hms
  obtain ⟨_, hrest, _⟩ := Schemata.run_desugar_box_eq_ok_iff.mp hown
  obtain ⟨u, hu⟩ := h.exists_desugars hds hrest
  have hbox := Schemata.run_desugar_box_eq_ok_iff (c := c).mpr ⟨u, hu, rfl⟩
  obtain ⟨us', own', hus', hown', heq⟩ := hforward _ hbox
  rw [hbox, heq, List.right_unique_forall₂' hunique hus hus', Except.ok.inj (hown.symm.trans hown')]

/-- The choices among which a schema comes to stand, as the first two passes have made them. -/
def boxMembers (fs : Fields Tree) (ms us : List Tree) (own : Tree) : List Tree :=
  Tree.dedupe ((us ++ nullChoice fs ms ++ [own]).filter fun u => !u.isBlank)

lemma isBlank_of_run_withoutChoices (h : Choosing fs kind ms) {c : RenderContext} {own : Tree}
    (hown : Pass.run c [.desugar, .box] (.map (withoutChoices fs)) = .ok own) :
    own.isBlank = false := by
  obtain ⟨d, hd, rfl⟩ := Schemata.run_desugar_box_eq_ok_iff.mp hown
  obtain ⟨gs, hs, hgs, hrel, rfl⟩ := desugars_map_iff.mp hd
  rw [branchNull_of_not_nullable (isNullable_withoutChoices fs)] at hgs
  have hkind : (withoutChoices fs).get? "kind" = some (.string kind) := by
    rw [← h.branchNull_eq.2, Fields.get?_erase_of_ne _ (by decide),
      (branchNull_agree fs).get?_eq _ (by decide), h.kind_eq]
  rw [← (settle_agree hgs).get?_eq _ (by decide)] at hkind
  obtain ⟨w, hw, _⟩ := hrel.exists_of_get? hkind
  rw [box_map]
  refine isBlank_boxAlong _ _ ?_ _
  rintro rfl
  cases hw

lemma finish_boxed_members (h : Choosing fs kind ms) {c : RenderContext} {us : List Tree}
    {own : Tree} (hus : List.Forall₂ (fun m u => Pass.run c [.desugar, .box] m = .ok u) ms us)
    (hown : Pass.run c [.desugar, .box] (.map (withoutChoices fs)) = .ok own) :
    finish (boxed "any_of" (us ++ nullChoice fs ms ++ [own])) =
      .map [("type", .string "entity"),
        ("anyOf", .list ((boxMembers fs ms us own).map finish))] := by
  have hblank := h.isBlank_of_run_withoutChoices hown
  have hne : boxMembers fs ms us own ≠ [] := by
    apply Tree.dedupe_ne_nil
    intro hnil
    rw [List.filter_eq_nil_iff] at hnil
    exact hnil own (by simp) (by simp [hblank])
  have hmaps : ∀ u ∈ boxMembers fs ms us own, u.isMap = true := by
    intro u hu
    have hmem := Tree.mem_of_mem_dedupe_filter hu
    rw [List.append_assoc] at hmem
    rcases List.mem_append.mp hmem with hmem | hmem
    · obtain ⟨m, hm, hmu⟩ := exists_of_mem_right hus hmem
      rw [isMap_of_run hmu]
      exact h.maps m hm
    · rcases List.mem_append.mp hmem with hmem | hmem
      · exact isMap_of_mem_nullChoice hmem
      · rw [List.mem_singleton.mp hmem, isMap_of_run hown]
        rfl
  have hany : documentKey "any_of" = "anyOf" := by decide
  have hkey : "any_of" ∈ choiceKeys := by decide
  have hempty : (boxMembers fs ms us own).isEmpty = false := by simpa using hne
  have hbox := finish_box hkey (boxMembers fs ms us own)
  rw [hempty, finishMembers_of_maps hmaps, hany] at hbox
  exact hbox

/-- The chain succeeds on a schema with choices exactly if its first two passes do on every
choice and on the rest, and it yields the finished choices. -/
theorem run_defaults_eq_ok_iff (h : Choosing fs kind ms) (c : RenderContext) {t : Tree} :
    Pass.run c Pass.defaults (.map fs) = .ok t ↔
      ∃ us own, List.Forall₂ (fun m u => Pass.run c [.desugar, .box] m = .ok u) ms us ∧
        Pass.run c [.desugar, .box] (.map (withoutChoices fs)) = .ok own ∧
        t = .map [("type", .string "entity"),
          ("anyOf", .list ((boxMembers fs ms us own).map finish))] := by
  rw [Pass.run_defaults]
  constructor
  · intro ht
    cases hfront : Pass.run c [.desugar, .box] (.map fs) with
    | error e =>
      rw [hfront] at ht
      cases ht
    | ok u =>
      obtain ⟨us, own, hus, hown, rfl⟩ := (h.run_desugar_box_eq_ok_iff c).mp hfront
      rw [hfront] at ht
      cases ht
      exact ⟨us, own, hus, hown, h.finish_boxed_members hus hown⟩
  · rintro ⟨us, own, hus, hown, rfl⟩
    rw [(h.run_desugar_box_eq_ok_iff c).mpr ⟨us, own, hus, hown, rfl⟩]
    exact congrArg Except.ok (h.finish_boxed_members hus hown)

lemma withoutChoices_of_no_choices (hn : isNullable fs = true) (hany : fs.get? "any_of" = none) :
    withoutChoices fs = fs.erase "nullable" := by
  rw [withoutChoices, if_pos hn]
  refine Fields.erase_of_notMem (Fields.get?_eq_none_iff.mp ?_)
  rw [Fields.get?_erase_of_ne _ (by decide), hany]

lemma boxMembers_nil (hn : isNullable fs = true) {own : Tree} (hblank : own.isBlank = false) :
    own ≠ nullSchema ∧ boxMembers fs [] [] own = [nullSchema, own] ∨
      own = nullSchema ∧ boxMembers fs [] [] own = [nullSchema] := by
  have hnull : nullSchema.isBlank = false := rfl
  by_cases hown : own = nullSchema
  · subst hown
    exact .inr ⟨rfl, by simp [boxMembers, nullChoice, hn, hnull, Tree.isMember, Tree.dedupe]⟩
  · have hsame : nullSchema.same own = false := by
      rw [← Bool.not_eq_true, Tree.nullSchema_same_iff]
      exact hown
    refine .inl ⟨hown, ?_⟩
    simp [boxMembers, nullChoice, hn, hnull, hblank, hsame, Tree.isMember, Tree.dedupe]

lemma run_choices (h : Choosing fs kind ms) {c : RenderContext} {us : List Tree} {own : Tree}
    (hus : List.Forall₂ (fun m u => Pass.run c [.desugar, .box] m = .ok u) ms us)
    (hown : Pass.run c [.desugar, .box] (.map (withoutChoices fs)) = .ok own) :
    Pass.run c Pass.defaults (.map fs) = .ok (.map [("type", .string "entity"),
      ("anyOf", .list ((boxMembers fs ms us own).map finish))]) :=
  (h.run_defaults_eq_ok_iff c).mpr ⟨us, own, hus, hown, rfl⟩

/-- Null and the schema that is not nullable are the choices of a nullable schema that has none;
they are one choice if both are null. -/
lemma run_nullable (h : Choosing fs kind ms) (hn : isNullable fs = true)
    (hany : fs.get? "any_of" = none) {c : RenderContext} {d : Tree}
    (hd : Pass.run c Pass.defaults (.map (fs.erase "nullable")) = .ok d) :
    Pass.run c Pass.defaults (.map fs) = .ok (.map [("type", .string "entity"),
        ("anyOf", .list [.map [("type", .string "null")], d])]) ∨
      Pass.run c [.desugar, .box] (.map (fs.erase "nullable")) = .ok nullSchema ∧
        d = .map [("type", .string "null")] ∧
        Pass.run c Pass.defaults (.map fs) = .ok (.map [("type", .string "entity"),
          ("anyOf", .list [.map [("type", .string "null")]])]) := by
  obtain rfl : ms = [] := by
    rcases h.members with hms | ⟨_, hms⟩
    · rw [hany] at hms
      cases hms
    · exact hms
  rw [Pass.run_defaults, ← withoutChoices_of_no_choices hn hany] at hd
  rw [← withoutChoices_of_no_choices hn hany]
  cases hown : Pass.run c [.desugar, .box] (.map (withoutChoices fs)) with
  | error e =>
    rw [hown] at hd
    cases hd
  | ok own =>
    rw [hown] at hd
    cases hd
    have hnull : finish nullSchema = .map [("type", .string "null")] := rfl
    rw [h.run_choices .nil hown]
    rcases boxMembers_nil hn (h.isBlank_of_run_withoutChoices hown) with ⟨_, heq⟩ | ⟨rfl, heq⟩
    · rw [heq, List.map_cons, List.map_singleton, hnull]
      exact .inl rfl
    · rw [heq, List.map_singleton, hnull]
      exact .inr ⟨rfl, rfl, rfl⟩

/-- The chain takes the choices and the rest of a schema on their own; null comes to stand beside
a nullable schema without choices. -/
theorem run_choosing (h : Choosing fs kind ms) (c : RenderContext) :
    ((∃ t, Pass.run c Pass.defaults (.map fs) = .ok t) ↔
      (∀ m ∈ ms, ∃ u, Pass.run c [.desugar, .box] m = .ok u) ∧
        ∃ own, Pass.run c [.desugar, .box] (.map (withoutChoices fs)) = .ok own) ∧
    (∀ us own, List.Forall₂ (fun m u => Pass.run c [.desugar, .box] m = .ok u) ms us →
      Pass.run c [.desugar, .box] (.map (withoutChoices fs)) = .ok own →
      Pass.run c Pass.defaults (.map fs) = .ok (.map [("type", .string "entity"),
        ("anyOf", .list ((boxMembers fs ms us own).map finish))])) ∧
    (isNullable fs = true → fs.get? "any_of" = none →
      ∀ d, Pass.run c Pass.defaults (.map (fs.erase "nullable")) = .ok d →
        Pass.run c Pass.defaults (.map fs) = .ok (.map [("type", .string "entity"),
          ("anyOf", .list [.map [("type", .string "null")], d])]) ∨
        Pass.run c [.desugar, .box] (.map (fs.erase "nullable")) = .ok nullSchema ∧
          d = .map [("type", .string "null")] ∧
          Pass.run c Pass.defaults (.map fs) = .ok (.map [("type", .string "entity"),
            ("anyOf", .list [.map [("type", .string "null")]])])) := by
  refine ⟨⟨?_, ?_⟩, fun us own hus hown => h.run_choices hus hown,
    fun hn hany d hd => h.run_nullable hn hany hd⟩
  · rintro ⟨t, ht⟩
    obtain ⟨us, own, hus, hown, _⟩ := (h.run_defaults_eq_ok_iff c).mp ht
    exact ⟨exists_forall₂_iff.mp ⟨us, hus⟩, own, hown⟩
  · rintro ⟨hms, own, hown⟩
    obtain ⟨us, hus⟩ := exists_forall₂_iff.mpr hms
    exact ⟨_, h.run_choices hus hown⟩

/-- A text that may be null. -/
def nullableText : Tree := .map [("kind", .string "string"), ("nullable", .bool true)]

/-- An array that may be null and has choices of both sorts. -/
def nullableArray : Fields Tree := [("kind", .string "array"), ("nullable", .bool true),
  ("any_of", .list [nullableText]), ("one_of", .list [.map [("title", .string "a")]])]

theorem run_choosing_array : Choosing nullableArray "array" [nullableText] ∧
    ∃ t, Pass.run ⟨.builtin, none⟩ Pass.defaults (.map nullableArray) = .ok t := by
  have h : Choosing nullableArray "array" [nullableText] := {
    nodup := by decide
    kind_eq := rfl
    not_entity := by decide
    not_object := by decide
    members := .inl rfl
    maps := by simp [nullableText, Tree.isMap]
    named := fun _ hcs => nomatch hcs
    nonempty := .inl rfl }
  refine ⟨h, (h.run_choosing ⟨.builtin, none⟩).1.mpr ⟨?_, ?_⟩⟩
  · intro m hm
    rw [List.mem_singleton.mp hm]
    exact ⟨_, rfl⟩
  · exact ⟨_, rfl⟩

end Choosing

end Schemata
