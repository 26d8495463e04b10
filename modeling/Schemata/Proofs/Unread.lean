import Schemata.Proofs.Boxing

/-! Keys that no pass reads: whether the key leaves a level before a pass or after it comes to the
same. -/
namespace Schemata

namespace Fields
variable {α : Type u}

lemma erase_extend (fs more : Fields α) (key : String) :
    erase (extend fs more) key = extend (erase fs key) (erase more key) := by
  induction more generalizing fs with
  | nil => rfl
  | cons e more ih =>
    rw [extend_cons, ih, erase_cons]
    by_cases hk : e.1 = key
    · rw [if_pos hk, hk, erase_insert_self]
    · rw [if_neg hk, extend_cons, erase_insert_of_ne _ _ hk]

lemma erase_ofEntries (fs : Fields α) (key : String) :
    erase (ofEntries fs) key = ofEntries (erase fs key) := erase_extend [] fs key

end Fields

lemma erase_mapSchemas (visit : Tree → Tree) (fs : Fields Tree) (key : String) :
    Fields.erase (mapSchemas visit fs) key = mapSchemas visit (fs.erase key) := by
  rw [mapSchemas, Fields.erase, List.filter_map]
  rfl

section Desugar
variable {fs : Fields Tree} {key : String}

lemma branchNull_erase (hnullable : key ≠ "nullable") (hany : key ≠ "any_of") :
    branchNull (fs.erase key) = (branchNull fs).erase key := by
  unfold branchNull
  simp only [Fields.get?_erase_of_ne fs hnullable, Fields.erase_comm fs key "nullable",
    Fields.get?_erase_of_ne (fs.erase "nullable") hany]
  split
  · split
    · split
      · rfl
      · rw [Fields.erase_insert_of_ne _ _ (Ne.symm hany)]
    · rw [Fields.erase_insert_of_ne _ _ (Ne.symm hany)]
  · rfl

/-- The keys that desugaring looks up or writes. -/
def desugarKeys : List String := "nullable" :: sugarKeys ++ choiceKeys

lemma settle_branchNull_erase (hk : key ∉ desugarKeys) (path : Path) :
    settle (branchNull (fs.erase key)) path =
      (settle (branchNull fs) path).map fun gs => gs.erase key := by
  have hnullable : key ≠ "nullable" := by
    rintro rfl
    exact hk (by decide)
  have hany : key ≠ "any_of" := by
    rintro rfl
    exact hk (by decide)
  have hsugar : key ∉ sugarKeys := fun h => hk (by simp [desugarKeys, h])
  have hchoice : key ∉ choiceKeys := fun h => hk (by simp [desugarKeys, h])
  rw [branchNull_erase hnullable hany, settle_erase_of_notMem hsugar hchoice]

lemma Desugars.erase (hk : key ∉ desugarKeys) {hs : Fields Tree}
    (h : Desugars (.map fs) (.map hs)) : Desugars (.map (fs.erase key)) (.map (hs.erase key)) := by
  obtain ⟨gs, hs', hgs, hrel, heq⟩ := desugars_map_iff.mp h
  cases heq
  refine desugars_map_iff.mpr ⟨gs.erase key, hs.erase key, ?_, hrel.erase key, rfl⟩
  rw [settle_branchNull_erase hk, hgs]
  rfl

/-- A level without a key that desugaring does not look up desugars as the level with it does, if
no schema stands under the key. -/
theorem desugars_erase_iff (hk : key ∉ desugarKeys) (hn : fs.keys.Nodup)
    (hslot : ∀ v, fs.get? key = some v → slot key v = .literal) {own : Tree} :
    Desugars (.map (fs.erase key)) own ↔
      ∃ hs : Fields Tree, Desugars (.map fs) (.map hs) ∧ own = .map (hs.erase key) := by
  constructor
  · intro h
    obtain ⟨gs', hs', hgs', hrel, _⟩ := desugars_map_iff.mp h
    rw [settle_branchNull_erase hk] at hgs'
    cases hgs : settle (branchNull fs) [] with
    | error e =>
      rw [hgs] at hgs'
      cases hgs'
    | ok gs =>
      rw [hgs] at hgs'
      cases hgs'
      have hbranch : AgreeOutside desugarKeys fs (branchNull fs) :=
        (branchNull_agree fs).mono (by decide)
      have hagree := hbranch.trans ((settle_agree hgs).mono (by decide))
      have hslots : ∀ e ∈ gs, ∃ w, InSlot Desugars e.1 e.2 w := by
        intro e he
        by_cases hkey : e.1 = key
        · have hvalue := Fields.get?_of_mem (hagree.nodup hn) he
          rw [hkey, hagree.get?_eq key hk] at hvalue
          rw [hkey]
          exact ⟨e.2, .literal (hslot e.2 hvalue)⟩
        · exact Fields.exists_rel_iff.mp ⟨hs', hrel⟩ e (Fields.mem_erase.mpr ⟨he, hkey⟩)
      obtain ⟨hs, hhs⟩ := Fields.exists_rel_iff.mpr hslots
      have hfs : Desugars (.map fs) (.map hs) := desugars_map_iff.mpr ⟨gs, hs, hgs, hhs, rfl⟩
      exact ⟨hs, hfs, h.unique (hfs.erase hk)⟩
  · rintro ⟨hs, hfs, rfl⟩
    exact hfs.erase hk

end Desugar

/-- The fields that the last two passes make of the fields of a level. -/
def finishFields (fs : Fields Tree) : Fields Tree :=
  dropBlankValues (mapSchemas strip (dropBookkeeping (respellKeys (mapSchemas respell fs))))

lemma finish_map_eq (fs : Fields Tree) : finish (.map fs) = .map (finishFields fs) := by
  rw [finish, respell_map, strip_map, finishFields]

lemma erase_respellKeys (fs : Fields Tree) (key : String) :
    (respellKeys (mapSchemas respell fs)).erase key =
      respellKeys (mapSchemas respell (fs.filter fun e => documentKey e.1 ≠ key)) := by
  rw [respellKeys, Fields.erase_ofEntries, mapSchemas, List.map_map, Fields.erase,
    List.filter_map, respellKeys, mapSchemas, List.map_map]
  rfl

/-- A key leaves a document with all the keys that are spelled like it there. -/
lemma erase_finishFields (fs : Fields Tree) (key : String) : (finishFields fs).erase key =
    finishFields (fs.filter fun e => documentKey e.1 ≠ key) := by
  have hblank : ∀ gs : Fields Tree,
      Fields.erase (dropBlankValues gs) key = dropBlankValues (gs.erase key) :=
    fun gs => List.filter_comm _ _ gs
  have hbook : ∀ gs : Fields Tree,
      Fields.erase (dropBookkeeping gs) key = dropBookkeeping (gs.erase key) :=
    fun gs => List.filter_comm _ _ gs
  rw [finishFields, hblank, erase_mapSchemas, hbook, erase_respellKeys, finishFields]

section Bookkeeping
variable {key : String} (hk : key ∈ bookkeepingKeys)
include hk

lemma strip_erase (fs : Fields Tree) : strip (.map (fs.erase key)) = strip (.map fs) := by
  have hkept : dropBookkeeping (fs.erase key) = dropBookkeeping fs := by
    rw [dropBookkeeping, Fields.erase, List.filter_filter]
    apply List.filter_congr
    intro e _
    by_cases hkey : e.1 = key
    · simp [hkey, hk]
    · simp [hkey]
  rw [strip_map, strip_map, hkept]

/-- What is only there to construct a schema makes no difference to its document. -/
lemma finish_erase (fs : Fields Tree) : finish (.map (fs.erase key)) = finish (.map fs) := by
  have hkeys : ∀ key ∈ bookkeepingKeys, documentKey key = key := by decide
  have hspelling := hkeys key hk
  have hgone : ∀ gs : Fields Tree,
      finish (.map gs) = finish (.map (gs.filter fun e => documentKey e.1 ≠ key)) := by
    intro gs
    rw [finish, respell_map, ← strip_erase hk, erase_respellKeys, ← respell_map, ← finish]
  have hfilter : (fs.erase key).filter (fun e => documentKey e.1 ≠ key) =
      fs.filter fun e => documentKey e.1 ≠ key := by
    rw [Fields.erase, List.filter_filter]
    apply List.filter_congr
    intro e _
    by_cases hkey : e.1 = key
    · simp [hkey, hspelling]
    · simp [hkey]
  rw [hgone, hgone fs, hfilter]

end Bookkeeping

end Schemata
