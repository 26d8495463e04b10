import Schemata.Proofs.Desugars

/-! The keys that the rewriting of a level works on; the others do not matter to it. -/
namespace Schemata

/-- The keys that a level reads and writes once null has become a choice. -/
def sugarKeys : List String := ["items", "children", "required", "properties", "pattern_properties"]

/-- The fields agree outside of some keys, and every key stands once if it did before. -/
structure AgreeOutside (written : List String) (fs gs : Fields Tree) : Prop where
  get?_eq : ∀ key, key ∉ written → gs.get? key = fs.get? key
  nodup : fs.keys.Nodup → gs.keys.Nodup

namespace AgreeOutside
variable {written : List String} {fs gs hs : Fields Tree}

lemma refl (fs : Fields Tree) : AgreeOutside written fs fs := ⟨fun _ _ => rfl, id⟩

lemma insert (h : AgreeOutside written fs gs) {key : String} (hk : key ∈ written) (value : Tree) :
    AgreeOutside written fs (Fields.insert gs key value) where
  get?_eq other ho := by
    have hne : key ≠ other := by
      rintro rfl
      exact ho hk
    rw [Fields.get?_insert_of_ne _ _ hne, h.get?_eq other ho]
  nodup hn := Fields.nodup_insert key value (h.nodup hn)

lemma erase (h : AgreeOutside written fs gs) {key : String} (hk : key ∈ written) :
    AgreeOutside written fs (Fields.erase gs key) where
  get?_eq other ho := by
    have hne : key ≠ other := by
      rintro rfl
      exact ho hk
    rw [Fields.get?_erase_of_ne _ hne, h.get?_eq other ho]
  nodup hn := Fields.nodup_erase key (h.nodup hn)

lemma trans (h : AgreeOutside written fs gs) (h' : AgreeOutside written gs hs) :
    AgreeOutside written fs hs where
  get?_eq key hk := (h'.get?_eq key hk).trans (h.get?_eq key hk)
  nodup hn := h'.nodup (h.nodup hn)

lemma mono (h : AgreeOutside written fs gs) {more : List String}
    (hsub : ∀ key ∈ written, key ∈ more) : AgreeOutside more fs gs where
  get?_eq key hk := h.get?_eq key fun hw => hk (hsub key hw)
  nodup := h.nodup

end AgreeOutside

lemma unwrapItems_agree (fs : Fields Tree) : AgreeOutside ["items"] fs (unwrapItems fs) := by
  have hitems : "items" ∈ ["items"] := List.mem_singleton_self _
  unfold unwrapItems
  split
  · split
    · exact (AgreeOutside.refl fs).insert hitems _
    · exact .refl fs
  · exact .refl fs

lemma mergeEntries_agree (fs : Fields Tree) (key : String) (entries : Fields Tree) :
    AgreeOutside [key] fs (mergeEntries fs key entries) := by
  have hkey : key ∈ [key] := List.mem_singleton_self _
  unfold mergeEntries
  split
  · exact .refl fs
  · split
    · exact (AgreeOutside.refl fs).insert hkey _
    · exact (AgreeOutside.refl fs).insert hkey _

lemma mergeRequired_agree {fs gs : Fields Tree} {path : Path} {names : List String}
    (h : mergeRequired fs path names = .ok gs) : AgreeOutside ["required"] fs gs := by
  have hrequired : "required" ∈ ["required"] := List.mem_singleton_self _
  unfold mergeRequired at h
  split at h
  · cases h
    exact .refl fs
  · split at h
    · cases h
      exact ((AgreeOutside.refl fs).erase hrequired).insert hrequired _
    · cases h

/-- A promotion writes under the keys that children go to. -/
lemma promote_agree {fs gs : Fields Tree} {path : Path} {children : Tree}
    (h : promote fs path children = .ok gs) :
    AgreeOutside ["required", "properties", "pattern_properties"] fs gs := by
  cases children with
  | list cs =>
    obtain ⟨p, hs, _, hr, rfl⟩ := promote_eq_ok_iff.mp h
    have hproperties := mergeEntries_agree hs "properties" p.properties
    have hpatterns := mergeEntries_agree (mergeEntries hs "properties" p.properties)
      "pattern_properties" p.patterns
    exact (((mergeRequired_agree hr).mono (by decide)).trans (hproperties.mono (by decide))).trans
      (hpatterns.mono (by decide))
  | _ => cases h

/-- A level changes nothing under other keys than those of its sugar. -/
theorem settle_agree {fs gs : Fields Tree} {path : Path} (h : settle fs path = .ok gs) :
    AgreeOutside sugarKeys fs gs := by
  unfold settle at h
  split at h
  · cases h
    exact (unwrapItems_agree fs).mono (by decide)
  · split at h
    · have hchildren : "children" ∈ sugarKeys := by decide
      exact ((AgreeOutside.refl fs).erase hchildren).trans ((promote_agree h).mono (by decide))
    · cases h
      exact .refl fs

lemma get?_mergeRequired {fs gs : Fields Tree} {path : Path} {names : List String}
    (h : mergeRequired fs path names = .ok gs) {own : List Tree}
    (hown : ownRequired (fs.get? "required") = .ok own) :
    gs.get? "required" = if names = [] then fs.get? "required"
      else some (.list (addRequired own names)) := by
  unfold mergeRequired at h
  rw [hown] at h
  cases names with
  | nil =>
    cases h
    rfl
  | cons name names =>
    cases h
    exact Fields.get?_insert_self _ _ _

/-- No children are left, except those of a schema with items. -/
lemma get?_children_of_settle {fs gs : Fields Tree} {path : Path} (hgs : settle fs path = .ok gs) :
    gs.get? "children" = none ∨
      fs.contains "items" = true ∧ gs.get? "children" = fs.get? "children" := by
  unfold settle at hgs
  split at hgs
  · rename_i hitems
    cases hgs
    exact .inr ⟨hitems, (unwrapItems_agree fs).get?_eq _ (by decide)⟩
  · split at hgs
    · left
      rw [(promote_agree hgs).get?_eq _ (by decide), Fields.get?_erase_self]
    · rename_i hnone
      cases hgs
      exact .inl hnone

section Erase
variable {fs : Fields Tree} {key : String}

lemma unwrapItems_erase (hk : key ≠ "items") :
    unwrapItems (fs.erase key) = (unwrapItems fs).erase key := by
  unfold unwrapItems
  rw [Fields.get?_erase_of_ne _ hk]
  split
  · split
    · rw [Fields.erase_insert_of_ne _ _ (Ne.symm hk)]
    · rfl
  · rfl

lemma mergeEntries_erase {other : String} (hk : key ≠ other) (entries : Fields Tree) :
    mergeEntries (fs.erase key) other entries = (mergeEntries fs other entries).erase key := by
  unfold mergeEntries
  rw [Fields.get?_erase_of_ne _ hk]
  split
  · rfl
  · split
    · rw [Fields.erase_insert_of_ne _ _ (Ne.symm hk)]
    · rw [Fields.erase_insert_of_ne _ _ (Ne.symm hk)]

lemma mergeRequired_erase (hk : key ≠ "required") (path : Path) (names : List String) :
    mergeRequired (fs.erase key) path names =
      (mergeRequired fs path names).map fun gs => gs.erase key := by
  unfold mergeRequired
  rw [Fields.get?_erase_of_ne _ hk, Fields.erase_comm]
  split
  · rfl
  · split
    · rw [Except.map, Fields.erase_insert_of_ne _ _ (Ne.symm hk)]
    · rfl

lemma promoteFrom_congr {gs : Fields Tree} {path : Path} {i : Nat} {p : Promotion}
    {children : List Tree} (h : ∀ c ∈ children, isChoice fs c = isChoice gs c) :
    promoteFrom fs path i p children = promoteFrom gs path i p children := by
  induction children generalizing i p with
  | nil => rfl
  | cons child rest ih =>
    have hrest := fun c hc => h c (List.mem_cons_of_mem child hc)
    simp only [promoteFrom, h child List.mem_cons_self, ih hrest]

lemma isChoice_of_named {child : Tree} (h : (child.get? "name").isSome = true) :
    isChoice fs child = false := by
  cases hn : child.get? "name" with
  | none => simp [hn] at h
  | some name => simp [isChoice, hn]

lemma isChoice_erase (hk : key ∉ choiceKeys) (child : Tree) :
    isChoice (fs.erase key) child = isChoice fs child := by
  unfold isChoice
  congr 1
  rw [Bool.eq_iff_iff, List.any_eq_true, List.any_eq_true]
  refine exists_congr fun other => and_congr_right fun ho => ?_
  have hne : key ≠ other := by
    rintro rfl
    exact hk ho
  rw [Fields.get?_erase_of_ne _ hne]

lemma promote_erase (hk : key ∉ sugarKeys) {path : Path} {children : Tree}
    (hchoice : ∀ cs, children = .list cs → ∀ c ∈ cs,
      isChoice (fs.erase key) c = isChoice fs c) :
    promote (fs.erase key) path children =
      (promote fs path children).map fun gs => gs.erase key := by
  simp only [sugarKeys, List.mem_cons, List.not_mem_nil, or_false, not_or] at hk
  obtain ⟨_, _, hrequired, hproperties, hpatterns⟩ := hk
  cases children with
  | list cs =>
    have hcongr : promoteFrom (fs.erase key) path 0 {} cs = promoteFrom fs path 0 {} cs :=
      promoteFrom_congr (hchoice cs rfl)
    simp only [promote, hcongr, bind, Except.bind, pure, Except.pure]
    cases promoteFrom fs path 0 {} cs with
    | error e => rfl
    | ok p =>
      simp only [mergeRequired_erase hrequired]
      cases mergeRequired fs path p.required with
      | error e => rfl
      | ok gs =>
        simp only [Except.map, mergeEntries_erase hproperties, mergeEntries_erase hpatterns]
  | _ => rfl

lemma settle_erase_of_isChoice (hk : key ∉ sugarKeys) (path : Path)
    (hchoice : ∀ cs, fs.get? "children" = some (.list cs) → ∀ c ∈ cs,
      isChoice ((fs.erase "children").erase key) c = isChoice (fs.erase "children") c) :
    settle (fs.erase key) path = (settle fs path).map fun gs => gs.erase key := by
  have hitems : key ≠ "items" := fun h => hk (by simp [sugarKeys, h])
  have hchildren : key ≠ "children" := fun h => hk (by simp [sugarKeys, h])
  unfold settle Fields.contains
  rw [Fields.get?_erase_of_ne _ hitems, Fields.get?_erase_of_ne _ hchildren]
  split
  · rw [unwrapItems_erase hitems]
    rfl
  · split
    · rename_i children hc
      rw [Fields.erase_comm]
      refine promote_erase hk fun cs hcs => hchoice cs ?_
      rw [hc, hcs]
    · rfl

/-- A key can leave if no child looks for itself among its members. -/
theorem settle_erase (hk : key ∉ sugarKeys) (path : Path)
    (hnamed : ∀ cs, fs.get? "children" = some (.list cs) →
      ∀ c ∈ cs, (c.get? "name").isSome = true) :
    settle (fs.erase key) path = (settle fs path).map fun gs => gs.erase key := by
  refine settle_erase_of_isChoice hk path fun cs hcs c hc => ?_
  have hname := hnamed cs hcs c hc
  rw [isChoice_of_named hname, isChoice_of_named hname]

/-- A key that is no list of choices can leave whatever the children are. -/
theorem settle_erase_of_notMem (hk : key ∉ sugarKeys) (hchoice : key ∉ choiceKeys) (path : Path) :
    settle (fs.erase key) path = (settle fs path).map fun gs => gs.erase key :=
  settle_erase_of_isChoice hk path fun _ _ c _ => isChoice_erase hchoice c

end Erase

end Schemata
