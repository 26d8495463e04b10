import Schemata.Proofs.NormalForms

/-! What stripping takes from a tree, and what it leaves there. -/
namespace Schemata

/-- A schema that a pass visits and keeps: on the way to it every level keeps the entry it stands
under, with the key that `spell` gives it. -/
inductive Survives (pass : Tree → Tree) (spell : String → String) (t : Tree) : Tree → Prop where
  | root : Survives pass spell t t
  | under {fs gs : Fields Tree} {key : String} {value u : Tree} :
      Survives pass spell t (.map fs) → pass (.map fs) = .map gs → (key, value) ∈ fs →
      (spell key, mapSlot pass key value) ∈ gs → u ∈ schemasUnder key value →
      Survives pass spell t u

lemma schemasUnder_mapSlot {f : Tree → Tree} (hf : ∀ t, (f t).isMap = t.isMap) (key : String)
    (value : Tree) : schemasUnder key (mapSlot f key value) = (schemasUnder key value).map f := by
  have hrel := (InSlot.of_mapSlot f key value).forall₂_schemasUnder (isMap_of_apply_eq hf)
  rw [← List.forall₂_map_left_iff (R := Eq), List.forall₂_eq_eq_eq] at hrel
  exact hrel.symm

/-- The fields of a stripped schema: no bookkeeping, and no blank value. -/
structure Clean (fs : Fields Tree) : Prop where
  not_bookkeeping : ∀ key ∈ fs.keys, key ∉ bookkeepingKeys
  not_blank : ∀ e ∈ fs, e.2.isBlank = false

/-- Stripping has nothing to do on a tree whose schemas are stripped. -/
theorem strip_of_clean {t : Tree} (h : Throughout Clean t) : strip t = t := by
  induction t using Tree.depth_induction with
  | leaf t hm => exact strip_of_not_map hm
  | map fs ih =>
    have hbook : dropBookkeeping fs = fs := by
      refine List.filter_eq_self.mpr fun e he => ?_
      simpa using h.root.not_bookkeeping e.1 (Fields.mem_keys_of_mem he)
    have hvisit : mapSchemas strip fs = fs := by
      apply mapSchemas_eq_self
      intro e he t ht
      have hvisits : Visits (.map fs) t := .under he ht
      exact ih t hvisits.depth_lt (h.visited hvisits)
    have hblank : dropBlankValues fs = fs :=
      List.filter_eq_self.mpr fun e he => by simp [h.root.not_blank e he]
    rw [strip_map, hbook, hvisit, hblank]

lemma clean_of_strip {fs gs : Fields Tree} (h : strip (.map fs) = .map gs) : Clean gs := by
  rw [strip_map] at h
  obtain rfl := Tree.map.inj h
  refine ⟨fun key hk => ?_, fun e he => ?_⟩
  · obtain ⟨w, hw⟩ := Fields.mem_keys.mp hk
    obtain ⟨_, _, hbook, _⟩ := mem_strip.mp hw
    exact hbook
  · obtain ⟨_, _, _, _, hblank⟩ := mem_strip.mp he
    exact hblank

/-- The schemas of a stripped tree are those that survive, each of them stripped. -/
theorem visits_strip_iff {t u : Tree} : Relation.ReflTransGen Visits (strip t) u ↔
    ∃ a, Survives strip id t a ∧ strip a = u := by
  constructor
  · intro h
    induction h with
    | refl => exact ⟨t, .root, rfl⟩
    | tail _ hvisits ih =>
      obtain ⟨a, ha, rfl⟩ := ih
      generalize hgs : strip a = b at hvisits
      obtain ⟨hmem, hunder⟩ := hvisits
      have hmap : a.isMap = true := by rw [← isMap_strip, hgs, Tree.isMap_map]
      obtain ⟨fs, rfl⟩ := Tree.isMap_eq_true_iff.mp hmap
      obtain rfl := Tree.map.inj ((strip_map fs).symm.trans hgs)
      obtain ⟨value, hvalue, _, rfl, _⟩ := mem_strip.mp hmem
      rw [schemasUnder_mapSlot isMap_strip] at hunder
      obtain ⟨c, hc, rfl⟩ := List.mem_map.mp hunder
      exact ⟨c, .under ha hgs hvalue hmem hc, rfl⟩
  · rintro ⟨a, ha, rfl⟩
    induction ha with
    | root => exact .refl
    | under _ hgs _ hkept hunder ih =>
      rw [hgs] at ih
      refine .tail ih (.under hkept ?_)
      rw [id_eq, schemasUnder_mapSlot isMap_strip]
      exact List.mem_map_of_mem hunder

theorem throughout_strip (t : Tree) : Throughout Clean (strip t) := by
  intro gs hgs
  obtain ⟨a, _, ha⟩ := visits_strip_iff.mp hgs
  have hmap : a.isMap = true := by rw [← isMap_strip, ha, Tree.isMap_map]
  obtain ⟨fs, rfl⟩ := Tree.isMap_eq_true_iff.mp hmap
  exact clean_of_strip ha

/-- What stripping leaves of the fields of a schema. Entries go or stay as a whole: lists that are
not empty keep their members and maps of named schemas their names, and what is no text, list or
map stays as it is. -/
structure LeftOf (fs gs : Fields Tree) : Prop where
  rel : Fields.Rel (InSlot fun t u => strip t = u)
    (fs.filter fun e => e.1 ∉ bookkeepingKeys ∧ (mapSlot strip e.1 e.2).isBlank = false) gs
  list : ∀ key ts, (key, .list ts) ∈ fs → key ∉ bookkeepingKeys → ts ≠ [] →
    (key, .list (if key ∉ literalKeys ∧ startsWithMap ts = true then ts.map strip else ts)) ∈ gs
  named : ∀ key es, (key, .map es) ∈ fs → key ∈ schemaMapKeys → es ≠ [] →
    (key, .map (Fields.mapValues strip es)) ∈ gs
  bool : ∀ key b, (key, .bool b) ∈ fs → key ∉ bookkeepingKeys → (key, .bool b) ∈ gs
  number : ∀ key n, (key, .number n) ∈ fs → key ∉ bookkeepingKeys → (key, .number n) ∈ gs
  literal : ∀ key value, (key, value) ∈ fs → key ∈ literalKeys → value.isBlank = false →
    (key, value) ∈ gs

lemma mapSlot_of_mem_literalKeys (f : Tree → Tree) {key : String} (h : key ∈ literalKeys)
    (value : Tree) : mapSlot f key value = value := by
  rw [mapSlot, slot_of_mem_literalKeys h]

lemma bookkeepingKeys_disjoint_literalKeys : ∀ key ∈ literalKeys, key ∉ bookkeepingKeys := by
  decide

lemma bookkeepingKeys_disjoint_schemaMapKeys : ∀ key ∈ schemaMapKeys, key ∉ bookkeepingKeys := by
  decide

section Fields
variable {fs gs : Fields Tree}

lemma strip_map_eq_filter (fs : Fields Tree) : strip (.map fs) = .map (mapSchemas strip
    (fs.filter fun e => e.1 ∉ bookkeepingKeys ∧ (mapSlot strip e.1 e.2).isBlank = false)) := by
  rw [strip_map, dropBlankValues, dropBookkeeping, mapSchemas, List.filter_map, List.filter_filter,
    mapSchemas]
  congr 3
  funext e
  simp [Bool.and_comm]

/-- An entry stays if its key is no bookkeeping and its stripped value is not blank. -/
lemma mem_of_strip (h : strip (.map fs) = .map gs) {key : String} {value w : Tree}
    (hmem : (key, value) ∈ fs) (hbook : key ∉ bookkeepingKeys) (hw : mapSlot strip key value = w)
    (hblank : w.isBlank = false) : (key, w) ∈ gs := by
  rw [strip_map] at h
  obtain rfl := Tree.map.inj h
  exact mem_strip.mpr ⟨value, hmem, hbook, hw, hblank⟩

lemma leftOf_of_strip (h : strip (.map fs) = .map gs) : LeftOf fs gs where
  rel := by
    rw [strip_map_eq_filter] at h
    obtain rfl := Tree.map.inj h
    exact rel_mapSchemas strip _
  list := by
    intro key ts hmem hbook hne
    apply mem_of_strip h hmem hbook
    · by_cases hl : key ∈ literalKeys
      · simp [mapSlot_of_mem_literalKeys strip hl, hl]
      · simp [mapSlot_list strip hl, hl]
    · split <;> simpa [Tree.isBlank] using hne
  named := by
    intro key es hmem hnamed hne
    apply mem_of_strip h hmem (bookkeepingKeys_disjoint_schemaMapKeys key hnamed)
    · simp only [mapSlot, slot_of_mem_schemaMapKeys hnamed]
    · simpa [Tree.isBlank, Fields.mapValues] using hne
  bool := fun _ _ hmem hbook => mem_of_strip h hmem hbook (mapSlot_of_depth_eq_zero strip rfl) rfl
  number := fun _ _ hmem hbook => mem_of_strip h hmem hbook (mapSlot_of_depth_eq_zero strip rfl) rfl
  literal := by
    intro key value hmem hl hblank
    have hbook := bookkeepingKeys_disjoint_literalKeys key hl
    exact mem_of_strip h hmem hbook (mapSlot_of_mem_literalKeys strip hl value) hblank

end Fields

/-- Stripping succeeds on every tree, and is done after one run. The schemas of its result are the
survivors, each of them stripped: none has bookkeeping or a blank value left, and none has lost a
member of a list, a named schema, a flag, a number or data of the caller. -/
theorem strip_exact (t : Tree) :
    (∀ c, Pass.strip.apply c t = .ok (strip t)) ∧
    Throughout Clean (strip t) ∧
    (∀ u, Relation.ReflTransGen Visits (strip t) u ↔
      ∃ a, Survives strip id t a ∧ strip a = u) ∧
    (∀ a, Survives strip id t a → (a.isMap = false → strip a = a) ∧
      ∀ fs, a = .map fs → ∃ gs, strip a = .map gs ∧ LeftOf fs gs) ∧
    strip (strip t) = strip t := by
  refine ⟨fun _ => rfl, throughout_strip t, fun _ => visits_strip_iff, ?_, ?_⟩
  · refine fun a _ => ⟨strip_of_not_map, ?_⟩
    rintro fs rfl
    exact ⟨_, strip_map fs, leftOf_of_strip (strip_map fs)⟩
  · exact strip_of_clean (throughout_strip t)

example : strip (.map [("name", .string "a"), ("default", .map [("name", .null)]),
      ("items", .map [("children", .list []), ("title", .string "")]),
      ("anyOf", .list [.map [("nullable", .bool true)], .null]),
      ("properties", .map [("name", .map [("enum", .list [])])])]) =
    .map [("default", .map [("name", .null)]), ("anyOf", .list [.map [], .null]),
      ("properties", .map [("name", .map [])])] := by rfl

end Schemata
