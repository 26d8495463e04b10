import Schemata.Proofs.Stripping

/-! What respelling keeps of a tree, and when a second run has nothing to do. -/
namespace Schemata

/-- The fields of a respelled schema: each key stands once, in the spelling of documents. -/
structure Spelled (fs : Fields Tree) : Prop where
  nodup : fs.keys.Nodup
  documentKey_eq : ∀ key ∈ fs.keys, documentKey key = key

/-- Respelling has nothing to do on a tree whose schemas are respelled. -/
theorem respell_of_spelled {t : Tree} (h : Throughout Spelled t) : respell t = t := by
  induction t using Tree.depth_induction with
  | leaf t hm => exact respell_of_not_map hm
  | map fs ih =>
    have hkeys : fs.map (fun e => (documentKey e.1, e.2)) = fs := by
      refine (List.map_congr_left fun e he => ?_).trans (List.map_id fs)
      rw [h.root.documentKey_eq e.1 (Fields.mem_keys_of_mem he)]
      rfl
    have hvisit : mapSchemas respell fs = fs := by
      apply mapSchemas_eq_self
      intro e he t ht
      have hvisits : Visits (.map fs) t := .under he ht
      exact ih t hvisits.depth_lt (h.visited hvisits)
    rw [respell_map, hvisit, respellKeys, hkeys, Fields.ofEntries_of_nodup h.root.nodup]

/-- No key but that of the patterns is changed into one that is changed once more, or whose map
holds schemas under names. -/
def Steady (fs : Fields Tree) : Prop :=
  ∀ key ∈ fs.keys, key ≠ "pattern_properties" → documentKey key ≠ key →
    documentKey key ∉ ["kind", "ref", "properties", "patternProperties", "definitions"]

instance (fs : Fields Tree) : Decidable (Steady fs) :=
  inferInstanceAs (Decidable (∀ key ∈ fs.keys, key ≠ "pattern_properties" →
    documentKey key ≠ key →
    documentKey key ∉ ["kind", "ref", "properties", "patternProperties", "definitions"]))

lemma documentKey_of_mem_literalKeys : ∀ key ∈ literalKeys, documentKey key = key := by
  decide +kernel

lemma documentKey_mem_schemaMapKeys : ∀ key ∈ schemaMapKeys, documentKey key ∈ schemaMapKeys := by
  decide +kernel

namespace Steady
variable {fs : Fields Tree} {key : String}

lemma documentKey_eq (h : Steady fs) (hk : key ∈ fs.keys) :
    documentKey (documentKey key) = documentKey key := by
  apply documentKey_documentKey
  intro hne hmem
  by_cases hpattern : key = "pattern_properties"
  · subst hpattern
    exact absurd hmem (by decide +kernel)
  · apply h key hk hpattern hne
    simp only [List.mem_cons, List.not_mem_nil, or_false] at hmem ⊢
    tauto

lemma mem_schemaMapKeys_iff (h : Steady fs) (hk : key ∈ fs.keys) :
    documentKey key ∈ schemaMapKeys ↔ key ∈ schemaMapKeys := by
  refine ⟨fun hmem => ?_, documentKey_mem_schemaMapKeys key⟩
  by_cases hself : documentKey key = key
  · rwa [hself] at hmem
  · by_cases hpattern : key = "pattern_properties"
    · rw [hpattern]
      decide
    · have hnot := h key hk hpattern hself
      have hscore := underscore_notMem_documentKey hself
      simp only [schemaMapKeys, List.mem_cons, List.not_mem_nil, or_false, not_or] at hmem hnot
      rcases hmem with heq | heq | heq | heq
      · exact absurd heq hnot.2.2.1
      · -- the second name map is the one key of the four with an underscore
        rw [heq] at hscore
        exact absurd hscore (by decide)
      · exact absurd heq hnot.2.2.2.1
      · exact absurd heq hnot.2.2.2.2

/-- Under its new key a value shows no schemas but those that were visited under the old one. -/
lemma schemasUnder_subset (h : Steady fs) (hk : key ∈ fs.keys) (value : Tree) :
    schemasUnder (documentKey key) value ⊆ schemasUnder key value := by
  by_cases hnew : documentKey key ∈ literalKeys
  · rw [schemasUnder_of_literal (slot_of_mem_literalKeys hnew value)]
    exact List.nil_subset _
  · have hold : key ∉ literalKeys := by
      intro hl
      rw [documentKey_of_mem_literalKeys key hl] at hnew
      exact hnew hl
    have hslot : slot (documentKey key) value = slot key value :=
      slot_congr (iff_of_false hnew hold) (h.mem_schemaMapKeys_iff hk) value
    rw [schemasUnder_congr hslot]
    exact List.Subset.refl _

end Steady

lemma mem_respell {fs : Fields Tree} {key : String} {w : Tree}
    (h : (key, w) ∈ respellKeys (mapSchemas respell fs)) :
    ∃ k v, (k, v) ∈ fs ∧ documentKey k = key ∧ mapSlot respell k v = w := by
  have hmem := (Fields.mem_extend h).resolve_left List.not_mem_nil
  obtain ⟨e, he, heq⟩ := List.mem_map.mp hmem
  obtain ⟨⟨k, v⟩, hkv, rfl⟩ := List.mem_map.mp he
  obtain ⟨hkey, hvalue⟩ := Prod.mk.inj heq
  exact ⟨k, v, hkv, hkey, hvalue⟩

lemma nodup_respellKeys (fs : Fields Tree) : (Fields.keys (respellKeys fs)).Nodup :=
  Fields.nodup_extend _ List.nodup_nil

/-- Steady trees are respelled in one run. -/
theorem throughout_respell {t : Tree} (h : Throughout Steady t) :
    Throughout Spelled (respell t) := by
  induction t using Tree.depth_induction with
  | leaf t hm =>
    apply Throughout.of_not_map
    rw [isMap_respell, hm]
  | map fs ih =>
    rw [respell_map]
    apply Throughout.map
    · refine ⟨nodup_respellKeys _, fun key hk => ?_⟩
      obtain ⟨w, hw⟩ := Fields.mem_keys.mp hk
      obtain ⟨k, v, hkv, rfl, _⟩ := mem_respell hw
      exact h.root.documentKey_eq (Fields.mem_keys_of_mem hkv)
    · rintro u ⟨hmem, hunder⟩
      obtain ⟨k, v, hkv, rfl, rfl⟩ := mem_respell hmem
      have hold := h.root.schemasUnder_subset (Fields.mem_keys_of_mem hkv) _ hunder
      rw [schemasUnder_mapSlot isMap_respell] at hold
      obtain ⟨c, hc, rfl⟩ := List.mem_map.mp hold
      have hvisits : Visits (.map fs) c := .under hkv hc
      exact ih c hvisits.depth_lt (h.visited hvisits)

/-- The last of the entries whose keys come to be spelled like `key`. -/
def Lasting (fs : Fields Tree) (key : String) (value : Tree) : Prop :=
  ∃ before after, fs = before ++ (key, value) :: after ∧
    ∀ e ∈ after, documentKey e.1 ≠ documentKey key

/-- What respelling makes of the fields of a schema. Entries are lost to later ones of their
spelling alone, and what is not lost keeps its value but for the schemas in it: the names of
schemas stay, and so do data of the caller. -/
structure RespelledTo (fs gs : Fields Tree) : Prop where
  nodup : gs.keys.Nodup
  origin : ∀ key w, (key, w) ∈ gs → ∃ k v, (k, v) ∈ fs ∧ documentKey k = key ∧
    InSlot (fun t u => respell t = u) k v w
  lasting : ∀ key value, Lasting fs key value → ∃ w, (documentKey key, w) ∈ gs ∧
    InSlot (fun t u => respell t = u) key value w
  named : ∀ key es, Lasting fs key (.map es) → key ∈ schemaMapKeys →
    ∃ us : Fields Tree, (documentKey key, .map us) ∈ gs ∧ us.keys = Fields.keys es ∧
      Fields.Rel (fun _ t u => respell t = u) es us
  literal : ∀ key value, Lasting fs key value → key ∈ literalKeys → (key, value) ∈ gs

section Fields
variable {fs gs : Fields Tree} {key : String} {value : Tree}

lemma mem_of_lasting (h : respell (.map fs) = .map gs) (hlast : Lasting fs key value) :
    (documentKey key, mapSlot respell key value) ∈ gs := by
  rw [respell_map] at h
  obtain rfl := Tree.map.inj h
  obtain ⟨before, after, rfl, hafter⟩ := hlast
  apply Fields.mem_of_get?
  simp only [respellKeys, mapSchemas, List.map_append, List.map_cons]
  apply Fields.get?_ofEntries_of_notMem
  intro hmem
  obtain ⟨w, hw⟩ := Fields.mem_keys.mp hmem
  obtain ⟨e, he, heq⟩ := List.mem_map.mp hw
  obtain ⟨e', he', rfl⟩ := List.mem_map.mp he
  exact hafter e' he' (congrArg Prod.fst heq)

lemma respelledTo_of_respell (h : respell (.map fs) = .map gs) : RespelledTo fs gs where
  nodup := by
    rw [respell_map] at h
    obtain rfl := Tree.map.inj h
    exact nodup_respellKeys _
  origin := by
    intro key w hw
    rw [respell_map] at h
    obtain rfl := Tree.map.inj h
    obtain ⟨k, v, hkv, hkey, rfl⟩ := mem_respell hw
    exact ⟨k, v, hkv, hkey, .of_mapSlot respell k v⟩
  lasting := fun key value hlast =>
    ⟨_, mem_of_lasting h hlast, .of_mapSlot respell key value⟩
  named := by
    intro key es hlast hnamed
    obtain ⟨us, hus, hrel⟩ := (InSlot.of_mapSlot respell key (.map es)).exists_entries
      (slot_of_mem_schemaMapKeys hnamed es)
    exact ⟨us, hus ▸ mem_of_lasting h hlast, hrel.keys_eq.symm, hrel⟩
  literal := by
    intro key value hlast hl
    have hmem := mem_of_lasting h hlast
    rwa [documentKey_of_mem_literalKeys key hl, mapSlot_of_mem_literalKeys respell hl] at hmem

end Fields

/-- A schema that survives stands respelled in the result. -/
lemma holds_of_survives {t a : Tree} (h : Survives respell documentKey t a) :
    Relation.ReflTransGen Tree.Holds (respell t) (respell a) := by
  induction h with
  | root => exact .refl
  | @under fs gs key value u _ hgs _ hkept hunder ih =>
    rw [hgs] at ih
    have hvalue : Tree.Holds (.map gs) (mapSlot respell key value) := .value hkept
    have hu : respell u ∈ schemasUnder key (mapSlot respell key value) := by
      rw [schemasUnder_mapSlot isMap_respell]
      exact List.mem_map_of_mem hunder
    exact (ih.tail hvalue).trans (Tree.holds_of_mem_schemasUnder hu)

/-- Respelling succeeds on every tree and touches nothing but the keys of the schemas it visits,
each of which stands in the result unless it is under an entry that is lost. A second run has
nothing to do on the result for a steady tree, be its keys spelled apart or not. -/
theorem respell_stable (t : Tree) :
    (∀ c, Pass.respell.apply c t = .ok (respell t)) ∧
    (∀ fs, Relation.ReflTransGen Visits t (.map fs) →
      ∃ gs, respell (.map fs) = .map gs ∧ RespelledTo fs gs) ∧
    (∀ a, Survives respell documentKey t a →
      Relation.ReflTransGen Tree.Holds (respell t) (respell a)) ∧
    (Throughout Steady t → respell (respell t) = respell t) := by
  refine ⟨fun _ => rfl, fun fs _ => ?_, fun _ => holds_of_survives, fun h => ?_⟩
  · exact ⟨_, respell_map fs, respelledTo_of_respell (respell_map fs)⟩
  · exact respell_of_spelled (throughout_respell h)

/-- Two lists of choices under two spellings of one key, and a pattern whose schema has a key that
becomes one for data of the caller. -/
def colliding : Tree := .map [
  ("any_of", .list [.map [("min_items", .number (.int 1))]]),
  ("anyOf", .list [.map [("max_items", .number (.int 2))]]),
  ("pattern_properties", .map [("a_b", .map [("default_", .map [("c_d", .null)])])])]

def collidingRespelled : Tree := .map [
  ("anyOf", .list [.map [("maxItems", .number (.int 2))]]),
  ("patternProperties", .map [("a_b", .map [("default", .map [("cD", .null)])])])]

lemma steady_of_leaf {key : String} {value : Tree} (hroot : Steady [(key, value)])
    (hleaf : schemasUnder key value = []) : Throughout Steady (.map [(key, value)]) := by
  apply Throughout.map hroot
  rintro t ⟨hmem, ht⟩
  cases List.mem_singleton.mp hmem
  rw [hleaf] at ht
  cases ht

lemma steady_colliding : Throughout Steady colliding := by
  apply Throughout.map
  · decide +kernel
  · rintro t ⟨hmem, ht⟩
    simp only [List.mem_cons, Prod.mk.injEq, List.not_mem_nil, or_false] at hmem
    rcases hmem with ⟨rfl, rfl⟩ | ⟨rfl, rfl⟩ | ⟨rfl, rfl⟩ <;>
      obtain rfl := List.mem_singleton.mp ht
    · exact steady_of_leaf (by decide +kernel) rfl
    · exact steady_of_leaf (by decide +kernel) rfl
    · apply Throughout.map
      · decide +kernel
      · rintro t ⟨hmem, ht⟩
        cases List.mem_singleton.mp hmem
        obtain rfl := List.mem_singleton.mp ht
        exact steady_of_leaf (by decide +kernel) rfl

theorem respell_stable_colliding : Throughout Steady colliding ∧
    respell colliding = collidingRespelled ∧ respell collidingRespelled = collidingRespelled := by
  have hrespelled : respell colliding = collidingRespelled := rfl
  obtain ⟨_, _, _, hstable⟩ := respell_stable colliding
  have hagain := hstable steady_colliding
  rw [hrespelled] at hagain
  exact ⟨steady_colliding, hrespelled, hagain⟩

end Schemata
