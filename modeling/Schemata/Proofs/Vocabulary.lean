import Schemata.Proofs.Regular

/-! The keys of a document: what stands at the schemas of a rendered tree. -/
namespace Schemata

/-- The keys that a document of built-in kinds may have where a schema stands. -/
def vocabulary : List String :=
  ["type", "title", "description", "default", "enum", "allOf", "anyOf", "oneOf", "required", "$ref",
    "definitions", "not", "multipleOf", "minimum", "maximum", "exclusiveMinimum",
    "exclusiveMaximum", "minLength", "maxLength", "pattern", "format", "uniqueItems",
    "additionalItems", "minItems", "maxItems", "items", "properties", "patternProperties",
    "minProperties", "maxProperties", "additionalProperties"]

namespace Document

/-- Keys of a document that hold data of the caller. -/
def dataKeys : List String := ["default", "enum"]

/-- Keys of a document that hold schemas under names. -/
def namedSchemaKeys : List String := ["properties", "patternProperties", "definitions"]

/-- What stands directly inside a schema of a document, where schemas stand: a map, a member of
a list that starts with a map, or a value under a name. -/
inductive Inside : Tree → Tree → Prop where
  | value {fs gs : Fields Tree} {key : String} : (key, .map gs) ∈ fs → key ∉ dataKeys →
      key ∉ namedSchemaKeys → Inside (.map fs) (.map gs)
  | member {fs gs : Fields Tree} {key : String} {ts : List Tree} {t : Tree} :
      (key, .list (.map gs :: ts)) ∈ fs → key ∉ dataKeys → t ∈ .map gs :: ts → Inside (.map fs) t
  | entry {fs es : Fields Tree} {key name : String} {t : Tree} : (key, .map es) ∈ fs →
      key ∈ namedSchemaKeys → (name, t) ∈ es → Inside (.map fs) t

lemma Inside.isMap {t u : Tree} (h : Inside t u) : t.isMap = true := by
  cases h <;> rfl

/-- What stands where schemas stand in a document, the whole included. -/
def Position : Tree → Tree → Prop := Relation.ReflTransGen Inside

end Document

/-- The keys under which documents hold data and named schemas are those that the passes know. -/
lemma mem_literalKeys_iff {key : String} (h : key ∈ vocabulary) :
    (key ∈ literalKeys ↔ key ∈ Document.dataKeys) ∧
      (key ∈ schemaMapKeys ↔ key ∈ Document.namedSchemaKeys) := by
  have hall : ∀ key ∈ vocabulary, (key ∈ literalKeys ↔ key ∈ Document.dataKeys) ∧
      (key ∈ schemaMapKeys ↔ key ∈ Document.namedSchemaKeys) := by decide
  exact hall key h

lemma mem_schemasUnder_of_inside {fs : Fields Tree} (hkeys : ∀ key ∈ fs.keys, key ∈ vocabulary)
    {t : Tree} (h : Document.Inside (.map fs) t) :
    ∃ key value, (key, value) ∈ fs ∧ t ∈ schemasUnder key value := by
  have hdisjoint : ∀ key ∈ Document.namedSchemaKeys, key ∉ literalKeys := by decide
  cases h with
  | @value _ gs key hmem hdata hnamed =>
    obtain ⟨hl, hm⟩ := mem_literalKeys_iff (hkeys key (Fields.mem_keys_of_mem hmem))
    have hslot : slot key (.map gs) = .schema :=
      slot_eq_schema_iff.mpr ⟨hdata ∘ hl.mp, hnamed ∘ hm.mp, rfl⟩
    refine ⟨key, _, hmem, ?_⟩
    rw [schemasUnder_of_schema hslot]
    exact List.mem_singleton_self _
  | @member _ gs key ts t hmem hdata ht =>
    obtain ⟨hl, _⟩ := mem_literalKeys_iff (hkeys key (Fields.mem_keys_of_mem hmem))
    have hslot : slot key (.list (.map gs :: ts)) = .items (.map gs :: ts) :=
      slot_eq_items_iff.mpr ⟨hdata ∘ hl.mp, rfl, _, ts, rfl, rfl⟩
    refine ⟨key, _, hmem, ?_⟩
    rw [schemasUnder_of_items hslot]
    exact ht
  | @entry _ es key name t hmem hnamed ht =>
    obtain ⟨_, hm⟩ := mem_literalKeys_iff (hkeys key (Fields.mem_keys_of_mem hmem))
    have hslot : slot key (.map es) = .entries es :=
      slot_eq_entries_iff.mpr ⟨hdisjoint key hnamed, hm.mpr hnamed, rfl⟩
    refine ⟨key, _, hmem, ?_⟩
    rw [schemasUnder_of_entries hslot]
    exact List.mem_map_of_mem ht

lemma inside_of_mem_schemasUnder {fs : Fields Tree} {key : String} {value t : Tree}
    (hkey : key ∈ vocabulary) (hmem : (key, value) ∈ fs) (ht : t ∈ schemasUnder key value) :
    Document.Inside (.map fs) t := by
  obtain ⟨hl, hm⟩ := mem_literalKeys_iff hkey
  unfold schemasUnder at ht
  split at ht
  · cases ht
  · rename_i hs
    obtain ⟨hliteral, hmaps, hmap⟩ := slot_eq_schema_iff.mp hs
    obtain ⟨gs, rfl⟩ := Tree.isMap_eq_true_iff.mp hmap
    rw [List.mem_singleton.mp ht]
    exact .value hmem (hliteral ∘ hl.mpr) (hmaps ∘ hm.mpr)
  · rename_i ts hs
    obtain ⟨hliteral, rfl, u, rest, rfl, hmap⟩ := slot_eq_items_iff.mp hs
    obtain ⟨gs, rfl⟩ := Tree.isMap_eq_true_iff.mp hmap
    exact .member hmem (hliteral ∘ hl.mpr) ht
  · rename_i es hs
    obtain ⟨_, hmaps, rfl⟩ := slot_eq_entries_iff.mp hs
    obtain ⟨e, he, rfl⟩ := List.mem_map.mp ht
    exact .entry hmem (hm.mp hmaps) he

namespace Regular
variable {fs : Fields Tree}

lemma documentKey_mem_vocabulary {key : String} (hk : key ∈ levelKeys)
    (hbook : documentKey key ∉ bookkeepingKeys) : documentKey key ∈ vocabulary := by
  have hall : ∀ key ∈ levelKeys, documentKey key ∉ bookkeepingKeys →
      documentKey key ∈ vocabulary := by decide +kernel
  exact hall key hk hbook

/-- What the last two passes make of a regular level: every key is one of documents, and no
value is blank. -/
theorem exists_finish (h : Regular fs) : ∃ out : Fields Tree, finish (.map fs) = .map out ∧
    (∀ e ∈ out, e.1 ∈ vocabulary ∧ e.2.isBlank = false) ∧
    ∀ e ∈ out, ∀ u ∈ schemasUnder e.1 e.2, ∃ t, Inside (.map fs) t ∧ finish t = u := by
  obtain ⟨out, heq, _, hmem⟩ := finish_map h.nodup_documentKey
  refine ⟨out, heq, ?_, ?_⟩
  · rintro ⟨k, w⟩ he
    obtain ⟨e, hmem, rfl, _, hbook, hblank⟩ := (hmem k w).mp he
    have hkey := h.mem_levelKeys _ (Fields.mem_keys_of_mem hmem)
    exact ⟨documentKey_mem_vocabulary hkey hbook, hblank⟩
  · rintro ⟨k, w⟩ he u hu
    obtain ⟨⟨key, value⟩, hmem, rfl, rfl, hbook, _⟩ := (hmem k w).mp he
    have hstable := stableKey_of_mem_levelKeys (h.mem_levelKeys _ (Fields.mem_keys_of_mem hmem))
    rw [schemasUnder_congr (hstable.slot_eq _)] at hu
    obtain ⟨t, ht, rfl⟩ := (inSlot_finish hstable value).exists_of_mem_schemasUnder
      (isMap_of_apply_eq isMap_finish) hu
    exact ⟨t, .under hmem (fun hb => hbook (hstable.bookkeeping.mp hb)) ht, rfl⟩

end Regular

/-- What stands where schemas stand in a document was made of a schema of the tree before. -/
theorem exists_within_of_position {b u : Tree} (hb : EveryLevel Regular b)
    (hu : Document.Position (finish b) u) : ∃ t, Within b t ∧ finish t = u := by
  induction hu with
  | refl => exact ⟨b, .refl, rfl⟩
  | @tail v u _ hvu ih =>
    obtain ⟨t, ht, rfl⟩ := ih
    have hmap : t.isMap = true := by
      rw [← isMap_finish]
      exact hvu.isMap
    obtain ⟨fs, rfl⟩ := Tree.isMap_eq_true_iff.mp hmap
    obtain ⟨out, heq, hkeys, hinside⟩ := (hb fs ht).exists_finish
    rw [heq] at hvu
    have hall : ∀ key ∈ out.keys, key ∈ vocabulary := by
      intro key hk
      obtain ⟨w, hw⟩ := Fields.mem_keys.mp hk
      exact (hkeys _ hw).1
    obtain ⟨key, value, hmem, hu⟩ := mem_schemasUnder_of_inside hall hvu
    obtain ⟨x, hx, rfl⟩ := hinside _ hmem _ hu
    exact ⟨x, ht.tail hx, rfl⟩

namespace Node
variable {n : Node}

/-- A node of built-in kinds is boxed into regular levels. -/
lemma everyLevel_regular (h : n.AllBuiltin) (kinds : Registry) {d : Tree}
    (hd : Desugars n.toTree d) : EveryLevel Regular (box kinds d) := by
  apply EveryLevel.box levelRule_regular
  apply everyLevel_of_desugars levelRule_regular regular_null h _ hd
  exact fun m gs _ hm hgs => hgs.regular hm.isBuiltin

/-- Where a schema stands in a rendered node of built-in kinds, every key is one of documents and
holds something. -/
theorem mem_vocabulary_of_run (h : n.AllBuiltin) {c : RenderContext} {t : Tree}
    (ht : Pass.run c Pass.defaults n.toTree = .ok t) {fs : Fields Tree}
    (hfs : Document.Position t (.map fs)) {key : String} {value : Tree} (hv : (key, value) ∈ fs) :
    key ∈ vocabulary ∧ value.isBlank = false ∧ '_' ∉ key.toList ∧ key ≠ "kind" ∧
      key ∉ bookkeepingKeys ∧ key ≠ Pattern.tag := by
  obtain ⟨d, hd, rfl⟩ := renders_iff.mp ht
  have hregular := everyLevel_regular h c.kinds hd
  obtain ⟨b, hb, heq⟩ := exists_within_of_position hregular hfs
  have hmap : b.isMap = true := by
    rw [← isMap_finish, heq]
    rfl
  obtain ⟨gs, rfl⟩ := Tree.isMap_eq_true_iff.mp hmap
  obtain ⟨out, hout, hkeys, _⟩ := (hregular gs hb).exists_finish
  rw [hout, Tree.map.injEq] at heq
  subst heq
  obtain ⟨hkey, hblank⟩ := hkeys _ hv
  have hall : ∀ key ∈ vocabulary, '_' ∉ key.toList ∧ key ≠ "kind" ∧ key ∉ bookkeepingKeys ∧
      key ≠ Pattern.tag := by decide
  exact ⟨hkey, hblank, hall key hkey⟩

/-- The document of the object with a required child and a child for the names of a pattern. -/
def labelledDocument : Tree := .map [("type", .string "object"),
  ("required", .list [.string "id", .string "title"]),
  ("properties", .map [("title", .map [("type", .string "string")])]),
  ("patternProperties", .map [("^x-", .map [("type", .string "boolean")])])]

lemma run_labelled :
    Pass.run ⟨.builtin, none⟩ Pass.defaults labelled.toTree = .ok labelledDocument := rfl

theorem mem_vocabulary_of_run_labelled :
    Pass.run ⟨.builtin, none⟩ Pass.defaults labelled.toTree = .ok labelledDocument ∧
      Document.Position labelledDocument (.map [("type", .string "string")]) ∧
      "type" ∈ vocabulary ∧ (Tree.string "string").isBlank = false := by
  have hinside : Document.Inside labelledDocument (.map [("type", .string "string")]) := by
    apply Document.Inside.entry
    · exact .tail _ (.tail _ (.head _))
    · decide
    · exact List.mem_singleton_self _
  obtain ⟨hkey, hblank, _⟩ := mem_vocabulary_of_run isBuiltin_of_labelled run_labelled
    (.single hinside) (List.mem_singleton_self _)
  exact ⟨run_labelled, .single hinside, hkey, hblank⟩

end Node

end Schemata
