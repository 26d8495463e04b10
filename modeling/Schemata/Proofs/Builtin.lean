import Schemata.Proofs.Chain
import Schemata.Proofs.Construct

/-! Nodes of the built-in kinds, and what stands under the keys of their trees. -/
namespace Schemata

lemma AttrValue.toFields_eq (as : Fields AttrValue) :
    AttrValue.toFields as = Fields.mapValues AttrValue.toTree as := by
  induction as with
  | nil => simp [AttrValue.toFields, Fields.mapValues]
  | cons e as ih =>
    obtain ⟨k, v⟩ := e
    rw [AttrValue.toFields, ih]
    rfl

lemma Node.toTrees_eq (ns : List Node) : Node.toTrees ns = ns.map Node.toTree := by
  induction ns with
  | nil => simp [Node.toTrees]
  | cons n ns ih => rw [Node.toTrees, ih, List.map_cons]

lemma Node.toFields_eq (es : Fields Node) :
    Node.toFields es = Fields.mapValues Node.toTree es := by
  induction es with
  | nil => simp [Node.toFields, Fields.mapValues]
  | cons e es ih =>
    obtain ⟨k, n⟩ := e
    rw [Node.toFields, ih]
    rfl

namespace AttrValue

@[simp] lemma toTree_literal (t : Tree) : (literal t).toTree = t := by rw [toTree]

@[simp] lemma toTree_name (nm : Name) : (name nm).toTree = nm.toTree := by rw [toTree]

@[simp] lemma toTree_node (n : Node) : (node n).toTree = n.toTree := by rw [toTree]

@[simp] lemma toTree_nodes (ns : List Node) :
    (nodes ns).toTree = .list (ns.map Node.toTree) := by rw [toTree, Node.toTrees_eq]

@[simp] lemma toTree_nodeMap (es : List (String × Node)) :
    (nodeMap es).toTree = .map (Fields.mapValues Node.toTree es) := by
  rw [toTree, Node.toFields_eq]

/-- The nodes that stand directly in a value. -/
def inner : AttrValue → List Node
  | node n => [n]
  | nodes ns => ns
  | nodeMap es => es.map (·.2)
  | _ => []

end AttrValue

namespace Node

/-- The value stored under a key in canonical spelling. -/
def attr? (n : Node) (key : String) : Option AttrValue := Fields.get? n.attributes key

/-- The fields of the tree of a node. -/
def fields (n : Node) : Fields Tree :=
  Fields.extend (Fields.mapValues AttrValue.toTree n.attributes) n.kind.tag

lemma toTree_eq (n : Node) : n.toTree = .map n.fields := by
  obtain ⟨k, as⟩ := n
  rw [toTree, AttrValue.toFields_eq]
  rfl

@[simp] lemma isMap_toTree (n : Node) : n.toTree.isMap = true := by rw [toTree_eq, Tree.isMap_map]

/-- The nodes that stand directly in a node. -/
def inner (n : Node) : List Node := n.attributes.flatMap fun e => e.2.inner

/-- A node that is met on the way into another one, that one included. -/
def Reaches : Node → Node → Prop := Relation.ReflTransGen fun n m => m ∈ n.inner

lemma forall_reaches {p : Node → Prop} {n : Node} (hn : p n)
    (hinner : ∀ m ∈ n.inner, ∀ l, m.Reaches l → p l) (l : Node) (hl : n.Reaches l) : p l := by
  rcases hl.cases_head with rfl | ⟨m, hm, hml⟩
  · exact hn
  · exact hinner m hm l hml

lemma mem_inner_of_attr? {n m : Node} {key : String} {v : AttrValue} (hv : n.attr? key = some v)
    (hm : m ∈ v.inner) : m ∈ n.inner :=
  List.mem_flatMap.mpr ⟨(key, v), Fields.mem_of_get? hv, hm⟩

/-- A node as writes make them: every value has passed the check of its kind. -/
structure Wellformed (n : Node) : Prop where
  nodup : (Fields.keys n.attributes).Nodup
  check_eq : ∀ e ∈ n.attributes, n.kind.check e.1 e.2 = .ok (some e.2)

theorem wellformed_construct {k : Kind} {entries : List (String × AttrValue)} {n : Node}
    (h : construct k entries = .ok n) : n.Wellformed := by
  rw [construct_eq] at h
  cases hvs : Registry.checkEntries k entries with
  | error e =>
    rw [hvs] at h
    cases h
  | ok vs =>
    rw [hvs] at h
    cases h
    refine ⟨Fields.nodup_assignAll vs List.nodup_nil, fun e he => ?_⟩
    rcases Fields.mem_assignAll he with he | he
    · cases he
    · obtain ⟨_, _, _, hcheck⟩ := Registry.mem_of_checkEntries hvs he
      exact Kind.check_of_check hcheck

theorem Wellformed.update {n m : Node} (h : n.Wellformed) {name : String} {value : AttrValue}
    (hm : n.update name value = .ok m) : m.Wellformed := by
  obtain ⟨v, hv, rfl⟩ := update_eq_ok_iff.mp hm
  refine ⟨Fields.nodup_assign _ _ h.nodup, fun e he => ?_⟩
  cases v with
  | none => exact h.check_eq e (Fields.mem_of_mem_erase he)
  | some w =>
    rcases Fields.mem_insert he with he | rfl
    · exact h.check_eq e he
    · exact Kind.check_of_check hv

/-- A node of a built-in kind; what may be of any type as a bound is no list and no map. -/
structure IsBuiltin (n : Node) : Prop extends n.Wellformed where
  kind_mem : n.kind ∈ Kind.builtin
  scalar : ∀ key ∈ ["exclusive_minimum", "exclusive_maximum"], ∀ v, n.attr? key = some v →
    v.toTree.depth = 0

lemma isBuiltin_of_construct {n : Node} (h : construct n.kind n.attributes = .ok n)
    (hk : n.kind ∈ Kind.builtin)
    (hbounds : ∀ key ∈ ["exclusive_minimum", "exclusive_maximum"], n.attr? key = none) :
    n.IsBuiltin where
  toWellformed := wellformed_construct h
  kind_mem := hk
  scalar key hkey v hv := by
    rw [hbounds key hkey] at hv
    cases hv

end Node

/-- The attributes that the built-in kinds declare. -/
def builtinAttributes : List (String × AttrType) := Kind.builtin.flatMap fun k => k.attributes

/-- The keys that a level of a tree of built-in kinds may have when it is desugared. -/
def levelKeys : List String :=
  ["kind", "name", "title", "description", "default", "enum", "all_of", "any_of", "one_of",
    "children", "nullable", "required", "ref", "definitions", "not", "min_length", "max_length",
    "pattern", "format", "multiple_of", "minimum", "maximum", "exclusive_minimum",
    "exclusive_maximum", "unique_items", "additional_items", "min_items", "max_items", "items",
    "pattern_properties", "min_properties", "max_properties", "additional_properties",
    "properties", kindTag]

lemma nodup_documentKey_levelKeys : (levelKeys.map documentKey).Nodup := by decide +kernel

lemma documentKey_injOn {key other : String} (hk : key ∈ levelKeys) (ho : other ∈ levelKeys)
    (heq : documentKey key = documentKey other) : key = other :=
  List.inj_on_of_nodup_map nodup_documentKey_levelKeys hk ho heq

lemma stableKey_of_mem_levelKeys {key : String} (h : key ∈ levelKeys) : StableKey key := by
  have hall : ∀ key ∈ levelKeys, (key ∈ literalKeys ↔ documentKey key ∈ literalKeys) ∧
      (key ∈ schemaMapKeys ↔ documentKey key ∈ schemaMapKeys) ∧
      (key ∈ bookkeepingKeys ↔ documentKey key ∈ bookkeepingKeys) := by decide +kernel
  obtain ⟨hl, hm, hb⟩ := hall key h
  exact ⟨hl, hm, hb⟩

/-- What the type of an attribute of a built-in kind has to do with its key. -/
structure KeyType (key : String) (type : AttrType) : Prop where
  level : key ∈ levelKeys
  any : type = .any → key ∈ ["default", "exclusive_minimum", "exclusive_maximum"]
  array : type = .array → key ∈ literalKeys
  schemaMap : type = .schemaMap ↔ key ∈ schemaMapKeys
  name : type = .name ↔ key = "name"
  children : key = "children" → type = .schemas
  required : key = "required" → type = .required
  items : key = "items" → type = .schemaOrSchemas
  nullable : key = "nullable" → type = .boolean
  not_properties : key ≠ "properties"

lemma keyType_of_mem_builtinAttributes {key : String} {type : AttrType}
    (h : (key, type) ∈ builtinAttributes) : KeyType key type := by
  have hall : ∀ e ∈ builtinAttributes, e.1 ∈ levelKeys ∧
      (e.2 = .any → e.1 ∈ ["default", "exclusive_minimum", "exclusive_maximum"]) ∧
      (e.2 = .array → e.1 ∈ literalKeys) ∧ (e.2 = .schemaMap ↔ e.1 ∈ schemaMapKeys) ∧
      (e.2 = .name ↔ e.1 = "name") ∧ (e.1 = "children" → e.2 = .schemas) ∧
      (e.1 = "required" → e.2 = .required) ∧ (e.1 = "items" → e.2 = .schemaOrSchemas) ∧
      (e.1 = "nullable" → e.2 = .boolean) ∧ e.1 ≠ "properties" := by decide +kernel
  obtain ⟨hlevel, hany, harray, hmap, hname, hchildren, hrequired, hitems, hnullable, hprops⟩ :=
    hall _ h
  exact ⟨hlevel, hany, harray, hmap, hname, hchildren, hrequired, hitems, hnullable, hprops⟩

lemma Kind.tag_eq (k : Kind) : k.tag = [] ∨ k.tag = [(kindTag, .string k.id)] := by
  unfold tag
  split
  · split
    · exact .inl rfl
    · exact .inr rfl
  · exact .inl rfl

/-- The values that an attribute of a type holds once they are coerced. -/
def AttrType.Holds : AttrType → AttrValue → Prop
  | .any, _ => True
  | .string, v => ∃ s, v = .string s
  | .integer, v | .number, v => ∃ x, v = .literal (.number x)
  | .boolean, v => ∃ b, v = .literal (.bool b)
  | .name, v => ∃ nm, v = .name nm
  | .array, v => ∃ ts, v = .literal (.list ts)
  | .schema, v => ∃ n, v = .node n
  | .schemas, v => ∃ ns, v = .nodes ns
  | .schemaOrSchemas, v => (∃ n, v = .node n) ∨ ∃ ns, v = .nodes ns
  | .boolOrSchema, v => (∃ b, v = .literal (.bool b)) ∨ ∃ n, v = .node n
  | .schemaMap, v => ∃ es, v = .nodeMap es
  | .required, v => (∃ b, v = .literal (.bool b)) ∨
      ∃ items, v = .literal (.list items) ∧ items.all Tree.isString = true

lemma AttrType.holds_of_coerce {ty : AttrType} {v : AttrValue} (h : ty.coerce v = some v) :
    ty.Holds v := by
  unfold coerce at h
  split at h <;> simp_all [Holds, AttrValue.string]

namespace Node
variable {n : Node} {key : String} {v : AttrValue}

lemma get?_fields (n : Node) (hk : key ≠ kindTag) :
    n.fields.get? key = (n.attr? key).map AttrValue.toTree := by
  have htag : key ∉ Fields.keys n.kind.tag := by
    rcases n.kind.tag_eq with h | h <;> rw [h] <;> simp [hk]
  rw [fields, Fields.get?_extend_of_notMem _ htag, Fields.get?_mapValues]
  rfl

lemma nodup_fields (h : n.Wellformed) : n.fields.keys.Nodup := by
  refine Fields.nodup_extend _ ?_
  rw [Fields.keys_mapValues]
  exact h.nodup

lemma mem_keys_fields (h : key ∈ n.fields.keys) :
    key ∈ Fields.keys n.attributes ∨ key = kindTag := by
  rw [fields, Fields.mem_keys_extend, Fields.keys_mapValues] at h
  refine h.imp_right fun hk => ?_
  rcases n.kind.tag_eq with htag | htag <;> rw [htag] at hk
  · cases hk
  · exact List.mem_singleton.mp hk

lemma fields_erase (k : Kind) (as : Fields AttrValue) (hk : key ≠ kindTag) :
    (mk k (as.erase key)).fields = (mk k as).fields.erase key := by
  change Fields.extend (Fields.mapValues AttrValue.toTree (as.erase key)) k.tag =
    Fields.erase (Fields.extend (Fields.mapValues AttrValue.toTree as) k.tag) key
  rw [Fields.mapValues_erase]
  rcases k.tag_eq with h | h <;> rw [h]
  · rfl
  · exact (Fields.erase_insert_of_ne _ _ (Ne.symm hk)).symm

/-- A stored value has the shape of the type that is declared for its key. -/
lemma Wellformed.exists_declared (h : n.Wellformed) (hkind : n.kind ∈ Kind.builtin)
    (hv : n.attr? key = some v) : ∃ ty, (key, ty) ∈ builtinAttributes ∧ ty.Holds v := by
  have hmem := Fields.mem_of_get? hv
  obtain ⟨ty, hty, hcheck⟩ := Kind.check_eq_ok_iff.mp (h.check_eq _ hmem)
  rcases hcheck with ⟨_, hnone⟩ | ⟨hnull, w, hw, heq⟩
  · cases hnone
  · cases heq
    have hdeclared := List.mem_flatMap.mpr ⟨n.kind, hkind, Fields.mem_of_get? hty⟩
    exact ⟨ty, hdeclared, AttrType.holds_of_coerce hw⟩

/-- A stored value has the shape of its type, which goes with its key. -/
theorem Wellformed.exists_type (h : n.Wellformed) (hkind : n.kind ∈ Kind.builtin)
    (hv : n.attr? key = some v) : ∃ ty, KeyType key ty ∧ ty.Holds v := by
  obtain ⟨ty, hdeclared, hholds⟩ := h.exists_declared hkind hv
  exact ⟨ty, keyType_of_mem_builtinAttributes hdeclared, hholds⟩

lemma Wellformed.mem_levelKeys (h : n.Wellformed) (hkind : n.kind ∈ Kind.builtin)
    (hk : key ∈ n.fields.keys) : key ∈ levelKeys := by
  rcases mem_keys_fields hk with hk | rfl
  · obtain ⟨v, hv⟩ := Option.isSome_iff_exists.mp (Fields.get?_isSome_iff.mpr hk)
    obtain ⟨_, hty, _⟩ := h.exists_type hkind hv
    exact hty.level
  · decide

namespace IsBuiltin

lemma exists_declared (h : n.IsBuiltin) (hv : n.attr? key = some v) :
    ∃ ty, (key, ty) ∈ builtinAttributes ∧ ty.Holds v :=
  h.toWellformed.exists_declared h.kind_mem hv

lemma exists_type (h : n.IsBuiltin) (hv : n.attr? key = some v) :
    ∃ ty, KeyType key ty ∧ ty.Holds v :=
  h.toWellformed.exists_type h.kind_mem hv

lemma exists_children (h : n.IsBuiltin) (hv : n.attr? "children" = some v) :
    ∃ ns, v = .nodes ns := by
  obtain ⟨ty, hty, hholds⟩ := h.exists_type hv
  obtain rfl := hty.children rfl
  exact hholds

lemma attr?_properties (h : n.IsBuiltin) : n.attr? "properties" = none := by
  cases hv : n.attr? "properties" with
  | none => rfl
  | some v =>
    obtain ⟨_, hty, _⟩ := h.exists_type hv
    exact absurd rfl hty.not_properties

lemma exists_patterns (h : n.IsBuiltin) (hv : n.attr? "pattern_properties" = some v) :
    ∃ es, v = .nodeMap es := by
  obtain ⟨ty, hty, hholds⟩ := h.exists_type hv
  obtain rfl := hty.schemaMap.mpr (by decide)
  exact hholds

lemma exists_required (h : n.IsBuiltin) (hv : n.attr? "required" = some v) :
    (∃ b, v = .literal (.bool b)) ∨
      ∃ items, v = .literal (.list items) ∧ items.all Tree.isString = true := by
  obtain ⟨ty, hty, hholds⟩ := h.exists_type hv
  obtain rfl := hty.required rfl
  exact hholds

lemma mem_levelKeys (h : n.IsBuiltin) (hk : key ∈ n.fields.keys) : key ∈ levelKeys :=
  h.toWellformed.mem_levelKeys h.kind_mem hk

end IsBuiltin

end Node

/-- The renderings of a map of nodes, each on its own. -/
def RendersEach (c : RenderContext) : Fields Node → Fields Tree → Prop :=
  Fields.Rel fun _ n t => Renders c n.toTree t

/-- The tree that a value renders to: its nodes are rendered, everything else stays. -/
inductive AttrValue.RendersTo (c : RenderContext) : AttrValue → Tree → Prop where
  | literal (t : Tree) : RendersTo c (.literal t) t
  | name (nm : Name) : RendersTo c (.name nm) nm.toTree
  | node {n : Node} {t : Tree} : Renders c n.toTree t → RendersTo c (.node n) t
  | nodes {ns : List Node} {ts : List Tree} :
      List.Forall₂ (fun n t => Renders c n.toTree t) ns ts → RendersTo c (.nodes ns) (.list ts)
  | nodeMap {es : Fields Node} {ts : Fields Tree} :
      RendersEach c es ts → RendersTo c (.nodeMap es) (.map ts)

/-- What a value renders to under a key; the data of the caller is taken over as it is. -/
def RendersUnder (c : RenderContext) (key : String) (v : AttrValue) (t : Tree) : Prop :=
  if key ∈ literalKeys then t = v.toTree else v.RendersTo c t

lemma slot_of_depth_eq_zero {t : Tree} (h : t.depth = 0) (key : String) :
    slot key t = .literal := by
  cases t <;> simp_all [Tree.depth, slot]

lemma slot_strings {ts : List Tree} (h : ts.all Tree.isString = true) (key : String) :
    slot key (.list ts) = .literal := by
  cases ts with
  | nil => simp [slot]
  | cons t ts =>
    have ht : t.isMap = false := by
      cases t <;> simp_all [Tree.isString, Tree.string?, Tree.isMap]
    simp [slot, ht]

lemma exists_rendersEach {c : RenderContext} {key : String} {w : Tree} {es : Fields Node}
    (hl : key ∉ literalKeys) (hm : key ∈ schemaMapKeys)
    (h : InSlot (Renders c) key (.map (Fields.mapValues Node.toTree es)) w) :
    ∃ ts, w = .map ts ∧ RendersEach c es ts := by
  have hslot : slot key (.map (Fields.mapValues Node.toTree es)) =
      .entries (Fields.mapValues Node.toTree es) := slot_eq_entries_iff.mpr ⟨hl, hm, rfl⟩
  obtain ⟨ts, rfl, hts⟩ := h.exists_entries hslot
  exact ⟨ts, rfl, List.forall₂_map_left_iff.mp hts⟩

namespace AttrValue.RendersTo
variable {c : RenderContext} {key : String} {w : Tree}

lemma of_inSlot_node {n : Node} (hl : key ∉ literalKeys) (hm : key ∉ schemaMapKeys)
    (h : InSlot (Renders c) key n.toTree w) : RendersTo c (.node n) w := by
  have hslot : slot key n.toTree = .schema := slot_eq_schema_iff.mpr ⟨hl, hm, n.isMap_toTree⟩
  exact .node (h.of_schema hslot)

lemma of_inSlot_nodes {ns : List Node} (hl : key ∉ literalKeys)
    (h : InSlot (Renders c) key (.list (ns.map Node.toTree)) w) : RendersTo c (.nodes ns) w := by
  cases ns with
  | nil =>
    rw [h.eq_of_literal (by simp [slot])]
    exact .nodes .nil
  | cons n ns =>
    have hslot : slot key (.list ((n :: ns).map Node.toTree)) =
        .items ((n :: ns).map Node.toTree) :=
      slot_eq_items_iff.mpr ⟨hl, rfl, n.toTree, ns.map Node.toTree, rfl, n.isMap_toTree⟩
    obtain ⟨ts, rfl, hts⟩ := h.exists_items hslot
    exact .nodes (List.forall₂_map_left_iff.mp hts)

end AttrValue.RendersTo

namespace Node.IsBuiltin
variable {n : Node} {key : String} {v : AttrValue}

/-- Outside of the data of the caller, what is of any type is a bound, and no list and no map. -/
lemma depth_of_any (h : n.IsBuiltin) (hv : n.attr? key = some v) (hl : key ∉ literalKeys)
    (hty : KeyType key .any) : v.toTree.depth = 0 := by
  have hkey := hty.any rfl
  rw [List.mem_cons] at hkey
  rcases hkey with rfl | hkey
  · exact absurd (by decide) hl
  · exact h.scalar key hkey v hv

lemma slot_literal (h : n.IsBuiltin) {t : Tree} (hv : n.attr? key = some (.literal t))
    (hl : key ∉ literalKeys) : slot key t = .literal := by
  obtain ⟨ty, hty, hholds⟩ := h.exists_type hv
  cases ty with
  | any =>
    have hdepth := h.depth_of_any hv hl hty
    rw [AttrValue.toTree_literal] at hdepth
    exact slot_of_depth_eq_zero hdepth key
  | array => exact absurd (hty.array rfl) hl
  | required =>
    rcases hholds with ⟨b, hb⟩ | ⟨items, hitems, hall⟩
    · cases hb
      exact slot_of_depth_eq_zero rfl key
    · cases hitems
      exact slot_strings hall key
  | boolOrSchema =>
    rcases hholds with ⟨b, hb⟩ | ⟨m, hm⟩
    · cases hb
      exact slot_of_depth_eq_zero rfl key
    · cases hm
  | schemaOrSchemas => rcases hholds with ⟨m, hm⟩ | ⟨ms, hms⟩ <;> contradiction
  | _ =>
    obtain ⟨_, heq⟩ := hholds
    cases heq
    all_goals exact slot_of_depth_eq_zero rfl key

lemma depth_of_name (h : n.IsBuiltin) {nm : Name} (hv : n.attr? key = some (.name nm))
    (hl : key ∉ literalKeys) (hname : key ≠ "name") : (AttrValue.name nm).toTree.depth = 0 := by
  obtain ⟨ty, hty, hholds⟩ := h.exists_type hv
  cases ty with
  | any => exact h.depth_of_any hv hl hty
  | name => exact absurd (hty.name.mp rfl) hname
  | _ => simp [AttrType.Holds, AttrValue.string] at hholds

/-- Maps of schemas stand under their own keys, and nothing else stands there. -/
lemma mem_schemaMapKeys_iff (h : n.IsBuiltin) (hv : n.attr? key = some v) (hl : key ∉ literalKeys) :
    key ∈ schemaMapKeys ↔ ∃ es, v = .nodeMap es := by
  obtain ⟨ty, hty, hholds⟩ := h.exists_type hv
  constructor
  · intro hm
    obtain rfl := hty.schemaMap.mpr hm
    exact hholds
  · rintro ⟨es, rfl⟩
    cases ty with
    | any =>
      have hdepth := h.depth_of_any hv hl hty
      simp [Tree.depth] at hdepth
    | schemaMap => exact hty.schemaMap.mp rfl
    | _ => simp [AttrType.Holds, AttrValue.string] at hholds

/-- What the chain makes of a stored value is what the value renders to. -/
theorem rendersUnder (h : n.IsBuiltin) (hv : n.attr? key = some v) (hname : key ≠ "name")
    {c : RenderContext} {w : Tree} (hw : InSlot (Renders c) key v.toTree w) :
    RendersUnder c key v w := by
  unfold RendersUnder
  split
  · rename_i hl
    exact hw.eq_of_literal (slot_of_mem_literalKeys hl _)
  · rename_i hl
    have hmap := h.mem_schemaMapKeys_iff hv hl
    cases v with
    | literal t =>
      rw [AttrValue.toTree_literal] at hw
      rw [hw.eq_of_literal (h.slot_literal hv hl)]
      exact .literal t
    | name nm =>
      have hdepth := h.depth_of_name hv hl hname
      rw [hw.eq_of_literal (slot_of_depth_eq_zero hdepth key), AttrValue.toTree_name]
      exact .name nm
    | node m =>
      rw [AttrValue.toTree_node] at hw
      refine .of_inSlot_node hl (fun hm => ?_) hw
      obtain ⟨_, hes⟩ := hmap.mp hm
      cases hes
    | nodes ms =>
      rw [AttrValue.toTree_nodes] at hw
      exact .of_inSlot_nodes hl hw
    | nodeMap es =>
      rw [AttrValue.toTree_nodeMap] at hw
      obtain ⟨ts, rfl, hts⟩ := exists_rendersEach hl (hmap.mpr ⟨es, rfl⟩) hw
      exact .nodeMap hts

end Node.IsBuiltin

end Schemata
