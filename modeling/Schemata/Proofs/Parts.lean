import Schemata.Proofs.Composition
import Schemata.Proofs.Levels

/-! The parts of a node: the nodes from which the schemas directly inside its document are made
once its level is desugared. -/
namespace Schemata

lemma AttrValue.sizeOf_lt_of_mem_inner {v : AttrValue} {m : Node} (h : m ∈ v.inner) :
    sizeOf m < sizeOf v := by
  cases v with
  | node n =>
    obtain rfl := List.mem_singleton.mp h
    simp
  | nodes ns =>
    have hlt := List.sizeOf_lt_of_mem (show m ∈ ns from h)
    simp only [AttrValue.nodes.sizeOf_spec]
    omega
  | nodeMap es =>
    obtain ⟨e, he, rfl⟩ := List.mem_map.mp h
    have hlt := List.sizeOf_lt_of_mem he
    obtain ⟨key, m⟩ := e
    simp only [AttrValue.nodeMap.sizeOf_spec, Prod.mk.sizeOf_spec] at hlt ⊢
    omega
  | literal _ => cases h
  | name _ => cases h

namespace Node
variable {n m : Node}

lemma sizeOf_lt_of_mem_inner (h : m ∈ n.inner) : sizeOf m < sizeOf n := by
  obtain ⟨k, as⟩ := n
  obtain ⟨⟨key, v⟩, he, hm⟩ := List.mem_flatMap.mp h
  have hvalue := AttrValue.sizeOf_lt_of_mem_inner hm
  have hentry := List.sizeOf_lt_of_mem (show (key, v) ∈ as from he)
  simp only [Node.mk.sizeOf_spec, Prod.mk.sizeOf_spec] at hentry hvalue ⊢
  omega

lemma sizeOf_erase_le (as : Fields AttrValue) (key : String) :
    sizeOf (Fields.erase as key) ≤ sizeOf as := by
  induction as with
  | nil => exact Nat.le_refl _
  | cons e as ih =>
    rw [Fields.erase_cons]
    split
    · simp only [List.cons.sizeOf_spec]
      omega
    · simp only [List.cons.sizeOf_spec]
      omega

lemma sizeOf_clearRequired_le (n : Node) : sizeOf n.clearRequired ≤ sizeOf n := by
  unfold clearRequired
  split
  · obtain ⟨k, as⟩ := n
    have hle := sizeOf_erase_le as "required"
    simp only [kind, attributes, Node.mk.sizeOf_spec]
    omega
  · exact Nat.le_refl _

lemma attr?_clearRequired_of_ne (n : Node) {key : String} (hk : key ≠ "required") :
    n.clearRequired.attr? key = n.attr? key := by
  unfold clearRequired
  split
  · exact Fields.get?_erase_of_ne _ (Ne.symm hk)
  · rfl

lemma attr?_clearRequired {key : String} {v : AttrValue}
    (h : n.clearRequired.attr? key = some v) : n.attr? key = some v := by
  by_cases hk : key = "required"
  · subst hk
    unfold clearRequired at h
    split at h
    · have hnone : (mk n.kind (Fields.erase n.attributes "required")).attr? "required" = none :=
        Fields.get?_erase_self _ _
      rw [hnone] at h
      cases h
    · exact h
  · rwa [attr?_clearRequired_of_ne n hk] at h

lemma inner_clearRequired_subset (h : m ∈ n.clearRequired.inner) : m ∈ n.inner := by
  unfold clearRequired at h
  split at h
  · obtain ⟨e, he, hm⟩ := List.mem_flatMap.mp h
    exact List.mem_flatMap.mpr ⟨e, Fields.mem_of_mem_erase he, hm⟩
  · exact h

lemma IsBuiltin.clearRequired (h : n.IsBuiltin) : n.clearRequired.IsBuiltin := by
  have hscalar : ∀ key ∈ ["exclusive_minimum", "exclusive_maximum"], ∀ v,
      n.clearRequired.attr? key = some v → v.toTree.depth = 0 :=
    fun key hk v hv => h.scalar key hk v (attr?_clearRequired hv)
  unfold Node.clearRequired at hscalar ⊢
  split at hscalar
  · refine ⟨⟨Fields.nodup_erase _ h.nodup, fun e he => ?_⟩, h.kind_mem, hscalar⟩
    exact h.check_eq e (Fields.mem_of_mem_erase he)
  · exact h

/-- Every node that is met on the way into a node is of a built-in kind. -/
def AllBuiltin (n : Node) : Prop := ∀ m, n.Reaches m → m.IsBuiltin

namespace AllBuiltin

lemma isBuiltin (h : n.AllBuiltin) : n.IsBuiltin := h n .refl

lemma of_mem_inner (h : n.AllBuiltin) (hm : m ∈ n.inner) : m.AllBuiltin :=
  fun l hl => h l (.head hm hl)

lemma clearRequired (h : n.AllBuiltin) : n.clearRequired.AllBuiltin := by
  apply forall_reaches
  · exact h.isBuiltin.clearRequired
  · intro m hm l hl
    exact h.of_mem_inner (inner_clearRequired_subset hm) l hl

lemma of_attr? (h : n.AllBuiltin) {key : String} {v : AttrValue} (hv : n.attr? key = some v)
    (hm : m ∈ v.inner) : m.AllBuiltin :=
  h.of_mem_inner (mem_inner_of_attr? hv hm)

end AllBuiltin

lemma mem_inner_of_mem_children (h : m ∈ n.children) : m ∈ n.inner := by
  unfold children at h
  split at h
  · rename_i ns hns
    exact mem_inner_of_attr? hns h
  · cases h

/-- A node from which a schema directly inside the document of another one is made: a node that
is its attribute, its items once they are collapsed, or a property. -/
inductive Part (n : Node) : Node → Prop where
  | inner {key : String} {v : AttrValue} {m : Node} : n.attr? key = some v →
      key ∉ literalKeys → key ∉ bookkeepingKeys → key ∉ ["items", "pattern_properties"] →
      m ∈ v.inner → Part n m
  | items {v : AttrValue} {m : Node} : n.attr? "items" = some v → m ∈ v.collapsed.inner → Part n m
  | property {e : String × Node} : e ∈ n.properties → Part n e.2
  | pattern {e : String × Node} : e ∈ n.patternProperties → Part n e.2

/-- A node under a name is one of the nodes of that name, without its flag. -/
lemma exists_of_mem_plainNamed {ns : List Node} {e : String × Node} (h : e ∈ plainNamed ns) :
    ∃ m ∈ ns, m.name? = some (.plain e.1) ∧ e.2 = m.clearRequired := by
  obtain ⟨m, hm, he⟩ := List.mem_filterMap.mp h
  split at he
  · rename_i name hname
    cases he
    exact ⟨m, hm, hname, rfl⟩
  · cases he

lemma exists_of_mem_patternNamed {ns : List Node} {e : String × Node}
    (h : e ∈ patternNamed ns) :
    ∃ m ∈ ns, ∃ p, m.name? = some (.pattern p) ∧ e = (p.source, m.clearRequired) := by
  obtain ⟨m, hm, he⟩ := List.mem_filterMap.mp h
  split at he
  · rename_i p hname
    cases he
    exact ⟨m, hm, p, hname, rfl⟩
  · cases he

lemma mem_children_of_mem_promoted (h : m ∈ n.promoted) : m ∈ n.children := by
  unfold promoted at h
  split at h
  · cases h
  · exact h

lemma exists_of_mem_properties {e : String × Node} (h : e ∈ n.properties) :
    ∃ m ∈ n.promoted, e.2 = m.clearRequired := by
  rcases Fields.mem_extend h with h | h
  · cases h
  · obtain ⟨m, hm, _, heq⟩ := exists_of_mem_plainNamed h
    exact ⟨m, hm, heq⟩

lemma exists_of_mem_patternProperties {e : String × Node} (h : e ∈ n.patternProperties) :
    e ∈ n.ownPatterns ∨ ∃ m ∈ n.promoted, e.2 = m.clearRequired := by
  rcases Fields.mem_extend h with h | h
  · exact .inl h
  · rcases Fields.mem_extend h with h | h
    · cases h
    · obtain ⟨m, hm, p, _, rfl⟩ := exists_of_mem_patternNamed h
      exact .inr ⟨m, hm, rfl⟩

lemma exists_of_mem_ownPatterns {e : String × Node} (h : e ∈ n.ownPatterns) :
    ∃ v, n.attr? "pattern_properties" = some v ∧ e.2 ∈ v.inner := by
  unfold ownPatterns at h
  split at h
  · rename_i es hes
    exact ⟨_, hes, List.mem_map_of_mem h⟩
  · cases h

/-- Collapsed items are the items, or the only child of the wrapper that they are. -/
lemma mem_inner_of_mem_collapsed {v : AttrValue} (h : m ∈ v.collapsed.inner) :
    m ∈ v.inner ∨ ∃ w, v = .node w ∧ w.children = [m] := by
  cases v with
  | node w =>
    simp only [AttrValue.collapsed] at h
    split at h
    · rename_i only honly
      obtain rfl := List.mem_singleton.mp h
      exact .inr ⟨w, rfl, honly⟩
    · exact .inl h
  | _ => exact .inl h

/-- What is known of the inner nodes of a node, and of nodes without their flags, is known
of its parts. -/
lemma Part.rec_inner {p : Node → Prop} (hm : n.Part m) (hinner : ∀ l ∈ n.inner, p l)
    (honly : ∀ w ∈ n.inner, ∀ l ∈ w.inner, p l) (hclear : ∀ l, p l → p l.clearRequired) :
    p m := by
  cases hm with
  | inner hv _ _ _ hm => exact hinner m (mem_inner_of_attr? hv hm)
  | items hv hm =>
    rcases mem_inner_of_mem_collapsed hm with hm | ⟨w, rfl, hw⟩
    · exact hinner m (mem_inner_of_attr? hv hm)
    · have hmem : w ∈ n.inner := mem_inner_of_attr? hv (List.mem_singleton_self w)
      have hchild : m ∈ w.children := hw ▸ List.mem_singleton_self m
      exact honly w hmem m (mem_inner_of_mem_children hchild)
  | property he =>
    obtain ⟨l, hl, heq⟩ := exists_of_mem_properties he
    have hchild := mem_inner_of_mem_children (mem_children_of_mem_promoted hl)
    exact heq ▸ hclear l (hinner l hchild)
  | pattern he =>
    rcases exists_of_mem_patternProperties he with he | ⟨l, hl, heq⟩
    · obtain ⟨v, hv, hm⟩ := exists_of_mem_ownPatterns he
      exact hinner _ (mem_inner_of_attr? hv hm)
    · have hchild := mem_inner_of_mem_children (mem_children_of_mem_promoted hl)
      exact heq ▸ hclear l (hinner l hchild)

/-- Nothing but itself is shown of a node without inner nodes. -/
lemma eq_of_inner_eq_nil (hn : n.inner = []) (h : Relation.ReflTransGen Part n m) : m = n := by
  rcases h.cases_head with rfl | ⟨l, hl, _⟩
  · rfl
  · have hnone : ∀ k ∈ n.inner, False := by simp [hn]
    exfalso
    apply hl.rec_inner (p := fun _ => False)
    · exact hnone
    · exact fun w hw _ _ => hnone w hw
    · exact fun _ h => h

lemma Part.sizeOf_lt (h : n.Part m) : sizeOf m < sizeOf n := by
  apply h.rec_inner (p := fun m => sizeOf m < sizeOf n)
  · exact fun l hl => sizeOf_lt_of_mem_inner hl
  · intro w hw l hl
    exact Nat.lt_trans (sizeOf_lt_of_mem_inner hl) (sizeOf_lt_of_mem_inner hw)
  · intro l hl
    exact Nat.lt_of_le_of_lt (sizeOf_clearRequired_le l) hl

lemma AllBuiltin.part (h : n.AllBuiltin) (hm : n.Part m) : m.AllBuiltin := by
  apply hm.rec_inner (p := AllBuiltin)
  · exact fun l hl => h.of_mem_inner hl
  · exact fun w hw l hl => (h.of_mem_inner hw).of_mem_inner hl
  · exact fun l hl => hl.clearRequired

/-- Induction along the parts of nodes, and along the nodes that stand in them. -/
theorem part_induction {motive : Node → Prop}
    (step : ∀ n, (∀ m, n.Part m ∨ m ∈ n.inner → motive m) → motive n) (n : Node) : motive n := by
  induction hsize : sizeOf n using Nat.strongRecOn generalizing n with
  | ind size ih =>
    subst hsize
    apply step
    rintro m (hm | hm)
    · exact ih (sizeOf m) hm.sizeOf_lt m rfl
    · exact ih (sizeOf m) (sizeOf_lt_of_mem_inner hm) m rfl

lemma isMap_of_mem_trees {ms : List Node} {t : Tree} (h : t ∈ ms.map toTree) : t.isMap = true := by
  obtain ⟨m, _, rfl⟩ := List.mem_map.mp h
  exact m.isMap_toTree

lemma schemasUnder_nodes {key : String} (hl : key ∉ literalKeys) (ms : List Node) :
    schemasUnder key (.list (ms.map toTree)) = ms.map toTree := by
  apply schemasUnder_of_maps hl
  exact fun _ ht => isMap_of_mem_trees ht

lemma schemasUnder_nodeMap {key : String} (hl : key ∉ literalKeys) (hm : key ∈ schemaMapKeys)
    (es : Fields Node) :
    schemasUnder key (.map (Fields.mapValues toTree es)) = (es.map (·.2)).map toTree := by
  have hslot : slot key (.map (Fields.mapValues toTree es)) =
      .entries (Fields.mapValues toTree es) := slot_eq_entries_iff.mpr ⟨hl, hm, rfl⟩
  rw [schemasUnder_of_entries hslot, Fields.mapValues, List.map_map, List.map_map]
  rfl

lemma schemasUnder_node {key : String} (hl : key ∉ literalKeys) (hm : key ∉ schemaMapKeys)
    (m : Node) : schemasUnder key m.toTree = [m.toTree] :=
  schemasUnder_of_schema (slot_eq_schema_iff.mpr ⟨hl, hm, m.isMap_toTree⟩)

namespace IsBuiltin
variable {key : String} {v : AttrValue}

/-- The schemas under the key of an attribute are the trees of its nodes. -/
lemma schemasUnder_toTree (h : n.IsBuiltin) (hv : n.attr? key = some v) (hl : key ∉ literalKeys)
    (hname : key ≠ "name") : schemasUnder key v.toTree = v.inner.map toTree := by
  have hmap := h.mem_schemaMapKeys_iff hv hl
  cases v with
  | literal t =>
    rw [AttrValue.toTree_literal, schemasUnder_of_literal (h.slot_literal hv hl)]
    rfl
  | name nm =>
    have hdepth := h.depth_of_name hv hl hname
    rw [schemasUnder_of_literal (slot_of_depth_eq_zero hdepth key)]
    rfl
  | node m =>
    rw [AttrValue.toTree_node]
    apply schemasUnder_node hl
    intro hm
    obtain ⟨_, hes⟩ := hmap.mp hm
    cases hes
  | nodes ms =>
    rw [AttrValue.toTree_nodes]
    exact schemasUnder_nodes hl ms
  | nodeMap es =>
    rw [AttrValue.toTree_nodeMap]
    exact schemasUnder_nodeMap hl (hmap.mpr ⟨es, rfl⟩) es

lemma schemasUnder_items (h : n.IsBuiltin) (hv : n.attr? "items" = some v) :
    schemasUnder "items" v.collapsed.toTree = v.collapsed.inner.map toTree := by
  have hl : "items" ∉ literalKeys := by decide
  have hm : "items" ∉ schemaMapKeys := by decide
  rcases collapsed_node_or_nodes (h.node_or_nodes_of_items hv) with ⟨l, heq⟩ | ⟨ms, heq⟩
  · rw [heq, AttrValue.toTree_node]
    exact schemasUnder_node hl hm l
  · rw [heq, AttrValue.toTree_nodes]
    exact schemasUnder_nodes hl ms

lemma exists_choices (h : n.IsBuiltin) (hk : key ∈ choiceKeys) (hv : n.attr? key = some v) :
    ∃ ms, v = .nodes ms := by
  have hall : ∀ e ∈ builtinAttributes, e.1 ∈ choiceKeys → e.2 = .schemas := by decide +kernel
  obtain ⟨ty, hdeclared, hholds⟩ := h.exists_declared hv
  obtain rfl := hall _ hdeclared hk
  exact hholds

end IsBuiltin

/-- The choices of a node under a key. -/
def choices (n : Node) (key : String) : List Node :=
  match n.attr? key with
  | some (.nodes ms) => ms
  | _ => []

lemma IsBuiltin.get?_choices (h : n.IsBuiltin) {key : String} (hk : key ∈ choiceKeys) :
    n.fields.get? key = none ∧ n.choices key = [] ∨
      n.fields.get? key = some (.list ((n.choices key).map toTree)) := by
  have hall : ∀ key ∈ choiceKeys, key ≠ kindTag := by decide
  rw [n.get?_fields (hall key hk), choices]
  cases hv : n.attr? key with
  | none => exact .inl ⟨rfl, rfl⟩
  | some v =>
    obtain ⟨ms, rfl⟩ := h.exists_choices hk hv
    right
    rw [Option.map_some, AttrValue.toTree_nodes]

/-- Null stands behind the other choices if it comes to be one. -/
lemma IsBuiltin.get?_any_of_branchNull (h : n.IsBuiltin) :
    (branchNull n.fields).get? "any_of" = n.fields.get? "any_of" ∨
      (branchNull n.fields).get? "any_of" =
        some (.list ((n.choices "any_of").map toTree ++ [nullSchema])) := by
  have hget : (n.fields.erase "nullable").get? "any_of" = n.fields.get? "any_of" :=
    Fields.get?_erase_of_ne _ (by decide)
  unfold branchNull
  split
  · simp only [hget]
    have hmem : "any_of" ∈ choiceKeys := by decide
    rcases h.get?_choices hmem with ⟨hnone, hnil⟩ | hsome
    · rw [hnone, hnil]
      exact .inr (Fields.get?_insert_self _ _ _)
    · rw [hsome]
      simp only
      split
      · exact .inl (hget.trans hsome)
      · exact .inr (Fields.get?_insert_self _ _ _)
  · exact .inl rfl

/-- What stands under the keys of a node once its level is desugared. -/
structure Level (n : Node) (gs : Fields Tree) : Prop where
  nodup : gs.keys.Nodup
  mem_levelKeys : ∀ key ∈ gs.keys, key ∈ levelKeys
  get?_eq : ∀ key, key ∉ "nullable" :: "any_of" :: sugarKeys → gs.get? key = n.fields.get? key
  nullable : gs.get? "nullable" = none ∨ gs.get? "nullable" = n.fields.get? "nullable"
  any_of : gs.get? "any_of" = n.fields.get? "any_of" ∨
    gs.get? "any_of" = some (.list ((n.choices "any_of").map toTree ++ [nullSchema]))
  items : gs.get? "items" = (n.attr? "items").map fun v => v.collapsed.toTree
  children : gs.get? "children" = none ∨ gs.get? "children" = n.fields.get? "children"
  promotes : n.Promotes gs

/-- A level of a node of built-in kinds, as desugaring settles it. -/
theorem AllBuiltin.level_of_settle (h : n.AllBuiltin) {gs : Fields Tree} {path : Path}
    (hgs : settle (branchNull n.fields) path = .ok gs) : n.Level gs := by
  have hself := h.isBuiltin
  have hbranch := branchNull_agree n.fields
  have hagree := settle_agree hgs
  have hget : ∀ key, key ∉ "nullable" :: "any_of" :: sugarKeys →
      gs.get? key = n.fields.get? key := by
    intro key hk
    simp only [List.mem_cons, not_or] at hk
    rw [hagree.get?_eq key hk.2.2, hbranch.get?_eq key (by simp [hk.1, hk.2.1])]
  have hnullable := hagree.get?_eq "nullable" (by decide)
  have hany := hagree.get?_eq "any_of" (by decide)
  have hchildren : ∀ m ∈ n.children, m.IsBuiltin :=
    fun m hm => (h.of_mem_inner (mem_inner_of_mem_children hm)).isBuiltin
  refine ⟨hagree.nodup (hbranch.nodup (nodup_fields hself.toWellformed)), ?_, hget, ?_, ?_, ?_, ?_,
    promotes_of_settle hself hchildren hbranch hgs⟩
  · intro key hk
    by_cases hsugar : key ∈ "nullable" :: "any_of" :: sugarKeys
    · have hall : ∀ key ∈ "nullable" :: "any_of" :: sugarKeys, key ∈ levelKeys := by decide
      exact hall key hsugar
    · apply hself.mem_levelKeys
      rw [← Fields.get?_isSome_iff] at hk ⊢
      rwa [← hget key hsugar]
  · rw [hnullable]
    rw [get?_nullable_branchNull]
    split
    · exact .inl rfl
    · exact .inr rfl
  · rw [hany]
    exact hself.get?_any_of_branchNull
  · have hfields : (branchNull n.fields).get? "items" = (n.attr? "items").map AttrValue.toTree := by
      rw [hbranch.get?_eq _ (by decide), n.get?_fields (by decide)]
    cases hv : n.attr? "items" with
    | none =>
      rw [hv] at hfields
      exact get?_items_of_settle hfields hgs
    | some v =>
      rw [hv, Option.map_some] at hfields
      rw [settle, if_pos (by simp [Fields.contains, hfields])] at hgs
      cases hgs
      apply hself.get?_unwrapItems hv
      · rintro w rfl
        exact (h.of_attr? hv (List.mem_singleton_self w)).isBuiltin
      · exact hfields
  · have hfields := hbranch.get?_eq "children" (by decide)
    rw [← hfields]
    exact (get?_children_of_settle hgs).imp_right And.right

lemma mem_choices {key : String} :
    m ∈ n.choices key ↔ ∃ ms, n.attr? key = some (.nodes ms) ∧ m ∈ ms := by
  unfold choices
  constructor
  · intro h
    split at h
    · rename_i ms hms
      exact ⟨ms, hms, h⟩
    · cases h
  · rintro ⟨ms, hms, h⟩
    rwa [hms]

lemma isMap_of_mem_append_null {ms : List Node} {t : Tree}
    (h : t ∈ ms.map toTree ++ [nullSchema]) : t.isMap = true := by
  rcases List.mem_append.mp h with h | h
  · exact isMap_of_mem_trees h
  · rw [List.mem_singleton.mp h]
    rfl

lemma schemasUnder_append_null (ms : List Node) :
    schemasUnder "any_of" (.list (ms.map toTree ++ [nullSchema])) =
      ms.map toTree ++ [nullSchema] := by
  apply schemasUnder_of_maps (by decide)
  exact fun _ ht => isMap_of_mem_append_null ht

/-- Every schema under an attribute of a node is a part of it, bar those that are collapsed
or merged first. -/
lemma IsBuiltin.exists_part (h : n.IsBuiltin) {key : String} {value t : Tree}
    (hget : n.fields.get? key = some value) (hbook : key ∉ bookkeepingKeys)
    (hkey : key ∉ ["items", "pattern_properties"]) (ht : t ∈ schemasUnder key value) :
    ∃ m, n.Part m ∧ t = m.toTree := by
  have hnames : ∀ other ∈ ["name", kindTag], other ∈ bookkeepingKeys := by decide
  have hname : key ≠ "name" := by
    rintro rfl
    exact hbook (hnames _ (by decide))
  have htag : key ≠ kindTag := by
    rintro rfl
    exact hbook (hnames _ (by decide))
  have hl : key ∉ literalKeys := by
    intro hl
    rw [schemasUnder_of_literal (slot_of_mem_literalKeys hl value)] at ht
    cases ht
  rw [n.get?_fields htag, Option.map_eq_some_iff] at hget
  obtain ⟨v, hv, rfl⟩ := hget
  rw [h.schemasUnder_toTree hv hl hname] at ht
  obtain ⟨m, hm, rfl⟩ := List.mem_map.mp ht
  exact ⟨m, .inner hv hl hbook hkey hm, rfl⟩

namespace Level
variable {gs : Fields Tree} {key : String} {value t : Tree}

lemma exists_part_of_any_of (hgs : n.Level gs) (h : n.IsBuiltin)
    (hget : gs.get? "any_of" = some value) (ht : t ∈ schemasUnder "any_of" value) :
    t = nullSchema ∨ ∃ m, n.Part m ∧ t = m.toTree := by
  rcases hgs.any_of with hown | hnull
  · exact .inr (h.exists_part (hown ▸ hget) (by decide) (by decide) ht)
  · rw [hget, Option.some.injEq] at hnull
    rw [hnull, schemasUnder_append_null] at ht
    rcases List.mem_append.mp ht with ht | ht
    · obtain ⟨m, hm, rfl⟩ := List.mem_map.mp ht
      obtain ⟨ms, hms, hm⟩ := mem_choices.mp hm
      exact .inr ⟨m, .inner hms (by decide) (by decide) (by decide) hm, rfl⟩
    · exact .inl (List.mem_singleton.mp ht)

lemma exists_part_of_items (hgs : n.Level gs) (h : n.IsBuiltin)
    (hget : gs.get? "items" = some value) (ht : t ∈ schemasUnder "items" value) :
    ∃ m, n.Part m ∧ t = m.toTree := by
  rw [hgs.items, Option.map_eq_some_iff] at hget
  obtain ⟨v, hv, rfl⟩ := hget
  rw [h.schemasUnder_items hv] at ht
  obtain ⟨m, hm, rfl⟩ := List.mem_map.mp ht
  exact ⟨m, .items hv hm, rfl⟩

lemma exists_part_of_required (hgs : n.Level gs) (h : n.IsBuiltin)
    (hget : gs.get? "required" = some value) (ht : t ∈ schemasUnder "required" value) :
    ∃ m, n.Part m ∧ t = m.toTree := by
  have hrequired := hgs.promotes.required
  rw [hget] at hrequired
  split at hrequired
  · exact h.exists_part hrequired.symm (by decide) (by decide) ht
  · cases hrequired
    have hstrings := addRequired_all_isString (Tree.all_isString_map n.ownNames)
      (requiredNames n.promoted)
    rw [schemasUnder_of_literal (slot_strings hstrings _)] at ht
    cases ht

lemma exists_part_of_properties (hgs : n.Level gs) (hget : gs.get? "properties" = some value)
    (ht : t ∈ schemasUnder "properties" value) : ∃ m, n.Part m ∧ t = m.toTree := by
  rcases hgs.promotes.properties with ⟨hnone, _⟩ | hsome
  · rw [hnone] at hget
    cases hget
  · rw [hsome, Option.some.injEq] at hget
    subst hget
    rw [schemasUnder_nodeMap (by decide) (by decide)] at ht
    obtain ⟨m, hm, rfl⟩ := List.mem_map.mp ht
    obtain ⟨e, he, rfl⟩ := List.mem_map.mp hm
    exact ⟨e.2, .property he, rfl⟩

lemma exists_part_of_patterns (hgs : n.Level gs)
    (hget : gs.get? "pattern_properties" = some value)
    (ht : t ∈ schemasUnder "pattern_properties" value) : ∃ m, n.Part m ∧ t = m.toTree := by
  rcases hgs.promotes.patterns with ⟨hnone, _⟩ | hsome
  · rw [hnone] at hget
    cases hget
  · rw [hsome, Option.some.injEq] at hget
    subst hget
    rw [schemasUnder_nodeMap (by decide) (by decide)] at ht
    obtain ⟨m, hm, rfl⟩ := List.mem_map.mp ht
    obtain ⟨e, he, rfl⟩ := List.mem_map.mp hm
    exact ⟨e.2, .pattern he, rfl⟩

/-- The schemas inside a desugared level are the trees of the parts of its node, and null. -/
theorem exists_part (hgs : n.Level gs) (h : n.IsBuiltin) (ht : Inside (.map gs) t) :
    t = nullSchema ∨ ∃ m, n.Part m ∧ t = m.toTree := by
  obtain ⟨hmem, hbook, ht⟩ := ht
  rename_i key value
  have hget := Fields.get?_of_mem hgs.nodup hmem
  by_cases hsugar : key ∈ "nullable" :: "any_of" :: sugarKeys
  · simp only [sugarKeys, List.mem_cons, List.not_mem_nil, or_false] at hsugar
    rcases hsugar with rfl | rfl | rfl | rfl | rfl | rfl | rfl
    · exact absurd (by decide) hbook
    · exact hgs.exists_part_of_any_of h hget ht
    · exact .inr (hgs.exists_part_of_items h hget ht)
    · exact absurd (by decide) hbook
    · exact .inr (hgs.exists_part_of_required h hget ht)
    · exact .inr (hgs.exists_part_of_properties hget ht)
    · exact .inr (hgs.exists_part_of_patterns hget ht)
  · have hall : ∀ key ∈ ["items", "pattern_properties"],
        key ∈ "nullable" :: "any_of" :: sugarKeys := by decide
    have hown : n.fields.get? key = some value := (hgs.get?_eq key hsugar) ▸ hget
    exact .inr (h.exists_part hown hbook (fun hkey => hsugar (hall key hkey)) ht)

lemma inside_of_get? (hget : gs.get? key = some value) (hbook : key ∉ bookkeepingKeys)
    (ht : t ∈ schemasUnder key value) : Inside (.map gs) t :=
  .under (Fields.mem_of_get? hget) hbook ht

lemma inside_of_inner (hgs : n.Level gs) (h : n.IsBuiltin) {v : AttrValue}
    (hv : n.attr? key = some v) (hl : key ∉ literalKeys) (hbook : key ∉ bookkeepingKeys)
    (hkey : key ∉ ["items", "pattern_properties"]) (hm : m ∈ v.inner) :
    Inside (.map gs) m.toTree := by
  have hnames : ∀ other ∈ ["name", kindTag], other ∈ bookkeepingKeys := by decide
  have hname : key ≠ "name" := by
    rintro rfl
    exact hbook (hnames _ (by decide))
  have htag : key ≠ kindTag := by
    rintro rfl
    exact hbook (hnames _ (by decide))
  have hfields : n.fields.get? key = some v.toTree := by
    rw [n.get?_fields htag, hv, Option.map_some]
  have hmem : m.toTree ∈ schemasUnder key v.toTree := by
    rw [h.schemasUnder_toTree hv hl hname]
    exact List.mem_map_of_mem hm
  by_cases hsugar : key ∈ "nullable" :: "any_of" :: sugarKeys
  · simp only [sugarKeys, List.mem_cons, List.not_mem_nil, or_false] at hsugar
    rcases hsugar with rfl | rfl | rfl | rfl | rfl | rfl | rfl
    · exact absurd (by decide) hbook
    · rcases hgs.any_of with hown | hnull
      · exact inside_of_get? (hown.trans hfields) hbook hmem
      · obtain ⟨ms, rfl⟩ := h.exists_choices (by decide) hv
        apply inside_of_get? hnull hbook
        rw [schemasUnder_append_null]
        exact List.mem_append_left _ (List.mem_map_of_mem (mem_choices.mpr ⟨ms, hv, hm⟩))
    · exact absurd (by decide) hkey
    · exact absurd (by decide) hbook
    · rcases h.exists_required hv with ⟨b, rfl⟩ | ⟨items, rfl, _⟩
      · cases hm
      · cases hm
    · rw [h.attr?_properties] at hv
      cases hv
    · exact absurd (by decide) hkey
  · exact inside_of_get? ((hgs.get?_eq key hsugar).trans hfields) hbook hmem

/-- Every part of a node has its tree inside the desugared level. -/
theorem inside_of_part (hgs : n.Level gs) (h : n.IsBuiltin) (hm : n.Part m) :
    Inside (.map gs) m.toTree := by
  cases hm with
  | inner hv hl hbook hkey hm => exact hgs.inside_of_inner h hv hl hbook hkey hm
  | @items v _ hv hm =>
    have hget : gs.get? "items" = some v.collapsed.toTree := by
      rw [hgs.items, hv, Option.map_some]
    apply inside_of_get? hget (by decide)
    rw [h.schemasUnder_items hv]
    exact List.mem_map_of_mem hm
  | @property e he =>
    rcases hgs.promotes.properties with ⟨_, hnil⟩ | hsome
    · rw [hnil] at he
      cases he
    · apply inside_of_get? hsome (by decide)
      rw [schemasUnder_nodeMap (by decide) (by decide)]
      exact List.mem_map_of_mem (List.mem_map_of_mem he)
  | @pattern e he =>
    rcases hgs.promotes.patterns with ⟨_, hnil⟩ | hsome
    · rw [hnil] at he
      cases he
    · apply inside_of_get? hsome (by decide)
      rw [schemasUnder_nodeMap (by decide) (by decide)]
      exact List.mem_map_of_mem (List.mem_map_of_mem he)

end Level

end Node

end Schemata
