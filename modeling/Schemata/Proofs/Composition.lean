import Schemata.Proofs.Boxing
import Schemata.Proofs.Promotion

/-! Rendering a node from the renderings of the nodes inside it. -/
namespace Schemata

/-- Items after a wrapper with a single child has given way to that child. -/
def AttrValue.collapsed : AttrValue → AttrValue
  | .node wrapper =>
    match wrapper.children with
    | [only] => .node only
    | _ => .node wrapper
  | v => v

namespace Node

/-- The attributes that a node keeps, apart from their rendering and the spelling of their keys. -/
def Keeps (n : Node) (key : String) : Prop :=
  key ∉ bookkeepingKeys ∧ key ≠ "items" ∧
    (n.attr? "items" = none → key ≠ "pattern_properties" ∧
      (key = "required" → requiredNames n.children = []))

/-- The document of a node from the renderings of the nodes inside it. -/
structure Composes (c : RenderContext) (n : Node) (out : Fields Tree) : Prop where
  nodup : out.keys.Nodup
  attributes : ∀ key v, n.attr? key = some v → n.Keeps key →
    ∃ t, RendersUnder c key v t ∧ out.get? (documentKey key) = nonblank t
  items : ∀ v, n.attr? "items" = some v →
    ∃ t, v.collapsed.RendersTo c t ∧ out.get? "items" = nonblank t
  properties : n.attr? "items" = none →
    ∃ ts, RendersEach c (plainNamed n.children) ts ∧ out.get? "properties" = nonblank (.map ts)
  patterns : n.attr? "items" = none →
    ∃ ts, RendersEach c (Fields.extend n.ownPatterns (patternNamed n.children)) ts ∧
      out.get? "patternProperties" = nonblank (.map ts)
  required : n.attr? "items" = none → requiredNames n.children ≠ [] →
    out.get? "required" = some (.list ((n.ownNames ++
      (requiredNames n.children).filter fun name => name ∉ n.ownNames).map .string))
  exists_key : ∀ k ∈ out.keys,
    (∃ key, (n.attr? key).isSome = true ∧ key ∉ bookkeepingKeys ∧ documentKey key = k) ∨
    n.attr? "items" = none ∧ (k = "properties" ∨ k = "patternProperties" ∨
      k = "required" ∧ requiredNames n.children ≠ [])

variable {n : Node}

lemma Wellformed.not_nullable (h : n.Wellformed) (hkind : n.kind ∈ Kind.builtin)
    (hn : n.attr? "nullable" ≠ some (.literal (.bool true))) : isNullable n.fields = false := by
  rw [isNullable, n.get?_fields (by decide)]
  cases hattr : n.attr? "nullable" with
  | none => rfl
  | some v =>
    obtain ⟨ty, hty, hholds⟩ := h.exists_type hkind hattr
    obtain rfl := hty.nullable rfl
    obtain ⟨b, rfl⟩ := hholds
    cases b with
    | false => rw [Option.map_some, AttrValue.toTree_literal]; rfl
    | true => exact absurd hattr hn

lemma unboxed_of_agree (hbox : n.attr? "kind" = none ∨
      ∀ key ∈ choiceKeys, n.attr? key = none ∨ n.attr? key = some (.nodes []))
    {gs : Fields Tree} (hagree : AgreeOutside sugarKeys n.fields gs) : Unboxed gs := by
  refine hbox.imp (fun hkind => ?_) fun hkeys key hk => ?_
  · rw [hagree.get?_eq _ (by decide), n.get?_fields (by decide), hkind, Option.map_none]
  · have hall : ∀ key ∈ choiceKeys, key ∉ sugarKeys ∧ key ≠ kindTag := by decide
    obtain ⟨hsugar, htag⟩ := hall key hk
    rw [hagree.get?_eq _ hsugar, n.get?_fields htag]
    rcases hkeys key hk with hnone | hnil
    · exact .inl (by rw [hnone, Option.map_none])
    · exact .inr (by rw [hnil, Option.map_some, AttrValue.toTree_nodes, List.map_nil])

lemma Wellformed.mem_levelKeys_of_agree (h : n.Wellformed) (hkind : n.kind ∈ Kind.builtin)
    {gs : Fields Tree} (hagree : AgreeOutside sugarKeys n.fields gs) {key : String}
    (hk : key ∈ gs.keys) : key ∈ levelKeys := by
  by_cases hsugar : key ∈ sugarKeys
  · have hall : ∀ key ∈ sugarKeys, key ∈ levelKeys := by decide
    exact hall key hsugar
  · refine h.mem_levelKeys hkind ?_
    rw [← Fields.get?_isSome_iff] at hk ⊢
    rwa [← hagree.get?_eq key hsugar]

/-- The chain on a node that is neither nullable nor boxed is the chain on its level. -/
lemma Wellformed.exists_rendersLevel (h : n.Wellformed) (hkind : n.kind ∈ Kind.builtin)
    (hn : n.attr? "nullable" ≠ some (.literal (.bool true)))
    (hbox : n.attr? "kind" = none ∨
      ∀ key ∈ choiceKeys, n.attr? key = none ∨ n.attr? key = some (.nodes []))
    {c : RenderContext} {t : Tree} (ht : Renders c n.toTree t) :
    ∃ gs out, settle n.fields [] = .ok gs ∧ t = .map out ∧ RendersLevel c gs out := by
  rw [toTree_eq] at ht
  obtain ⟨d, hd, _⟩ := renders_iff.mp ht
  obtain ⟨gs, _, hgs, _, _⟩ := desugars_map_iff.mp hd
  have hsettle := hgs
  rw [branchNull_of_not_nullable (h.not_nullable hkind hn)] at hsettle
  have hagree := settle_agree hsettle
  have hlevel : ∀ key ∈ gs.keys, key ∈ levelKeys := fun key hk =>
    h.mem_levelKeys_of_agree hkind hagree hk
  have hnodup : (gs.keys.map documentKey).Nodup :=
    (hagree.nodup (nodup_fields h)).map_on fun key hk other ho heq =>
      documentKey_injOn (hlevel key hk) (hlevel other ho) heq
  obtain ⟨out, rfl, hout⟩ := rendersLevel_of_renders ht hgs (unboxed_of_agree hbox hagree)
    (fun key hk => stableKey_of_mem_levelKeys (hlevel key hk)) hnodup
  exact ⟨gs, out, hsettle, rfl, hout⟩

lemma IsBuiltin.exists_rendersLevel (h : n.IsBuiltin)
    (hn : n.attr? "nullable" ≠ some (.literal (.bool true)))
    (hbox : n.attr? "kind" = none ∨
      ∀ key ∈ choiceKeys, n.attr? key = none ∨ n.attr? key = some (.nodes []))
    {c : RenderContext} {t : Tree} (ht : Renders c n.toTree t) :
    ∃ gs out, settle n.fields [] = .ok gs ∧ t = .map out ∧ RendersLevel c gs out :=
  h.toWellformed.exists_rendersLevel h.kind_mem hn hbox ht

lemma get?_eq_none_of_level {c : RenderContext} {gs out : Fields Tree} (h : RendersLevel c gs out)
    (hlevel : ∀ key ∈ gs.keys, key ∈ levelKeys) {key : String} (hk : key ∈ levelKeys)
    (hnone : gs.get? key = none) : out.get? (documentKey key) = none := by
  rw [Fields.get?_eq_none_iff] at hnone ⊢
  intro hmem
  obtain ⟨other, hother, _, heq⟩ := h.exists_key _ hmem
  exact hnone (documentKey_injOn (hlevel other hother) hk heq ▸ hother)

lemma IsBuiltin.exists_rendersUnder (h : n.IsBuiltin) {c : RenderContext} {gs out : Fields Tree}
    (hout : RendersLevel c gs out) {key : String} {v : AttrValue} (hv : n.attr? key = some v)
    (hget : gs.get? key = n.fields.get? key) (hbook : key ∉ bookkeepingKeys) :
    ∃ t, RendersUnder c key v t ∧ out.get? (documentKey key) = nonblank t := by
  have hname : key ≠ "name" := by
    rintro rfl
    exact hbook (by decide)
  have htag : key ≠ kindTag := by
    rintro rfl
    exact hbook (by decide)
  rw [n.get?_fields htag, hv, Option.map_some] at hget
  obtain ⟨t, hslot, ht⟩ := hout.get?_eq key _ hget hbook
  exact ⟨t, h.rendersUnder hv hname hslot, ht⟩

lemma attr?_isSome_of_mem_keys {key : String} (hk : key ∈ n.fields.keys)
    (hbook : key ∉ bookkeepingKeys) : (n.attr? key).isSome = true := by
  rcases mem_keys_fields hk with hk | rfl
  · exact Fields.get?_isSome_iff.mpr hk
  · exact absurd (by decide) hbook

lemma IsBuiltin.node_or_nodes_of_items (h : n.IsBuiltin) {v : AttrValue}
    (hv : n.attr? "items" = some v) : (∃ m, v = .node m) ∨ ∃ ms, v = .nodes ms := by
  obtain ⟨ty, hty, hholds⟩ := h.exists_type hv
  obtain rfl := hty.items rfl
  exact hholds

lemma IsBuiltin.get?_unwrapItems (h : n.IsBuiltin) {v : AttrValue} (hv : n.attr? "items" = some v)
    (hwrapper : ∀ m, v = .node m → m.IsBuiltin) {fs : Fields Tree}
    (hget : fs.get? "items" = some v.toTree) :
    (unwrapItems fs).get? "items" = some v.collapsed.toTree := by
  rcases h.node_or_nodes_of_items hv with ⟨w, rfl⟩ | ⟨ms, rfl⟩
  · have hchildren : w.fields.get? "children" = (w.attr? "children").map AttrValue.toTree :=
      w.get?_fields (by decide)
    rw [AttrValue.toTree_node, toTree_eq] at hget
    unfold unwrapItems AttrValue.collapsed
    rw [hget]
    simp only [hchildren]
    rcases attr?_children (hwrapper w rfl) with ⟨hnone, hnil⟩ | hsome
    · rw [hnone, hnil]
      simp only [Option.map_none, AttrValue.toTree_node]
      rw [hget, toTree_eq]
    · rw [hsome]
      rcases hws : w.children with _ | ⟨only, _ | ⟨second, rest⟩⟩
      · simp only [Option.map_some, AttrValue.toTree_nodes, List.map_nil, AttrValue.toTree_node]
        rw [hget, toTree_eq]
      · simp only [Option.map_some, AttrValue.toTree_nodes, List.map_cons, List.map_nil,
          AttrValue.toTree_node]
        exact Fields.get?_insert_self _ _ _
      · simp only [Option.map_some, AttrValue.toTree_nodes, List.map_cons, AttrValue.toTree_node]
        rw [hget, toTree_eq]
  · rw [AttrValue.toTree_nodes] at hget
    unfold unwrapItems AttrValue.collapsed
    rw [hget]
    simp only
    rw [hget, AttrValue.toTree_nodes]

lemma collapsed_node_or_nodes {v : AttrValue} (hv : (∃ m, v = .node m) ∨ ∃ ms, v = .nodes ms) :
    (∃ m, v.collapsed = .node m) ∨ ∃ ms, v.collapsed = .nodes ms := by
  rcases hv with ⟨w, rfl⟩ | ⟨ms, rfl⟩
  · rcases hws : w.children with _ | ⟨only, _ | ⟨second, rest⟩⟩
    · exact .inl ⟨w, by simp only [AttrValue.collapsed, hws]⟩
    · exact .inl ⟨only, by simp only [AttrValue.collapsed, hws]⟩
    · exact .inl ⟨w, by simp only [AttrValue.collapsed, hws]⟩
  · exact .inr ⟨ms, rfl⟩

lemma rendersTo_collapsed {v : AttrValue} (hv : (∃ m, v = .node m) ∨ ∃ ms, v = .nodes ms)
    {c : RenderContext} {t : Tree} (h : InSlot (Renders c) "items" v.collapsed.toTree t) :
    v.collapsed.RendersTo c t := by
  have hl : "items" ∉ literalKeys := by decide
  have hm : "items" ∉ schemaMapKeys := by decide
  rcases collapsed_node_or_nodes hv with ⟨m, hm'⟩ | ⟨ms, hms⟩
  · rw [hm'] at h ⊢
    rw [AttrValue.toTree_node] at h
    exact .of_inSlot_node hl hm h
  · rw [hms] at h ⊢
    rw [AttrValue.toTree_nodes] at h
    exact .of_inSlot_nodes hl h

lemma IsBuiltin.composes_of_items (h : n.IsBuiltin) {v : AttrValue} (hv : n.attr? "items" = some v)
    (hwrapper : ∀ m, v = .node m → m.IsBuiltin) {c : RenderContext} {gs out : Fields Tree}
    (hgs : settle n.fields [] = .ok gs) (hout : RendersLevel c gs out) : n.Composes c out := by
  have hcontains : n.fields.contains "items" = true := by
    rw [Fields.contains, n.get?_fields (by decide), hv, Option.map_some]
    rfl
  rw [settle, if_pos hcontains] at hgs
  cases hgs
  have hagree := unwrapItems_agree n.fields
  have hnot : n.attr? "items" ≠ none := by simp [hv]
  refine ⟨hout.nodup, ?_, ?_, fun hnone => absurd hnone hnot, fun hnone => absurd hnone hnot,
    fun hnone => absurd hnone hnot, ?_⟩
  · rintro key w hw ⟨hbook, hitems, _⟩
    have hget := hagree.get?_eq key (by simpa using hitems)
    exact h.exists_rendersUnder hout hw hget hbook
  · intro w hw
    obtain rfl : v = w := Option.some.inj (hv.symm.trans hw)
    have hfields : n.fields.get? "items" = some v.toTree := by
      rw [n.get?_fields (by decide), hv, Option.map_some]
    have hget := h.get?_unwrapItems hv hwrapper hfields
    obtain ⟨t, hslot, ht⟩ := hout.get?_eq "items" _ hget (by decide)
    have hkey : documentKey "items" = "items" := by decide
    rw [hkey] at ht
    exact ⟨t, rendersTo_collapsed (h.node_or_nodes_of_items hv) hslot, ht⟩
  · intro k hk
    obtain ⟨key, hkey, hbook, hdoc⟩ := hout.exists_key k hk
    refine .inl ⟨key, ?_, hbook, hdoc⟩
    by_cases hitems : key = "items"
    · rw [hitems, hv]
      rfl
    · refine attr?_isSome_of_mem_keys ?_ hbook
      rw [← Fields.get?_isSome_iff] at hkey ⊢
      rwa [← hagree.get?_eq key (by simpa using hitems)]

lemma exists_rendersEach_of_level {c : RenderContext} {gs out : Fields Tree}
    (hout : RendersLevel c gs out) (hlevel : ∀ key ∈ gs.keys, key ∈ levelKeys) {key : String}
    (hk : key ∈ levelKeys) (hl : key ∉ literalKeys) (hm : key ∈ schemaMapKeys)
    (hbook : key ∉ bookkeepingKeys) {es : Fields Node}
    (hget : gs.get? key = none ∧ es = [] ∨
      gs.get? key = some (.map (Fields.mapValues toTree es))) :
    ∃ ts, RendersEach c es ts ∧ out.get? (documentKey key) = nonblank (.map ts) := by
  rcases hget with ⟨hnone, rfl⟩ | hsome
  · exact ⟨[], .nil, get?_eq_none_of_level hout hlevel hk hnone⟩
  · obtain ⟨w, hslot, hw⟩ := hout.get?_eq key _ hsome hbook
    obtain ⟨ts, rfl, hts⟩ := exists_rendersEach hl hm hslot
    exact ⟨ts, hts, hw⟩

lemma Settled.get?_eq_of_keeps {gs : Fields Tree} (hgs : n.Settled gs) (h : n.IsBuiltin)
    (hitems : n.attr? "items" = none) {key : String} {v : AttrValue} (hv : n.attr? key = some v)
    (hkeeps : n.Keeps key) : gs.get? key = n.fields.get? key := by
  obtain ⟨hbook, hne, hrest⟩ := hkeeps
  obtain ⟨hpatterns, hrequired⟩ := hrest hitems
  by_cases hkey : key = "required"
  · rw [hkey, hgs.required, if_pos (hrequired hkey)]
  · refine hgs.agree.get?_eq key ?_
    intro hsugar
    simp only [sugarKeys, List.mem_cons, List.not_mem_nil, or_false] at hsugar
    rcases hsugar with rfl | rfl | rfl | rfl | rfl
    · exact hne rfl
    · exact hbook (by decide)
    · exact hkey rfl
    · rw [h.attr?_properties] at hv
      cases hv
    · exact hpatterns rfl

lemma Settled.get?_required {gs : Fields Tree} (hgs : n.Settled gs)
    (hplain : (plainNamed n.children).keys.Nodup) (hnames : requiredNames n.children ≠ []) :
    gs.get? "required" = some (.list ((n.ownNames ++
      (requiredNames n.children).filter fun name => name ∉ n.ownNames).map .string)) := by
  rw [hgs.required, if_neg hnames, addRequired_strings (nodup_requiredNames hplain)]

/-- A level gets no other keys than those of the promoted children. -/
lemma Settled.key_of_new {gs : Fields Tree} (hgs : n.Settled gs) {key : String}
    (hk : key ∈ gs.keys) (hold : key ∉ n.fields.keys) (hbook : key ∉ bookkeepingKeys) :
    key = "properties" ∨ key = "pattern_properties" ∨
      key = "required" ∧ requiredNames n.children ≠ [] := by
  have hget : gs.get? key ≠ n.fields.get? key := by
    intro heq
    rw [← Fields.get?_isSome_iff] at hk hold
    exact hold (heq ▸ hk)
  have hsugar : key ∈ sugarKeys := by
    by_contra hne
    exact hget (hgs.agree.get?_eq key hne)
  simp only [sugarKeys, List.mem_cons, List.not_mem_nil, or_false] at hsugar
  rcases hsugar with rfl | rfl | rfl | rfl | rfl
  · rw [← Fields.get?_isSome_iff, hgs.items] at hk
    cases hk
  · exact absurd (by decide) hbook
  · refine .inr (.inr ⟨rfl, fun hnil => hget ?_⟩)
    rw [hgs.required, if_pos hnil]
  · exact .inl rfl
  · exact .inr (.inl rfl)

lemma Settled.get?_out_required {c : RenderContext} {gs out : Fields Tree} (hgs : n.Settled gs)
    (hplain : (plainNamed n.children).keys.Nodup) (hnames : requiredNames n.children ≠ [])
    (hout : RendersLevel c gs out) :
    out.get? "required" = some (.list ((n.ownNames ++
      (requiredNames n.children).filter fun name => name ∉ n.ownNames).map .string)) := by
  have hkey : documentKey "required" = "required" := by decide
  have hget := hgs.get?_required hplain hnames
  obtain ⟨w, hslot, hw⟩ := hout.get?_eq "required" _ hget (by decide)
  rw [hslot.eq_of_literal (slot_strings (Tree.all_isString_map _) _), hkey] at hw
  rw [hw]
  unfold nonblank
  rw [if_neg]
  simpa [Tree.isBlank] using append_filter_ne_nil hnames

lemma IsBuiltin.composes_of_no_items (h : n.IsBuiltin) (hitems : n.attr? "items" = none)
    (hplain : (plainNamed n.children).keys.Nodup) {c : RenderContext} {gs out : Fields Tree}
    (hgs : n.Settled gs) (hout : RendersLevel c gs out) : n.Composes c out := by
  have hlevel : ∀ key ∈ gs.keys, key ∈ levelKeys := fun key hk =>
    h.toWellformed.mem_levelKeys_of_agree h.kind_mem hgs.agree hk
  have hproperties : documentKey "properties" = "properties" := by decide
  have hpatterns : documentKey "pattern_properties" = "patternProperties" := by decide
  have hrequired : documentKey "required" = "required" := by decide
  refine ⟨hout.nodup, ?_, ?_, fun _ => ?_, fun _ => ?_, fun _ hnames => ?_, ?_⟩
  · intro key v hv hkeeps
    exact h.exists_rendersUnder hout hv (hgs.get?_eq_of_keeps h hitems hv hkeeps) hkeeps.1
  · intro v hv
    rw [hitems] at hv
    cases hv
  · rw [← hproperties]
    exact exists_rendersEach_of_level hout hlevel (by decide) (by decide) (by decide) (by decide)
      hgs.properties
  · rw [← hpatterns]
    exact exists_rendersEach_of_level hout hlevel (by decide) (by decide) (by decide) (by decide)
      hgs.patterns
  · exact hgs.get?_out_required hplain hnames hout
  · intro k hk
    obtain ⟨key, hkey, hbook, hdoc⟩ := hout.exists_key k hk
    by_cases hold : key ∈ n.fields.keys
    · exact .inl ⟨key, attr?_isSome_of_mem_keys hold hbook, hbook, hdoc⟩
    · refine .inr ⟨hitems, ?_⟩
      rcases hgs.key_of_new hkey hold hbook with rfl | rfl | ⟨rfl, hnames⟩
      · exact .inl (hdoc.symm.trans hproperties)
      · exact .inr (.inl (hdoc.symm.trans hpatterns))
      · exact .inr (.inr ⟨hdoc.symm.trans hrequired, hnames⟩)

lemma rightUnique_renders (c : RenderContext) :
    Relator.RightUnique fun (n : Node) (t : Tree) => Renders c n.toTree t :=
  fun _ _ _ ht hu => Except.ok.inj (ht.symm.trans hu)

end Node

section Unique
variable {c : RenderContext}

lemma RendersEach.unique {es : Fields Node} {ts us : Fields Tree} (ht : RendersEach c es ts)
    (hu : RendersEach c es us) : ts = us := by
  refine List.right_unique_forall₂' (fun e f g hf hg => ?_) ht hu
  exact Prod.ext (hf.1.symm.trans hg.1) (Node.rightUnique_renders c hf.2 hg.2)

lemma AttrValue.RendersTo.unique {v : AttrValue} {t u : Tree} (ht : v.RendersTo c t)
    (hu : v.RendersTo c u) : t = u := by
  cases ht with
  | literal t =>
    cases hu
    rfl
  | name nm =>
    cases hu
    rfl
  | node ht =>
    cases hu with
    | node hu => exact Node.rightUnique_renders c ht hu
  | nodes ht =>
    cases hu with
    | nodes hu => rw [List.right_unique_forall₂' (Node.rightUnique_renders c) ht hu]
  | nodeMap ht =>
    cases hu with
    | nodeMap hu => rw [ht.unique hu]

lemma RendersUnder.unique {key : String} {v : AttrValue} {t u : Tree}
    (ht : RendersUnder c key v t) (hu : RendersUnder c key v u) : t = u := by
  unfold RendersUnder at ht hu
  split at ht
  · rename_i hk
    rw [if_pos hk] at hu
    rw [ht, hu]
  · rename_i hk
    rw [if_neg hk] at hu
    exact ht.unique hu

end Unique

namespace Node.Composes
variable {c : RenderContext} {n : Node} {out out' : Fields Tree}

lemma get?_properties_eq (h : n.Composes c out) (h' : n.Composes c out')
    (hitems : n.attr? "items" = none) : out.get? "properties" = out'.get? "properties" := by
  obtain ⟨ts, hts, ht⟩ := h.properties hitems
  obtain ⟨us, hus, hu⟩ := h'.properties hitems
  rw [ht, hu, hts.unique hus]

lemma get?_patterns_eq (h : n.Composes c out) (h' : n.Composes c out')
    (hitems : n.attr? "items" = none) :
    out.get? "patternProperties" = out'.get? "patternProperties" := by
  obtain ⟨ts, hts, ht⟩ := h.patterns hitems
  obtain ⟨us, hus, hu⟩ := h'.patterns hitems
  rw [ht, hu, hts.unique hus]

lemma get?_attribute_eq (h : n.Composes c out) (h' : n.Composes c out') {key : String}
    {v : AttrValue} (hv : n.attr? key = some v) (hbook : key ∉ bookkeepingKeys) :
    out.get? (documentKey key) = out'.get? (documentKey key) := by
  by_cases hkeeps : n.Keeps key
  · obtain ⟨t, ht, hout⟩ := h.attributes key v hv hkeeps
    obtain ⟨u, hu, hout'⟩ := h'.attributes key v hv hkeeps
    rw [hout, hout', ht.unique hu]
  · by_cases hkey : key = "items"
    · subst hkey
      obtain ⟨t, ht, hout⟩ := h.items v hv
      obtain ⟨u, hu, hout'⟩ := h'.items v hv
      have hdoc : documentKey "items" = "items" := by decide
      rw [hdoc, hout, hout', ht.unique hu]
    · -- the key is not kept as it is, so children write under it
      have hwritten : n.attr? "items" = none ∧ (key = "pattern_properties" ∨
          key = "required" ∧ requiredNames n.children ≠ []) := by
        by_contra hnot
        refine hkeeps ⟨hbook, hkey, fun hitems => ⟨fun hp => ?_, fun hr => ?_⟩⟩
        · exact hnot ⟨hitems, .inl hp⟩
        · by_contra hnames
          exact hnot ⟨hitems, .inr ⟨hr, hnames⟩⟩
      obtain ⟨hitems, rfl | ⟨rfl, hnames⟩⟩ := hwritten
      · have hdoc : documentKey "pattern_properties" = "patternProperties" := by decide
        rw [hdoc]
        exact h.get?_patterns_eq h' hitems
      · have hdoc : documentKey "required" = "required" := by decide
        rw [hdoc, h.required hitems hnames, h'.required hitems hnames]

lemma get?_eq_of_mem (h : n.Composes c out) (h' : n.Composes c out') {k : String}
    (hk : k ∈ out.keys) : out.get? k = out'.get? k := by
  rcases h.exists_key k hk with ⟨key, hkey, hbook, rfl⟩ | ⟨hitems, rfl | rfl | ⟨rfl, hnames⟩⟩
  · obtain ⟨v, hv⟩ := Option.isSome_iff_exists.mp hkey
    exact h.get?_attribute_eq h' hv hbook
  · exact h.get?_properties_eq h' hitems
  · exact h.get?_patterns_eq h' hitems
  · rw [h.required hitems hnames, h'.required hitems hnames]

/-- There is only one document of a node, but for the order of its keys. -/
theorem perm (h : n.Composes c out) (h' : n.Composes c out') : out.Perm out' := by
  have hget : ∀ k, out.get? k = out'.get? k := by
    intro k
    by_cases hk : k ∈ out.keys
    · exact h.get?_eq_of_mem h' hk
    · by_cases hk' : k ∈ out'.keys
      · exact (h'.get?_eq_of_mem h hk').symm
      · rw [Fields.get?_eq_none_iff.mpr hk, Fields.get?_eq_none_iff.mpr hk']
  refine (List.perm_ext_iff_of_nodup (h.nodup.of_map _) (h'.nodup.of_map _)).mpr ?_
  rintro ⟨k, t⟩
  constructor
  · intro hmem
    exact Fields.mem_of_get? (hget k ▸ Fields.get?_of_mem h.nodup hmem)
  · intro hmem
    exact Fields.mem_of_get? ((hget k).trans (Fields.get?_of_mem h'.nodup hmem))

end Node.Composes

namespace Node
variable {n : Node}

/-- The chain makes the document of a node from the renderings of the nodes inside it. -/
theorem composes_of_run (hn : ∀ m, n.Reaches m → m.IsBuiltin)
    (hnull : n.attr? "nullable" ≠ some (.literal (.bool true)))
    (hbox : n.attr? "kind" = none ∨
      ∀ key ∈ choiceKeys, n.attr? key = none ∨ n.attr? key = some (.nodes []))
    (hnamed : ∀ m ∈ n.children, m.name?.isSome = true)
    (hplain : (plainNamed n.children).keys.Nodup)
    (hpatterns : (patternNamed n.children).keys.Nodup) {c : RenderContext} {t : Tree}
    (ht : Pass.run c Pass.defaults n.toTree = .ok t) :
    ∃ out, t = .map out ∧ n.Composes c out ∧ ∀ out', n.Composes c out' → out'.Perm out := by
  have hself := hn n .refl
  have hinner : ∀ {key v}, n.attr? key = some v → ∀ m ∈ v.inner, m.IsBuiltin :=
    fun hv m hm => hn m (.single (mem_inner_of_attr? hv hm))
  obtain ⟨gs, out, hgs, rfl, hout⟩ := hself.exists_rendersLevel hnull hbox ht
  have hcomposes : n.Composes c out := by
    cases hitems : n.attr? "items" with
    | some v =>
      refine hself.composes_of_items hitems (fun m hm => ?_) hgs hout
      exact hinner hitems m (hm ▸ List.mem_singleton_self m)
    | none =>
      have hchildren : ∀ m ∈ n.children, m.IsBuiltin ∧ m.name?.isSome = true := by
        intro m hm
        refine ⟨?_, hnamed m hm⟩
        rcases attr?_children hself with ⟨_, hnil⟩ | hsome
        · rw [hnil] at hm
          cases hm
        · exact hinner hsome m hm
      have hsettled := settled_of_settle hself hitems hchildren hplain hpatterns hgs
      exact hself.composes_of_no_items hitems hplain hsettled hout
  exact ⟨out, rfl, hcomposes, fun _ h => h.perm hcomposes⟩

/-- An object with a required child and a child for the names of a pattern. -/
def labelled : Node := mk .object [("kind", .string "object"),
  ("required", .literal (.list [.string "id"])),
  ("children", .nodes [
    mk .string [("kind", .string "string"), ("name", .name (.plain "title")),
      ("required", .literal (.bool true))],
    mk .boolean [("kind", .string "boolean"), ("name", .name (.pattern ⟨"^x-", by decide⟩))]])]

lemma isBuiltin_of_labelled (m : Node) (hm : labelled.Reaches m) : m.IsBuiltin := by
  revert m
  refine forall_reaches (isBuiltin_of_construct rfl (by decide) (by decide)) fun m hm => ?_
  simp only [labelled, inner, attributes, AttrValue.inner, AttrValue.string, List.flatMap_cons,
    List.flatMap_nil, List.nil_append, List.append_nil, List.mem_cons, List.not_mem_nil,
    or_false] at hm
  rcases hm with rfl | rfl
  · refine forall_reaches (isBuiltin_of_construct rfl (by decide) (by decide)) fun l hl => ?_
    cases hl
  · refine forall_reaches (isBuiltin_of_construct rfl (by decide) (by decide)) fun l hl => ?_
    cases hl

theorem composes_of_run_labelled :
    ∃ out, Pass.run ⟨.builtin, none⟩ Pass.defaults labelled.toTree = .ok (.map out) ∧
      labelled.Composes ⟨.builtin, none⟩ out := by
  have hnull : labelled.attr? "nullable" ≠ some (.literal (.bool true)) := by
    rw [show labelled.attr? "nullable" = none by decide]
    exact Option.some_ne_none _ |>.symm
  have hchoices : ∀ key ∈ choiceKeys, labelled.attr? key = none := by decide
  have hrun : ∃ t, Pass.run ⟨.builtin, none⟩ Pass.defaults labelled.toTree = .ok t := ⟨_, rfl⟩
  obtain ⟨t, ht⟩ := hrun
  obtain ⟨out, rfl, hout, _⟩ := composes_of_run isBuiltin_of_labelled hnull
    (.inr fun key hk => .inl (hchoices key hk)) (by decide) (by decide) (by decide) ht
  exact ⟨out, ht, hout⟩

end Node

end Schemata
