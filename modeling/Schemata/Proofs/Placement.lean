import Schemata.Proofs.EqualTrees
import Schemata.Proofs.Failures
import Schemata.Proofs.Parts

/-! Nodes whose children stand where they can be rendered: the chain succeeds on them. -/
namespace Schemata
namespace Node
variable {n m p : Node} {start wrapped : Bool} {key : String} {v : AttrValue}

/-- Whether a value under a key is the one schema of the items of an array. -/
def isWrapper (key : String) (v : AttrValue) : Bool := key = "items" && v.node?.isSome

/-- A node that occurs in another one, with whether it is the one schema of some items there;
`start` says that of the whole. -/
inductive Occurs (start : Bool) (n : Node) : Bool → Node → Prop where
  | root : Occurs start n start n
  | inner {wrapped : Bool} {p m : Node} {key : String} {v : AttrValue} :
      Occurs start n wrapped p → p.attr? key = some v → m ∈ v.inner →
      Occurs start n (isWrapper key v) m

/-- A child of a node that can be rendered: it has a name, or it is left to a choice list, or
it takes the place of the node as the items of an array; and no pattern is required. -/
structure Placed (p : Node) (wrapped : Bool) (m : Node) : Prop where
  place : m.name?.isSome = true ∨ (∃ key ∈ choiceKeys, ∃ u ∈ p.choices key, u.same m = true) ∨
    wrapped = true ∧ p.children = [m]
  optional : ∀ pattern, m.name? = some (.pattern pattern) → m.isRequired = false

/-- Every child can be rendered, wherever in the node it occurs. -/
def PlacedFrom (start : Bool) (n : Node) : Prop :=
  ∀ wrapped p, n.Occurs start wrapped p → ∀ m ∈ p.children, p.Placed wrapped m

lemma Occurs.cases_head (h : n.Occurs start wrapped p) : wrapped = start ∧ p = n ∨
    ∃ key v m, n.attr? key = some v ∧ m ∈ v.inner ∧ m.Occurs (isWrapper key v) wrapped p := by
  induction h with
  | root => exact .inl ⟨rfl, rfl⟩
  | @inner _ _ m key v _ hv hm ih =>
    right
    rcases ih with ⟨rfl, rfl⟩ | ⟨key', v', l, hv', hl, hocc⟩
    · exact ⟨key, v, m, hv, hm, .root⟩
    · exact ⟨key', v', l, hv', hl, .inner hocc hv hm⟩

namespace PlacedFrom

lemma of_inner (hn : ∀ m ∈ n.children, n.Placed start m)
    (h : ∀ key v, n.attr? key = some v → ∀ m ∈ v.inner, m.PlacedFrom (isWrapper key v)) :
    n.PlacedFrom start := by
  intro wrapped p hp
  rcases hp.cases_head with ⟨rfl, rfl⟩ | ⟨key, v, m, hv, hm, hocc⟩
  · exact hn
  · exact h key v hv m hm wrapped p hocc

lemma children (h : n.PlacedFrom start) : ∀ m ∈ n.children, n.Placed start m := h start n .root

lemma of_attr? (h : n.PlacedFrom start) (hv : n.attr? key = some v) (hm : m ∈ v.inner) :
    m.PlacedFrom (isWrapper key v) := by
  intro wrapped p hp
  apply h wrapped p
  induction hp with
  | root => exact .inner .root hv hm
  | inner _ hv' hm' ih => exact .inner ih hv' hm'

lemma of_attr?_of_ne (h : n.PlacedFrom start) (hv : n.attr? key = some v) (hkey : key ≠ "items")
    (hm : m ∈ v.inner) : m.PlacedFrom false := by
  have hwrapper : isWrapper key v = false := by simp [isWrapper, hkey]
  exact hwrapper ▸ h.of_attr? hv hm

lemma of_mem_children (h : n.PlacedFrom start) (hm : m ∈ n.children) : m.PlacedFrom false := by
  unfold Node.children at hm
  split at hm
  · rename_i ms hms
    exact h.of_attr?_of_ne hms (by decide) hm
  · cases hm

/-- A node with more than one child is rendered as any other, where it stands as items as well. -/
lemma of_wrapper (h : n.PlacedFrom true) (hn : ∀ m, n.children ≠ [m]) : n.PlacedFrom false := by
  apply of_inner
  · intro m hm
    obtain ⟨hplace, hoptional⟩ := h.children m hm
    refine ⟨?_, hoptional⟩
    rcases hplace with hname | hchoice | ⟨_, honly⟩
    · exact .inl hname
    · exact .inr (.inl hchoice)
    · exact absurd honly (hn m)
  · exact fun _ _ hv _ hm => h.of_attr? hv hm

lemma clearRequired (h : n.PlacedFrom start) : n.clearRequired.PlacedFrom start := by
  have hget : ∀ key ∈ "children" :: choiceKeys, n.clearRequired.attr? key = n.attr? key := by
    have hall : ∀ key ∈ "children" :: choiceKeys, key ≠ "required" := by decide
    exact fun key hk => n.attr?_clearRequired_of_ne (hall key hk)
  have hchildren : n.clearRequired.children = n.children := by
    have hget := hget "children" List.mem_cons_self
    unfold attr? at hget
    rw [Node.children, hget, Node.children]
  apply of_inner
  · intro m hm
    obtain ⟨hplace, hoptional⟩ := h.children m (hchildren ▸ hm)
    refine ⟨?_, hoptional⟩
    rcases hplace with hname | ⟨key, hk, u, hu, hsame⟩ | ⟨hwrapped, honly⟩
    · exact .inl hname
    · have hu' : u ∈ n.clearRequired.choices key := by
        rw [choices, hget key (List.mem_cons_of_mem _ hk)]
        exact hu
      exact .inr (.inl ⟨key, hk, u, hu', hsame⟩)
    · exact .inr (.inr ⟨hwrapped, hchildren.trans honly⟩)
  · exact fun _ _ hv _ hm => h.of_attr? (attr?_clearRequired hv) hm

/-- Where the children of a node can be rendered, those of its parts can. -/
lemma part (h : n.PlacedFrom start) (hm : n.Part m) : m.PlacedFrom false := by
  cases hm with
  | inner hv _ _ hkey hm => exact h.of_attr?_of_ne hv (fun heq => hkey (by simp [heq])) hm
  | @items v _ hv hm =>
    cases v with
    | node w =>
      have hw : w.PlacedFrom true := h.of_attr? hv (List.mem_singleton_self w)
      simp only [AttrValue.collapsed] at hm
      split at hm
      · rename_i only honly
        obtain rfl := List.mem_singleton.mp hm
        exact hw.of_mem_children (honly ▸ List.mem_singleton_self _)
      · rename_i hnot
        obtain rfl := List.mem_singleton.mp hm
        exact hw.of_wrapper hnot
    | nodes ms => exact h.of_attr? hv hm
    | nodeMap es => exact h.of_attr? hv hm
    | literal t => cases hm
    | name nm => cases hm
  | property he =>
    obtain ⟨l, hl, heq⟩ := exists_of_mem_properties he
    rw [heq]
    exact (h.of_mem_children (mem_children_of_mem_promoted hl)).clearRequired
  | pattern he =>
    rcases exists_of_mem_patternProperties he with he | ⟨l, hl, heq⟩
    · obtain ⟨v, hv, hm⟩ := exists_of_mem_ownPatterns he
      exact h.of_attr?_of_ne hv (by decide) hm
    · rw [heq]
      exact (h.of_mem_children (mem_children_of_mem_promoted hl)).clearRequired

end PlacedFrom

lemma IsBuiltin.hasPlace_of_named (h : n.IsBuiltin) {nm : Name} (hname : n.name? = some nm)
    (hoptional : ∀ pattern, n.name? = some (.pattern pattern) → n.isRequired = false)
    (fs : Fields Tree) : HasPlace fs n.toTree := by
  cases nm with
  | plain name =>
    apply HasPlace.plain
    rw [h.plainName?_toTree, hname]
  | pattern pattern =>
    apply HasPlace.pattern
    · rw [h.patternName?_toTree, hname]
    · rw [h.flag_toTree.1, hoptional pattern hname]

/-- The choices of a node stay choices when null becomes one. -/
lemma IsBuiltin.exists_members (h : n.IsBuiltin) (hk : key ∈ choiceKeys) (hm : m ∈ n.choices key) :
    ∃ ts, (branchNull n.fields).get? key = some (.list ts) ∧ m.toTree ∈ ts := by
  have hown : ∃ ts, n.fields.get? key = some (.list ts) ∧ m.toTree ∈ ts := by
    rcases h.get?_choices hk with ⟨_, hnil⟩ | hsome
    · rw [hnil] at hm
      cases hm
    · exact ⟨_, hsome, List.mem_map_of_mem hm⟩
  by_cases hany : key = "any_of"
  · subst hany
    rcases h.get?_any_of_branchNull with heq | heq
    · rwa [heq]
    · exact ⟨_, heq, List.mem_append_left _ (List.mem_map_of_mem hm)⟩
  · have hnull : key ≠ "nullable" := by
      rintro rfl
      exact absurd hk (by decide)
    rwa [(branchNull_agree n.fields).get?_eq key (by simp [hany, hnull])]

/-- A child that can be rendered has a place once null has become a choice. -/
lemma Placed.hasPlace (h : n.IsBuiltin) (hm : m.IsBuiltin) (hplaced : n.Placed false m) :
    HasPlace ((branchNull n.fields).erase "children") m.toTree := by
  cases hname : m.name? with
  | some nm => exact hm.hasPlace_of_named hname hplaced.optional _
  | none =>
    rcases hplaced.place with hnamed | ⟨key, hk, u, hu, hsame⟩ | ⟨hwrapped, _⟩
    · rw [hname] at hnamed
      cases hnamed
    · obtain ⟨ts, hts, hmem⟩ := h.exists_members hk hu
      have hne : "children" ≠ key := by
        rintro rfl
        exact absurd hk (by decide)
      rw [← Fields.get?_erase_of_ne _ hne] at hts
      have hnone : m.toTree.get? "name" = none := by
        rw [hm.get?_name_toTree, hname, Option.map_none]
      have hmember : m.toTree.isMember ts = true :=
        List.any_eq_true.mpr ⟨u.toTree, hmem, same_toTree u m hsame⟩
      exact .choice hnone hk hts hmember
    · cases hwrapped

/-- The level of a node can be rewritten if its children can be rendered. -/
theorem exists_settle (h : n.AllBuiltin) (hplaced : n.PlacedFrom false) (path : Path) :
    ∃ gs, settle (branchNull n.fields) path = .ok gs := by
  have hself := h.isBuiltin
  have hbranch := branchNull_agree n.fields
  unfold settle
  split
  · exact ⟨_, rfl⟩
  · rw [hbranch.get?_eq "children" (by decide), n.get?_fields (by decide)]
    rcases attr?_children hself with ⟨hnone, _⟩ | hsome
    · rw [hnone]
      exact ⟨_, rfl⟩
    · rw [hsome, Option.map_some, AttrValue.toTree_nodes]
      have hchildren : ∀ m ∈ n.children, m.IsBuiltin :=
        fun m hm => (h.of_mem_inner (mem_inner_of_mem_children hm)).isBuiltin
      have hrequired : ((branchNull n.fields).erase "children").get? "required" =
          n.fields.get? "required" := by
        rw [Fields.get?_erase_of_ne _ (by decide), hbranch.get?_eq _ (by decide)]
      have hown : ownRequired (((branchNull n.fields).erase "children").get? "required") =
          .ok (n.ownNames.map .string) := by
        rw [hrequired]
        exact hself.ownRequired_fields
      have hplace : ∀ c ∈ n.children.map toTree,
          HasPlace ((branchNull n.fields).erase "children") c := by
        intro c hc
        obtain ⟨m, hm, rfl⟩ := List.mem_map.mp hc
        exact (hplaced.children m hm).hasPlace hself (hchildren m hm)
      obtain ⟨hs, hhs⟩ := exists_mergeRequired_of_own path
        (({} : Promotion).addChildren (n.children.map toTree)).required hown
      exact ⟨_, promote_eq_ok_iff.mpr
        ⟨_, hs, promoteFrom_eq_ok_iff.mpr ⟨hplace, rfl⟩, hhs, rfl⟩⟩

lemma IsBuiltin.depth_of_tag (h : n.IsBuiltin) {t : Tree} (ht : n.fields.get? kindTag = some t) :
    t.depth = 0 := by
  have hall : ∀ e ∈ builtinAttributes, e.1 ≠ kindTag := by decide +kernel
  rcases Fields.mem_extend (Fields.mem_of_get? ht) with hmem | hmem
  · have hkey := Fields.mem_keys_of_mem hmem
    rw [Fields.keys_mapValues] at hkey
    obtain ⟨v, hv⟩ := Option.isSome_iff_exists.mp (Fields.get?_isSome_iff.mpr hkey)
    obtain ⟨ty, hdeclared, _⟩ := h.exists_declared hv
    exact absurd rfl (hall _ hdeclared)
  · rcases n.kind.tag_eq with htag | htag
    · rw [htag] at hmem
      cases hmem
    · rw [htag, List.mem_singleton] at hmem
      cases hmem
      rfl

lemma Level.get?_of_bookkeeping {gs : Fields Tree} (hgs : n.Level gs) {value : Tree}
    (hget : gs.get? key = some value) (hbook : key ∈ bookkeepingKeys) :
    n.fields.get? key = some value := by
  by_cases hsugar : key ∈ "nullable" :: "any_of" :: sugarKeys
  · have hall : ∀ key ∈ bookkeepingKeys, key ∈ "nullable" :: "any_of" :: sugarKeys →
        key = "nullable" ∨ key = "children" := by decide
    rcases hall key hbook hsugar with rfl | rfl
    · rcases hgs.nullable with hnone | hown
      · rw [hnone] at hget
        cases hget
      · exact hown ▸ hget
    · rcases hgs.children with hnone | hown
      · rw [hnone] at hget
        cases hget
      · exact hown ▸ hget
  · exact (hgs.get?_eq key hsugar) ▸ hget

lemma desugars_name (nm : Name) : Desugars nm.toTree nm.toTree := by
  cases nm with
  | plain name => exact desugars_of_not_map rfl
  | pattern p => rfl

/-- The keys that only construction needs hold names and flags, and the nodes that are left
among the children. -/
lemma Level.desugars_of_bookkeeping {gs : Fields Tree} (hgs : n.Level gs) (h : n.IsBuiltin)
    (hdesugars : ∀ v, n.attr? key = some v → ∀ m ∈ v.inner, ∃ u, Desugars m.toTree u)
    {value t : Tree} (hget : gs.get? key = some value) (hbook : key ∈ bookkeepingKeys)
    (ht : t ∈ schemasUnder key value) : ∃ u, Desugars t u := by
  have hown := hgs.get?_of_bookkeeping hget hbook
  by_cases htag : key = kindTag
  · subst htag
    rw [schemasUnder_of_literal (slot_of_depth_eq_zero (h.depth_of_tag hown) _)] at ht
    cases ht
  · have hall : ∀ key ∈ bookkeepingKeys, key ∉ literalKeys := by decide
    rw [n.get?_fields htag, Option.map_eq_some_iff] at hown
    obtain ⟨v, hv, rfl⟩ := hown
    by_cases hname : key = "name"
    · subst hname
      obtain ⟨ty, hty, hholds⟩ := h.exists_type hv
      obtain rfl := hty.name.mpr rfl
      obtain ⟨nm, rfl⟩ := hholds
      rw [AttrValue.toTree_name] at ht
      cases nm with
      | plain name => cases ht
      | pattern p =>
        rw [List.mem_singleton.mp ht]
        exact ⟨_, desugars_name (.pattern p)⟩
    · rw [h.schemasUnder_toTree hv (hall key hbook) hname] at ht
      obtain ⟨m, hm, rfl⟩ := List.mem_map.mp ht
      exact hdesugars v hv m hm

/-- A node is desugared if its children can be rendered. -/
theorem exists_desugars (h : n.AllBuiltin) (hplaced : n.PlacedFrom false) :
    ∃ u, Desugars n.toTree u := by
  induction n using part_induction with
  | step n ih =>
    have hself := h.isBuiltin
    obtain ⟨gs, hgs⟩ := exists_settle h hplaced []
    have hlevel := h.level_of_settle hgs
    have hslots : ∀ e ∈ gs, ∃ w, InSlot Desugars e.1 e.2 w := by
      rintro ⟨key, value⟩ he
      apply InSlot.exists_iff.mpr
      intro t ht
      have hget := Fields.get?_of_mem hlevel.nodup he
      by_cases hbook : key ∈ bookkeepingKeys
      · apply hlevel.desugars_of_bookkeeping hself _ hget hbook ht
        intro v hv m hm
        have hitems : key ≠ "items" := by
          rintro rfl
          exact absurd hbook (by decide)
        exact ih m (.inr (mem_inner_of_attr? hv hm)) (h.of_attr? hv hm)
          (hplaced.of_attr?_of_ne hv hitems hm)
      · rcases hlevel.exists_part hself (.under he hbook ht) with rfl | ⟨m, hm, rfl⟩
        · exact ⟨nullSchema, rfl⟩
        · exact ih m (.inl hm) (h.part hm) (hplaced.part hm)
    obtain ⟨hs, hhs⟩ := Fields.exists_rel_iff.mpr hslots
    exact ⟨.map hs, toTree_eq n ▸ desugars_map_iff.mpr ⟨gs, hs, hgs, hhs, rfl⟩⟩

/-- The chain succeeds on every node of built-in kinds whose children can be rendered; on any
tree at all it fails, if it does, in desugaring. -/
theorem run_of_placed (c : RenderContext) :
    (∀ n : Node, n.AllBuiltin → n.PlacedFrom false →
      ∃ t, Pass.run c Pass.defaults n.toTree = .ok t) ∧
    ∀ t e, Pass.run c Pass.defaults t = .error e →
      ∃ path fault, e = .render desugarPass path fault := by
  constructor
  · intro n hn hplaced
    obtain ⟨u, hu⟩ := exists_desugars hn hplaced
    exact ⟨_, renders_iff.mpr ⟨u, hu, rfl⟩⟩
  · intro t e he
    exact failsAsDesugar_run c t e he

/-- A list for the names of a pattern; its items are wrapped. -/
def wrappedItems : Node := mk .array [("kind", .string "array"),
  ("name", .name (.pattern ⟨"^list-", by decide⟩)),
  ("items", .node (mk .entity [("children", .nodes [mk .null [("kind", .string "null")]])]))]

/-- An object with two children, one of them without a name and among its choices. -/
def gathered : Node := mk .object [("kind", .string "object"),
  ("any_of", .nodes [mk .boolean [("kind", .string "boolean")]]),
  ("children", .nodes [mk .boolean [("kind", .string "boolean")], wrappedItems])]

lemma allBuiltin_gathered : gathered.AllBuiltin := by
  apply forall_reaches (isBuiltin_of_construct rfl (by decide) (by decide))
  intro m hm
  simp only [gathered, inner, attributes, AttrValue.inner, AttrValue.string, List.flatMap_cons,
    List.flatMap_nil, List.nil_append, List.append_nil, List.mem_cons, List.not_mem_nil,
    List.cons_append, or_false, or_self_left] at hm
  rcases hm with rfl | rfl
  · apply forall_reaches (isBuiltin_of_construct rfl (by decide) (by decide))
    intro l hl
    cases hl
  · apply forall_reaches (isBuiltin_of_construct rfl (by decide) (by decide))
    intro w hw
    obtain rfl := List.mem_singleton.mp hw
    apply forall_reaches (isBuiltin_of_construct rfl (by decide) (by decide))
    intro l hl
    obtain rfl := List.mem_singleton.mp hl
    apply forall_reaches (isBuiltin_of_construct rfl (by decide) (by decide))
    intro k hk
    cases hk

lemma PlacedFrom.of_inner_eq_nil (start : Bool) {n : Node} (hnil : n.inner = []) :
    n.PlacedFrom start := by
  have hnone : ∀ m, m ∉ n.inner := by simp [hnil]
  apply PlacedFrom.of_inner
  · exact fun m hm => absurd (mem_inner_of_mem_children hm) (hnone m)
  · exact fun _ _ hv m hm => absurd (mem_inner_of_attr? hv hm) (hnone m)

lemma placedFrom_wrappedItems : wrappedItems.PlacedFrom false := by
  apply PlacedFrom.of_inner
  · intro m hm
    cases hm
  · intro key v hv m hm
    have hmem := Fields.mem_of_get? hv
    simp only [wrappedItems, attributes, List.mem_cons, Prod.mk.injEq, List.not_mem_nil,
      or_false] at hmem
    rcases hmem with ⟨rfl, rfl⟩ | ⟨rfl, rfl⟩ | ⟨rfl, rfl⟩
    · cases hm
    · cases hm
    · obtain rfl := List.mem_singleton.mp hm
      apply PlacedFrom.of_inner
      · intro l hl
        obtain rfl := List.mem_singleton.mp hl
        refine ⟨.inr (.inr ⟨rfl, rfl⟩), ?_⟩
        intro _ hname
        cases hname
      · intro key v hv l hl
        have hmem := Fields.mem_of_get? hv
        obtain ⟨rfl, rfl⟩ := Prod.mk.inj (List.mem_singleton.mp hmem)
        obtain rfl := List.mem_singleton.mp hl
        exact .of_inner_eq_nil _ rfl

lemma placedFrom_gathered : gathered.PlacedFrom false := by
  apply PlacedFrom.of_inner
  · intro m hm
    have hmem : m = mk .boolean [("kind", .string "boolean")] ∨ m = wrappedItems := by
      simpa [gathered, Node.children, attributes, Fields.get?] using hm
    rcases hmem with rfl | rfl
    · have hchoice : ∃ u ∈ gathered.choices "any_of",
          u.same (mk .boolean [("kind", .string "boolean")]) = true :=
        ⟨_, List.mem_singleton_self _, same_refl _⟩
      refine ⟨.inr (.inl ⟨"any_of", by decide, hchoice⟩), ?_⟩
      intro _ hname
      cases hname
    · exact ⟨.inl rfl, fun _ _ => rfl⟩
  · intro key v hv m hm
    have hmem := Fields.mem_of_get? hv
    simp only [gathered, attributes, List.mem_cons, Prod.mk.injEq, List.not_mem_nil,
      or_false] at hmem
    rcases hmem with ⟨rfl, rfl⟩ | ⟨rfl, rfl⟩ | ⟨rfl, rfl⟩
    · cases hm
    · obtain rfl := List.mem_singleton.mp hm
      exact .of_inner_eq_nil _ rfl
    · simp only [AttrValue.inner, List.mem_cons, List.not_mem_nil, or_false] at hm
      rcases hm with rfl | rfl
      · exact .of_inner_eq_nil _ rfl
      · exact placedFrom_wrappedItems

theorem run_of_placed_gathered :
    gathered.AllBuiltin ∧ gathered.PlacedFrom false ∧
    (∃ t, Pass.run ⟨.builtin, none⟩ Pass.defaults gathered.toTree = .ok t) ∧
    ∃ e, Pass.run ⟨.builtin, none⟩ Pass.defaults (.map [("children", .null)]) = .error e ∧
      ∃ path fault, e = .render desugarPass path fault := by
  have hfails : Pass.run ⟨.builtin, none⟩ Pass.defaults (.map [("children", .null)]) =
      .error (.render desugarPass ["children"] .childrenNotList) := rfl
  obtain ⟨hrun, herror⟩ := run_of_placed ⟨.builtin, none⟩
  exact ⟨allBuiltin_gathered, placedFrom_gathered,
    hrun gathered allBuiltin_gathered placedFrom_gathered, _, hfails, herror _ _ hfails⟩

end Node
end Schemata
