import Schemata.Proofs.Respelling
import Schemata.Proofs.Vocabulary

/-! Repeated choices: a box tells its members apart as they stand when it is made, before the
passes after it drop what only construction needs. -/
namespace Schemata

/-- Trees of which no two are equal and none is blank. -/
structure Distinct (ts : List Tree) : Prop where
  pairwise : ts.Pairwise fun t u => t.same u = false
  nonblank : ∀ t ∈ ts, t.isBlank = false

lemma Tree.pairwise_keepNew {kept : List Tree} (h : kept.Pairwise fun t u => t.same u = false)
    (t : Tree) : (keepNew kept t).Pairwise fun t u => t.same u = false := by
  unfold keepNew
  split
  · exact h
  · rename_i hnew
    rw [List.pairwise_append]
    refine ⟨h, List.pairwise_singleton _ t, ?_⟩
    intro u hu v hv
    rw [List.mem_singleton.mp hv, ← Bool.not_eq_true]
    intro hsame
    exact hnew (List.any_eq_true.mpr ⟨u, hu, hsame⟩)

lemma Tree.pairwise_foldl_keepNew {ts kept : List Tree}
    (h : kept.Pairwise fun t u => t.same u = false) :
    (ts.foldl keepNew kept).Pairwise fun t u => t.same u = false := by
  induction ts generalizing kept with
  | nil => exact h
  | cons t ts ih => exact ih (pairwise_keepNew h t)

namespace Distinct
variable {ts : List Tree} {f g : Tree → Tree}

/-- The members that a box keeps. -/
lemma dedupe (ts : List Tree) : Distinct (Tree.dedupe (ts.filter fun t => !t.isBlank)) where
  pairwise := Tree.pairwise_foldl_keepNew .nil
  nonblank t ht := by simpa using (List.mem_filter.mp (Tree.mem_dedupe ht)).2

/-- Functions that make the same trees equal and the same trees blank. -/
lemma map_congr (hsame : ∀ t ∈ ts, ∀ u ∈ ts, (f t).same (f u) = (g t).same (g u))
    (hblank : ∀ t ∈ ts, (f t).isBlank = (g t).isBlank) :
    Distinct (ts.map f) ↔ Distinct (ts.map g) := by
  have hpairwise : (ts.map f).Pairwise (fun t u => t.same u = false) ↔
      (ts.map g).Pairwise fun t u => t.same u = false := by
    rw [List.pairwise_map, List.pairwise_map]
    apply List.Pairwise.iff_of_mem
    intro t u ht hu
    rw [hsame t ht u hu]
  have hnonblank : (∀ t ∈ ts.map f, t.isBlank = false) ↔ ∀ t ∈ ts.map g, t.isBlank = false := by
    rw [List.forall_mem_map, List.forall_mem_map]
    exact forall₂_congr fun t ht => by rw [hblank t ht]
  constructor
  · exact fun h => ⟨hpairwise.mp h.pairwise, hnonblank.mp h.nonblank⟩
  · exact fun h => ⟨hpairwise.mpr h.pairwise, hnonblank.mpr h.nonblank⟩

/-- The last two passes keep the members of a box apart exactly if stripping alone does. -/
lemma finishMembers_iff {key : String} (hk : key ∈ choiceKeys)
    (h : EveryLevel Regular (.map [("kind", .string Kind.entityId), (key, .list ts)])) :
    Distinct (finishMembers ts) ↔ Distinct (ts.map strip) := by
  have hlist := List.mem_cons_of_mem ("kind", Tree.string Kind.entityId)
    (List.mem_singleton_self (key, Tree.list ts))
  have hmaps := h.root.choices key hk ts (Fields.get?_of_mem h.root.nodup hlist)
  have hlevels : ∀ t ∈ ts, EveryLevel Regular t := by
    intro t ht
    exact h.inside (.of_choice hk hlist hmaps ht)
  rw [finishMembers_of_maps hmaps]
  apply map_congr
  · intro t ht u hu
    rw [finish_eq_respell_strip (hlevels t ht), finish_eq_respell_strip (hlevels u hu)]
    exact same_respell (hlevels t ht).strip (hlevels u hu).strip
  · intro t ht
    rw [finish_eq_respell_strip (hlevels t ht), isBlank_respell]

end Distinct

/-- Fields of a specific kind with choices under some key. -/
structure HasChoices (fs : Fields Tree) (kind : String) : Prop where
  kind_eq : fs.get? "kind" = some (.string kind)
  not_entity : kind ≠ Kind.entityId
  nonempty : ∃ key ∈ choiceKeys, ∃ m ms, fs.get? key = some (.list (m :: ms))

namespace HasChoices
variable {fs gs : Fields Tree} {kind : String}

lemma of_get?_eq (h : HasChoices fs kind) (hkind : gs.get? "kind" = fs.get? "kind")
    (hchoices : ∀ key ∈ choiceKeys, gs.get? key = fs.get? key) : HasChoices gs kind := by
  obtain ⟨key, hk, m, ms, hget⟩ := h.nonempty
  exact ⟨hkind.trans h.kind_eq, h.not_entity, key, hk, m, ms, (hchoices key hk).trans hget⟩

lemma settle {path : Path} (h : HasChoices fs kind) (hgs : Schemata.settle fs path = .ok gs) :
    HasChoices gs kind := by
  have hagree := settle_agree hgs
  have hall : ∀ key ∈ choiceKeys, key ∉ sugarKeys := by decide
  exact h.of_get?_eq (hagree.get?_eq _ (by decide)) fun key hk => hagree.get?_eq _ (hall key hk)

end HasChoices

lemma InSlot.exists_cons {R : Tree → Tree → Prop} {key : String} {t : Tree} {ts : List Tree}
    {w : Tree} (h : InSlot R key (.list (t :: ts)) w) : ∃ u us, w = .list (u :: us) := by
  cases h with
  | literal hs => exact ⟨t, ts, rfl⟩
  | schema hs hr => cases (slot_eq_schema_iff.mp hs).2.2
  | items hs hr =>
    cases slot_eq_items hs
    cases hr with
    | cons hu hrest => exact ⟨_, _, rfl⟩
  | entries hs hr => cases slot_eq_entries hs

lemma HasChoices.desugared {fs gs : Fields Tree} {kind : String} (h : HasChoices fs kind)
    (hrel : Fields.Rel (InSlot Desugars) fs gs) : HasChoices gs kind := by
  obtain ⟨v, hv, hkind⟩ := hrel.exists_of_get? h.kind_eq
  obtain rfl := hkind.eq_of_literal rfl
  obtain ⟨key, hk, m, ms, hget⟩ := h.nonempty
  obtain ⟨w, hw, hslot⟩ := hrel.exists_of_get? hget
  obtain ⟨u, us, rfl⟩ := hslot.exists_cons
  exact ⟨hv, h.not_entity, key, hk, u, us, hw⟩

/-- A schema with choices is boxed under the first key that holds any. -/
lemma exists_boxAlong (kinds : Registry) (visit : Tree → Tree) {fs : Fields Tree} {kind : String}
    (hkind : specificKind? fs = some kind) {keys : List String}
    (h : ∃ key ∈ keys, ∃ m ms, fs.get? key = some (.list (m :: ms))) :
    ∃ key ∈ keys, ∃ ms, boxAlong kinds visit keys fs = boxed key ms := by
  induction keys with
  | nil =>
    obtain ⟨key, hk, _⟩ := h
    cases hk
  | cons key keys ih =>
    unfold boxAlong
    split
    · exact ⟨key, List.mem_cons_self, _, rfl⟩
    · rename_i hnone
      obtain ⟨other, ho, m, ms, hget⟩ := h
      rcases List.mem_cons.mp ho with rfl | ho
      · exact absurd hget (hnone kind m ms hkind)
      · obtain ⟨k, hk, us, hus⟩ := ih ⟨other, ho, m, ms, hget⟩
        exact ⟨k, List.mem_cons_of_mem key hk, us, hus⟩

lemma HasChoices.exists_box {fs : Fields Tree} {kind : String} (h : HasChoices fs kind)
    (kinds : Registry) : ∃ key ∈ choiceKeys, ∃ ms, box kinds (.map fs) = boxed key ms := by
  have hspecific : specificKind? fs = some kind := by simp [specificKind?, h.kind_eq, h.not_entity]
  rw [box_map]
  exact exists_boxAlong kinds _ hspecific h.nonempty

namespace Node
variable {n : Node} {kind : String}

/-- A node of a specific kind that is nullable or has choices. -/
structure Chooses (n : Node) (kind : String) : Prop where
  kind_eq : n.fields.get? "kind" = some (.string kind)
  not_entity : kind ≠ Kind.entityId
  nonempty : isNullable n.fields = true ∨
    ∃ key ∈ choiceKeys, ∃ m ms, n.fields.get? key = some (.list (m :: ms))

/-- Null is a choice of a nullable node. -/
lemma Chooses.hasChoices (h : n.Chooses kind) : HasChoices (branchNull n.fields) kind := by
  have hkind := (branchNull_agree n.fields).get?_eq "kind" (by decide)
  refine ⟨hkind.trans h.kind_eq, h.not_entity, ?_⟩
  cases hnull : isNullable n.fields with
  | false =>
    rw [branchNull_of_not_nullable hnull]
    exact h.nonempty.resolve_left (by simp [hnull])
  | true =>
    -- null is among the choices there already, joins them, or is the only one
    refine ⟨"any_of", by decide, ?_⟩
    unfold isNullable at hnull
    simp only [branchNull, hnull, if_true]
    split
    · rename_i branches hany
      split
      · rename_i hmember
        obtain ⟨b, hb, _⟩ := List.any_eq_true.mp hmember
        obtain ⟨m, ms, rfl⟩ := List.exists_cons_of_ne_nil (List.ne_nil_of_mem hb)
        exact ⟨m, ms, hany⟩
      · rw [Fields.get?_insert_self]
        obtain ⟨m, ms, heq⟩ := List.exists_cons_of_ne_nil
          (List.append_ne_nil_of_right_ne_nil branches (List.cons_ne_nil nullSchema []))
        exact ⟨m, ms, by rw [heq]⟩
    · exact ⟨nullSchema, [], Fields.get?_insert_self _ _ _⟩

/-- The box that a node of a specific kind with choices turns into has distinct members. They
are distinct in the document too exactly if they are once they are stripped. -/
theorem distinct_of_run (h : n.Chooses kind) {c : RenderContext} {t : Tree}
    (ht : Pass.run c Pass.defaults n.toTree = .ok t) :
    ∃ key ∈ choiceKeys, ∃ ms, Distinct ms ∧
      Pass.run c [.desugar, .box] n.toTree =
        .ok (.map [("kind", .string Kind.entityId), (key, .list ms)]) ∧
      t = .map (("type", .string "entity") ::
        if ms.isEmpty then [] else [(documentKey key, .list (finishMembers ms))]) ∧
      (n.AllBuiltin → (Distinct (finishMembers ms) ↔ Distinct (ms.map strip))) := by
  obtain ⟨d, hd, rfl⟩ := renders_iff.mp ht
  have hrun := run_desugar_box_eq_ok_iff (c := c).mpr ⟨d, hd, rfl⟩
  have hdesugars := hd
  rw [n.toTree_eq] at hd
  obtain ⟨gs, hs, hgs, hrel, rfl⟩ := desugars_map_iff.mp hd
  obtain ⟨key, hk, ms, hbox⟩ := ((h.hasChoices.settle hgs).desugared hrel).exists_box c.kinds
  refine ⟨key, hk, _, Distinct.dedupe ms, hrun.trans (congrArg Except.ok hbox), ?_, ?_⟩
  · rw [hbox]
    exact finish_box hk _
  · intro hn
    have hlevels := everyLevel_regular hn c.kinds hdesugars
    rw [hbox] at hlevels
    exact Distinct.finishMembers_iff hk hlevels

/-- A node with a choice that has nothing but a name, and with two that differ in their names. -/
def repeating : Node := mk .boolean [("kind", .string "boolean"),
  ("one_of", .nodes [mk .entity [("name", .name (.plain "a"))],
    mk .null [("kind", .string "null"), ("name", .name (.plain "b"))],
    mk .null [("kind", .string "null")]])]

lemma chooses_repeating : repeating.Chooses "boolean" where
  kind_eq := rfl
  not_entity := by decide
  nonempty := .inr ⟨"one_of", by decide, _, _, rfl⟩

lemma allBuiltin_repeating : repeating.AllBuiltin := by
  apply forall_reaches (isBuiltin_of_construct rfl (by decide) (by decide))
  intro m hm
  simp only [repeating, inner, attributes, AttrValue.inner, AttrValue.string, List.flatMap_cons,
    List.flatMap_nil, List.nil_append, List.append_nil, List.mem_cons, List.not_mem_nil,
    or_false] at hm
  rcases hm with rfl | rfl | rfl
  all_goals
    apply forall_reaches (isBuiltin_of_construct rfl (by decide) (by decide))
    intro l hl
    cases hl

/-- The document of a boolean with an empty choice and with one that stands twice. -/
def repeatingDocument : Tree := .map [("type", .string "entity"), ("oneOf", .list [.map [],
  .map [("type", .string "null")], .map [("type", .string "null")],
  .map [("type", .string "boolean")]])]

lemma run_repeating :
    Pass.run ⟨.builtin, none⟩ Pass.defaults repeating.toTree = .ok repeatingDocument := rfl

theorem distinct_of_run_repeating :
    repeating.Chooses "boolean" ∧ ∃ key ∈ choiceKeys, ∃ ms, Distinct ms ∧
      Pass.run ⟨.builtin, none⟩ [.desugar, .box] repeating.toTree =
        .ok (.map [("kind", .string Kind.entityId), (key, .list ms)]) ∧
      ¬ Distinct (ms.map strip) := by
  obtain ⟨key, hk, ms, hms, hrun, hdocument, hiff⟩ :=
    distinct_of_run chooses_repeating run_repeating
  refine ⟨chooses_repeating, key, hk, ms, hms, hrun, ?_⟩
  rw [← hiff allBuiltin_repeating]
  intro hdistinct
  split at hdocument
  · simp [repeatingDocument] at hdocument
  · have hmembers : .map [] ∈ finishMembers ms := by
      simp only [repeatingDocument, Tree.map.injEq, List.cons.injEq, Prod.mk.injEq,
        Tree.list.injEq] at hdocument
      rw [← hdocument.2.1.2]
      exact List.mem_cons_self
    cases hdistinct.nonblank _ hmembers

/-- In the document an empty choice is left, and a choice stands twice. -/
theorem choices_repeated_in_document : ¬ ∀ (n : Node) (kind : String) (c : RenderContext)
    (t : Tree), n.Chooses kind → Pass.run c Pass.defaults n.toTree = .ok t →
      ∀ key ∈ choiceKeys, ∀ ms, t.get? (documentKey key) = some (.list ms) →
        (ms.Pairwise fun t u => t.same u = false) ∧ ∀ m ∈ ms, m ≠ .map [] := by
  intro h
  have hget : repeatingDocument.get? (documentKey "one_of") = some (.list [.map [],
      .map [("type", .string "null")], .map [("type", .string "null")],
      .map [("type", .string "boolean")]]) := rfl
  obtain ⟨hpairwise, _⟩ := h repeating "boolean" _ _ chooses_repeating run_repeating "one_of"
    (by decide) _ hget
  have hnull := List.rel_of_pairwise_cons hpairwise.of_cons List.mem_cons_self
  rw [Tree.same_refl] at hnull
  cases hnull

end Node

end Schemata
