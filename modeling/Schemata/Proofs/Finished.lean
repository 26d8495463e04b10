import Schemata.Proofs.Placement
import Schemata.Proofs.Steady
import Schemata.Proofs.Vocabulary

/-! Finished documents: the chain of passes has nothing left to do on what it made. -/
namespace Schemata

/-- The fields of a level of a document: every key is one of documents and stands once, and no
value is blank. -/
structure Finished (fs : Fields Tree) : Prop where
  nodup : fs.keys.Nodup
  mem_vocabulary : ∀ key ∈ fs.keys, key ∈ vocabulary
  not_blank : ∀ e ∈ fs, e.2.isBlank = false

/-- The last two passes finish every level that is regular. -/
theorem everyLevel_finish {b : Tree} (h : EveryLevel Regular b) :
    EveryLevel Finished (finish b) := by
  induction b using Tree.inside_induction with
  | leaf t hm =>
    apply EveryLevel.of_not_map
    rw [isMap_finish, hm]
  | map fs ih =>
    obtain ⟨out, heq, hkeys, hinside⟩ := h.root.exists_finish
    obtain ⟨out', heq', hnodup, _⟩ := finish_map h.root.nodup_documentKey
    obtain rfl : out = out' := Tree.map.inj (heq.symm.trans heq')
    rw [heq]
    apply EveryLevel.map
    · refine ⟨hnodup, fun key hk => ?_, fun e he => (hkeys e he).2⟩
      obtain ⟨w, hw⟩ := Fields.mem_keys.mp hk
      exact (hkeys _ hw).1
    · rintro u ⟨hmem, _, hu⟩
      obtain ⟨t, ht, rfl⟩ := hinside _ hmem u hu
      exact ih t ht (h.inside ht)

namespace Finished
variable {fs : Fields Tree}

lemma get?_eq_none (h : Finished fs) {key : String} (hk : key ∉ vocabulary) :
    fs.get? key = none :=
  Fields.get?_eq_none_iff.mpr fun hmem => hk (h.mem_vocabulary key hmem)

lemma not_bookkeeping (h : Finished fs) {key : String} (hk : key ∈ fs.keys) :
    key ∉ bookkeepingKeys := by
  have hall : ∀ key ∈ vocabulary, key ∉ bookkeepingKeys := by decide
  exact hall key (h.mem_vocabulary key hk)

lemma documentKey_eq (h : Finished fs) {key : String} (hk : key ∈ fs.keys) :
    documentKey key = key := by
  have hall : ∀ key ∈ vocabulary, documentKey key = key := by decide +kernel
  exact hall key (h.mem_vocabulary key hk)

/-- No schema under a key of a finished level is hidden from those inside it. -/
lemma inside (h : Finished fs) {e : String × Tree} (he : e ∈ fs) {t : Tree}
    (ht : t ∈ schemasUnder e.1 e.2) : Inside (.map fs) t :=
  .under he (h.not_bookkeeping (Fields.mem_keys_of_mem he)) ht

lemma sugarless (h : Finished fs) : Sugarless fs where
  children_eq := h.get?_eq_none (by decide)
  nullable_eq := by
    rw [h.get?_eq_none (by decide)]
    exact fun v hv => nomatch hv

lemma boxless (h : Finished fs) : Boxless fs := by
  intro kind hkind
  rw [h.get?_eq_none (by decide)] at hkind
  cases hkind

lemma spelled (h : Finished fs) : Spelled fs := ⟨h.nodup, fun _ hk => h.documentKey_eq hk⟩

lemma clean (h : Finished fs) : Clean fs := ⟨fun _ hk => h.not_bookkeeping hk, h.not_blank⟩

end Finished

section Passes
variable {t : Tree}

/-- No level of a finished tree hides a schema, so that every pass visits the same ones. -/
lemma throughout_of_finished {p : Fields Tree → Prop} (hp : ∀ fs, Finished fs → p fs)
    (h : EveryLevel Finished t) : Throughout p t := by
  induction t using Tree.depth_induction with
  | leaf t hm => exact .of_not_map hm
  | map fs ih =>
    apply Throughout.map (hp fs h.root)
    intro u hu
    have hdepth := hu.depth_lt
    cases hu with
    | under hmem hunder => exact ih u hdepth (h.inside (h.root.inside hmem hunder))

theorem desugars_of_finished (h : EveryLevel Finished t) : Desugars t t :=
  desugars_of_sugarless (throughout_of_finished (fun _ => Finished.sugarless) h)

theorem box_of_finished (kinds : Registry) (h : EveryLevel Finished t) : box kinds t = t :=
  box_of_boxless kinds (throughout_of_finished (fun _ => Finished.boxless) h)

theorem respell_of_finished (h : EveryLevel Finished t) : respell t = t :=
  respell_of_spelled (throughout_of_finished (fun _ => Finished.spelled) h)

theorem strip_of_finished (h : EveryLevel Finished t) : strip t = t :=
  strip_of_clean (throughout_of_finished (fun _ => Finished.clean) h)

theorem renders_of_finished (c : RenderContext) (h : EveryLevel Finished t) : Renders c t t := by
  refine renders_iff.mpr ⟨t, desugars_of_finished h, ?_⟩
  rw [box_of_finished c.kinds h, finish, respell_of_finished h, strip_of_finished h]

end Passes

namespace Node

/-- The document of a node of built-in kinds is a fixpoint of the chain, whatever the registry and
the scope of the second run. -/
theorem run_of_run {n : Node} (h : n.AllBuiltin) {c : RenderContext} {t : Tree}
    (ht : Pass.run c Pass.defaults n.toTree = .ok t) (c' : RenderContext) :
    Pass.run c' Pass.defaults t = .ok t := by
  obtain ⟨d, hd, rfl⟩ := renders_iff.mp ht
  exact renders_of_finished c' (everyLevel_finish (everyLevel_regular h c.kinds hd))

/-- The document of the object with two children, one of which is among its choices. -/
def gatheredDocument : Tree := .map [("type", .string "entity"), ("anyOf", .list [
  .map [("type", .string "boolean")],
  .map [("type", .string "object"), ("patternProperties", .map [("^list-", .map [
    ("type", .string "array"), ("items", .map [("type", .string "null")])])])]])]

theorem run_of_run_gathered :
    gathered.AllBuiltin ∧
    Pass.run ⟨.builtin, none⟩ Pass.defaults gathered.toTree = .ok gatheredDocument ∧
    Pass.run ⟨.builtin, none⟩ Pass.defaults gatheredDocument = .ok gatheredDocument := by
  have hrun : Pass.run ⟨.builtin, none⟩ Pass.defaults gathered.toTree = .ok gatheredDocument := rfl
  exact ⟨allBuiltin_gathered, hrun, run_of_run allBuiltin_gathered hrun ⟨.builtin, none⟩⟩

end Node

end Schemata
