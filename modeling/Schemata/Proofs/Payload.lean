import Schemata.Proofs.Composition
import Schemata.Proofs.Defaults
import Schemata.Proofs.Matching
import Schemata.Proofs.Unread

/-! Data of the caller: no pass looks into a default value or into listed values, and the rest of
a document does not depend on them. -/
namespace Schemata

/-- Data that a node of any kind stores as it is: any value but null as the default value, or a
list of values. -/
inductive Payload : String → Tree → Prop where
  | default {v : Tree} : v ≠ .null → Payload "default" v
  | enum (ts : List Tree) : Payload "enum" (.list ts)

/-- A key of data: it is literal and stays in documents as it is, and desugaring ignores it. -/
structure DataKey (key : String) : Prop where
  literal : key ∈ literalKeys
  level : key ∈ levelKeys
  unread : key ∉ desugarKeys
  canonical : canonicalName key = key
  document : documentKey key = key
  kept : key ∉ bookkeepingKeys

namespace Payload
variable {key : String} {v : Tree}

lemma dataKey (h : Payload key v) : DataKey key := by
  have hall : ∀ key ∈ ["default", "enum"], key ∈ literalKeys ∧ key ∈ levelKeys ∧
      key ∉ desugarKeys ∧ canonicalName key = key ∧ documentKey key = key ∧
      key ∉ bookkeepingKeys := by decide
  have hmem : key ∈ ["default", "enum"] := by cases h <;> simp
  obtain ⟨hliteral, hlevel, hunread, hcanonical, hdocument, hkept⟩ := hall key hmem
  exact ⟨hliteral, hlevel, hunread, hcanonical, hdocument, hkept⟩

lemma slot_eq (h : Payload key v) (w : Tree) : slot key w = .literal :=
  slot_of_mem_literalKeys h.dataKey.literal w

lemma check_eq (h : Payload key v) {k : Kind} (hk : k ∈ Kind.builtin) :
    k.check key (.literal v) = .ok (some (.literal v)) := by
  have hext := Kind.extends_of_mem_builtin hk
  cases h with
  | default hnull =>
    have htype : Fields.get? k.attributes "default" = some .any := hext.get?_attributes rfl
    have hvalue : (AttrValue.literal v).isNull = false := by
      cases v <;> first | rfl | exact absurd rfl hnull
    exact Kind.check_eq_ok_iff.mpr ⟨_, htype, .inr ⟨hvalue, _, rfl, rfl⟩⟩
  | enum ts =>
    have htype : Fields.get? k.attributes "enum" = some .array := hext.get?_attributes rfl
    exact Kind.check_eq_ok_iff.mpr ⟨_, htype, .inr ⟨rfl, _, rfl, rfl⟩⟩

end Payload

namespace Node

/-- A node like another, with data under one more key. -/
structure Carries (n : Node) (key : String) (v : Tree) (n' : Node) : Prop
    extends n'.Wellformed where
  kind_eq : n'.kind = n.kind
  attr?_self : n'.attr? key = some (.literal v)
  attr?_of_ne : ∀ other, key ≠ other → n'.attr? other = n.attr? other
  fields_erase : n'.fields.erase key = n.fields

lemma carries_of_update {n : Node} {key : String} {v : Tree} (h : n.Wellformed)
    (hkind : n.kind ∈ Kind.builtin) (hpayload : Payload key v) (hnone : n.attr? key = none) :
    ∃ n', n.update key (.literal v) = .ok n' ∧ n.Carries key v n' := by
  obtain ⟨k, as⟩ := n
  have hkey := hpayload.dataKey
  have htag : key ≠ kindTag := by
    rintro rfl
    exact hkey.kept (by decide)
  have hcheck : k.check key (.literal v) = .ok (some (.literal v)) := hpayload.check_eq hkind
  have habsent : Fields.erase as key = as :=
    Fields.erase_of_notMem (Fields.get?_eq_none_iff.mp hnone)
  have hupdate : (mk k as).update key (.literal v) =
      .ok (mk k (Fields.insert as key (.literal v))) := by
    rw [update_mk, hkey.canonical, hcheck]
    rfl
  refine ⟨_, hupdate, h.update hupdate, rfl, Fields.get?_insert_self _ _ _, ?_, ?_⟩
  · exact fun other ho => Fields.get?_insert_of_ne _ _ ho
  · rw [← fields_erase k _ htag, Fields.erase_insert_self, habsent]

variable {n n' : Node} {key : String} {v : Tree}

/-- A node that is not boxed: it is not nullable, and its lists of choices have no members. -/
structure Plain (n : Node) : Prop where
  not_nullable : n.attr? "nullable" ≠ some (.literal (.bool true))
  no_choices : ∀ key ∈ choiceKeys, n.attr? key = none ∨ n.attr? key = some (.nodes [])

lemma Carries.plain (h : n.Carries key v n') (hpayload : Payload key v) (hn : n.Plain) :
    n'.Plain := by
  have hkey := hpayload.dataKey.unread
  constructor
  · rw [h.attr?_of_ne]
    · exact hn.not_nullable
    · rintro rfl
      exact hkey (by decide)
  · intro other ho
    rw [h.attr?_of_ne]
    · exact hn.no_choices other ho
    · rintro rfl
      exact hkey (by simp [desugarKeys, ho])

/-- The level that a node which is not boxed desugars to is not boxed, and has keys of levels. -/
lemma Plain.desugared (hn : n.Plain) (h : n.Wellformed) (hkind : n.kind ∈ Kind.builtin)
    {hs : Fields Tree} (hd : Desugars (.map n.fields) (.map hs)) :
    Unboxed hs ∧ ∀ key ∈ hs.keys, key ∈ levelKeys := by
  obtain ⟨gs, hs', hgs, hrel, heq⟩ := desugars_map_iff.mp hd
  cases heq
  rw [branchNull_of_not_nullable (h.not_nullable hkind hn.not_nullable)] at hgs
  have hagree := settle_agree hgs
  refine ⟨(unboxed_of_agree (.inr hn.no_choices) hagree).of_rel hrel, fun key hk => ?_⟩
  rw [← hrel.keys_eq] at hk
  exact h.mem_levelKeys_of_agree hkind hagree hk

section Chain
variable (hpayload : Payload key v) (h : n.Carries key v n')
include hpayload h

/-- The data makes no difference to what the node desugars to. -/
lemma Carries.desugars_iff {own : Tree} : Desugars n.toTree own ↔
    ∃ hs : Fields Tree, Desugars n'.toTree (.map hs) ∧ own = .map (hs.erase key) := by
  rw [toTree_eq, toTree_eq, ← h.fields_erase]
  apply desugars_erase_iff hpayload.dataKey.unread (nodup_fields h.toWellformed)
  intro w _
  exact hpayload.slot_eq w

/-- The data makes no difference to whether the node renders. -/
lemma Carries.renders_iff (c : RenderContext) :
    (∃ t, Renders c n'.toTree t) ↔ ∃ t, Renders c n.toTree t := by
  constructor
  · rintro ⟨t, ht⟩
    obtain ⟨d, hd, rfl⟩ := Schemata.renders_iff.mp ht
    have hmap := hd.isMap_eq
    rw [isMap_toTree, Tree.isMap_eq_true_iff] at hmap
    obtain ⟨hs, rfl⟩ := hmap
    exact ⟨_, Schemata.renders_iff.mpr ⟨_, (h.desugars_iff hpayload).mpr ⟨hs, hd, rfl⟩, rfl⟩⟩
  · rintro ⟨t, ht⟩
    obtain ⟨d, hd, rfl⟩ := Schemata.renders_iff.mp ht
    obtain ⟨hs, hd', _⟩ := (h.desugars_iff hpayload).mp hd
    exact ⟨_, Schemata.renders_iff.mpr ⟨_, hd', rfl⟩⟩

/-- The fields of the document without the data are those of the document with it. -/
lemma Carries.erase_eq (hn : n.Plain) (hwell : n.Wellformed) (hkind : n.kind ∈ Kind.builtin)
    {c : RenderContext} {out out' : Fields Tree} (ht : Renders c n.toTree (.map out))
    (ht' : Renders c n'.toTree (.map out')) : out'.erase key = out := by
  obtain ⟨d, hd, heq⟩ := Schemata.renders_iff.mp ht
  obtain ⟨hs, hd', rfl⟩ := (h.desugars_iff hpayload).mp hd
  obtain ⟨d', hd'', heq'⟩ := Schemata.renders_iff.mp ht'
  obtain rfl := hd''.unique hd'
  rw [toTree_eq] at hd hd'
  have hkind' : n'.kind ∈ Kind.builtin := by rwa [h.kind_eq]
  obtain ⟨hunboxed, _⟩ := hn.desugared hwell hkind hd
  obtain ⟨hunboxed', hlevel⟩ := (h.plain hpayload hn).desugared h.toWellformed hkind' hd'
  rw [box_of_unboxed _ hunboxed, ← erase_mapSchemas, finish_map_eq] at heq
  rw [box_of_unboxed _ hunboxed', finish_map_eq] at heq'
  cases heq
  cases heq'
  rw [erase_finishFields]
  apply congrArg finishFields
  apply List.filter_congr
  intro e he
  have hmem := hlevel e.1 (keys_mapSchemas (box c.kinds) hs ▸ Fields.mem_keys_of_mem he)
  have hkey := hpayload.dataKey
  have hiff : documentKey e.1 = key ↔ e.1 = key := by
    constructor
    · intro hdoc
      exact documentKey_injOn hmem hkey.level (hdoc.trans hkey.document.symm)
    · intro heq
      rw [heq, hkey.document]
  simp only [ne_eq, hiff]

end Chain

/-- The document with the data holds it, unless it is blank. -/
lemma Carries.get?_eq (h : n.Carries key v n') (hpayload : Payload key v) (hn : n'.Plain)
    (hkind : n'.kind ∈ Kind.builtin) {c : RenderContext} {out' : Fields Tree}
    (ht' : Renders c n'.toTree (.map out')) :
    out'.keys.Nodup ∧ out'.get? key = nonblank v := by
  obtain ⟨gs, _, hgs, heq, hout⟩ :=
    h.toWellformed.exists_rendersLevel hkind hn.not_nullable (.inr hn.no_choices) ht'
  cases heq
  have hkey := hpayload.dataKey
  have hsugar : key ∉ sugarKeys := fun hs => hkey.unread (by simp [desugarKeys, hs])
  have htag : key ≠ kindTag := by
    rintro rfl
    exact hkey.kept (by decide)
  have hvalue : gs.get? key = some v := by
    rw [(settle_agree hgs).get?_eq key hsugar, n'.get?_fields htag, h.attr?_self, Option.map_some,
      AttrValue.toTree_literal]
  obtain ⟨w, hw, hget⟩ := hout.get?_eq key v hvalue hkey.kept
  rw [hkey.document, hw.eq_of_literal (hpayload.slot_eq v)] at hget
  exact ⟨hout.nodup, hget⟩

/-- Data under `default` or `enum` makes no difference to whether a node renders that is neither
nullable nor boxed, and it stands in the document as it is, unless it is blank; the rest of the
document is that of the node without it. -/
theorem run_of_payload (c : RenderContext) (hwell : n.Wellformed) (hkind : n.kind ∈ Kind.builtin)
    (hn : n.Plain) (hpayload : Payload key v) (hnone : n.attr? key = none) :
    ∃ n', n.update key (.literal v) = .ok n' ∧
      ((∃ t', Pass.run c Pass.defaults n'.toTree = .ok t') ↔
        ∃ t, Pass.run c Pass.defaults n.toTree = .ok t) ∧
      ∀ t t', Pass.run c Pass.defaults n.toTree = .ok t →
        Pass.run c Pass.defaults n'.toTree = .ok t' →
        ∃ out : Fields Tree, t = .map out ∧ out.get? key = none ∧ t'.get? key = nonblank v ∧
          t'.same (.map (out.assign key (nonblank v))) = true := by
  obtain ⟨n', hupdate, h⟩ := carries_of_update hwell hkind hpayload hnone
  refine ⟨n', hupdate, h.renders_iff hpayload c, fun t t' ht ht' => ?_⟩
  have hkind' : n'.kind ∈ Kind.builtin := by rwa [h.kind_eq]
  have hmap : ∀ {m : Node} {u : Tree}, Renders c m.toTree u →
      ∃ out : Fields Tree, u = .map out := by
    intro m u hu
    obtain ⟨d, hd, rfl⟩ := Schemata.renders_iff.mp hu
    rw [← Tree.isMap_eq_true_iff, isMap_finish, isMap_box, hd.isMap_eq, isMap_toTree]
  obtain ⟨out, rfl⟩ := hmap ht
  obtain ⟨out', rfl⟩ := hmap ht'
  have herase := h.erase_eq hpayload hn hwell hkind ht ht'
  obtain ⟨hnodup, hget⟩ := h.get?_eq hpayload (h.plain hpayload hn) hkind' ht'
  have hnone' : out.get? key = none := by
    rw [← herase]
    exact Fields.get?_erase_self _ _
  have hnodup' : out.keys.Nodup := by
    rw [← herase]
    exact Fields.nodup_erase key hnodup
  refine ⟨out, rfl, hnone', hget, Tree.alike_map_iff.mpr ?_⟩
  refine .of_get?_eq Tree.Alike.refl hnodup (Fields.nodup_assign _ _ hnodup') fun other => ?_
  by_cases hother : key = other
  · rw [← hother, Fields.get?_assign_self, hget]
  · rw [Fields.get?_assign_of_ne _ _ hother, ← herase, Fields.get?_erase_of_ne _ hother]

/-- A value that looks like a schema with sugar of every sort. -/
def disguised : Tree :=
  .map [("kind", .string "array"), ("nullable", .bool true),
    ("any_of", .list [.map [("kind", .string "string")]]), ("some_key", .string ""),
    ("items", .map [("children", .list [.bool true])]), ("children", .list [.null])]

/-- A node that stores no data yet. -/
def untouched : Node := .mk Kind.boolean [("kind", .string "boolean"), ("title", .string "flag")]

theorem run_of_payload_disguised :
    ∃ n', untouched.update "default" (.literal disguised) = .ok n' ∧
      ∃ t', Pass.run ⟨.builtin, none⟩ Pass.defaults n'.toTree = .ok t' ∧
        t'.get? "default" = some disguised := by
  have hconstruct : construct Kind.boolean
      [("kind", .string "boolean"), ("title", .string "flag")] = .ok untouched := rfl
  have hkeys : ∀ key ∈ choiceKeys, key ∉ Fields.keys untouched.attributes := by decide
  have hplain : untouched.Plain :=
    ⟨fun h => (nomatch h), fun key hk => .inl (Fields.get?_eq_none_iff.mpr (hkeys key hk))⟩
  have hpayload : Payload "default" disguised := .default (by simp [disguised])
  obtain ⟨n', hupdate, hiff, hdocument⟩ := run_of_payload ⟨.builtin, none⟩
    (wellformed_construct hconstruct) (by simp [untouched, Node.kind, Kind.builtin]) hplain hpayload
    rfl
  have hown : ∃ t, Pass.run ⟨.builtin, none⟩ Pass.defaults untouched.toTree = .ok t := ⟨_, rfl⟩
  obtain ⟨t', ht'⟩ := hiff.mpr hown
  obtain ⟨t, ht⟩ := hown
  obtain ⟨_, _, _, hget, _⟩ := hdocument t t' ht ht'
  exact ⟨n', hupdate, t', ht', hget⟩

end Node

end Schemata
