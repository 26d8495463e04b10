import Schemata.Proofs.Respelling
import Schemata.Proofs.Vocabulary

/-! Required names in documents. A node may set a flag for its parent there; where it has no
parent that takes the flag, the flag stays. -/
namespace Schemata

/-- A flag, as nodes set it for their parents. -/
def IsFlag (t : Tree) : Prop := ∃ b, t = .bool b

/-- A list of names. -/
def IsNames (t : Tree) : Prop := ∃ names : List String, t = .list (names.map .string)

lemma slot_of_isFlag {t : Tree} (h : IsFlag t) (key : String) : slot key t = .literal := by
  obtain ⟨b, rfl⟩ := h
  exact slot_of_depth_eq_zero rfl key

lemma slot_of_isNames {t : Tree} (h : IsNames t) (key : String) : slot key t = .literal := by
  obtain ⟨names, rfl⟩ := h
  exact slot_strings (Tree.all_isString_map names) key

lemma isNames_of_all_isString {ts : List Tree} (h : ts.all Tree.isString = true) :
    IsNames (.list ts) :=
  ⟨ts.filterMap Tree.string?, congrArg Tree.list (Tree.map_string_filterMap h).symm⟩

/-- A regular level with a value of some sort under `required`, if with any. -/
def Requiring (ok : Tree → Prop) (fs : Fields Tree) : Prop :=
  Regular fs ∧ ∀ value, fs.get? "required" = some value → ok value

section Requiring
variable {ok : Tree → Prop}

lemma levelRule_requiring (hok : ∀ t, ok t → slot "required" t = .literal) :
    LevelRule (Requiring ok) where
  rel fs gs hrel h := by
    refine ⟨levelRule_regular.rel fs gs hrel h.1, ?_⟩
    intro w hw
    obtain ⟨value, hv, hslot⟩ := hrel.exists_of_get?_right hw
    have hvalue := h.2 value hv
    rw [hslot.eq_of_literal (hok value hvalue)]
    exact hvalue
  erase fs key h := by
    refine ⟨levelRule_regular.erase fs key h.1, ?_⟩
    intro value hv
    exact h.2 value (Fields.get?_of_get?_erase hv)
  choices fs key ts h := levelRule_regular.choices fs key ts h.1
  boxed key hk ts hts := by
    refine ⟨levelRule_regular.boxed key hk ts hts, ?_⟩
    have hall : ∀ key ∈ choiceKeys, key ≠ "required" := by decide
    intro value hv
    rw [Fields.get?_cons, if_neg (by decide), Fields.get?_cons, if_neg (hall key hk)] at hv
    cases hv

/-- The sort of what is required goes over from the boxed tree to the document. -/
theorem required_of_position (hok : ∀ t, ok t → slot "required" t = .literal) {b : Tree}
    (hb : EveryLevel (Requiring ok) b) {out : Fields Tree}
    (hout : Document.Position (finish b) (.map out)) {value : Tree}
    (hv : ("required", value) ∈ out) : ok value := by
  have hregular : EveryLevel Regular b := hb.imp fun _ h => h.1
  obtain ⟨t, ht, heq⟩ := exists_within_of_position hregular hout
  have hmap : t.isMap = true := by
    rw [← isMap_finish, heq]
    rfl
  obtain ⟨fs, rfl⟩ := Tree.isMap_eq_true_iff.mp hmap
  obtain ⟨hfs, hrequired⟩ := hb fs ht
  obtain ⟨out', hout', _, hmem⟩ := finish_map hfs.nodup_documentKey
  rw [hout', Tree.map.injEq] at heq
  subst heq
  obtain ⟨⟨key, v⟩, he, hdoc, rfl, _⟩ := (hmem _ _).mp hv
  have hkey := hfs.mem_levelKeys key (Fields.mem_keys_of_mem he)
  obtain rfl : key = "required" := by
    apply documentKey_injOn hkey (by decide)
    rw [hdoc]
    decide
  have hvalue := hrequired v (Fields.get?_of_mem hfs.nodup he)
  have hslot := inSlot_finish (stableKey_of_mem_levelKeys hkey) v
  change ok (finishValue "required" v)
  rw [hslot.eq_of_literal (hok v hvalue)]
  exact hvalue

end Requiring

namespace Node
variable {n m : Node}

/-- A node with a flag that none of its own children replaces by a name. -/
def KeepsFlag (n : Node) : Prop :=
  (∃ b, n.attr? "required" = some (.literal (.bool b))) ∧ requiredNames n.promoted = []

lemma Level.isNames_of_get?_required {gs : Fields Tree} (hgs : n.Level gs) (h : n.IsBuiltin)
    {value : Tree} (hv : gs.get? "required" = some value) :
    IsNames value ∨ IsFlag value ∧ n.KeepsFlag := by
  have hrequired := hgs.promotes.required
  rw [hv] at hrequired
  split at hrequired
  · rename_i hnil
    rw [n.get?_fields (by decide), eq_comm, Option.map_eq_some_iff] at hrequired
    obtain ⟨v, hattr, rfl⟩ := hrequired
    rcases h.exists_required hattr with ⟨b, rfl⟩ | ⟨items, rfl, hall⟩
    · exact .inr ⟨⟨b, AttrValue.toTree_literal _⟩, ⟨b, hattr⟩, hnil⟩
    · rw [AttrValue.toTree_literal]
      exact .inl (isNames_of_all_isString hall)
  · cases hrequired
    left
    apply isNames_of_all_isString
    exact addRequired_all_isString (Tree.all_isString_map n.ownNames) _

lemma Level.get?_required_of_keepsFlag {gs : Fields Tree} (hgs : n.Level gs) (h : n.KeepsFlag) :
    ∃ b, gs.get? "required" = some (.bool b) := by
  obtain ⟨⟨b, hattr⟩, hnil⟩ := h
  refine ⟨b, ?_⟩
  rw [hgs.promotes.required, if_pos hnil, n.get?_fields (by decide), hattr, Option.map_some,
    AttrValue.toTree_literal]

end Node

/-- Some level of a tree has a flag under `required`. -/
def Flagged (t : Tree) : Prop :=
  ∃ (fs : Fields Tree) (b : Bool), Within t (.map fs) ∧ fs.get? "required" = some (.bool b)

namespace Flagged
variable {fs gs : Fields Tree} {t u : Tree}

lemma root {b : Bool} (h : fs.get? "required" = some (.bool b)) : Flagged (.map fs) :=
  ⟨fs, b, .refl, h⟩

lemma inside (h : Inside t u) (hu : Flagged u) : Flagged t := by
  obtain ⟨fs, b, hwithin, hget⟩ := hu
  exact ⟨fs, b, .head h hwithin, hget⟩

lemma cases_head (h : Flagged t) : ∃ fs : Fields Tree, t = .map fs ∧
    ((∃ b, fs.get? "required" = some (.bool b)) ∨ ∃ u, Inside t u ∧ Flagged u) := by
  obtain ⟨gs, b, hwithin, hget⟩ := h
  rcases hwithin.cases_head with rfl | ⟨u, hu, hrest⟩
  · exact ⟨gs, rfl, .inl ⟨b, hget⟩⟩
  · obtain ⟨hmem, hbook, hunder⟩ := hu
    exact ⟨_, rfl, .inr ⟨u, .under hmem hbook hunder, gs, b, hrest, hget⟩⟩

lemma of_same (h : Flagged u) (hsame : t.same u = true) : Flagged t := by
  obtain ⟨gs, b, hwithin, hget⟩ := h
  obtain ⟨y, hy, hyg⟩ := Within.exists_of_same hsame hwithin
  have hmap := Tree.isMap_of_same hyg
  obtain ⟨fs, rfl⟩ := Tree.isMap_eq_true_iff.mp hmap
  have hfields : Fields.sameBy Tree.same fs gs = true := by
    rw [← Tree.sameFields_eq]
    exact hyg
  have hvalue := Fields.get?_of_sameBy hfields "required"
  rw [hget] at hvalue
  cases hfs : Fields.get? fs "required" with
  | none =>
    rw [hfs] at hvalue
    cases hvalue
  | some v =>
    rw [hfs] at hvalue
    cases hvalue with
    | some hvb =>
      cases v with
      | bool b' => exact ⟨fs, b', hy, hfs⟩
      | _ => simp [Tree.same] at hvb

lemma of_rel {R : Tree → Tree → Prop} (hR : ∀ t u, R t u → u.isMap = t.isMap)
    (hrel : Fields.Rel (InSlot R) fs gs)
    (hinside : ∀ t u, Inside (.map fs) t → R t u → Flagged t → Flagged u)
    (h : Flagged (.map fs)) : Flagged (.map gs) := by
  obtain ⟨_, heq, hroot⟩ := h.cases_head
  cases heq
  rcases hroot with ⟨b, hget⟩ | ⟨t, ht, hflag⟩
  · obtain ⟨w, hw, hslot⟩ := hrel.exists_of_get? hget
    rw [hslot.eq_of_literal (slot_of_depth_eq_zero rfl _)] at hw
    exact root hw
  · obtain ⟨u, hu, htu⟩ := ht.exists_of_rel_left hR hrel
    exact inside hu (hinside t u ht htu hflag)

lemma mapSchemas {f : Tree → Tree} (hf : ∀ t, (f t).isMap = t.isMap)
    (hinside : ∀ t, Inside (.map fs) t → Flagged t → Flagged (f t)) (h : Flagged (.map fs)) :
    Flagged (.map (Schemata.mapSchemas f fs)) := by
  apply of_rel (isMap_of_apply_eq hf) (rel_mapSchemas f fs) _ h
  rintro t _ ht rfl
  exact hinside t ht

end Flagged

lemma isBlank_of_mem_schemasUnder {key : String} {value t : Tree}
    (ht : t ∈ schemasUnder key value) (hblank : t.isBlank = false) : value.isBlank = false := by
  unfold schemasUnder at ht
  split at ht
  · cases ht
  · rwa [← List.mem_singleton.mp ht]
  · rename_i ts hs
    obtain ⟨_, rfl, t, rest, rfl, _⟩ := slot_eq_items_iff.mp hs
    rfl
  · rename_i es hs
    obtain rfl := slot_eq_entries hs
    cases es with
    | nil => cases ht
    | cons e es => rfl

lemma isBlank_mapSlot_strip {key : String} {value u : Tree} (hu : u ∈ schemasUnder key value)
    (hblank : (strip u).isBlank = false) : (mapSlot strip key value).isBlank = false := by
  have hslot := InSlot.of_mapSlot strip key value
  obtain ⟨_, hmem, rfl⟩ := exists_of_mem_left
    (hslot.forall₂_schemasUnder (isMap_of_apply_eq isMap_strip)) hu
  exact isBlank_of_mem_schemasUnder hmem hblank

lemma Tree.isBlank_map_of_mem {fs : Fields Tree} {e : String × Tree} (h : e ∈ fs) :
    (Tree.map fs).isBlank = false := by
  cases fs with
  | nil => cases h
  | cons e fs => rfl

namespace Flagged
variable {fs : Fields Tree} {t : Tree}

/-- Below a level with a flag in it there is a key that is neither dropped nor blank. -/
lemma exists_entry (h : Flagged (.map fs))
    (hinside : ∀ t, Inside (.map fs) t → Flagged t → (strip t).isBlank = false) :
    ∃ key value, (key, value) ∈ fs ∧ key ∉ bookkeepingKeys ∧
      (∀ s, value ≠ .string s) ∧ (mapSlot strip key value).isBlank = false := by
  obtain ⟨_, heq, hroot⟩ := h.cases_head
  cases heq
  rcases hroot with ⟨b, hget⟩ | ⟨u, hu, hflag⟩
  · exact ⟨"required", .bool b, Fields.mem_of_get? hget, by decide, by simp, rfl⟩
  · have hblank := hinside u hu hflag
    obtain ⟨hmem, hbook, hunder⟩ := hu
    refine ⟨_, _, hmem, hbook, ?_, isBlank_mapSlot_strip hunder hblank⟩
    rintro s rfl
    rw [schemasUnder_of_literal (slot_of_depth_eq_zero rfl _)] at hunder
    cases hunder

/-- A flag is no blank value, so a schema with a flag in it is not stripped to nothing. -/
theorem isBlank_strip (h : Flagged t) : (strip t).isBlank = false := by
  induction t using Tree.inside_induction with
  | leaf t hm =>
    obtain ⟨fs, rfl, _⟩ := h.cases_head
    cases hm
  | map fs ih =>
    obtain ⟨key, value, hmem, hbook, _, hblank⟩ := h.exists_entry ih
    rw [strip_map]
    exact Tree.isBlank_map_of_mem (mem_strip.mpr ⟨value, hmem, hbook, rfl, hblank⟩)

lemma isBlank_eq_false (h : Flagged t) : t.isBlank = false := by
  obtain ⟨fs, rfl, hroot⟩ := h.cases_head
  rcases hroot with ⟨b, hget⟩ | ⟨u, hu, _⟩
  · exact Tree.isBlank_map_of_mem (Fields.mem_of_get? hget)
  · obtain ⟨hmem, _, _⟩ := hu
    exact Tree.isBlank_map_of_mem hmem

end Flagged

namespace Flagged
variable {kinds : Registry} {fs : Fields Tree} {t : Tree}

lemma one_lt_length_of_mem {α : Type} {a b : α} {l : List α} (ha : a ∈ l) (hb : b ∈ l)
    (hne : a ≠ b) : 1 < l.length := by
  match l with
  | [] => cases ha
  | [c] =>
    rw [List.mem_singleton] at ha hb
    exact absurd (ha.trans hb.symm) hne
  | _ :: _ :: _ =>
    simp only [List.length_cons]
    omega

/-- An object with a flag in it says more than that it is an object. -/
lemma carriesMeaning (hdefaults : ∀ id, kinds.defaultsFor id = []) {kind : String}
    (hn : fs.keys.Nodup) (hkind : fs.get? "kind" = some (.string kind)) (h : Flagged (.map fs)) :
    Schemata.carriesMeaning kinds kind fs = true := by
  by_cases hobject : kind = "object"
  · subst hobject
    have hkept : ("kind", Tree.string "object") ∈
        dropBlankValues (Schemata.mapSchemas strip (dropBookkeeping fs)) :=
      mem_strip.mpr ⟨_, Fields.mem_of_get? hkind, by decide, rfl, rfl⟩
    obtain ⟨key, value, hmem, hbook, hstring, hblank⟩ :=
      h.exists_entry fun t _ ht => ht.isBlank_strip
    have hentry := mem_strip.mpr ⟨value, hmem, hbook, rfl, hblank⟩
    have hne : ("kind", Tree.string "object") ≠ (key, mapSlot strip key value) := by
      intro heq
      obtain ⟨rfl, _⟩ := Prod.mk.inj heq
      have hvalue := Fields.get?_of_mem hn hmem
      rw [hkind, Option.some.injEq] at hvalue
      exact hstring "object" hvalue.symm
    have hlength := one_lt_length_of_mem hkept hentry hne
    simp only [Schemata.carriesMeaning, hdefaults, dropDefaults, List.foldl_nil, strip_map]
    simpa using hlength
  · simp [Schemata.carriesMeaning, hobject]

/-- A box with a flag among its members has it still when repeated ones are dropped. -/
lemma boxed {key : String} (hk : key ∈ choiceKeys) {ts : List Tree}
    (hmaps : ∀ t ∈ ts, t.isMap = true) (ht : t ∈ ts) (h : Flagged t) :
    Flagged (Schemata.boxed key ts) := by
  have hmem : t ∈ ts.filter fun m => !m.isBlank := by
    rw [List.mem_filter]
    exact ⟨ht, by simp [h.isBlank_eq_false]⟩
  obtain ⟨u, hu, hsame⟩ := Tree.exists_mem_dedupe hmem
  have hkept : ∀ t ∈ Tree.dedupe (ts.filter fun m => !m.isBlank), t.isMap = true :=
    fun t ht => hmaps t (Tree.mem_of_mem_dedupe_filter ht)
  have hlist := List.mem_cons_of_mem ("kind", Tree.string Kind.entityId)
    (List.mem_singleton_self (key, Tree.list (Tree.dedupe (ts.filter fun m => !m.isBlank))))
  exact inside (.of_choice hk hlist hkept hu) (h.of_same hsame)

/-- A flag is in one of the choices of a schema, or in what remains of it. -/
lemma mem_choices_or_rest {key : String} (hk : key ∈ choiceKeys) (hfs : Regular fs)
    {ts : List Tree} (hget : fs.get? key = some (.list ts)) (h : Flagged (.map fs)) :
    (∃ t ∈ ts, Flagged t) ∨ Flagged (.map (fs.erase key)) := by
  obtain ⟨_, heq, hroot⟩ := h.cases_head
  cases heq
  rcases hroot with ⟨b, hrequired⟩ | ⟨u, hu, hflag⟩
  · have hall : ∀ key ∈ choiceKeys, key ≠ "required" := by decide
    right
    exact root ((Fields.get?_erase_of_ne _ (hall key hk)).trans hrequired)
  · obtain ⟨hmem, hbook, hunder⟩ := hu
    rename_i other value
    by_cases hkey : other = key
    · subst hkey
      have hvalue := Fields.get?_of_mem hfs.nodup hmem
      rw [hget, Option.some.injEq] at hvalue
      rw [← hvalue, schemasUnder_of_maps (literalKeys_disjoint_choiceKeys other hk)
        (hfs.choices other hk ts hget)] at hunder
      exact .inl ⟨u, hunder, hflag⟩
    · right
      exact inside (.under (Fields.mem_erase.mpr ⟨hmem, hkey⟩) hbook hunder) hflag

lemma boxAlong (hdefaults : ∀ id, kinds.defaultsFor id = []) {visit : Tree → Tree}
    (hmap : ∀ t, (visit t).isMap = t.isMap) {keys : List String}
    (hkeys : ∀ key ∈ keys, key ∈ choiceKeys)
    (hvisit : ∀ t, Inside (.map fs) t → Flagged t → Flagged (visit t)) (hfs : Regular fs)
    (h : Flagged (.map fs)) : Flagged (Schemata.boxAlong kinds visit keys fs) := by
  induction keys generalizing fs with
  | nil => exact h.mapSchemas hmap hvisit
  | cons key keys ih =>
    have hrest := fun k hk => hkeys k (List.mem_cons_of_mem key hk)
    have hkey := hkeys key List.mem_cons_self
    unfold Schemata.boxAlong
    split
    · rename_i kind m ms hkind hget
      have hmaps : ∀ t ∈ (m :: ms).map visit ++
          (if Schemata.carriesMeaning kinds kind (fs.erase key)
            then [Schemata.boxAlong kinds visit keys (fs.erase key)] else []), t.isMap = true := by
        intro t ht
        rcases mem_members ht with ⟨u, hu, rfl⟩ | rfl
        · exact (hmap u).trans (hfs.choices key hkey _ hget u hu)
        · exact isMap_boxAlong kinds visit _ keys
      rcases h.mem_choices_or_rest hkey hfs hget with ⟨t, ht, hflag⟩ | hflag
      · have hchoices := hfs.choices key hkey _ hget
        have hinside := Inside.of_choice hkey (Fields.mem_of_get? hget) hchoices ht
        exact boxed hkey hmaps (List.mem_append_left _ (List.mem_map_of_mem ht))
          (hvisit t hinside hflag)
      · have herase := levelRule_regular.erase fs key hfs
        have hne : ∀ key ∈ choiceKeys, key ≠ "kind" := by decide
        have hkept : (fs.erase key).get? "kind" = some (.string kind) :=
          (Fields.get?_erase_of_ne _ (hne key hkey)).trans (specificKind?_eq_some_iff.mp hkind).1
        have hcarries := hflag.carriesMeaning hdefaults herase.nodup hkept
        simp only [hcarries, if_true] at hmaps ⊢
        apply boxed hkey hmaps (List.mem_append_right _ (List.mem_singleton_self _))
        exact ih hrest (fun t ht => hvisit t ht.of_erase) herase hflag
    · exact ih hrest hvisit hfs h

/-- Boxing keeps flags where no defaults of a kind are left out. -/
theorem box (hdefaults : ∀ id, kinds.defaultsFor id = []) (hregular : EveryLevel Regular t)
    (h : Flagged t) : Flagged (Schemata.box kinds t) := by
  induction t using Tree.inside_induction with
  | leaf t hm => rwa [box_of_not_map hm]
  | map fs ih =>
    rw [box_map]
    apply boxAlong hdefaults (isMap_box kinds) (fun _ hk => hk) _ hregular.root h
    exact fun t ht hflag => ih t ht (hregular.inside ht) hflag

end Flagged

namespace Flagged
variable {fs : Fields Tree} {t u : Tree}

lemma isBlank_finish (hregular : EveryLevel Regular t) (h : Flagged t) :
    (finish t).isBlank = false := by
  rw [finish_eq_respell_strip hregular, isBlank_respell]
  exact h.isBlank_strip

lemma inside_finish (hfs : Regular fs) (hinside : Inside (.map fs) u)
    (hblank : (finish u).isBlank = false) : Document.Inside (finish (.map fs)) (finish u) := by
  obtain ⟨hmem, hbook, hunder⟩ := hinside
  rename_i key value
  have hkey := hfs.mem_levelKeys key (Fields.mem_keys_of_mem hmem)
  have hstable := stableKey_of_mem_levelKeys hkey
  have hdoc : documentKey key ∉ bookkeepingKeys := hbook ∘ hstable.bookkeeping.mpr
  obtain ⟨_, hmem', rfl⟩ := exists_of_mem_left
    ((inSlot_finish hstable value).forall₂_schemasUnder (isMap_of_apply_eq isMap_finish)) hunder
  have hvalue := isBlank_of_mem_schemasUnder hmem' hblank
  rw [← schemasUnder_congr (hstable.slot_eq _)] at hmem'
  obtain ⟨out, heq, _, hout⟩ := finish_map hfs.nodup_documentKey
  rw [heq]
  apply inside_of_mem_schemasUnder (Regular.documentKey_mem_vocabulary hkey hdoc) _ hmem'
  exact (hout _ _).mpr ⟨(key, value), hmem, rfl, rfl, hdoc, hvalue⟩

/-- A flag in a boxed tree stands in the document. -/
theorem exists_position (hregular : EveryLevel Regular t) (h : Flagged t) :
    ∃ (out : Fields Tree) (b : Bool), Document.Position (finish t) (.map out) ∧
      ("required", .bool b) ∈ out := by
  obtain ⟨gs, b, hwithin, hget⟩ := h
  induction hwithin using Relation.ReflTransGen.head_induction_on with
  | refl =>
    have hgs := hregular.root
    have hdoc : documentKey "required" = "required" := by decide
    have hvalue : finishValue "required" (.bool b) = .bool b := by
      rw [finishValue, mapSlot_of_depth_eq_zero _ rfl, mapSlot_of_depth_eq_zero _ rfl]
    obtain ⟨out, heq, _, hout⟩ := finish_map hgs.nodup_documentKey
    refine ⟨out, b, heq ▸ .refl, (hout _ _).mpr ?_⟩
    exact ⟨("required", .bool b), Fields.mem_of_get? hget, hdoc, hvalue, by decide, rfl⟩
  | @head t u hinside hwithin ih =>
    have hlevels := hregular.inside hinside
    obtain ⟨out, b', hposition, hmem⟩ := ih hlevels
    have hblank := isBlank_finish hlevels ⟨gs, b, hwithin, hget⟩
    obtain ⟨fs, rfl⟩ := Tree.isMap_eq_true_iff.mp hinside.isMap
    exact ⟨out, b', .head (inside_finish hregular.root hinside hblank) hposition, hmem⟩

end Flagged

namespace Node
variable {n m : Node}

/-- Desugaring keeps the flags of nodes that are shown. -/
theorem flagged_of_desugars (h : n.AllBuiltin) {d : Tree} (hd : Desugars n.toTree d)
    (hm : Relation.ReflTransGen Part n m) (hflag : m.KeepsFlag) : Flagged d := by
  induction hm using Relation.ReflTransGen.head_induction_on generalizing d with
  | refl =>
    rw [m.toTree_eq] at hd
    obtain ⟨gs, hs, hgs, hrel, rfl⟩ := desugars_map_iff.mp hd
    obtain ⟨b, hget⟩ := (h.level_of_settle hgs).get?_required_of_keepsFlag hflag
    obtain ⟨w, hw, hslot⟩ := hrel.exists_of_get? hget
    rw [hslot.eq_of_literal (slot_of_depth_eq_zero rfl _)] at hw
    exact Flagged.root hw
  | @head n l hpart _ ih =>
    rw [n.toTree_eq] at hd
    obtain ⟨gs, hs, hgs, hrel, rfl⟩ := desugars_map_iff.mp hd
    have hinside := (h.level_of_settle hgs).inside_of_part h.isBuiltin hpart
    obtain ⟨u, hu, hdu⟩ := hinside.exists_of_rel_left (fun _ _ ht => ht.isMap_eq) hrel
    exact Flagged.inside hu (ih (h.part hpart) hdu)

/-- Where no node that is shown keeps its flag, every boxed level requires names. -/
lemma everyLevel_requiring {ok : Tree → Prop} (hok : ∀ t, ok t → slot "required" t = .literal)
    (h : n.AllBuiltin) (hlevel : ∀ m gs value, Relation.ReflTransGen Part n m → m.AllBuiltin →
      m.Level gs → gs.get? "required" = some value → ok value) (kinds : Registry) {d : Tree}
    (hd : Desugars n.toTree d) : EveryLevel (Requiring ok) (box kinds d) := by
  apply EveryLevel.box (levelRule_requiring hok)
  apply everyLevel_of_desugars (levelRule_requiring hok) _ h _ hd
  · refine ⟨regular_null, ?_⟩
    intro value hv
    cases hv
  · exact fun m gs hm hbuiltin hgs =>
      ⟨hgs.regular hbuiltin.isBuiltin, fun value => hlevel m gs value hm hbuiltin hgs⟩

/-- Documents require names, but for the flags of nodes that are shown without a parent that
takes the flag; where kinds have no defaults, those flags do stand in the document. -/
theorem required_of_run (h : n.AllBuiltin) {c : RenderContext} {t : Tree}
    (ht : Pass.run c Pass.defaults n.toTree = .ok t) :
    (∀ fs value, Document.Position t (.map fs) → ("required", value) ∈ fs →
      IsNames value ∨ IsFlag value) ∧
    ((∀ m, Relation.ReflTransGen Part n m → ¬ m.KeepsFlag) →
      ∀ fs value, Document.Position t (.map fs) → ("required", value) ∈ fs → IsNames value) ∧
    ((∀ id, c.kinds.defaultsFor id = []) →
      (∃ m, Relation.ReflTransGen Part n m ∧ m.KeepsFlag) →
      ∃ fs b, Document.Position t (.map fs) ∧ ("required", Tree.bool b) ∈ fs) := by
  obtain ⟨d, hd, rfl⟩ := renders_iff.mp ht
  refine ⟨?_, ?_, ?_⟩
  · intro fs value hfs hv
    have hok : ∀ t, IsNames t ∨ IsFlag t → slot "required" t = .literal := by
      rintro t (hnames | hflag)
      · exact slot_of_isNames hnames _
      · exact slot_of_isFlag hflag _
    apply required_of_position hok _ hfs hv
    apply everyLevel_requiring hok h _ c.kinds hd
    intro m gs value _ hbuiltin hgs hget
    exact (hgs.isNames_of_get?_required hbuiltin.isBuiltin hget).imp_right fun hflag => hflag.1
  · intro hflags fs value hfs hv
    have hok : ∀ t, IsNames t → slot "required" t = .literal := fun t ht => slot_of_isNames ht _
    apply required_of_position hok _ hfs hv
    apply everyLevel_requiring hok h _ c.kinds hd
    intro m gs value hm hbuiltin hgs hget
    rcases hgs.isNames_of_get?_required hbuiltin.isBuiltin hget with hnames | ⟨_, hkeeps⟩
    · exact hnames
    · exact absurd hkeeps (hflags m hm)
  · rintro hdefaults ⟨m, hm, hkeeps⟩
    have hregular := everyLevel_of_desugars levelRule_regular regular_null h
      (fun m gs _ hbuiltin hgs => hgs.regular hbuiltin.isBuiltin) hd
    have hflag := (flagged_of_desugars h hd hm hkeeps).box hdefaults hregular
    obtain ⟨fs, b, hposition, hmem⟩ :=
      hflag.exists_position (EveryLevel.box levelRule_regular c.kinds hregular)
    exact ⟨fs, b, hposition, hmem⟩

/-- A node with a flag and without a parent. -/
def flaggedRoot : Node := mk .boolean [("kind", .string "boolean"),
  ("required", .literal (.bool true))]

lemma allBuiltin_flaggedRoot : flaggedRoot.AllBuiltin := by
  apply forall_reaches (isBuiltin_of_construct rfl (by decide) (by decide))
  intro m hm
  cases hm

lemma run_flaggedRoot : Pass.run ⟨.builtin, none⟩ Pass.defaults flaggedRoot.toTree =
    .ok (.map [("type", .string "boolean"), ("required", .bool true)]) := rfl

/-- The flag stands in the document, where a list of names should. -/
theorem flag_in_document : ¬ ∀ (n : Node) (c : RenderContext) (t : Tree), n.AllBuiltin →
    Pass.run c Pass.defaults n.toTree = .ok t → ∀ fs value, Document.Position t (.map fs) →
      ("required", value) ∈ fs → IsNames value := by
  intro h
  obtain ⟨names, heq⟩ := h flaggedRoot ⟨.builtin, none⟩ _ allBuiltin_flaggedRoot run_flaggedRoot _
    (.bool true) .refl (by simp)
  cases heq

lemma properties_labelled : labelled.properties =
    [("title", mk .string [("kind", .string "string"), ("name", .name (.plain "title"))])] := by
  simp [properties, promoted, labelled, attr?, children, attributes, Fields.get?, plainNamed, name?,
    clearRequired, Fields.ofEntries, Fields.extend, Fields.insert, kind, Fields.erase]

lemma patternProperties_labelled : labelled.patternProperties =
    [("^x-", mk .boolean [("kind", .string "boolean"),
      ("name", .name (.pattern ⟨"^x-", by decide⟩))])] := rfl

lemma part_labelled {l : Node} (h : labelled.Part l) :
    l = mk .string [("kind", .string "string"), ("name", .name (.plain "title"))] ∨
      l = mk .boolean [("kind", .string "boolean"),
        ("name", .name (.pattern ⟨"^x-", by decide⟩))] := by
  cases h with
  | inner hv _ hbook _ hinner =>
    have hmem := Fields.mem_of_get? hv
    simp only [labelled, attributes, List.mem_cons, Prod.mk.injEq, List.not_mem_nil,
      or_false] at hmem
    rcases hmem with ⟨rfl, rfl⟩ | ⟨rfl, rfl⟩ | ⟨rfl, rfl⟩
    · cases hinner
    · cases hinner
    · exact absurd (by decide) hbook
  | items hv _ => cases hv
  | property he =>
    rw [properties_labelled, List.mem_singleton] at he
    exact .inl (congrArg Prod.snd he)
  | pattern he =>
    rw [patternProperties_labelled, List.mem_singleton] at he
    exact .inr (congrArg Prod.snd he)

lemma not_keepsFlag_of_labelled (m : Node) (hm : Relation.ReflTransGen Part labelled m) :
    ¬ m.KeepsFlag := by
  rintro ⟨⟨b, hb⟩, _⟩
  rcases hm.cases_head with rfl | ⟨l, hl, hm⟩
  · cases hb
  · rcases part_labelled hl with rfl | rfl
    · rw [eq_of_inner_eq_nil rfl hm] at hb
      cases hb
    · rw [eq_of_inner_eq_nil rfl hm] at hb
      cases hb

theorem required_of_run_labelled :
    (∀ fs value, Document.Position labelledDocument (.map fs) → ("required", value) ∈ fs →
      IsNames value) ∧
    ∃ fs b, Document.Position (.map [("type", .string "boolean"), ("required", .bool true)])
      (.map fs) ∧ ("required", Tree.bool b) ∈ fs := by
  constructor
  · exact (required_of_run isBuiltin_of_labelled run_labelled).2.1 not_keepsFlag_of_labelled
  · have hdefaults : ∀ id, Registry.builtin.defaultsFor id = [] := fun _ => rfl
    exact (required_of_run allBuiltin_flaggedRoot run_flaggedRoot).2.2 hdefaults
      ⟨flaggedRoot, .refl, ⟨true, rfl⟩, rfl⟩

end Node

end Schemata
