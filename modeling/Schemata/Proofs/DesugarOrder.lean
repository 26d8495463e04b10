import Schemata.Proofs.KeyOrder

/-! The order of keys has no meaning to desugaring either, and so to no pass: what it reads of a
schema it looks up, and what it writes in order comes from lists. -/
namespace Schemata

open Schemata.Tree (Alike)

section Fields
variable {fs gs : Fields Tree}

lemma Fields.Matches.branchNull (h : Fields.Matches Alike fs gs) :
    Fields.Matches Alike (branchNull fs) (branchNull gs) := by
  have hnullable : (fs.get? "nullable").any Tree.isTruthy =
      (gs.get? "nullable").any Tree.isTruthy := by
    generalize fs.get? "nullable" = v, gs.get? "nullable" = w, h.get? "nullable" = hvw
    cases hvw with
    | none => rfl
    | some hvw => exact hvw.isTruthy_eq
  have hrest := h.erase "nullable"
  have hnull := hrest.insert "any_of" (Alike.refl (.list [nullSchema]))
  unfold Schemata.branchNull
  rw [hnullable]
  split
  · simp only
    cases hv : (fs.erase "nullable").get? "any_of" with
    | none =>
      rw [hrest.get?_eq_none hv]
      exact hnull
    | some v =>
      obtain ⟨w, hw, hvw⟩ := hrest.exists_of_get? hv
      rw [hw]
      cases hvw.level with
      | list hbranches =>
        simp only [(Alike.refl nullSchema).isMember_eq hbranches]
        split
        · exact hrest
        · refine hrest.insert "any_of" (Tree.alike_list_iff.mpr ?_)
          exact List.rel_append hbranches (.cons (.refl _) .nil)
      | _ => exact hnull
  · exact h

lemma Fields.Matches.unwrapItems (h : Fields.Matches Alike fs gs) :
    Fields.Matches Alike (unwrapItems fs) (unwrapItems gs) := by
  unfold Schemata.unwrapItems
  cases hv : fs.get? "items" with
  | none =>
    rw [h.get?_eq_none hv]
    exact h
  | some v =>
    obtain ⟨w, hw, hvw⟩ := h.exists_of_get? hv
    rw [hw]
    cases hvw.level with
    | @map wrapper wrapper' hwrapper =>
      cases hc : Fields.get? wrapper "children" with
      | none =>
        simp only [hc, hwrapper.get?_eq_none hc]
        exact h
      | some c =>
        obtain ⟨d, hd, hcd⟩ := hwrapper.exists_of_get? hc
        simp only [hc, hd]
        cases hcd.level with
        | list hchildren =>
          cases hchildren with
          | nil => exact h
          | cons honly hrest =>
            cases hrest with
            | nil => exact h.insert "items" honly
            | cons _ _ => exact h
        | _ => exact h
    | _ => exact h

lemma childName_eq (h : Fields.Matches Alike fs gs) : childName fs = childName gs := by
  unfold childName
  generalize fs.get? "name" = v, gs.get? "name" = w, h.get? "name" = hname
  cases hname with
  | none => rfl
  | some hvw =>
    cases hvw.level with
    | map htagged =>
      simp only
      generalize Fields.get? _ Pattern.tag = v, Fields.get? _ Pattern.tag = w,
        htagged.get? Pattern.tag = htag
      cases htag with
      | none => rfl
      | some hvw => cases hvw.level <;> rfl
    | _ => rfl

lemma takeRequired_matches (h : Fields.Matches Alike fs gs) :
    (takeRequired fs).1 = (takeRequired gs).1 ∧
      Fields.Matches Alike (takeRequired fs).2 (takeRequired gs).2 := by
  unfold takeRequired
  generalize fs.get? "required" = v, gs.get? "required" = w, h.get? "required" = hrequired
  cases hrequired with
  | none => exact ⟨rfl, h⟩
  | some hvw =>
    cases hvw.level with
    | bool b => exact ⟨rfl, h.erase "required"⟩
    | _ => exact ⟨rfl, h⟩

lemma isChoice_eq (h : Fields.Matches Alike fs gs) {t u : Tree} (htu : Alike t u) :
    isChoice fs t = isChoice gs u := by
  have hname : (t.get? "name").isNone = (u.get? "name").isNone := by
    cases htu.level with
    | map hfields =>
      simp only [Tree.get?]
      generalize Fields.get? _ "name" = v, Fields.get? _ "name" = w, hfields.get? "name" = hname
      cases hname <;> rfl
    | _ => rfl
  unfold isChoice
  rw [hname]
  congr 2
  funext key
  generalize fs.get? key = v, gs.get? key = w, h.get? key = hkey
  cases hkey with
  | none => rfl
  | some hvw =>
    cases hvw.level with
    | list hmembers => exact htu.isMember_eq hmembers
    | _ => rfl

end Fields

/-- Promotions that put equal children under the same names in the same order. -/
structure Promotion.Alike (p q : Promotion) : Prop where
  properties : Fields.Rel (fun _ => Tree.Alike) p.properties q.properties
  patterns : Fields.Rel (fun _ => Tree.Alike) p.patterns q.patterns
  required : p.required = q.required

lemma Promotion.Alike.exists_add {p q p' : Promotion} (h : p.Alike q) {t u : Tree}
    (htu : Tree.Alike t u) (hp : p.add t = .ok p') : ∃ q', q.add u = .ok q' ∧ p'.Alike q' := by
  cases htu.level with
  | @map child child' hfields =>
    obtain ⟨hflag, hrest⟩ := takeRequired_matches hfields
    have hchild := Tree.alike_map_iff.mpr hrest
    simp only [Promotion.add, ← childName_eq hfields, ← hflag, bind, Except.bind] at hp ⊢
    cases hname : childName child with
    | error fault =>
      rw [hname] at hp
      cases hp
    | ok name =>
      rw [hname] at hp
      cases name with
      | plain name =>
        cases hp
        refine ⟨_, rfl, h.properties.insert name hchild, h.patterns, ?_⟩
        rw [h.required]
      | pattern source =>
        cases hrequired : (takeRequired child).1 with
        | true =>
          rw [hrequired] at hp
          cases hp
        | false =>
          rw [hrequired] at hp
          cases hp
          exact ⟨_, rfl, h.properties, h.patterns.insert source hchild, h.required⟩
  | _ => cases hp

lemma exists_promoteFrom {fs gs : Fields Tree} (h : Fields.Matches Alike fs gs) {path : Path}
    {i : Nat} {children children' : List Tree} (hc : List.Forall₂ Alike children children')
    {p q p' : Promotion} (hpq : p.Alike q) (hp : promoteFrom fs path i p children = .ok p') :
    ∃ q', promoteFrom gs path i q children' = .ok q' ∧ p'.Alike q' := by
  induction hc generalizing i p q with
  | nil =>
    cases hp
    exact ⟨q, rfl, hpq⟩
  | @cons t u _ _ htu _ ih =>
    simp only [promoteFrom, isChoice_eq h htu] at hp ⊢
    split at hp
    · rename_i hchoice
      rw [if_pos hchoice]
      exact ih hpq hp
    · rename_i hchoice
      rw [if_neg hchoice]
      cases ha : p.add t with
      | error fault =>
        rw [ha] at hp
        cases hp
      | ok r =>
        rw [ha] at hp
        obtain ⟨s, hs, hrs⟩ := hpq.exists_add htu ha
        rw [hs]
        exact ih hrs hp

lemma exists_ownRequired {v w : Option Tree} (h : Option.Rel Alike v w) {own : List Tree}
    (hown : ownRequired v = .ok own) :
    ∃ own', ownRequired w = .ok own' ∧ List.Forall₂ Alike own own' := by
  cases h with
  | none =>
    cases hown
    exact ⟨[], rfl, .nil⟩
  | some hvw =>
    cases hvw.level with
    | @list ts us hts =>
      simp only [ownRequired] at hown ⊢
      cases hstrings : ts.find? fun t => !t.isString with
      | some bad =>
        rw [hstrings] at hown
        cases hown
      | none =>
        rw [hstrings] at hown
        cases hown
        have hnone : us.find? (fun t => !t.isString) = none := by
          rw [List.find?_eq_none] at hstrings ⊢
          intro u hu
          obtain ⟨t, ht, htu⟩ := exists_of_mem_right hts hu
          rw [Tree.isString, ← htu.string?_eq]
          exact hstrings t ht
        exact ⟨us, by rw [hnone], hts⟩
    | null =>
      cases hown
      exact ⟨[], rfl, .nil⟩
    | bool b =>
      cases hown
      exact ⟨[], rfl, .nil⟩
    | _ => cases hown

lemma addRequired_alike {own own' : List Tree} (h : List.Forall₂ Alike own own')
    (names : List String) :
    List.Forall₂ Alike (addRequired own names) (addRequired own' names) := by
  induction names generalizing own own' with
  | nil => exact h
  | cons name names ih =>
    apply ih
    simp only [(Alike.refl (.string name)).isMember_eq h]
    split
    · exact h
    · exact List.rel_append h (.cons (.refl _) .nil)

lemma exists_mergeRequired {fs gs fs' : Fields Tree} (h : Fields.Matches Alike fs gs)
    {path : Path} {names : List String} (hfs : mergeRequired fs path names = .ok fs') :
    ∃ gs', mergeRequired gs path names = .ok gs' ∧ Fields.Matches Alike fs' gs' := by
  unfold mergeRequired at hfs ⊢
  split at hfs
  · rename_i hnames
    cases hfs
    exact ⟨gs, if_pos hnames, h⟩
  · rename_i hnames
    cases hown : ownRequired (fs.get? "required") with
    | error fault =>
      rw [hown] at hfs
      cases hfs
    | ok own =>
      rw [hown] at hfs
      cases hfs
      obtain ⟨own', hown', hall⟩ := exists_ownRequired (h.get? "required") hown
      rw [if_neg hnames, hown']
      refine ⟨_, rfl, (h.erase "required").insert "required" (Tree.alike_list_iff.mpr ?_)⟩
      exact addRequired_alike hall names

lemma mergeEntries_matches {fs gs es es' : Fields Tree} (h : Fields.Matches Alike fs gs)
    (key : String) (hes : Fields.Rel (fun _ => Alike) es es') :
    Fields.Matches Alike (mergeEntries fs key es) (mergeEntries gs key es') := by
  have hnew := h.insert key (Tree.alike_map_iff.mpr (.of_rel hes))
  unfold mergeEntries
  cases hes with
  | nil => exact h
  | cons hef hrest =>
    simp only [List.isEmpty_cons, Bool.false_eq_true, if_false]
    cases hv : fs.get? key with
    | none =>
      rw [h.get?_eq_none hv]
      exact hnew
    | some v =>
      obtain ⟨w, hw, hvw⟩ := h.exists_of_get? hv
      rw [hw]
      cases hvw.level with
      | map hexisting =>
        exact h.insert key (Tree.alike_map_iff.mpr (hexisting.extend (.cons hef hrest)))
      | _ => exact hnew

lemma exists_promote {fs gs fs' : Fields Tree} (h : Fields.Matches Alike fs gs) {path : Path}
    {t u : Tree} (htu : Alike t u) (hfs : promote fs path t = .ok fs') :
    ∃ gs', promote gs path u = .ok gs' ∧ Fields.Matches Alike fs' gs' := by
  cases htu.level with
  | list hchildren =>
    obtain ⟨p, hs, hp, hr, rfl⟩ := promote_eq_ok_iff.mp hfs
    have hnew : Promotion.Alike {} {} := ⟨List.Forall₂.nil, List.Forall₂.nil, rfl⟩
    obtain ⟨q, hq, hpq⟩ := exists_promoteFrom h hchildren hnew hp
    obtain ⟨ks, hks, hall⟩ := exists_mergeRequired h hr
    refine ⟨_, promote_eq_ok_iff.mpr ⟨q, ks, hq, hpq.required ▸ hks, rfl⟩, ?_⟩
    exact mergeEntries_matches (mergeEntries_matches hall _ hpq.properties) _ hpq.patterns
  | _ => cases hfs

/-- What a level settles on does not depend on the order of its keys, nor does whether it does. -/
theorem exists_settle {fs gs fs' : Fields Tree} (h : Fields.Matches Alike fs gs) {path : Path}
    (hfs : settle fs path = .ok fs') :
    ∃ gs', settle gs path = .ok gs' ∧ Fields.Matches Alike fs' gs' := by
  have hitems : fs.contains "items" = gs.contains "items" := by
    rw [Bool.eq_iff_iff, Fields.contains, Fields.contains, Fields.get?_isSome_iff,
      Fields.get?_isSome_iff]
    exact h.mem_keys_iff
  unfold settle at hfs ⊢
  rw [hitems] at hfs
  split at hfs
  · rename_i hcontains
    cases hfs
    exact ⟨_, if_pos hcontains, h.unwrapItems⟩
  · rename_i hcontains
    rw [if_neg hcontains]
    cases hv : fs.get? "children" with
    | none =>
      rw [hv] at hfs
      cases hfs
      rw [h.get?_eq_none hv]
      exact ⟨gs, rfl, h⟩
    | some v =>
      obtain ⟨w, hw, hvw⟩ := h.exists_of_get? hv
      rw [hv] at hfs
      rw [hw]
      exact exists_promote (h.erase "children") hvw hfs

/-- The schemas inside a settled level are less deep than it, the choice of null apart. -/
lemma depth_of_settle {fs gs : Fields Tree} (h : settle (branchNull fs) [] = .ok gs)
    {e : String × Tree} (he : e ∈ gs) {t : Tree} (ht : t ∈ schemasUnder e.1 e.2) :
    t.depth < (Tree.map fs).depth ∨ t = nullSchema := by
  have hdepth := depth_of_mem_schemasUnder ht
  rcases shallow_desugarFields h e he with hvalue | ⟨ts, hts, hitems⟩
  · simp only [Tree.depth]
    omega
  · rw [hts] at ht
    simpa only [Tree.depth] using hitems t (mem_of_mem_schemasUnder_list ht)

/-- Equal trees desugar to equal trees, if one of them does. -/
theorem Desugars.exists_alike {t t' u : Tree} (ht : Desugars t t') (h : Alike t u) :
    ∃ u', Desugars u u' ∧ Alike t' u' := by
  induction t using Tree.depth_induction generalizing t' u with
  | leaf t hm =>
    have hum : u.isMap = false := h.isMap_eq.trans hm
    obtain rfl := ht.unique (desugars_of_not_map hm)
    exact ⟨u, desugars_of_not_map hum, h⟩
  | map fs ih =>
    obtain ⟨gs, rfl, hgs⟩ := h.exists_map
    obtain ⟨fs', hs, hfs', hrel, rfl⟩ := desugars_map_iff.mp ht
    obtain ⟨gs', hgs', hsettled⟩ := exists_settle hgs.branchNull hfs'
    have hinner : ∀ e ∈ fs', ∀ t ∈ schemasUnder e.1 e.2, ∀ t' u, Desugars t t' → Alike t u →
        ∃ u', Desugars u u' ∧ Alike t' u' := by
      intro e he t htmem t' u htt htu
      rcases depth_of_settle hfs' he htmem with hless | rfl
      · exact ih t hless htt htu
      · have hnull : Desugars nullSchema nullSchema := rfl
        obtain rfl := htt.unique hnull
        obtain rfl := Tree.nullSchema_same_iff.mp htu
        exact ⟨_, hnull, .refl _⟩
    -- a schema inside the one level has its equal inside the other, which desugars with it
    have hexists : ∃ ks, Fields.Rel (InSlot Desugars) gs' ks := by
      rw [Fields.exists_rel_iff]
      rintro ⟨key, w⟩ hw
      rw [InSlot.exists_iff]
      intro u hu
      obtain ⟨v, hv, hvw⟩ := exists_of_mem_right (hsettled key) (Fields.mem_valuesAt.mpr hw)
      have hmem := Fields.mem_valuesAt.mp hv
      obtain ⟨t, htmem, htu⟩ := Tree.exists_schemasUnder_of_same hvw hu
      have hslot := Fields.exists_rel_iff.mp ⟨hs, hrel⟩ (key, v) hmem
      obtain ⟨t', htt⟩ := InSlot.exists_iff.mp hslot t htmem
      obtain ⟨u', hu', _⟩ := hinner (key, v) hmem t htmem t' u htt htu
      exact ⟨u', hu'⟩
    obtain ⟨ks, hks⟩ := hexists
    refine ⟨.map ks, desugars_map_iff.mpr ⟨gs', ks, hgs', hks, rfl⟩, ?_⟩
    refine Tree.alike_map_iff.mpr (hsettled.of_rel_inSlot hrel hks ?_)
    intro e he t htmem u t' u' htu htt huu
    obtain ⟨u'', hu'', halike⟩ := hinner e he t htmem t' u htt htu
    rwa [huu.unique hu'']

/-- Both fail, or both yield equal trees. -/
def AlikeOutcome : Except Error Tree → Except Error Tree → Prop
  | .ok t, .ok u => t.same u = true
  | .error _, .error _ => True
  | _, _ => False

lemma desugar_alike {t u : Tree} (h : Alike t u) : AlikeOutcome (desugar t) (desugar u) := by
  cases ht : desugar t with
  | ok t' =>
    have htt : Desugars t t' := ht
    obtain ⟨u', hu, halike⟩ := htt.exists_alike h
    rw [show desugar u = .ok u' from hu]
    exact halike
  | error e =>
    cases hu : desugar u with
    | ok u' =>
      have huu : Desugars u u' := hu
      obtain ⟨t', htt, _⟩ := huu.exists_alike h.symm
      rw [show desugar t = .ok t' from htt] at ht
      cases ht
    | error e' => exact True.intro

namespace Pass

/-- The order of keys never changes meaning: on equal trees desugaring, boxing and stripping fail
or yield equal trees, and so does respelling where no schema has two keys of one spelling. -/
theorem apply_of_same (c : RenderContext) {t u : Tree} (h : t.same u = true) :
    (∀ pass ∈ [Pass.desugar, Pass.box, Pass.strip],
      AlikeOutcome (pass.apply c t) (pass.apply c u)) ∧
    (SpelledApart t → AlikeOutcome (Pass.respell.apply c t) (Pass.respell.apply c u)) := by
  constructor
  · intro pass hpass
    simp only [List.mem_cons, List.not_mem_nil, or_false] at hpass
    rcases hpass with rfl | rfl | rfl
    · exact desugar_alike h
    · exact box_alike c.kinds h
    · exact strip_alike h
  · exact fun ht => respell_alike ht h

/-- A nullable array of texts with a child; the array and the texts start with their kinds. -/
def kindFirst : Tree := .map [("kind", .string "array"), ("nullable", .bool true),
  ("items", .map [("kind", .string "string"), ("min_length", .number (.int 1))])]

/-- The same array, with the kinds at the end. -/
def kindLast : Tree := .map [("items", .map [("min_length", .number (.int 1)),
  ("kind", .string "string")]), ("nullable", .bool true), ("kind", .string "array")]

lemma spelledApart_kindFirst : SpelledApart kindFirst := by
  apply SpelledApart.map (by decide)
  · rintro t ⟨hmem, ht⟩
    simp only [List.mem_cons, Prod.mk.injEq, List.not_mem_nil, or_false] at hmem
    rcases hmem with ⟨rfl, rfl⟩ | ⟨rfl, rfl⟩ | ⟨rfl, rfl⟩
    · cases ht
    · cases ht
    · obtain rfl := List.mem_singleton.mp ht
      apply SpelledApart.map (by decide)
      · rintro u ⟨hmem, hu⟩
        simp only [List.mem_cons, Prod.mk.injEq, List.not_mem_nil, or_false] at hmem
        rcases hmem with ⟨rfl, rfl⟩ | ⟨rfl, rfl⟩ <;> cases hu

theorem apply_of_same_kindFirst : kindFirst.same kindLast = true ∧
    AlikeOutcome (Pass.desugar.apply ⟨.builtin, none⟩ kindFirst)
      (Pass.desugar.apply ⟨.builtin, none⟩ kindLast) ∧
    AlikeOutcome (Pass.respell.apply ⟨.builtin, none⟩ kindFirst)
      (Pass.respell.apply ⟨.builtin, none⟩ kindLast) := by
  have hsame : kindFirst.same kindLast = true := by decide
  obtain ⟨hpasses, hrespell⟩ := apply_of_same ⟨.builtin, none⟩ hsame
  exact ⟨hsame, hpasses _ List.mem_cons_self, hrespell spelledApart_kindFirst⟩

end Pass

end Schemata
