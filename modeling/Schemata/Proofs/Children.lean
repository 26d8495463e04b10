import Schemata.Proofs.Boxing

/-! The children of a schema: which place each of them takes, and what the schema becomes when
all of them have one. -/
namespace Schemata

namespace Tree

/-- The name of a child that stands for one property. -/
def plainName? (c : Tree) : Option String := (c.get? "name").bind string?

/-- The source of the pattern that a child has for a name. -/
def patternName? (c : Tree) : Option String :=
  ((c.get? "name").bind fun name => name.get? Pattern.tag).bind string?

/-- The flag that tells the parent of a child whether to require it; a list under the same key
belongs to the child itself. -/
def flag? (c : Tree) : Option Bool :=
  match c.get? "required" with
  | some (.bool flag) => some flag
  | _ => none

def asksRequired (c : Tree) : Bool := c.flag?.getD false

/-- A child without the flag for its parent. -/
def withoutFlag : Tree → Tree
  | map fs => if (map fs).flag?.isSome then map (Fields.erase fs "required") else map fs
  | t => t

/-- The children with a plain name under it, in their order. -/
def plainNamed (cs : List Tree) : Fields Tree :=
  cs.filterMap fun c => c.plainName?.map fun name => (name, c.withoutFlag)

/-- The children with a pattern under its source, in their order. -/
def patternNamed (cs : List Tree) : Fields Tree :=
  cs.filterMap fun c => c.patternName?.map fun source => (source, c.withoutFlag)

/-- The plain names of the children that ask to be required, in their order. -/
def requiredNames (cs : List Tree) : List String :=
  cs.filterMap fun c => if c.asksRequired then c.plainName? else none

section Names
variable {c : Tree} {fs : Fields Tree}

lemma patternName?_of_plainName? {name : String} (h : c.plainName? = some name) :
    c.patternName? = none := by
  obtain ⟨t, hname, hstring⟩ := Option.bind_eq_some_iff.mp h
  rw [patternName?, hname]
  cases t with
  | string value => rfl
  | _ => cases hstring

lemma plainName?_of_patternName? {source : String} (h : c.patternName? = some source) :
    c.plainName? = none := by
  cases hplain : c.plainName? with
  | none => rfl
  | some name =>
    rw [patternName?_of_plainName? hplain] at h
    cases h

lemma plainName?_of_unnamed (h : c.get? "name" = none) : c.plainName? = none := by
  rw [plainName?, h, Option.bind_none]

lemma patternName?_of_unnamed (h : c.get? "name" = none) : c.patternName? = none := by
  rw [patternName?, h, Option.bind_none, Option.bind_none]

lemma isMap_of_get? {key : String} {t : Tree} (h : c.get? key = some t) : c.isMap = true := by
  cases c with
  | map fs => rfl
  | _ => cases h

/-- A child loses the flag for its parent and nothing else. -/
lemma get?_withoutFlag (c : Tree) (key : String) : c.withoutFlag.get? key =
    if key = "required" ∧ c.flag?.isSome then none else c.get? key := by
  cases c with
  | map fs =>
    rw [withoutFlag]
    by_cases hflag : (map fs).flag?.isSome = true
    · by_cases hkey : key = "required"
      · rw [if_pos hflag, if_pos ⟨hkey, hflag⟩, hkey]
        exact Fields.get?_erase_self fs "required"
      · rw [if_pos hflag, if_neg fun h => hkey h.1]
        exact Fields.get?_erase_of_ne fs (Ne.symm hkey)
    · rw [if_neg hflag, if_neg fun h => hflag h.2]
  | _ => simp [withoutFlag, get?]

lemma isMap_withoutFlag (c : Tree) : c.withoutFlag.isMap = c.isMap := by
  cases c with
  | map fs =>
    rw [withoutFlag]
    split <;> rfl
  | _ => rfl

lemma exists_of_mem_plainNamed {cs : List Tree} {e : String × Tree} (h : e ∈ plainNamed cs) :
    ∃ c ∈ cs, c.plainName? = some e.1 ∧ c.withoutFlag = e.2 := by
  obtain ⟨c, hc, hentry⟩ := List.mem_filterMap.mp h
  obtain ⟨name, hname, rfl⟩ := Option.map_eq_some_iff.mp hentry
  exact ⟨c, hc, hname, rfl⟩

lemma exists_of_mem_patternNamed {cs : List Tree} {e : String × Tree} (h : e ∈ patternNamed cs) :
    ∃ c ∈ cs, c.patternName? = some e.1 ∧ c.withoutFlag = e.2 := by
  obtain ⟨c, hc, hentry⟩ := List.mem_filterMap.mp h
  obtain ⟨source, hname, rfl⟩ := Option.map_eq_some_iff.mp hentry
  exact ⟨c, hc, hname, rfl⟩

lemma takeRequired_eq (fs : Fields Tree) : ∃ kept,
    takeRequired fs = ((map fs).asksRequired, kept) ∧ (map fs).withoutFlag = map kept := by
  have hflag : (map fs).flag? = match fs.get? "required" with
    | some (.bool flag) => some flag
    | _ => none := rfl
  unfold takeRequired asksRequired
  rw [withoutFlag, hflag]
  cases fs.get? "required" with
  | none => exact ⟨fs, rfl, rfl⟩
  | some t =>
    cases t with
    | bool flag => exact ⟨fs.erase "required", rfl, rfl⟩
    | _ => exact ⟨fs, rfl, rfl⟩

lemma childName_eq_plain_iff {name : String} :
    childName fs = .ok (.plain name) ↔ (map fs).plainName? = some name := by
  unfold childName plainName?
  simp only [get?]
  cases fs.get? "name" with
  | none => simp
  | some t =>
    cases t with
    | map tagged =>
      cases htag : Fields.get? tagged Pattern.tag with
      | none => simp [htag, string?]
      | some t => cases t <;> simp [htag, string?]
    | _ => simp [string?]

lemma childName_eq_pattern_iff {source : String} :
    childName fs = .ok (.pattern source) ↔ (map fs).patternName? = some source := by
  unfold childName patternName?
  simp only [get?]
  cases fs.get? "name" with
  | none => simp
  | some t =>
    cases t with
    | map tagged =>
      cases htag : Fields.get? tagged Pattern.tag with
      | none => simp [htag]
      | some t => cases t <;> simp [htag, string?]
    | _ => simp

end Names

end Tree

/-- The place of a child: among the properties, among the patterns, which cannot be required, or
in a list of choices of the schema, which takes what has no name. -/
inductive HasPlace (fs : Fields Tree) (c : Tree) : Prop where
  | plain {name : String} : c.plainName? = some name → HasPlace fs c
  | pattern {source : String} : c.patternName? = some source → c.asksRequired = false →
      HasPlace fs c
  | choice {key : String} {members : List Tree} : c.get? "name" = none → key ∈ choiceKeys →
      fs.get? key = some (.list members) → c.isMember members = true → HasPlace fs c

lemma isChoice_iff {fs : Fields Tree} {c : Tree} : isChoice fs c = true ↔
    c.get? "name" = none ∧ ∃ key ∈ choiceKeys, ∃ members,
      fs.get? key = some (.list members) ∧ c.isMember members = true := by
  rw [isChoice, Bool.and_eq_true, Option.isNone_iff_eq_none, List.any_eq_true]
  refine and_congr_right fun _ => exists_congr fun key => and_congr_right fun _ => ?_
  cases fs.get? key with
  | none => simp
  | some t => cases t <;> simp

lemma hasPlace_iff {fs : Fields Tree} {c : Tree} : HasPlace fs c ↔ isChoice fs c = true ∨
    c.plainName?.isSome ∨ c.patternName?.isSome ∧ c.asksRequired = false := by
  constructor
  · rintro (hplain | ⟨hpattern, hasks⟩ | ⟨hname, hkey, hget, hmember⟩)
    · exact .inr (.inl (by simp [hplain]))
    · exact .inr (.inr ⟨by simp [hpattern], hasks⟩)
    · exact .inl (isChoice_iff.mpr ⟨hname, _, hkey, _, hget, hmember⟩)
  · rintro (hchoice | hplain | ⟨hpattern, hasks⟩)
    · obtain ⟨hname, key, hkey, members, hget, hmember⟩ := isChoice_iff.mp hchoice
      exact .choice hname hkey hget hmember
    · obtain ⟨name, hname⟩ := Option.isSome_iff_exists.mp hplain
      exact .plain hname
    · obtain ⟨source, hsource⟩ := Option.isSome_iff_exists.mp hpattern
      exact .pattern hsource hasks

namespace Promotion

/-- A promotion after children were added to it, each under its name. -/
def addChildren (p : Promotion) (cs : List Tree) : Promotion where
  properties := p.properties.extend (Tree.plainNamed cs)
  patterns := p.patterns.extend (Tree.patternNamed cs)
  required := p.required ++ Tree.requiredNames cs

lemma addChildren_nil (p : Promotion) : p.addChildren [] = p := by
  simp [addChildren, Tree.plainNamed, Tree.patternNamed, Tree.requiredNames]

lemma addChildren_cons (p : Promotion) (c : Tree) (cs : List Tree) :
    p.addChildren (c :: cs) = (p.addChildren [c]).addChildren cs := by
  have happend {α β : Type} (f : α → Option β) (a : α) (as : List α) :
      (a :: as).filterMap f = [a].filterMap f ++ as.filterMap f := by
    rw [← List.filterMap_append, List.singleton_append]
  simp only [addChildren, Tree.plainNamed, Tree.patternNamed, Tree.requiredNames,
    happend _ c cs, Fields.extend_append, List.append_assoc]

lemma addChildren_unnamed (p : Promotion) {c : Tree} (h : c.get? "name" = none) :
    p.addChildren [c] = p := by
  simp [addChildren, Tree.plainNamed, Tree.patternNamed, Tree.requiredNames,
    Tree.plainName?_of_unnamed h, Tree.patternName?_of_unnamed h]

lemma addChildren_plain (p : Promotion) {c : Tree} {name : String}
    (h : c.plainName? = some name) : p.addChildren [c] =
      { p with
        properties := p.properties.insert name c.withoutFlag
        required := if c.asksRequired then p.required ++ [name] else p.required } := by
  simp only [addChildren, Tree.plainNamed, Tree.patternNamed, Tree.requiredNames,
    List.filterMap_cons, List.filterMap_nil, h, Tree.patternName?_of_plainName? h]
  cases c.asksRequired <;> simp

lemma addChildren_pattern (p : Promotion) {c : Tree} {source : String}
    (h : c.patternName? = some source) : p.addChildren [c] =
      { p with patterns := p.patterns.insert source c.withoutFlag } := by
  simp only [addChildren, Tree.plainNamed, Tree.patternNamed, Tree.requiredNames,
    List.filterMap_cons, List.filterMap_nil, h, Tree.plainName?_of_patternName? h]
  cases c.asksRequired <;> simp

/-- A child goes where its name says, unless it has none or is a pattern that is required. -/
lemma add_eq_ok_iff {p q : Promotion} {c : Tree} : p.add c = .ok q ↔
    (c.plainName?.isSome ∨ c.patternName?.isSome ∧ c.asksRequired = false) ∧
      q = p.addChildren [c] := by
  cases c with
  | map fs =>
    obtain ⟨kept, htake, hkept⟩ := Tree.takeRequired_eq fs
    cases hname : childName fs with
    | error fault =>
      have hplain : (Tree.map fs).plainName? = none := by
        cases hsome : (Tree.map fs).plainName? with
        | none => rfl
        | some name =>
          rw [Tree.childName_eq_plain_iff.mpr hsome] at hname
          cases hname
      have hpattern : (Tree.map fs).patternName? = none := by
        cases hsome : (Tree.map fs).patternName? with
        | none => rfl
        | some source =>
          rw [Tree.childName_eq_pattern_iff.mpr hsome] at hname
          cases hname
      simp [add, hname, hplain, hpattern, bind, Except.bind]
    | ok name =>
      simp only [add, hname, htake, bind, Except.bind]
      cases name with
      | plain name =>
        have hplain := Tree.childName_eq_plain_iff.mp hname
        rw [addChildren_plain p hplain, hkept, hplain]
        simp only [pure, Except.pure, Except.ok.injEq, Option.isSome_some, true_or, true_and]
        exact eq_comm
      | pattern source =>
        have hpattern := Tree.childName_eq_pattern_iff.mp hname
        have hplain := Tree.plainName?_of_patternName? hpattern
        rw [addChildren_pattern p hpattern, hkept, hpattern, hplain]
        cases (Tree.map fs).asksRequired with
        | true => simp [throw, throwThe, MonadExceptOf.throw]
        | false =>
          simp only [pure, Except.pure, Except.ok.injEq, Option.isSome_some, Option.isSome_none,
            and_self, or_true, true_and, if_neg Bool.false_ne_true]
          exact eq_comm
  | _ => simp [add, Tree.plainName?, Tree.patternName?, Tree.get?]

end Promotion

/-- All children have a place exactly if they are promoted, and what they are promoted to are
their entries in order. -/
theorem promoteFrom_eq_ok_iff {fs : Fields Tree} {path : Path} {i : Nat} {p q : Promotion}
    {cs : List Tree} : promoteFrom fs path i p cs = .ok q ↔
      (∀ c ∈ cs, HasPlace fs c) ∧ q = p.addChildren cs := by
  induction cs generalizing i p with
  | nil =>
    rw [promoteFrom, Promotion.addChildren_nil, Except.ok.injEq, eq_comm]
    simp
  | cons c cs ih =>
    rw [promoteFrom, List.forall_mem_cons, Promotion.addChildren_cons]
    cases hchoice : isChoice fs c with
    | true =>
      have hplace : HasPlace fs c := hasPlace_iff.mpr (.inl hchoice)
      rw [if_pos rfl, ih, Promotion.addChildren_unnamed p (isChoice_iff.mp hchoice).1]
      simp only [hplace, true_and]
    | false =>
      rw [if_neg Bool.false_ne_true, hasPlace_iff, hchoice]
      cases hadd : p.add c with
      | ok p' =>
        obtain ⟨hnamed, rfl⟩ := Promotion.add_eq_ok_iff.mp hadd
        simp only [ih, hnamed, or_true, true_and]
      | error fault =>
        have hnot : ¬ (c.plainName?.isSome ∨ c.patternName?.isSome ∧ c.asksRequired = false) := by
          intro hnamed
          rw [Promotion.add_eq_ok_iff.mpr ⟨hnamed, rfl⟩] at hadd
          cases hadd
        simp only [hnot, Bool.false_eq_true, or_self, false_and, reduceCtorEq]

namespace Tree

lemma same_string_iff {s : String} {t : Tree} : t.same (string s) = true ↔ t = string s := by
  cases t <;> simp [same]

lemma isMember_string_iff {s : String} {own : List String} :
    (string s).isMember (own.map string) = true ↔ s ∈ own := by
  simp [isMember, same_string_iff]

lemma all_isString_map (names : List String) : (names.map string).all isString = true := by
  simp [isString, string?]

end Tree

/-- Names go behind those that are required already, in their order, and each of them once. -/
lemma addRequired_eq (own names : List String) : addRequired (own.map .string) names =
    (own ++ (names.filter fun name => name ∉ own).eraseDups).map .string := by
  induction names generalizing own with
  | nil => simp [addRequired]
  | cons name names ih =>
    have hstep : addRequired (own.map .string) (name :: names) =
        addRequired (if (Tree.string name).isMember (own.map .string) then own.map .string
          else own.map .string ++ [.string name]) names := rfl
    rw [hstep]
    by_cases hmem : name ∈ own
    · rw [if_pos (Tree.isMember_string_iff.mpr hmem), ih]
      simp [hmem]
    · rw [if_neg (fun h => hmem (Tree.isMember_string_iff.mp h))]
      have hown : own.map Tree.string ++ [.string name] = (own ++ [name]).map .string := by simp
      have hfilter : names.filter (fun other => other ∉ own ++ [name]) =
          (names.filter fun other => other ∉ own).filter fun other => !other == name := by
        rw [List.filter_filter]
        refine List.filter_congr fun other _ => ?_
        rw [Bool.eq_iff_iff]
        simp [and_comm]
      rw [hown, ih, hfilter]
      simp [hmem, List.eraseDups_cons]

/-- What stands under `required` lists names, or is no more than a flag. -/
inductive RequiresOwn : Option Tree → List String → Prop where
  | absent : RequiresOwn none []
  | null : RequiresOwn (some .null) []
  | flag (value : Bool) : RequiresOwn (some (.bool value)) []
  | names (own : List String) : RequiresOwn (some (.list (own.map .string))) own

lemma ownRequired_of_all_isString {entries : List Tree} (h : entries.all Tree.isString = true) :
    ownRequired (some (.list entries)) = .ok entries := by
  have hfind : entries.find? (fun t => !t.isString) = none := by
    rw [List.find?_eq_none]
    intro t ht
    simpa using List.all_eq_true.mp h t ht
  rw [ownRequired, hfind]

lemma RequiresOwn.ownRequired_eq {value : Option Tree} {own : List String}
    (h : RequiresOwn value own) : ownRequired value = .ok (own.map .string) := by
  cases h with
  | names own => exact ownRequired_of_all_isString (Tree.all_isString_map own)
  | _ => rfl

lemma exists_mergeRequired_of_own {fs : Fields Tree} {own : List Tree} (path : Path)
    (names : List String) (h : ownRequired (fs.get? "required") = .ok own) :
    ∃ gs, mergeRequired fs path names = .ok gs := by
  unfold mergeRequired
  split
  · exact ⟨fs, rfl⟩
  · rw [h]
    exact ⟨_, rfl⟩

/-- The entries that stand under a key already. -/
def entriesOf : Option Tree → Fields Tree
  | some (.map entries) => entries
  | _ => []

/-- What stands under a key after entries were written there, each under its name. -/
def withEntries (value : Option Tree) (entries : Fields Tree) : Option Tree :=
  if entries = [] then value else some (.map (Fields.extend (entriesOf value) entries))

lemma get?_mergeEntries (fs : Fields Tree) (key : String) (entries : Fields Tree) :
    (mergeEntries fs key (Fields.ofEntries entries)).get? key =
      withEntries (fs.get? key) entries := by
  cases entries with
  | nil => rfl
  | cons e entries =>
    have hmem : e.1 ∈ (Fields.ofEntries (e :: entries)).keys :=
      Fields.mem_keys_extend.mpr (.inr List.mem_cons_self)
    have hne : (Fields.ofEntries (e :: entries)).isEmpty = false := by
      rw [List.isEmpty_eq_false_iff]
      intro hnil
      rw [hnil] at hmem
      cases hmem
    rw [mergeEntries, hne, withEntries, if_neg (List.cons_ne_nil e entries)]
    simp only [Bool.false_eq_true, if_false]
    split
    · rename_i existing hget
      rw [Fields.get?_insert_self, hget, entriesOf, Fields.extend_ofEntries]
    · rename_i hget
      rw [Fields.get?_insert_self, Fields.ofEntries]
      congr 3
      unfold entriesOf
      split
      · rename_i existing hmap
        exact absurd hmap (hget existing)
      · rfl

section Promote
variable {fs gs : Fields Tree} {path : Path} {cs : List Tree}

/-- One step of a promotion writes the properties, and the others leave them as they are. -/
lemma get?_properties_of_promote (h : promote fs path (.list cs) = .ok gs) :
    gs.get? "properties" = withEntries (fs.get? "properties") (Tree.plainNamed cs) := by
  obtain ⟨p, hs, hp, hr, rfl⟩ := promote_eq_ok_iff.mp h
  obtain rfl := (promoteFrom_eq_ok_iff.mp hp).2
  rw [(mergeEntries_agree _ _ _).get?_eq _ (by decide),
    ← (mergeRequired_agree hr).get?_eq _ (by decide)]
  exact get?_mergeEntries hs "properties" (Tree.plainNamed cs)

lemma get?_patterns_of_promote (h : promote fs path (.list cs) = .ok gs) :
    gs.get? "pattern_properties" =
      withEntries (fs.get? "pattern_properties") (Tree.patternNamed cs) := by
  obtain ⟨p, hs, hp, hr, rfl⟩ := promote_eq_ok_iff.mp h
  obtain rfl := (promoteFrom_eq_ok_iff.mp hp).2
  let ps := Fields.ofEntries (Tree.plainNamed cs)
  rw [← (mergeRequired_agree hr).get?_eq _ (by decide),
    ← (mergeEntries_agree hs "properties" ps).get?_eq _ (by decide)]
  exact get?_mergeEntries (mergeEntries hs "properties" ps) _ (Tree.patternNamed cs)

lemma get?_required_of_promote (h : promote fs path (.list cs) = .ok gs) {own : List Tree}
    (hown : ownRequired (fs.get? "required") = .ok own) :
    gs.get? "required" = if Tree.requiredNames cs = [] then fs.get? "required"
      else some (.list (addRequired own (Tree.requiredNames cs))) := by
  obtain ⟨p, hs, hp, hr, rfl⟩ := promote_eq_ok_iff.mp h
  obtain rfl := (promoteFrom_eq_ok_iff.mp hp).2
  rw [(mergeEntries_agree _ _ _).get?_eq _ (by decide),
    (mergeEntries_agree _ _ _).get?_eq _ (by decide)]
  exact get?_mergeRequired hr hown

end Promote

/-- A schema whose children all have a place. The names in `own` are those that it requires
itself. -/
structure Promotable (fs : Fields Tree) (cs : List Tree) (own : List String) : Prop where
  nodup : fs.keys.Nodup
  items_eq : fs.get? "items" = none
  not_nullable : isNullable fs = false
  children_eq : fs.get? "children" = some (.list cs)
  place : ∀ c ∈ cs, HasPlace fs c
  requires : RequiresOwn (fs.get? "required") own

/-- A schema after its children went to their places. -/
structure Promoted (fs : Fields Tree) (cs : List Tree) (own : List String) (gs : Fields Tree) :
    Prop where
  nodup : gs.keys.Nodup
  children_eq : gs.get? "children" = none
  properties_eq : gs.get? "properties" = withEntries (fs.get? "properties") (Tree.plainNamed cs)
  patterns_eq : gs.get? "pattern_properties" =
    withEntries (fs.get? "pattern_properties") (Tree.patternNamed cs)
  required_eq : gs.get? "required" =
    if Tree.requiredNames cs = [] then fs.get? "required"
    else some (.list ((own ++
      ((Tree.requiredNames cs).filter fun name => name ∉ own).eraseDups).map .string))
  others_eq : ∀ key ∉ ["children", "properties", "pattern_properties", "required"],
    gs.get? key = fs.get? key
  /-- No child goes to two places. -/
  once : ∀ c ∈ cs, c.plainName? = none ∨ c.patternName? = none
  /-- A child without a name is left to the choices. -/
  unnamed : ∀ c ∈ cs, c.get? "name" = none → c.plainName? = none ∧ c.patternName? = none
  /-- A child stays as it is but for the flag for its parent. -/
  stripped : ∀ c ∈ cs, ∀ key, c.withoutFlag.get? key =
    if key = "required" ∧ c.flag?.isSome then none else c.get? key

namespace Promotable
variable {fs : Fields Tree} {cs : List Tree} {own : List String}

lemma promoteFrom_eq (h : Promotable fs cs own) (path : Path) :
    promoteFrom (fs.erase "children") path 0 {} cs = .ok (({} : Promotion).addChildren cs) := by
  refine promoteFrom_eq_ok_iff.mpr ⟨fun c hc => ?_, rfl⟩
  have hplace := h.place c hc
  rw [hasPlace_iff] at hplace ⊢
  rwa [isChoice_erase (by decide)]

/-- All children of a schema without items are promoted at once: the plain names behind its
properties, the patterns behind its patterns, and the required ones behind those it lists. -/
theorem exists_promoted (h : Promotable fs cs own) (path : Path) :
    ∃ gs, desugarFields fs path = .ok gs ∧ Promoted fs cs own gs := by
  have hget : ∀ key, "children" ≠ key → (fs.erase "children").get? key = fs.get? key :=
    fun key hne => Fields.get?_erase_of_ne fs hne
  have hown : ownRequired ((fs.erase "children").get? "required") = .ok (own.map .string) := by
    rw [hget _ (by decide)]
    exact h.requires.ownRequired_eq
  obtain ⟨hs, hhs⟩ := exists_mergeRequired_of_own path (Tree.requiredNames cs) hown
  obtain ⟨gs, hgs⟩ : ∃ gs, promote (fs.erase "children") path (.list cs) = .ok gs :=
    ⟨_, promote_eq_ok_iff.mpr ⟨_, hs, h.promoteFrom_eq path, hhs, rfl⟩⟩
  have hagree := promote_agree hgs
  refine ⟨gs, ?_, ?_⟩
  · rw [desugarFields_eq_settle, branchNull_of_not_nullable h.not_nullable, settle,
      Fields.contains, h.items_eq, h.children_eq]
    exact hgs
  constructor
  case nodup => exact hagree.nodup (Fields.nodup_erase _ h.nodup)
  case children_eq => rw [hagree.get?_eq _ (by decide), Fields.get?_erase_self]
  case properties_eq => rw [get?_properties_of_promote hgs, hget _ (by decide)]
  case patterns_eq => rw [get?_patterns_of_promote hgs, hget _ (by decide)]
  case required_eq => rw [get?_required_of_promote hgs hown, hget _ (by decide), addRequired_eq]
  case others_eq =>
    intro key hkey
    simp only [List.mem_cons, List.not_mem_nil, or_false, not_or] at hkey
    obtain ⟨hchildren, hproperties, hpatterns, hrequired⟩ := hkey
    rw [hagree.get?_eq key (by simp [hproperties, hpatterns, hrequired]),
      hget key (Ne.symm hchildren)]
  case once =>
    intro c _
    cases hplain : c.plainName? with
    | none => exact .inl rfl
    | some name => exact .inr (Tree.patternName?_of_plainName? hplain)
  case unnamed =>
    exact fun c _ hname => ⟨Tree.plainName?_of_unnamed hname, Tree.patternName?_of_unnamed hname⟩
  case stripped => exact fun c _ key => Tree.get?_withoutFlag c key

end Promotable

/-- A child that names the property it stands for, and asks to be required. -/
def idChild : Tree := .map [("kind", .string "integer"), ("name", .string "id"),
  ("required", .bool true)]

/-- A child for all properties with a prefix. -/
def flagsChild : Tree := .map [("kind", .string "boolean"),
  ("name", .map [(Pattern.tag, .string "^is-")])]

/-- An object with a property that a child overwrites, with a pattern and with a choice. -/
def mixedObject : Fields Tree := [("kind", .string "object"), ("any_of", .list [nullSchema]),
  ("properties", .map [("id", .map [("kind", .string "string")])]),
  ("required", .list [.string "size"]), ("children", .list [idChild, flagsChild, nullSchema])]

lemma promotable_mixedObject :
    Promotable mixedObject [idChild, flagsChild, nullSchema] ["size"] where
  nodup := by decide
  items_eq := rfl
  not_nullable := rfl
  children_eq := rfl
  place := by
    simp only [List.forall_mem_cons, List.not_mem_nil, false_implies, implies_true, and_true]
    have hid : HasPlace mixedObject idChild := .plain rfl
    have hflags : HasPlace mixedObject flagsChild := .pattern rfl rfl
    have hnull : HasPlace mixedObject nullSchema := hasPlace_iff.mpr (.inl (by decide))
    exact ⟨hid, hflags, hnull⟩
  requires := .names ["size"]

theorem exists_promoted_mixedObject :
    Promotable mixedObject [idChild, flagsChild, nullSchema] ["size"] ∧
    ∃ gs, desugarFields mixedObject [] = .ok gs ∧
      Promoted mixedObject [idChild, flagsChild, nullSchema] ["size"] gs :=
  ⟨promotable_mixedObject, promotable_mixedObject.exists_promoted []⟩

/-- The choice of null with a flag for a parent that does not ask for its name. -/
def flaggedNull : Tree := .map [("kind", .string "null"), ("required", .bool true)]

/-- An object whose only child is left to its choices. -/
def flaggedChoice : Fields Tree := [("kind", .string "object"), ("any_of", .list [flaggedNull]),
  ("children", .list [flaggedNull])]

/-- The flag of a child that is left to the choices has no name to require: `required` does not
become a list on its account. -/
theorem flag_of_choice_unheard : ¬ ∀ fs cs own, Promotable fs cs own →
    (∃ c ∈ cs, c.asksRequired = true) → ∀ gs, desugarFields fs [] = .ok gs →
      gs.get? "required" = some (.list ((own ++
        ((Tree.requiredNames cs).filter fun name => name ∉ own).eraseDups).map .string)) := by
  intro hall
  have hpromotable : Promotable flaggedChoice [flaggedNull] [] := by
    refine ⟨by decide, rfl, rfl, rfl, fun c hc => ?_, .absent⟩
    obtain rfl := List.mem_singleton.mp hc
    exact hasPlace_iff.mpr (.inl (by decide))
  have hasks : ∃ c ∈ [flaggedNull], c.asksRequired = true := ⟨_, List.mem_singleton_self _, rfl⟩
  have hrun : desugarFields flaggedChoice [] = .ok (flaggedChoice.erase "children") := rfl
  cases hall _ _ _ hpromotable hasks _ hrun

end Schemata
