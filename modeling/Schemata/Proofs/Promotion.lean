import Schemata.Proofs.Builtin
import Schemata.Proofs.Children

/-! The children of a node as properties of its tree. -/
namespace Schemata

namespace Node

/-- Whether a node asks its parent to require it. -/
def isRequired (n : Node) : Bool :=
  match n.attr? "required" with
  | some (.literal (.bool flag)) => flag
  | _ => false

/-- The node without the flag for its parent. -/
def clearRequired (n : Node) : Node :=
  match n.attr? "required" with
  | some (.literal (.bool _)) => mk n.kind (Fields.erase n.attributes "required")
  | _ => n

/-- The names of the properties that a node requires itself. -/
def ownNames (n : Node) : List String :=
  match n.attr? "required" with
  | some (.literal (.list items)) => items.filterMap Tree.string?
  | _ => []

/-- The patterns of a node under which schemas stand already. -/
def ownPatterns (n : Node) : Fields Node :=
  match n.attr? "pattern_properties" with
  | some (.nodeMap es) => es
  | _ => []

/-- The nodes with a plain name under their names, without their flags. -/
def plainNamed (ns : List Node) : Fields Node := ns.filterMap fun n =>
  match n.name? with
  | some (.plain name) => some (name, n.clearRequired)
  | _ => none

/-- The nodes with a pattern for a name under its source, without their flags. -/
def patternNamed (ns : List Node) : Fields Node := ns.filterMap fun n =>
  match n.name? with
  | some (.pattern p) => some (p.source, n.clearRequired)
  | _ => none

/-- The plain names of the nodes that ask to be required. -/
def requiredNames (ns : List Node) : List String := ns.filterMap fun n =>
  match n.name? with
  | some (.plain name) => if n.isRequired then some name else none
  | _ => none

end Node

namespace Node
variable {n : Node}

lemma attr?_name_of_name? {nm : Name} (h : n.name? = some nm) :
    n.attr? "name" = some (.name nm) := by
  unfold name? at h
  split at h
  · cases h
    assumption
  · cases h

lemma IsBuiltin.attr?_name_of_unnamed (h : n.IsBuiltin) (hname : n.name? = none) :
    n.attr? "name" = none := by
  cases hv : n.attr? "name" with
  | none => rfl
  | some v =>
    obtain ⟨ty, hty, hholds⟩ := h.exists_type hv
    obtain rfl := hty.name.mpr rfl
    obtain ⟨nm, rfl⟩ := hholds
    unfold attr? at hv
    rw [name?, hv] at hname
    cases hname

lemma IsBuiltin.get?_name_toTree (h : n.IsBuiltin) :
    n.toTree.get? "name" = n.name?.map Name.toTree := by
  rw [toTree_eq]
  change n.fields.get? "name" = n.name?.map Name.toTree
  rw [n.get?_fields (by decide)]
  cases hname : n.name? with
  | none => rw [h.attr?_name_of_unnamed hname, Option.map_none, Option.map_none]
  | some nm =>
    rw [attr?_name_of_name? hname, Option.map_some, AttrValue.toTree_name, Option.map_some]

lemma IsBuiltin.takeRequired_fields (h : n.IsBuiltin) :
    takeRequired n.fields = (n.isRequired, n.clearRequired.fields) := by
  have hget : n.fields.get? "required" = (n.attr? "required").map AttrValue.toTree :=
    n.get?_fields (by decide)
  unfold takeRequired isRequired clearRequired
  rw [hget]
  cases hattr : n.attr? "required" with
  | none => rfl
  | some v =>
    rcases h.exists_required hattr with ⟨b, rfl⟩ | ⟨items, rfl, _⟩
    · simp only [Option.map_some, AttrValue.toTree_literal]
      rw [fields_erase _ _ (by decide)]
      rfl
    · simp only [Option.map_some, AttrValue.toTree_literal]

lemma IsBuiltin.plainName?_toTree (h : n.IsBuiltin) : n.toTree.plainName? =
    match n.name? with
    | some (.plain name) => some name
    | _ => none := by
  rw [Tree.plainName?, h.get?_name_toTree]
  rcases n.name? with _ | name | p <;> rfl

lemma IsBuiltin.patternName?_toTree (h : n.IsBuiltin) : n.toTree.patternName? =
    match n.name? with
    | some (.pattern p) => some p.source
    | _ => none := by
  rw [Tree.patternName?, h.get?_name_toTree]
  rcases n.name? with _ | name | p <;> rfl

lemma IsBuiltin.flag_toTree (h : n.IsBuiltin) :
    n.toTree.asksRequired = n.isRequired ∧ n.toTree.withoutFlag = n.clearRequired.toTree := by
  obtain ⟨kept, htake, hkept⟩ := Tree.takeRequired_eq n.fields
  obtain ⟨hasks, rfl⟩ := Prod.mk.inj (htake.symm.trans h.takeRequired_fields)
  rw [toTree_eq, toTree_eq]
  exact ⟨hasks, hkept⟩

section Children
variable {ns : List Node}

lemma plainNamed_toTree (h : ∀ n ∈ ns, n.IsBuiltin) :
    Tree.plainNamed (ns.map toTree) = Fields.mapValues toTree (plainNamed ns) := by
  rw [Tree.plainNamed, plainNamed, Fields.mapValues, List.filterMap_map, List.map_filterMap]
  refine List.filterMap_congr fun n hn => ?_
  simp only [Function.comp_apply, (h n hn).plainName?_toTree, (h n hn).flag_toTree.2]
  rcases n.name? with _ | name | p <;> rfl

lemma patternNamed_toTree (h : ∀ n ∈ ns, n.IsBuiltin) :
    Tree.patternNamed (ns.map toTree) = Fields.mapValues toTree (patternNamed ns) := by
  rw [Tree.patternNamed, patternNamed, Fields.mapValues, List.filterMap_map, List.map_filterMap]
  refine List.filterMap_congr fun n hn => ?_
  simp only [Function.comp_apply, (h n hn).patternName?_toTree, (h n hn).flag_toTree.2]
  rcases n.name? with _ | name | p <;> rfl

lemma requiredNames_toTree (h : ∀ n ∈ ns, n.IsBuiltin) :
    Tree.requiredNames (ns.map toTree) = requiredNames ns := by
  rw [Tree.requiredNames, requiredNames, List.filterMap_map]
  refine List.filterMap_congr fun n hn => ?_
  simp only [Function.comp_apply, (h n hn).plainName?_toTree, (h n hn).flag_toTree.1]
  rcases n.name? with _ | name | p <;> simp

end Children

end Node

namespace Tree

lemma map_string_filterMap {ts : List Tree} (h : ts.all isString = true) :
    (ts.filterMap string?).map string = ts := by
  induction ts with
  | nil => rfl
  | cons t ts ih =>
    obtain ⟨ht, hts⟩ := Bool.and_eq_true_iff.mp h
    cases t with
    | string s => rw [List.filterMap_cons, string?, List.map_cons, ih hts]
    | _ => cases ht

end Tree

lemma eraseDups_of_nodup {names : List String} (hn : names.Nodup) : names.eraseDups = names := by
  induction names with
  | nil => rfl
  | cons name names ih =>
    obtain ⟨hname, hn⟩ := List.nodup_cons.mp hn
    have hfilter : names.filter (fun other => !other == name) = names := by
      refine List.filter_eq_self.mpr fun other hother => ?_
      have hne : other ≠ name := by
        rintro rfl
        exact hname hother
      simpa using hne
    rw [List.eraseDups_cons, hfilter, ih hn]

/-- Names that are not required yet go behind those that are, in their order. -/
lemma addRequired_strings {own names : List String} (hn : names.Nodup) :
    addRequired (own.map .string) names =
      (own ++ names.filter fun name => name ∉ own).map .string := by
  rw [addRequired_eq, eraseDups_of_nodup (hn.filter _)]

lemma addRequired_all_isString {own : List Tree} (h : own.all Tree.isString = true)
    (names : List String) : (addRequired own names).all Tree.isString = true := by
  induction names generalizing own with
  | nil => exact h
  | cons name names ih =>
    apply ih
    simp only
    split
    · exact h
    · rw [List.all_append, h]
      rfl

lemma append_filter_ne_nil {own names : List String} (h : names ≠ []) :
    own ++ names.filter (fun name => name ∉ own) ≠ [] := by
  cases own with
  | nil => simpa using h
  | cons name own => exact List.cons_ne_nil _ _

namespace Node
variable {n : Node}

lemma IsBuiltin.requiresOwn_fields (h : n.IsBuiltin) :
    RequiresOwn (n.fields.get? "required") n.ownNames := by
  rw [n.get?_fields (by decide)]
  unfold ownNames
  cases hattr : n.attr? "required" with
  | none => exact .absent
  | some v =>
    rcases h.exists_required hattr with ⟨b, rfl⟩ | ⟨items, rfl, hall⟩
    · rw [Option.map_some, AttrValue.toTree_literal]
      exact .flag b
    · have hnames := RequiresOwn.names (items.filterMap Tree.string?)
      rw [Tree.map_string_filterMap hall] at hnames
      rwa [Option.map_some, AttrValue.toTree_literal]

lemma IsBuiltin.ownRequired_fields (h : n.IsBuiltin) :
    ownRequired (n.fields.get? "required") = .ok (n.ownNames.map .string) :=
  h.requiresOwn_fields.ownRequired_eq

lemma nodup_requiredNames {ns : List Node} (h : (plainNamed ns).keys.Nodup) :
    (requiredNames ns).Nodup := by
  have hsub : (requiredNames ns).Sublist (plainNamed ns).keys := by
    clear h
    induction ns with
    | nil => exact .slnil
    | cons m ns ih =>
      unfold requiredNames plainNamed at ih ⊢
      rw [List.filterMap_cons, List.filterMap_cons]
      rcases m.name? with _ | name | p
      · exact ih
      · cases m.isRequired with
        | false => exact ih.cons name
        | true => exact ih.cons_cons name
      · exact ih
  exact h.sublist hsub

lemma attr?_children (h : n.IsBuiltin) :
    n.attr? "children" = none ∧ n.children = [] ∨
      n.attr? "children" = some (.nodes n.children) := by
  cases hattr : n.attr? "children" with
  | none =>
    refine .inl ⟨rfl, ?_⟩
    unfold attr? at hattr
    rw [children, hattr]
  | some v =>
    obtain ⟨ns, rfl⟩ := h.exists_children hattr
    unfold attr? at hattr
    rw [children, hattr]
    exact .inr rfl

/-- The children of a node that become properties; those of a node with items stay. -/
def promoted (n : Node) : List Node := if (n.attr? "items").isSome then [] else n.children

/-- The properties of a node; of several children with one name the last one counts. -/
def properties (n : Node) : Fields Node := Fields.ofEntries (plainNamed n.promoted)

/-- The patterns of a node, those of its children behind its own. -/
def patternProperties (n : Node) : Fields Node :=
  Fields.extend n.ownPatterns (Fields.ofEntries (patternNamed n.promoted))

/-- What fields hold under the keys that children are promoted to. -/
structure Promotes (n : Node) (gs : Fields Tree) : Prop where
  properties : gs.get? "properties" = none ∧ n.properties = [] ∨
    gs.get? "properties" = some (.map (Fields.mapValues toTree n.properties))
  patterns : gs.get? "pattern_properties" = none ∧ n.patternProperties = [] ∨
    gs.get? "pattern_properties" = some (.map (Fields.mapValues toTree n.patternProperties))
  required : gs.get? "required" = if requiredNames n.promoted = [] then n.fields.get? "required"
    else some (.list (addRequired (n.ownNames.map .string) (requiredNames n.promoted)))

lemma get?_patterns (h : n.IsBuiltin) : n.fields.get? "pattern_properties" = none ∧
      n.ownPatterns = [] ∨
    n.fields.get? "pattern_properties" =
      some (.map (Fields.mapValues toTree n.ownPatterns)) := by
  rw [n.get?_fields (by decide)]
  unfold ownPatterns
  cases hattr : n.attr? "pattern_properties" with
  | none => exact .inl ⟨rfl, rfl⟩
  | some v =>
    obtain ⟨es, rfl⟩ := h.exists_patterns hattr
    exact .inr (by simp)

lemma IsBuiltin.get?_fields_properties (h : n.IsBuiltin) : n.fields.get? "properties" = none := by
  rw [n.get?_fields (by decide), h.attr?_properties, Option.map_none]

lemma get?_fields_items (hitems : n.attr? "items" = none) : n.fields.get? "items" = none := by
  rw [n.get?_fields (by decide), hitems, Option.map_none]

section Promote
variable {fs gs : Fields Tree} {path : Path}

lemma promotes_of_promoted_nil (h : n.IsBuiltin) (hnil : n.promoted = [])
    (hget : ∀ key ∈ ["properties", "pattern_properties", "required"],
      gs.get? key = n.fields.get? key) : n.Promotes gs where
  properties := by
    left
    rw [hget _ (by decide), h.get?_fields_properties, properties, hnil]
    exact ⟨rfl, rfl⟩
  patterns := by
    rw [hget _ (by decide), patternProperties, hnil]
    exact get?_patterns h
  required := by
    rw [hget _ (by decide), hnil]
    rfl

/-- The nodes of the children go behind those that stand under a key, or stand alone. -/
lemma withEntries_toTree {value : Option Tree} {own : Fields Node}
    (h : value = none ∧ own = [] ∨ value = some (.map (Fields.mapValues toTree own)))
    (es : Fields Node) :
    withEntries value (Fields.mapValues toTree es) = none ∧ Fields.extend own es = [] ∨
      withEntries value (Fields.mapValues toTree es) =
        some (.map (Fields.mapValues toTree (Fields.extend own es))) := by
  cases es with
  | nil => exact h
  | cons e es =>
    right
    have hentries : entriesOf value = Fields.mapValues toTree own := by
      rcases h with ⟨rfl, rfl⟩ | rfl <;> rfl
    rw [Fields.mapValues_extend, ← hentries]
    rfl

lemma promotes_of_promote (h : n.IsBuiltin) (hchildren : ∀ m ∈ n.children, m.IsBuiltin)
    (hpromoted : n.promoted = n.children)
    (hget : ∀ key ∈ ["properties", "pattern_properties", "required"],
      fs.get? key = n.fields.get? key)
    (hgs : promote fs path (.list (n.children.map toTree)) = .ok gs) : n.Promotes gs where
  properties := by
    rw [get?_properties_of_promote hgs, plainNamed_toTree hchildren, properties, hpromoted]
    refine withEntries_toTree (.inl ⟨?_, rfl⟩) _
    rw [hget _ (by decide), h.get?_fields_properties]
  patterns := by
    rw [get?_patterns_of_promote hgs, patternNamed_toTree hchildren, patternProperties, hpromoted,
      Fields.extend_ofEntries]
    refine withEntries_toTree ?_ _
    rw [hget _ (by decide)]
    exact get?_patterns h
  required := by
    have hown : ownRequired (fs.get? "required") = .ok (n.ownNames.map .string) := by
      rw [hget _ (by decide)]
      exact h.ownRequired_fields
    rw [get?_required_of_promote hgs hown, requiredNames_toTree hchildren, hpromoted,
      hget _ (by decide)]

end Promote

/-- A level of a node settles on its promoted children, null a choice or not. -/
theorem promotes_of_settle (h : n.IsBuiltin) (hchildren : ∀ m ∈ n.children, m.IsBuiltin)
    {fs gs : Fields Tree} (hfs : AgreeOutside ["nullable", "any_of"] n.fields fs) {path : Path}
    (hgs : settle fs path = .ok gs) : n.Promotes gs := by
  have hget : ∀ key ∈ ["properties", "pattern_properties", "required", "items", "children"],
      fs.get? key = n.fields.get? key := by
    have hall : ∀ key ∈ ["properties", "pattern_properties", "required", "items", "children"],
        key ∉ ["nullable", "any_of"] := by decide
    exact fun key hk => hfs.get?_eq key (hall key hk)
  unfold settle Fields.contains at hgs
  rw [hget "items" (by decide), hget "children" (by decide), n.get?_fields (by decide),
    n.get?_fields (by decide), Option.isSome_map] at hgs
  cases hitems : (n.attr? "items").isSome with
  | true =>
    rw [if_pos hitems] at hgs
    cases hgs
    have hnil : n.promoted = [] := by rw [promoted, if_pos hitems]
    have hagree := unwrapItems_agree fs
    have hall : ∀ key ∈ ["properties", "pattern_properties", "required"], key ∉ ["items"] ∧
        key ∈ ["properties", "pattern_properties", "required", "items", "children"] := by decide
    apply promotes_of_promoted_nil h hnil
    intro key hk
    rw [hagree.get?_eq key (hall key hk).1, hget key (hall key hk).2]
  | false =>
    rw [if_neg (by simp [hitems])] at hgs
    have hpromoted : n.promoted = n.children := by rw [promoted, if_neg (by simp [hitems])]
    rcases attr?_children h with ⟨hnone, hnil⟩ | hsome
    · rw [hnone] at hgs
      cases hgs
      apply promotes_of_promoted_nil h (hpromoted.trans hnil)
      intro key hk
      exact hget key (by simp only [List.mem_cons, List.not_mem_nil, or_false] at hk ⊢; tauto)
    · rw [hsome] at hgs
      simp only [Option.map_some, AttrValue.toTree_nodes] at hgs
      have hall : ∀ key ∈ ["properties", "pattern_properties", "required"], "children" ≠ key ∧
          key ∈ ["properties", "pattern_properties", "required", "items", "children"] := by decide
      refine promotes_of_promote h hchildren hpromoted (fun key hk => ?_) hgs
      rw [Fields.get?_erase_of_ne _ (hall key hk).1, hget key (hall key hk).2]

/-- The fields of a node without items after the first rewriting of the chain. -/
structure Settled (n : Node) (gs : Fields Tree) : Prop where
  agree : AgreeOutside sugarKeys n.fields gs
  items : gs.get? "items" = none
  properties : gs.get? "properties" = none ∧ plainNamed n.children = [] ∨
    gs.get? "properties" =
      some (.map (Fields.mapValues toTree (plainNamed n.children)))
  patterns : gs.get? "pattern_properties" = none ∧
      Fields.extend n.ownPatterns (patternNamed n.children) = [] ∨
    gs.get? "pattern_properties" =
      some (.map (Fields.mapValues toTree
        (Fields.extend n.ownPatterns (patternNamed n.children))))
  required : gs.get? "required" =
    if requiredNames n.children = [] then n.fields.get? "required"
    else some (.list (addRequired (n.ownNames.map .string) (requiredNames n.children)))

lemma get?_items_of_settle {fs gs : Fields Tree} {path : Path} (hitems : fs.get? "items" = none)
    (hgs : settle fs path = .ok gs) : gs.get? "items" = none := by
  unfold settle Fields.contains at hgs
  rw [hitems] at hgs
  cases hc : fs.get? "children" with
  | none =>
    rw [hc] at hgs
    cases hgs
    exact hitems
  | some children =>
    rw [hc] at hgs
    rw [(promote_agree hgs).get?_eq _ (by decide), Fields.get?_erase_of_ne _ (by decide), hitems]

/-- A node without items, all of its children named, settles on its promoted children. -/
theorem settled_of_settle (h : n.IsBuiltin) (hitems : n.attr? "items" = none)
    (hchildren : ∀ m ∈ n.children, m.IsBuiltin ∧ m.name?.isSome = true)
    (hplain : (plainNamed n.children).keys.Nodup)
    (hpatterns : (patternNamed n.children).keys.Nodup) {gs : Fields Tree}
    (hgs : settle n.fields [] = .ok gs) : n.Settled gs := by
  have hbuiltin := fun m hm => (hchildren m hm).1
  have hpromotes := promotes_of_settle h hbuiltin (.refl _) hgs
  have hpromoted : n.promoted = n.children := by simp [promoted, hitems]
  have hproperties : n.properties = plainNamed n.children := by
    rw [properties, hpromoted, Fields.ofEntries_of_nodup hplain]
  have hpats : n.patternProperties = Fields.extend n.ownPatterns (patternNamed n.children) := by
    rw [patternProperties, hpromoted, Fields.ofEntries_of_nodup hpatterns]
  refine ⟨settle_agree hgs, get?_items_of_settle (get?_fields_items hitems) hgs, ?_, ?_, ?_⟩
  · rw [← hproperties]
    exact hpromotes.properties
  · rw [← hpats]
    exact hpromotes.patterns
  · rw [← hpromoted]
    exact hpromotes.required

end Node

end Schemata
