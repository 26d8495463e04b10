import Schemata.Registry
import Schemata.Render.Strip

/-! Boxing: a schema of some kind that also has choices becomes one choice among them. -/
namespace Schemata

/-- The keys of choice lists; the first one that has members boxes the schema. -/
def choiceKeys : List String := ["any_of", "one_of", "all_of"]

/-- The kind of a schema, unless it is generic. -/
def specificKind? (fs : Fields Tree) : Option String :=
  match fs.get? "kind" with
  | some (.string kind) => if kind = Kind.entityId then none else some kind
  | _ => none

/-- The fields that are not just the defaults of a kind. -/
def dropDefaults (defaults : Fields AttrValue) (fs : Fields Tree) : Fields Tree :=
  defaults.foldl (fun fs e =>
    match fs.get? e.1 with
    | some t => if t.same e.2.toTree then fs.erase e.1 else fs
    | none => fs) fs

/-- Whether what remains of a schema without its choices says anything: an object does
when more than its kind is left after its defaults, any other kind always does. -/
def carriesMeaning (kinds : Registry) (kind : String) (rest : Fields Tree) : Bool :=
  let id := ((rest.get? kindTag).bind Tree.string?).getD kind
  kind ≠ "object" ||
    match strip (.map (dropDefaults (kinds.defaultsFor id) rest)) with
    | .map fs => 1 < fs.length
    | _ => false

/-- The box of a list of choices: blank ones and repeated ones are dropped. -/
def boxed (key : String) (members : List Tree) : Tree :=
  .map [("kind", .string Kind.entityId),
    (key, .list (Tree.dedupe (members.filter fun m => !m.isBlank)))]

/-- Boxes along the given keys. What remains of the schema is boxed along the keys after,
and joins the members if it carries meaning. -/
def boxAlong (kinds : Registry) (visit : Tree → Tree) : List String → Fields Tree → Tree
  | [], fs => .map (mapSchemas visit fs)
  | key :: keys, fs =>
    match specificKind? fs, fs.get? key with
    | some kind, some (.list (m :: ms)) =>
      let rest := fs.erase key
      let own := if carriesMeaning kinds kind rest then [boxAlong kinds visit keys rest] else []
      boxed key ((m :: ms).map visit ++ own)
    | _, _ => boxAlong kinds visit keys fs

def boxLevel (kinds : Registry) (visit : Tree → Tree) : Tree → Tree
  | .map fs => boxAlong kinds visit choiceKeys fs
  | t => t

def box (kinds : Registry) (t : Tree) : Tree := byDepth (boxLevel kinds) id t

theorem boxAlong_congr {kinds : Registry} {v w : Tree → Tree} (keys : List String) {fs : Fields Tree}
    (h : ∀ u, u.depth < (Tree.map fs).depth → v u = w u) :
    boxAlong kinds v keys fs = boxAlong kinds w keys fs := by
  induction keys generalizing fs with
  | nil => simp only [boxAlong, mapSchemas_congr h]
  | cons key keys ih =>
    simp only [boxAlong]
    split
    · rename_i kind m ms _ hk
      have hrest : ∀ u, u.depth < (Tree.map (fs.erase key)).depth → v u = w u := fun u hu => by
        refine h u ?_
        have := Tree.depthOfFields_filter_le (fun e => decide (e.1 ≠ key)) fs
        simp only [Tree.depth, Fields.erase] at hu ⊢; omega
      have hms : (m :: ms).map v = (m :: ms).map w := List.map_congr_left fun u hu => h u (by
        have h1 := Tree.depth_le_depthOfItems hu
        have h2 := Tree.depth_le_depthOfFields (Fields.mem_of_get? hk)
        simp only [Tree.depth] at h2 ⊢; omega)
      rw [ih hrest, hms]
    · exact ih h

theorem boxLevel_descends (kinds : Registry) : Descends (boxLevel kinds) id := by
  refine ⟨fun v t ht => ?_, fun v w t h => ?_⟩
  · cases t <;> simp_all [boxLevel, Tree.depth]
  · cases t with
    | map fs => exact boxAlong_congr _ fun u hu => h u (.inl hu)
    | _ => rfl

theorem box_map (kinds : Registry) (fs : Fields Tree) :
    box kinds (.map fs) = boxAlong kinds (box kinds) choiceKeys fs :=
  byDepth_eq (boxLevel_descends kinds) _

@[simp] theorem box_of_not_map {kinds : Registry} {t : Tree} (h : t.isMap = false) :
    box kinds t = t := by
  rw [box, byDepth_eq (boxLevel_descends kinds)]
  cases t <;> simp_all [boxLevel, Tree.isMap]

end Schemata
