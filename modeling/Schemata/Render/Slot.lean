import Schemata.Error

/-! Where schemas stand inside a schema, and how a pass reaches them. -/
namespace Schemata

/-- Keys whose maps hold schemas under property names. -/
def schemaMapKeys : List String :=
  ["properties", "pattern_properties", "patternProperties", "definitions"]

/-- Keys that hold data of the caller. -/
def literalKeys : List String := ["default", "enum", "const", "examples"]

/-- What stands under a key of a schema. -/
inductive Slot where
  | literal
  | schema
  | items (ts : List Tree)
  | entries (fs : List (String × Tree))

/-- A map is a schema, or holds schemas under names; a list whose first member is a map
is a list of schemas; everything else is a literal. -/
def slot (key : String) (value : Tree) : Slot :=
  if literalKeys.contains key then .literal
  else
    match value with
    | .map fs => if schemaMapKeys.contains key then .entries fs else .schema
    | .list (t :: ts) => if t.isMap then .items (t :: ts) else .literal
    | _ => .literal

/-- Applies `f` to every schema directly under a key. -/
def mapSlot (f : Tree → Tree) (key : String) (value : Tree) : Tree :=
  match slot key value with
  | .literal => value
  | .schema => f value
  | .items ts => .list (ts.map f)
  | .entries fs => .map (Fields.mapValues f fs)

/-- Applies `f` to every schema directly inside a schema; keys and literals stay. -/
def mapSchemas (f : Tree → Tree) (fs : Fields Tree) : Fields Tree :=
  fs.map fun e => (e.1, mapSlot f e.1 e.2)

/-- Visits the members of a list, which have the positions from `i` on. -/
def visitItems (visit : Tree → Path → Except Error Tree) (path : Path) (i : Nat) :
    List Tree → Except Error (List Tree)
  | [] => .ok []
  | t :: ts => do
    let t ← visit t (path ++ [toString i])
    let ts ← visitItems visit path (i + 1) ts
    return t :: ts

/-- Visits the values of a map in order. -/
def visitEntries (visit : String → Tree → Path → Except Error Tree) (path : Path) :
    List (String × Tree) → Except Error (List (String × Tree))
  | [] => .ok []
  | (k, t) :: fs => do
    let t ← visit k t (path ++ [k])
    let fs ← visitEntries visit path fs
    return (k, t) :: fs

def visitSlot (visit : Tree → Path → Except Error Tree) (key : String) (value : Tree) (path : Path) :
    Except Error Tree :=
  match slot key value with
  | .literal => .ok value
  | .schema => visit value path
  | .items ts => (visitItems visit path 0 ts).map .list
  | .entries fs => (visitEntries (fun _ => visit) path fs).map .map

/-- Visits every schema directly inside a schema, with its path; the first failure ends it. -/
def visitSchemas (visit : Tree → Path → Except Error Tree) (path : Path) (fs : Fields Tree) :
    Except Error (Fields Tree) :=
  visitEntries (visitSlot visit) path fs

theorem slot_eq_items {key : String} {value : Tree} {ts : List Tree}
    (h : slot key value = .items ts) : value = .list ts := by
  unfold slot at h
  split at h
  · simp at h
  · split at h
    · split at h <;> simp at h
    · split at h <;> simp_all
    · simp at h

theorem slot_eq_entries {key : String} {value : Tree} {fs : List (String × Tree)}
    (h : slot key value = .entries fs) : value = .map fs := by
  unfold slot at h
  split at h
  · simp at h
  · split at h
    · split at h <;> simp_all
    · split at h <;> simp at h
    · simp at h

theorem mapSlot_congr {f g : Tree → Tree} {key : String} {value : Tree}
    (h : ∀ u, u.depth ≤ value.depth → f u = g u) : mapSlot f key value = mapSlot g key value := by
  unfold mapSlot
  split
  · rfl
  · exact h value (Nat.le_refl _)
  · rename_i ts hs
    obtain rfl := slot_eq_items hs
    refine congrArg Tree.list (List.map_congr_left fun t ht => h t ?_)
    have := Tree.depth_le_depthOfItems ht
    simp only [Tree.depth]; omega
  · rename_i fs hs
    obtain rfl := slot_eq_entries hs
    refine congrArg Tree.map (List.map_congr_left fun e he => ?_)
    have := Tree.depth_le_depthOfFields he
    rw [h e.2 (by simp only [Tree.depth]; omega)]

theorem mapSchemas_congr {f g : Tree → Tree} {fs : Fields Tree}
    (h : ∀ u, u.depth < (Tree.map fs).depth → f u = g u) : mapSchemas f fs = mapSchemas g fs := by
  refine List.map_congr_left fun e he => ?_
  have := Tree.depth_le_depthOfFields he
  rw [mapSlot_congr fun u hu => h u (by simp only [Tree.depth]; omega)]

theorem visitItems_congr {f g : Tree → Path → Except Error Tree} {path : Path} {i : Nat}
    {ts : List Tree} (h : ∀ t ∈ ts, f t = g t) : visitItems f path i ts = visitItems g path i ts := by
  induction ts generalizing i with
  | nil => rfl
  | cons t ts ih =>
    simp only [visitItems, h t (by simp), ih fun u hu => h u (by simp [hu])]

theorem visitEntries_congr {f g : String → Tree → Path → Except Error Tree} {path : Path}
    {fs : List (String × Tree)} (h : ∀ e ∈ fs, f e.1 e.2 = g e.1 e.2) :
    visitEntries f path fs = visitEntries g path fs := by
  induction fs with
  | nil => rfl
  | cons e fs ih =>
    obtain ⟨k, t⟩ := e
    simp only [visitEntries, h (k, t) (by simp), ih fun u hu => h u (by simp [hu])]

theorem visitSlot_congr {f g : Tree → Path → Except Error Tree} {key : String} {value : Tree}
    (h : ∀ u, u.depth ≤ value.depth → f u = g u) : visitSlot f key value = visitSlot g key value := by
  funext path
  unfold visitSlot
  split
  · rfl
  · rw [h value (Nat.le_refl _)]
  · rename_i ts hs
    obtain rfl := slot_eq_items hs
    rw [visitItems_congr fun t ht => h t (by
      have := Tree.depth_le_depthOfItems ht
      simp only [Tree.depth]; omega)]
  · rename_i fs hs
    obtain rfl := slot_eq_entries hs
    rw [visitEntries_congr (f := fun _ => f) (g := fun _ => g) fun e he => h e.2 (by
      have := Tree.depth_le_depthOfFields he
      simp only [Tree.depth]; omega)]

end Schemata
