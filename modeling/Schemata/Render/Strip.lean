import Schemata.Node.Basic
import Schemata.Render.Depth
import Schemata.Render.Slot

/-! Stripping: bookkeeping keys and blank values leave every schema. -/
namespace Schemata

/-- Keys that only construction needs. -/
def bookkeepingKeys : List String :=
  ["children", "nullable", "name", "Children", "Nullable", "Name", kindTag]

def dropBookkeeping (fs : Fields Tree) : Fields Tree :=
  fs.filter fun e => !bookkeepingKeys.contains e.1

def dropBlankValues (fs : Fields Tree) : Fields Tree := fs.filter fun e => !e.2.isBlank

/-- Strips one schema, and the schemas inside it by `visit`; a value that is blank
only once it is stripped leaves too. -/
def stripLevel (visit : Tree → Tree) : Tree → Tree
  | .map fs => .map (dropBlankValues (mapSchemas visit (dropBookkeeping fs)))
  | t => t

def strip (t : Tree) : Tree := byDepth stripLevel id t

theorem stripLevel_descends : Descends stripLevel id := by
  refine ⟨fun v t ht => ?_, fun v w t h => ?_⟩
  · cases t <;> simp_all [stripLevel, Tree.depth]
  · cases t with
    | map fs =>
      simp only [stripLevel]
      rw [mapSchemas_congr fun u hu => h u (.inl ?_)]
      have := Tree.depthOfFields_filter_le (fun e => !bookkeepingKeys.contains e.1) fs
      simp only [Tree.depth, dropBookkeeping] at hu ⊢; omega
    | _ => rfl

theorem strip_map (fs : Fields Tree) :
    strip (.map fs) = .map (dropBlankValues (mapSchemas strip (dropBookkeeping fs))) :=
  byDepth_eq stripLevel_descends _

@[simp] theorem strip_of_not_map {t : Tree} (h : t.isMap = false) : strip t = t := by
  rw [strip, byDepth_eq stripLevel_descends]
  cases t <;> simp_all [stripLevel, Tree.isMap]

example : strip (.map [("name", .string "a"), ("items", .map [("title", .string "")])]) =
    .map [] := by rfl

end Schemata
