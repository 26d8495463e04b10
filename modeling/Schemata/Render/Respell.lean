import Schemata.Render.Depth
import Schemata.Render.Slot
import Schemata.Spelling

/-! Respelling: the keys of every schema take the spelling of documents. -/
namespace Schemata

/-- Respells keys; of keys that come to be spelled alike the first gives the place
and the last the value. -/
def respellKeys (fs : Fields Tree) : Fields Tree :=
  Fields.ofEntries (fs.map fun e => (documentKey e.1, e.2))

/-- Respells one schema, after the schemas inside it. -/
def respellLevel (visit : Tree → Tree) : Tree → Tree
  | .map fs => .map (respellKeys (mapSchemas visit fs))
  | t => t

def respell (t : Tree) : Tree := byDepth respellLevel id t

theorem respellLevel_descends : Descends respellLevel id := by
  refine ⟨fun v t ht => ?_, fun v w t h => ?_⟩
  · cases t <;> simp_all [respellLevel, Tree.depth]
  · cases t with
    | map fs => simp only [respellLevel, mapSchemas_congr fun u hu => h u (.inl hu)]
    | _ => rfl

theorem respell_map (fs : Fields Tree) :
    respell (.map fs) = .map (respellKeys (mapSchemas respell fs)) :=
  byDepth_eq respellLevel_descends _

@[simp] theorem respell_of_not_map {t : Tree} (h : t.isMap = false) : respell t = t := by
  rw [respell, byDepth_eq respellLevel_descends]
  cases t <;> simp_all [respellLevel, Tree.isMap]

example : respell (.map [("kind", .string "array"), ("min_items", .null)]) =
    .map [("type", .string "array"), ("minItems", .null)] := by rfl

end Schemata
