import Schemata.Fields
import Schemata.Number.Basic

/-! Plain trees: the documents that schemas are written in. -/
namespace Schemata

/-- A JSON document; the fields of a map keep their order. -/
inductive Tree where
  | null
  | bool (value : Bool)
  | number (value : Number)
  | string (value : String)
  | list (items : List Tree)
  | map (fields : List (String × Tree))

namespace Tree

instance : Inhabited Tree := ⟨null⟩

/-- Induction over trees; the members of a list and the values of a map are smaller trees. -/
@[induction_eliminator]
theorem ind {motive : Tree → Prop} (null : motive null) (bool : ∀ value, motive (bool value))
    (number : ∀ value, motive (number value)) (string : ∀ value, motive (string value))
    (list : ∀ items, (∀ t ∈ items, motive t) → motive (list items))
    (map : ∀ fields, (∀ e ∈ fields, motive e.2) → motive (map fields)) (t : Tree) : motive t :=
  @Tree.rec motive (fun ts => ∀ t ∈ ts, motive t) (fun fs => ∀ e ∈ fs, motive e.2) (fun e => motive e.2)
    null bool number string list map (fun _ h => nomatch h)
    (fun _ _ ht hts => List.forall_mem_cons.2 ⟨ht, hts⟩) (fun _ h => nomatch h)
    (fun _ _ he hes => List.forall_mem_cons.2 ⟨he, hes⟩) (fun _ _ ht => ht) t

/-- A double as a tree; what is infinite or not a number becomes null. -/
def ofFloat (x : Float) : Tree :=
  match Double.ofFloat? x with
  | some value => number (.float value)
  | none => null

def ofInt (n : Int) : Tree := number (.int n)

/-- The value under `key` of a map. -/
def get? : Tree → String → Option Tree
  | map fields, key => Fields.get? fields key
  | _, _ => none

def string? : Tree → Option String
  | string value => some value
  | _ => none

def isString (t : Tree) : Bool := t.string?.isSome

def isMap : Tree → Bool
  | map _ => true
  | _ => false

/-- Null, and every empty string, list and map. -/
def isBlank : Tree → Bool
  | null => true
  | string value => value = ""
  | list items => items.isEmpty
  | map fields => fields.isEmpty
  | _ => false

/-- Everything but null and false. -/
def isTruthy : Tree → Bool
  | null => false
  | bool value => value
  | _ => true

mutual

/-- How many lists and maps stand around the innermost value. -/
def depth : Tree → Nat
  | list items => depthOfItems items + 1
  | map fields => depthOfFields fields + 1
  | _ => 0

def depthOfItems : List Tree → Nat
  | [] => 0
  | t :: ts => max t.depth (depthOfItems ts)

def depthOfFields : List (String × Tree) → Nat
  | [] => 0
  | (_, t) :: fs => max t.depth (depthOfFields fs)

end

theorem depth_le_depthOfItems {t : Tree} {ts : List Tree} (h : t ∈ ts) :
    t.depth ≤ depthOfItems ts := by
  induction ts with
  | nil => cases h
  | cons u ts ih =>
    simp only [depthOfItems]
    rcases List.mem_cons.1 h with rfl | h
    · exact Nat.le_max_left _ _
    · exact Nat.le_trans (ih h) (Nat.le_max_right _ _)

theorem depth_le_depthOfFields {e : String × Tree} {fs : List (String × Tree)} (h : e ∈ fs) :
    e.2.depth ≤ depthOfFields fs := by
  induction fs with
  | nil => cases h
  | cons f fs ih =>
    obtain ⟨k, t⟩ := f
    simp only [depthOfFields]
    rcases List.mem_cons.1 h with rfl | h
    · exact Nat.le_max_left _ _
    · exact Nat.le_trans (ih h) (Nat.le_max_right _ _)

theorem depthOfFields_filter_le (p : String × Tree → Bool) (fs : List (String × Tree)) :
    depthOfFields (fs.filter p) ≤ depthOfFields fs := by
  induction fs with
  | nil => simp
  | cons e fs ih =>
    obtain ⟨k, t⟩ := e
    by_cases h : p (k, t) <;> simp [List.filter, h, depthOfFields] <;> omega

end Tree

end Schemata
