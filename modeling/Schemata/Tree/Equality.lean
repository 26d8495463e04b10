import Schemata.Tree.Basic

/-! Structural equality of trees: lists by position, maps without regard to the order of keys. -/
namespace Schemata.Tree

mutual

/-- Equality of trees; a map equals another when taking out its keys one by one
finds equal values in the other and leaves nothing over. -/
def same : Tree → Tree → Bool
  | null, null => true
  | bool a, bool b => a = b
  | number a, number b => a.same b
  | string a, string b => a = b
  | list a, list b => sameItems a b
  | map a, map b => sameFields a b
  | _, _ => false

def sameItems : List Tree → List Tree → Bool
  | [], [] => true
  | a :: as, b :: bs => a.same b && sameItems as bs
  | _, _ => false

def sameFields : List (String × Tree) → List (String × Tree) → Bool
  | [], bs => bs.isEmpty
  | (k, a) :: as, bs =>
    match Fields.extract? k bs with
    | some (b, rest) => a.same b && sameFields as rest
    | none => false

end

theorem sameItems_self {ts : List Tree} (h : ∀ t ∈ ts, t.same t = true) : sameItems ts ts = true := by
  induction ts with
  | nil => rfl
  | cons t ts ih => simp [sameItems, h t, ih fun u hu => h u (by simp [hu])]

theorem sameFields_self {fs : List (String × Tree)} (h : ∀ e ∈ fs, e.2.same e.2 = true) :
    sameFields fs fs = true := by
  induction fs with
  | nil => rfl
  | cons e fs ih =>
    simp [sameFields, Fields.extract?, h e (by simp), ih fun e he => h e (by simp [he])]

@[simp] theorem same_refl (t : Tree) : t.same t = true := by
  induction t with
  | list ts ih => simpa [same] using sameItems_self ih
  | map fs ih => simpa [same] using sameFields_self ih
  | _ => simp [same]

/-- Whether some member of a list equals the tree. -/
def isMember (t : Tree) (ts : List Tree) : Bool := ts.any fun u => u.same t

/-- Keeps the first of several equal trees. -/
def dedupe (ts : List Tree) : List Tree :=
  ts.foldl (fun kept t => if t.isMember kept then kept else kept ++ [t]) []

example : same (map [("a", null), ("b", .bool true)]) (map [("b", .bool true), ("a", null)]) = true := by
  decide
example : same (list [.bool true, null]) (list [null, .bool true]) = false := by decide
example : same (.ofInt 1) (.ofInt 2) = false := by decide

end Schemata.Tree
