/-! Fields: values under string keys, in the order in which the keys were first written. -/
namespace Schemata

/-- Values under string keys, in order; of several entries under one key the first counts. -/
abbrev Fields (α : Type u) := List (String × α)

namespace Fields
variable {α : Type u} {β : Type v}

def keys (fs : Fields α) : List String := fs.map (·.1)

/-- The value under `key`. -/
def get? : Fields α → String → Option α
  | [], _ => none
  | (k, v) :: fs, key => if k = key then some v else get? fs key

def contains (fs : Fields α) (key : String) : Bool := (get? fs key).isSome

/-- Writes `value` under `key`: in place where the key stands already, else at the end. -/
def insert : Fields α → String → α → Fields α
  | [], key, value => [(key, value)]
  | (k, v) :: fs, key, value =>
    if k = key then (k, value) :: fs else (k, v) :: insert fs key value

/-- Drops every entry under `key`; the others keep their order. -/
def erase (fs : Fields α) (key : String) : Fields α := fs.filter (·.1 ≠ key)

/-- Writes `value` under `key`, or drops the key when there is no value. -/
def assign (fs : Fields α) (key : String) : Option α → Fields α
  | some value => insert fs key value
  | none => erase fs key

/-- Writes the entries of `more` one after the other. -/
def extend (fs more : Fields α) : Fields α := more.foldl (fun acc e => insert acc e.1 e.2) fs

/-- The fields that a list of entries writes: the first place and the last value of each key. -/
def ofEntries (entries : List (String × α)) : Fields α := extend [] entries

def mapValues (f : α → β) (fs : Fields α) : Fields β := fs.map fun e => (e.1, f e.2)

/-- The first value under `key`, with the entries that remain when its entry is taken out. -/
def extract? (key : String) : Fields α → Option (α × Fields α)
  | [] => none
  | (k, v) :: fs =>
    if k = key then some (v, fs) else (extract? key fs).map fun r => (r.1, (k, v) :: r.2)

@[simp] theorem get?_nil (key : String) : get? ([] : Fields α) key = none := rfl

theorem get?_cons (k : String) (v : α) (fs : Fields α) (key : String) :
    get? ((k, v) :: fs) key = if k = key then some v else get? fs key := rfl

theorem mem_of_get? {fs : Fields α} {key : String} {value : α} (h : get? fs key = some value) :
    (key, value) ∈ fs := by
  induction fs with
  | nil => simp at h
  | cons e fs ih =>
    obtain ⟨k, v⟩ := e
    by_cases hk : k = key
    · simp_all [get?]
    · exact List.mem_cons_of_mem _ (ih (by simpa [get?, hk] using h))

@[simp] theorem get?_insert_self (fs : Fields α) (key : String) (value : α) :
    get? (insert fs key value) key = some value := by
  induction fs with
  | nil => simp [insert, get?]
  | cons e fs ih => by_cases h : e.1 = key <;> simp [insert, get?, h, ih]

theorem get?_insert_of_ne (fs : Fields α) (value : α) {key other : String} (h : key ≠ other) :
    get? (insert fs key value) other = get? fs other := by
  induction fs with
  | nil => simp [insert, get?, h]
  | cons e fs ih =>
    obtain ⟨k, v⟩ := e
    by_cases hk : k = key
    · subst hk; simp [insert, get?, h]
    · simp [insert, get?, hk, ih]

@[simp] theorem get?_erase_self (fs : Fields α) (key : String) : get? (erase fs key) key = none := by
  induction fs with
  | nil => rfl
  | cons e fs ih => by_cases h : e.1 = key <;> simp_all [erase, get?]

theorem get?_erase_of_ne (fs : Fields α) {key other : String} (h : key ≠ other) :
    get? (erase fs key) other = get? fs other := by
  induction fs with
  | nil => rfl
  | cons e fs ih =>
    obtain ⟨k, v⟩ := e
    by_cases hk : k = key
    · subst hk; simpa [erase, get?, h] using ih
    · simp only [erase, ne_eq, decide_not] at ih
      simp [erase, get?, hk, ih]

theorem mem_insert {fs : Fields α} {key : String} {value : α} {e : String × α}
    (h : e ∈ insert fs key value) : e ∈ fs ∨ e = (key, value) := by
  induction fs with
  | nil => exact .inr (by simpa [insert] using h)
  | cons f fs ih =>
    obtain ⟨k, v⟩ := f
    simp only [insert] at h
    split at h
    · rename_i hk
      rcases List.mem_cons.1 h with h | h
      · exact .inr (by rw [h, hk])
      · exact .inl (List.mem_cons_of_mem _ h)
    · rcases List.mem_cons.1 h with h | h
      · exact .inl (h ▸ List.mem_cons_self)
      · rcases ih h with h | h
        · exact .inl (List.mem_cons_of_mem _ h)
        · exact .inr h

theorem mem_extend {fs more : Fields α} {e : String × α} (h : e ∈ extend fs more) :
    e ∈ fs ∨ e ∈ more := by
  induction more generalizing fs with
  | nil => exact .inl h
  | cons f more ih =>
    have h : e ∈ extend (insert fs f.1 f.2) more := h
    rcases ih h with h | h
    · rcases mem_insert h with h | h
      · exact .inl h
      · exact .inr (h ▸ List.mem_cons_self)
    · exact .inr (List.mem_cons_of_mem _ h)

theorem mem_of_mem_erase {fs : Fields α} {key : String} {e : String × α} (h : e ∈ erase fs key) :
    e ∈ fs := (List.mem_filter.1 h).1

end Fields

example : Fields.ofEntries [("a", 1), ("b", 2), ("a", 3)] = [("a", 3), ("b", 2)] := by decide

end Schemata
