import Mathlib.Data.List.Nodup
import Schemata.Fields

/-! Laws of fields: the keys that a write leaves, and the writes that do not disturb each other. -/
namespace Schemata.Fields
variable {α : Type u} {β : Type v}

@[simp] lemma keys_nil : keys ([] : Fields α) = [] := rfl

@[simp] lemma keys_cons (e : String × α) (fs : Fields α) : keys (e :: fs) = e.1 :: keys fs := rfl

@[simp] lemma keys_append (fs more : Fields α) : keys (fs ++ more) = keys fs ++ keys more := by
  simp [keys]

lemma mem_keys {fs : Fields α} {key : String} : key ∈ keys fs ↔ ∃ v, (key, v) ∈ fs := by
  simp [keys]

lemma mem_keys_of_mem {fs : Fields α} {e : String × α} (h : e ∈ fs) : e.1 ∈ keys fs :=
  List.mem_map_of_mem h

lemma get?_eq_none_iff {fs : Fields α} {key : String} : get? fs key = none ↔ key ∉ keys fs := by
  induction fs with
  | nil => simp
  | cons e fs ih =>
    obtain ⟨k, v⟩ := e
    by_cases h : k = key
    · simp [get?, h]
    · simp [get?, h, ih, Ne.symm h]

lemma get?_isSome_iff {fs : Fields α} {key : String} :
    (get? fs key).isSome = true ↔ key ∈ keys fs := by
  rw [Option.isSome_iff_ne_none, ne_eq, get?_eq_none_iff, not_not]

lemma mem_keys_of_get? {fs : Fields α} {key : String} {v : α} (h : get? fs key = some v) :
    key ∈ keys fs :=
  mem_keys_of_mem (mem_of_get? h)

/-- With distinct keys an entry is what its key looks up. -/
lemma get?_of_mem {fs : Fields α} {key : String} {v : α} (hn : (keys fs).Nodup)
    (h : (key, v) ∈ fs) : get? fs key = some v := by
  induction fs with
  | nil => cases h
  | cons e fs ih =>
    rw [keys_cons, List.nodup_cons] at hn
    rcases List.mem_cons.mp h with rfl | h
    · simp [get?]
    · have hne : e.1 ≠ key := by
        intro he
        exact hn.1 (he ▸ mem_keys_of_mem h)
      simpa [get?, hne] using ih hn.2 h

lemma mem_keys_insert {fs : Fields α} {key other : String} {value : α} :
    other ∈ keys (insert fs key value) ↔ other = key ∨ other ∈ keys fs := by
  induction fs with
  | nil => simp [insert]
  | cons e fs ih =>
    obtain ⟨k, v⟩ := e
    by_cases h : k = key
    · simp [insert, h]
    · simp only [insert, h, if_false, keys_cons, List.mem_cons, ih]
      tauto

lemma nodup_insert {fs : Fields α} (key : String) (value : α) (hn : (keys fs).Nodup) :
    (keys (insert fs key value)).Nodup := by
  induction fs with
  | nil => simp [insert]
  | cons e fs ih =>
    obtain ⟨k, v⟩ := e
    rw [keys_cons, List.nodup_cons] at hn
    by_cases h : k = key
    · simp only [insert, h, if_true, keys_cons, List.nodup_cons]
      exact ⟨h ▸ hn.1, hn.2⟩
    · simp only [insert, h, if_false, keys_cons, List.nodup_cons]
      refine ⟨fun hm => ?_, ih hn.2⟩
      rcases mem_keys_insert.mp hm with hm | hm
      · exact h hm
      · exact hn.1 hm

lemma insert_of_notMem {fs : Fields α} {key : String} (value : α) (h : key ∉ keys fs) :
    insert fs key value = fs ++ [(key, value)] := by
  induction fs with
  | nil => rfl
  | cons e fs ih =>
    obtain ⟨k, v⟩ := e
    obtain ⟨hk, h⟩ := not_or.mp (mt List.mem_cons.mpr h)
    simp [insert, Ne.symm hk, ih h]

/-- Writing what is there already changes nothing. -/
lemma insert_of_get? {fs : Fields α} {key : String} {value : α} (h : get? fs key = some value) :
    insert fs key value = fs := by
  induction fs with
  | nil => simp at h
  | cons e fs ih =>
    obtain ⟨k, v⟩ := e
    by_cases hk : k = key
    · simp_all [get?, insert]
    · simp only [insert, hk, if_false]
      rw [ih (by simpa [get?, hk] using h)]

lemma erase_cons (e : String × α) (fs : Fields α) (key : String) :
    erase (e :: fs) key = if e.1 = key then erase fs key else e :: erase fs key := by
  by_cases h : e.1 = key <;> simp [erase, h]

lemma keys_erase (fs : Fields α) (key : String) :
    keys (erase fs key) = (keys fs).filter (· ≠ key) := by
  simp [keys, erase, List.filter_map, Function.comp_def]

lemma nodup_erase {fs : Fields α} (key : String) (hn : (keys fs).Nodup) :
    (keys (erase fs key)).Nodup := by
  rw [keys_erase]
  exact hn.filter _

lemma mem_erase {fs : Fields α} {key : String} {e : String × α} :
    e ∈ erase fs key ↔ e ∈ fs ∧ e.1 ≠ key := by
  simp [erase]

lemma get?_of_get?_erase {fs : Fields α} {key other : String} {value : α}
    (h : get? (erase fs key) other = some value) : get? fs other = some value := by
  by_cases hkey : key = other
  · subst hkey
    rw [get?_erase_self] at h
    cases h
  · rwa [get?_erase_of_ne fs hkey] at h

lemma erase_of_notMem {fs : Fields α} {key : String} (h : key ∉ keys fs) : erase fs key = fs := by
  refine List.filter_eq_self.mpr fun e he => ?_
  have hne : e.1 ≠ key := by
    intro hk
    exact h (hk ▸ mem_keys_of_mem he)
  simpa using hne

lemma erase_comm (fs : Fields α) (key other : String) :
    erase (erase fs key) other = erase (erase fs other) key := by
  simp only [erase, List.filter_filter, Bool.and_comm]

lemma erase_insert_of_ne (fs : Fields α) (value : α) {key other : String} (h : key ≠ other) :
    erase (insert fs key value) other = insert (erase fs other) key value := by
  induction fs with
  | nil => simp [insert, erase, h]
  | cons e fs ih =>
    obtain ⟨k, v⟩ := e
    by_cases hk : k = key
    · simp [insert, erase_cons, hk, h]
    · by_cases ho : k = other
      · simp [insert, erase_cons, ho, ih, h.symm]
      · simp [insert, erase_cons, hk, ho, ih]

lemma erase_insert_self (fs : Fields α) (key : String) (value : α) :
    erase (insert fs key value) key = erase fs key := by
  induction fs with
  | nil => simp [insert, erase]
  | cons e fs ih =>
    by_cases h : e.1 = key <;> simp [insert, erase_cons, h, ih]

lemma erase_assign_self (fs : Fields α) (key : String) (value : Option α) :
    erase (assign fs key value) key = erase fs key := by
  cases value with
  | none =>
    apply erase_of_notMem
    rw [← get?_eq_none_iff]
    exact get?_erase_self fs key
  | some v => exact erase_insert_self fs key v

@[simp] lemma get?_assign_self (fs : Fields α) (key : String) (value : Option α) :
    get? (assign fs key value) key = value := by
  cases value <;> simp [assign]

lemma get?_assign_of_ne (fs : Fields α) (value : Option α) {key other : String} (h : key ≠ other) :
    get? (assign fs key value) other = get? fs other := by
  cases value with
  | none => exact get?_erase_of_ne fs h
  | some v => exact get?_insert_of_ne fs v h

lemma nodup_assign {fs : Fields α} (key : String) (value : Option α) (hn : (keys fs).Nodup) :
    (keys (assign fs key value)).Nodup := by
  cases value with
  | none => exact nodup_erase key hn
  | some v => exact nodup_insert key v hn

@[simp] lemma extend_nil (fs : Fields α) : extend fs [] = fs := rfl

@[simp] lemma extend_cons (fs more : Fields α) (e : String × α) :
    extend fs (e :: more) = extend (insert fs e.1 e.2) more := rfl

lemma extend_append (fs more rest : Fields α) :
    extend fs (more ++ rest) = extend (extend fs more) rest := List.foldl_append

lemma mem_keys_extend {fs more : Fields α} {key : String} :
    key ∈ keys (extend fs more) ↔ key ∈ keys fs ∨ key ∈ keys more := by
  induction more generalizing fs with
  | nil => simp
  | cons e more ih =>
    rw [extend_cons, ih, mem_keys_insert, keys_cons, List.mem_cons]
    tauto

lemma nodup_extend {fs : Fields α} (more : Fields α) (hn : (keys fs).Nodup) :
    (keys (extend fs more)).Nodup := by
  induction more generalizing fs with
  | nil => exact hn
  | cons e more ih => exact ih (nodup_insert e.1 e.2 hn)

/-- New keys go behind the others, in their order. -/
lemma extend_of_nodup {fs more : Fields α} (hn : (keys (fs ++ more)).Nodup) :
    extend fs more = fs ++ more := by
  induction more generalizing fs with
  | nil => simp
  | cons e more ih =>
    have h : e.1 ∉ keys fs := by
      rw [keys_append, keys_cons] at hn
      exact fun hm => (List.disjoint_of_nodup_append hn) hm List.mem_cons_self
    rw [extend_cons, insert_of_notMem e.2 h, ih (by simpa using hn)]
    simp

lemma ofEntries_of_nodup {entries : List (String × α)} (hn : (keys entries).Nodup) :
    ofEntries entries = entries := by
  rw [ofEntries, extend_of_nodup (by simpa using hn), List.nil_append]

/-- Of two writes to one key the second one counts. -/
lemma insert_insert_self (fs : Fields α) (key : String) (value new : α) :
    insert (insert fs key value) key new = insert fs key new := by
  induction fs with
  | nil => simp [insert]
  | cons e fs ih => by_cases h : e.1 = key <;> simp [insert, h, ih]

/-- A write in place can be made before or after a write to another key. -/
lemma insert_comm_of_mem {fs : Fields α} {key other : String} (h : key ∈ keys fs)
    (hne : key ≠ other) (value new : α) :
    insert (insert fs key value) other new = insert (insert fs other new) key value := by
  induction fs with
  | nil => cases h
  | cons e fs ih =>
    obtain ⟨k, v⟩ := e
    by_cases hk : k = key
    · simp [insert, hk, hne]
    · have hmem : key ∈ keys fs := (List.mem_cons.mp h).resolve_left (Ne.symm hk)
      by_cases ho : k = other
      · simp [insert, ho, hne.symm]
      · simp [insert, hk, ho, ih hmem]

lemma insert_extend_of_mem {fs more : Fields α} {key : String} (h : key ∈ keys fs)
    (hmore : key ∉ keys more) (value : α) :
    insert (extend fs more) key value = extend (insert fs key value) more := by
  induction more generalizing fs with
  | nil => rfl
  | cons e more ih =>
    obtain ⟨hne, hmore⟩ := not_or.mp (mt List.mem_cons.mpr hmore)
    rw [extend_cons, extend_cons, ih (mem_keys_insert.mpr (.inr h)) hmore,
      insert_comm_of_mem h hne]

lemma extend_insert (fs : Fields α) {more : Fields α} (hn : (keys more).Nodup) (key : String)
    (value : α) : extend fs (insert more key value) = insert (extend fs more) key value := by
  induction more generalizing fs with
  | nil => rfl
  | cons e more ih =>
    obtain ⟨k, v⟩ := e
    obtain ⟨hk, hn⟩ := List.nodup_cons.mp hn
    by_cases hkey : k = key
    · subst hkey
      have hmem : k ∈ keys (insert fs k v) := mem_keys_insert.mpr (.inl rfl)
      rw [extend_cons, insert_extend_of_mem hmem hk, insert_insert_self]
      simp [insert]
    · simp only [insert, if_neg hkey, extend_cons]
      exact ih (insert fs k v) hn

/-- Entries can be written one after the other, or gathered into fields first. -/
lemma extend_extend (fs : Fields α) {acc : Fields α} (hn : (keys acc).Nodup) (more : Fields α) :
    extend fs (extend acc more) = extend (extend fs acc) more := by
  induction more generalizing acc with
  | nil => rfl
  | cons e more ih =>
    rw [extend_cons, extend_cons, ih (nodup_insert e.1 e.2 hn), extend_insert fs hn]

lemma extend_ofEntries (fs : Fields α) (entries : List (String × α)) :
    extend fs (ofEntries entries) = extend fs entries :=
  extend_extend fs (show (keys ([] : Fields α)).Nodup from List.nodup_nil) entries

lemma get?_extend_of_notMem (fs : Fields α) {more : Fields α} {key : String}
    (h : key ∉ keys more) : get? (extend fs more) key = get? fs key := by
  induction more generalizing fs with
  | nil => rfl
  | cons e more ih =>
    obtain ⟨hk, h⟩ := not_or.mp (mt List.mem_cons.mpr h)
    rw [extend_cons, ih _ h, get?_insert_of_ne _ _ (Ne.symm hk)]

/-- The last entry of a key is the one that counts. -/
lemma get?_ofEntries_of_notMem {before after : Fields α} {key : String} {value : α}
    (h : key ∉ keys after) :
    get? (ofEntries (before ++ (key, value) :: after)) key = some value := by
  rw [ofEntries, extend_append, extend_cons, get?_extend_of_notMem _ h, get?_insert_self]

@[simp] lemma keys_mapValues (f : α → β) (fs : Fields α) : keys (mapValues f fs) = keys fs := by
  simp [keys, mapValues]

@[simp] lemma get?_mapValues (f : α → β) (fs : Fields α) (key : String) :
    get? (mapValues f fs) key = (get? fs key).map f := by
  induction fs with
  | nil => rfl
  | cons e fs ih =>
    have h : mapValues f (e :: fs) = (e.1, f e.2) :: mapValues f fs := rfl
    rw [h, get?_cons, get?_cons, ih]
    split <;> rfl

lemma mapValues_insert (f : α → β) (fs : Fields α) (key : String) (value : α) :
    mapValues f (insert fs key value) = insert (mapValues f fs) key (f value) := by
  induction fs with
  | nil => rfl
  | cons e fs ih =>
    obtain ⟨k, v⟩ := e
    by_cases h : k = key
    · simp [insert, mapValues, h]
    · simp only [mapValues] at ih
      simp [insert, mapValues, h, ih]

lemma mapValues_extend (f : α → β) (fs more : Fields α) :
    mapValues f (extend fs more) = extend (mapValues f fs) (mapValues f more) := by
  induction more generalizing fs with
  | nil => rfl
  | cons e more ih =>
    rw [extend_cons, ih, mapValues_insert]
    rfl

lemma mapValues_erase (f : α → β) (fs : Fields α) (key : String) :
    mapValues f (erase fs key) = erase (mapValues f fs) key := by
  simp [mapValues, erase, List.filter_map, Function.comp_def]

end Schemata.Fields
