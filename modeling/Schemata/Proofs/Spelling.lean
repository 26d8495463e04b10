import Mathlib.Data.List.Basic
import Schemata.Spelling

/-! Spellings are settled: snake case leaves no mark that asks for snake case again, and camel case
no underscore that asks for camel case again. -/
namespace Schemata
namespace Text

lemma toNat_ofNat (n : Nat) : (Char.ofNat n).toNat = n ∨ (Char.ofNat n).toNat = 0 := by
  by_cases hv : n.isValidChar
  · rw [Char.ofNat, dif_pos hv]
    exact .inl rfl
  · rw [Char.ofNat, dif_neg hv]
    exact .inr rfl

/-- An ASCII capital or a dollar sign: a name with such a character is not canonical. -/
def isMark (c : Char) : Bool := c.isUpper || c = '$'

lemma isMark_ofNat_of_le {n : Nat} (h : 0x5B ≤ n) : isMark (Char.ofNat n) = false := by
  have hn := toNat_ofNat n
  have hd : Char.ofNat n ≠ '$' := by
    intro he
    rw [he] at hn
    have h36 : '$'.toNat = 36 := rfl
    omega
  have hu : (Char.ofNat n).isUpper = false := by
    change decide ((Char.ofNat n).val ≥ 'A'.val ∧ (Char.ofNat n).val ≤ 'Z'.val) = false
    simp only [decide_eq_false_iff_not, ge_iff_le, UInt32.le_iff_toNat_le]
    simp only [Char.toNat] at hn
    have h65 : ('A'.val).toNat = 65 := rfl
    have h90 : ('Z'.val).toNat = 90 := rfl
    omega
  simp [isMark, hu, hd]

lemma isMark_toLower_ascii : ∀ n < 128, n ≠ 36 → isMark (Char.ofNat n).toLower = false := by
  decide +kernel

/-- Every shift leads beyond the ASCII capitals. -/
lemma le_lowerShifts : ∀ s ∈ lowerShifts, 0x5B ≤ s.2 := by decide +kernel

lemma le_shifted_lower {n : Nat} (h : 0x5B ≤ n) : 0x5B ≤ shifted lowerShifts n := by
  unfold shifted
  split
  · rename_i s hs
    have := le_lowerShifts s (List.mem_of_find?_eq_some hs)
    omega
  · exact h

lemma isMark_of_mem_lower {c d : Char} (hc : c ≠ '$') (hd : d ∈ lower c) : isMark d = false := by
  unfold lower at hd
  split at hd
  · rename_i hn
    have h36 : c.toNat ≠ 36 := by
      intro he
      exact hc (by rw [← Char.ofNat_toNat c, he])
    have h := isMark_toLower_ascii c.toNat hn h36
    rw [Char.ofNat_toNat] at h
    rwa [List.mem_singleton.mp hd]
  · split at hd
    · rcases List.mem_cons.mp hd with rfl | hd
      · decide
      · rw [List.mem_singleton.mp hd]
        decide
    · rename_i hn _
      rw [List.mem_singleton.mp hd]
      exact isMark_ofNat_of_le (le_shifted_lower (by omega))

lemma mem_pieces {c : Char} {piece w : List Char} {cs : List Char} (hw : w ∈ pieces piece cs)
    (hc : c ∈ w) : c ∈ piece ∨ isAlphanumeric c = true := by
  induction cs generalizing piece with
  | nil =>
    rw [pieces, List.mem_singleton] at hw
    exact .inl (hw ▸ hc)
  | cons d cs ih =>
    rw [pieces] at hw
    split at hw
    · rename_i hd
      rcases ih hw with h | h
      · rcases List.mem_append.mp h with h | h
        · exact .inl h
        · exact .inr (List.mem_singleton.mp h ▸ hd)
      · exact .inr h
    · rcases List.mem_cons.mp hw with rfl | hw
      · exact .inl hc
      · rcases ih hw with h | h
        · cases h
        · exact .inr h

lemma mem_humps {mode : CaseMode} {c : Char} {word w cs : List Char} (hw : w ∈ humps mode word cs)
    (hc : c ∈ w) : c ∈ word ∨ c ∈ cs := by
  induction cs generalizing mode word with
  | nil => simp [humps] at hw
  | cons d cs ih =>
    cases cs with
    | nil =>
      simp only [humps, List.mem_singleton] at hw
      subst hw
      simpa using hc
    | cons next rest =>
      simp only [humps] at hw
      generalize (if isLowercase d = true then CaseMode.lower
        else if isUppercase d = true then CaseMode.upper else mode) = reached at hw
      split at hw
      · rcases List.mem_cons.mp hw with rfl | hw
        · rcases List.mem_append.mp hc with h | h
          · exact .inl h
          · exact .inr (by simp_all)
        · rcases ih hw with h | h
          · cases h
          · exact .inr (List.mem_cons_of_mem _ h)
      · split at hw
        · rcases List.mem_cons.mp hw with rfl | hw
          · exact .inl hc
          · rcases ih hw with h | h
            · exact .inr (by simp_all)
            · exact .inr (List.mem_cons_of_mem _ h)
        · rcases ih hw with h | h
          · rcases List.mem_append.mp h with h | h
            · exact .inl h
            · exact .inr (by simp_all)
          · exact .inr (List.mem_cons_of_mem _ h)

lemma isAlphanumeric_of_mem_words {c : Char} {name w : List Char} (hw : w ∈ words name)
    (hc : c ∈ w) : isAlphanumeric c = true := by
  obtain ⟨piece, hp, hw⟩ := List.mem_flatMap.mp hw
  rcases mem_humps hw hc with h | h
  · cases h
  · rcases mem_pieces hp h with h | h
    · cases h
    · exact h

lemma mem_lowerWord {d : Char} {w : List Char} (h : d ∈ lowerWord w) :
    d = 'ς' ∨ ∃ c ∈ w, d ∈ lower c := by
  induction w using lowerWord.induct with
  | case1 => cases h
  | case2 => exact .inl (List.mem_singleton.mp h)
  | case3 c cs hne ih =>
    rw [lowerWord] at h
    · rcases List.mem_append.mp h with h | h
      · exact .inr ⟨c, List.mem_cons_self, h⟩
      · rcases ih h with h | ⟨c', hc', h⟩
        · exact .inl h
        · exact .inr ⟨c', List.mem_cons_of_mem _ hc', h⟩
    · exact hne

lemma mem_intercalate_singleton {s d : Char} {ws : List (List Char)}
    (h : d ∈ [s].intercalate ws) : d = s ∨ ∃ w ∈ ws, d ∈ w := by
  induction ws with
  | nil => simp [List.intercalate] at h
  | cons w ws ih =>
    cases ws with
    | nil => exact .inr ⟨w, by simp, by simpa [List.intercalate] using h⟩
    | cons v ws =>
      have h : d ∈ w ++ (s :: [s].intercalate (v :: ws)) := by simpa [List.intercalate] using h
      rcases List.mem_append.mp h with h | h
      · exact .inr ⟨w, by simp, h⟩
      · rcases List.mem_cons.mp h with h | h
        · exact .inl h
        · rcases ih h with h | ⟨w', hw', hd⟩
          · exact .inl h
          · exact .inr ⟨w', List.mem_cons_of_mem _ hw', hd⟩

/-- Shifts lead to a code point only if one of them leads around it. -/
lemma shifted_ne {shifts : List Shift} {n m : Nat} (hn : n ≠ m)
    (h : ∀ s ∈ shifts, m < s.2 ∨ s.2 + (s.1.2.1 - s.1.1) < m) : shifted shifts n ≠ m := by
  unfold shifted
  split
  · rename_i s hs
    have hspan := List.find?_some hs
    have hside := h s (List.mem_of_find?_eq_some hs)
    simp only [Span.contains, Bool.and_eq_true, decide_eq_true_eq] at hspan
    omega
  · exact hn

lemma ofNat_ne_underscore {n : Nat} (h : n ≠ 0x5F) : Char.ofNat n ≠ '_' := by
  intro he
  have hn := toNat_ofNat n
  rw [he] at hn
  have h95 : '_'.toNat = 0x5F := rfl
  omega

lemma underscore_notMem_ascii : ∀ n < 128, n ≠ 0x5F →
    (Char.ofNat n).toLower ≠ '_' ∧ (Char.ofNat n).toUpper ≠ '_' := by
  decide +kernel

lemma lowerShifts_around : ∀ s ∈ lowerShifts, 0x5F < s.2 ∨ s.2 + (s.1.2.1 - s.1.1) < 0x5F := by
  decide +kernel

lemma upperShifts_around : ∀ s ∈ upperShifts, 0x5F < s.2 ∨ s.2 + (s.1.2.1 - s.1.1) < 0x5F := by
  decide +kernel

lemma upperExpansions_around : ∀ e ∈ upperExpansions, ∀ n ∈ e.2, n ≠ 0x5F := by decide +kernel

section Underscore
variable {c : Char}

lemma toNat_ne_underscore (hc : c ≠ '_') : c.toNat ≠ 0x5F := by
  intro he
  exact hc (by rw [← Char.ofNat_toNat c, he])

lemma underscore_notMem_lower (hc : c ≠ '_') : '_' ∉ lower c := by
  have hcode := toNat_ne_underscore hc
  unfold lower
  split
  · rename_i hn
    have h := (underscore_notMem_ascii c.toNat hn hcode).1
    rw [Char.ofNat_toNat] at h
    exact fun hmem => h (List.mem_singleton.mp hmem).symm
  · split
    · decide
    · have h := ofNat_ne_underscore (shifted_ne hcode lowerShifts_around)
      exact fun hmem => h (List.mem_singleton.mp hmem).symm

lemma underscore_notMem_upper (hc : c ≠ '_') : '_' ∉ upper c := by
  have hcode := toNat_ne_underscore hc
  unfold upper
  split
  · rename_i hn
    have h := (underscore_notMem_ascii c.toNat hn hcode).2
    rw [Char.ofNat_toNat] at h
    exact fun hmem => h (List.mem_singleton.mp hmem).symm
  · split
    · rename_i ns hns
      intro hmem
      obtain ⟨n, hn, heq⟩ := List.mem_map.mp hmem
      obtain ⟨before, after, hsplit, _⟩ := List.lookup_eq_some_iff.mp hns
      have hentry : (c.toNat, ns) ∈ upperExpansions := by simp [hsplit]
      exact ofNat_ne_underscore (upperExpansions_around _ hentry n hn) heq
    · have h := ofNat_ne_underscore (shifted_ne hcode upperShifts_around)
      exact fun hmem => h (List.mem_singleton.mp hmem).symm

variable {w : List Char}

lemma underscore_notMem_lowerWord (hw : '_' ∉ w) : '_' ∉ lowerWord w := by
  intro h
  rcases mem_lowerWord h with h | ⟨c, hc, h⟩
  · exact absurd h (by decide)
  · exact underscore_notMem_lower (fun he => hw (he ▸ hc)) h

lemma underscore_notMem_capitalWord (hw : '_' ∉ w) : '_' ∉ capitalWord w := by
  cases w with
  | nil => exact hw
  | cons c cs =>
    obtain ⟨hc, hcs⟩ := not_or.mp (mt List.mem_cons.mpr hw)
    intro h
    rcases List.mem_append.mp h with h | h
    · exact underscore_notMem_upper (Ne.symm hc) h
    · exact underscore_notMem_lowerWord hcs h

end Underscore

/-- No underscore is left in camel case. -/
theorem underscore_notMem_lowerCamelCase (name : String) :
    '_' ∉ (lowerCamelCase name).toList := by
  have hwords : ∀ w ∈ words name.toList, '_' ∉ w :=
    fun w hw hmem => absurd (isAlphanumeric_of_mem_words hw hmem) (by decide)
  unfold lowerCamelCase
  split
  · decide
  · rename_i w ws hws
    rw [hws, List.forall_mem_cons] at hwords
    rw [String.toList_ofList, List.mem_append, List.mem_flatMap]
    rintro (h | ⟨v, hv, h⟩)
    · exact underscore_notMem_lowerWord hwords.1 h
    · exact underscore_notMem_capitalWord (hwords.2 v hv) h

/-- No mark is left in snake case. -/
theorem isMark_of_mem_snakeCase {name : String} {d : Char} (h : d ∈ (snakeCase name).toList) :
    isMark d = false := by
  rw [snakeCase, String.toList_ofList] at h
  rcases mem_intercalate_singleton h with rfl | ⟨w, hw, hd⟩
  · decide
  · obtain ⟨v, hv, rfl⟩ := List.mem_map.mp hw
    rcases mem_lowerWord hd with rfl | ⟨c, hc, hd⟩
    · decide
    · refine isMark_of_mem_lower ?_ hd
      rintro rfl
      exact absurd (isAlphanumeric_of_mem_words hv hc) (by decide)

end Text

lemma canonicalName_of_no_mark {name : String} (h : ∀ c ∈ name.toList, Text.isMark c = false) :
    canonicalName name = name := by
  unfold canonicalName
  rw [if_neg]
  simpa [Text.isMark] using h

theorem isMark_of_mem_canonicalName {name : String} {c : Char}
    (h : c ∈ (canonicalName name).toList) : Text.isMark c = false := by
  unfold canonicalName at h
  split at h
  · exact Text.isMark_of_mem_snakeCase h
  · rename_i hn
    simp only [List.any_eq_true, not_exists, not_and] at hn
    simpa [Text.isMark] using hn c h

/-- A canonical name is its own canonical name. -/
@[simp] theorem canonicalName_canonicalName (name : String) :
    canonicalName (canonicalName name) = canonicalName name :=
  canonicalName_of_no_mark fun _ h => isMark_of_mem_canonicalName h

/-- A key that is changed has no underscore left. -/
lemma underscore_notMem_documentKey {key : String} (h : documentKey key ≠ key) :
    '_' ∉ (documentKey key).toList := by
  unfold documentKey at h ⊢
  split
  · decide
  · split
    · decide
    · split
      · rename_i hk hr hself
        rw [if_neg hk, if_neg hr, if_pos hself] at h
        exact absurd rfl h
      · exact Text.underscore_notMem_lowerCamelCase key

lemma documentKey_of_no_underscore {key : String} (h : '_' ∉ key.toList)
    (hne : key ∉ ["kind", "ref"]) : documentKey key = key := by
  simp only [List.mem_cons, List.not_mem_nil, or_false, not_or] at hne
  simp [documentKey, hne, h]

/-- A document spelling is its own document spelling, unless a key was changed into one of the two
that have a name of their own in documents. -/
theorem documentKey_documentKey {key : String}
    (h : documentKey key ≠ key → documentKey key ∉ ["kind", "ref"]) :
    documentKey (documentKey key) = documentKey key := by
  by_cases hself : documentKey key = key
  · rw [hself, hself]
  · exact documentKey_of_no_underscore (underscore_notMem_documentKey hself) (h hself)

end Schemata
