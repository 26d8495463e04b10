import Mathlib.Data.Set.Function
import Mathlib.Tactic.MkIffOfInductiveProp
import Schemata.Proofs.CanonicalNames
import Schemata.Proofs.Steady

/-! Names of plain words: the spelling that documents give them is accepted back, so no two
attributes with such names come to stand under one key. -/
namespace Schemata

namespace Text

/-- A word of at least two small letters of ASCII. -/
@[mk_iff] structure IsPlainWord (w : List Char) : Prop where
  two_le : 2 ≤ w.length
  isLower : ∀ c ∈ w, c.isLower = true

instance (w : List Char) : Decidable (IsPlainWord w) :=
  decidable_of_iff (2 ≤ w.length ∧ w.all Char.isLower = true) (by
    rw [isPlainWord_iff, List.all_eq_true])

/-- The class and the mappings of a small letter of ASCII, and those of its capital. -/
@[mk_iff] structure SmallLetter (c : Char) : Prop where
  lowercase : isLowercase c = true
  not_uppercase : isUppercase c = false
  alphanumeric : isAlphanumeric c = true
  lower_eq : lower c = [c]
  upper_eq : upper c = [c.toUpper]
  toUpper_ne : c.toUpper ≠ c
  uppercase_toUpper : isUppercase c.toUpper = true
  not_lowercase_toUpper : isLowercase c.toUpper = false
  alphanumeric_toUpper : isAlphanumeric c.toUpper = true
  lower_toUpper : lower c.toUpper = [c]
  isMark_eq : isMark c = false
  isMark_toUpper : isMark c.toUpper = true

instance (c : Char) : Decidable (SmallLetter c) := decidable_of_iff' _ (smallLetter_iff c)

lemma toNat_lt_of_isLower {c : Char} (h : c.isLower = true) : c.toNat < 128 := by
  change (decide ('a'.val ≤ c.val) && decide (c.val ≤ 'z'.val)) = true at h
  simp only [Bool.and_eq_true, decide_eq_true_eq, UInt32.le_iff_toNat_le] at h
  have hz : ('z'.val).toNat = 122 := rfl
  simp only [Char.toNat]
  omega

lemma smallLetter_of_isLower {c : Char} (h : c.isLower = true) : SmallLetter c := by
  have hall : ∀ n < 128, (Char.ofNat n).isLower = true → SmallLetter (Char.ofNat n) := by
    decide +kernel
  have hc := hall c.toNat (toNat_lt_of_isLower h)
  rw [Char.ofNat_toNat] at hc
  exact hc h

lemma pieces_eq_modifyHead {cs : List Char} (h : ∀ c ∈ cs, isAlphanumeric c = true ∨ c = '_')
    (piece : List Char) : pieces piece cs = (cs.splitOn '_').modifyHead (piece ++ ·) := by
  induction cs generalizing piece with
  | nil => simp [pieces]
  | cons c cs ih =>
    obtain ⟨hc, hcs⟩ := List.forall_mem_cons.mp h
    rw [pieces, List.splitOn_cons_eq_if_modifyHead]
    rcases hc with hc | rfl
    · have hne : (c == '_') = false := by
        rw [beq_eq_false_iff_ne]
        rintro rfl
        exact absurd hc (by decide)
      rw [if_pos hc, ih hcs, hne, if_neg Bool.false_ne_true, List.modifyHead_modifyHead]
      congr 1
      funext w
      simp
    · have hscore : isAlphanumeric '_' = false := by decide
      rw [hscore, if_neg Bool.false_ne_true, if_pos (beq_self_eq_true _), ih hcs,
        List.modifyHead_cons, List.append_nil]
      exact congrArg (piece :: ·) (congrFun List.modifyHead_id _)

/-- Where underscores alone part the letters and digits, the pieces are what they part. -/
lemma pieces_eq_splitOn {cs : List Char} (h : ∀ c ∈ cs, isAlphanumeric c = true ∨ c = '_') :
    pieces [] cs = cs.splitOn '_' := by
  rw [pieces_eq_modifyHead h]
  exact congrFun List.modifyHead_id _

/-- Small letters make one word with what stands before them, and a capital begins the next one. -/
lemma humps_append {w rest : List Char} (hw : ∀ c ∈ w, c.isLower = true) (hne : w ≠ [])
    (hrest : ∀ c ∈ rest.head?, isUppercase c = true) (mode : CaseMode) (word : List Char) :
    humps mode word (w ++ rest) = (word ++ w) :: humps .none [] rest := by
  -- a small letter sets the mode anew, so the induction has to go over every mode before it
  induction w generalizing mode word with
  | nil => exact absurd rfl hne
  | cons c w ih =>
    obtain ⟨hc, hw⟩ := List.forall_mem_cons.mp hw
    have hsmall := smallLetter_of_isLower hc
    cases w with
    | nil =>
      cases rest with
      | nil => rfl
      | cons next rest =>
        have hnext : isUppercase next = true := hrest next rfl
        simp [humps, hsmall.lowercase, hnext]
    | cons d w =>
      have hd := smallLetter_of_isLower (hw d List.mem_cons_self)
      have hrest := ih hw (List.cons_ne_nil d w) .lower (word ++ [c])
      simp only [List.cons_append, List.append_assoc, List.nil_append] at hrest ⊢
      rw [humps]
      simpa [hsmall.lowercase, hsmall.not_uppercase, hd.not_uppercase] using hrest

lemma lowerWord_of_small {w : List Char} (hw : ∀ c ∈ w, c.isLower = true) : lowerWord w = w := by
  induction w using lowerWord.induct with
  | case1 => rfl
  | case2 => exact absurd (hw 'Σ' (List.mem_singleton_self _)) (by decide)
  | case3 c cs hne ih =>
    obtain ⟨hc, hcs⟩ := List.forall_mem_cons.mp hw
    rw [lowerWord, (smallLetter_of_isLower hc).lower_eq, ih hcs, List.singleton_append]
    exact hne

namespace IsPlainWord
variable {w : List Char}

/-- A plain word has letters behind its first one, and only the first one is changed when the word
is capitalized. -/
lemma exists_cons (h : IsPlainWord w) : ∃ c cs, w = c :: cs ∧ SmallLetter c ∧ cs ≠ [] ∧
    (∀ d ∈ cs, d.isLower = true) ∧ capitalWord w = c.toUpper :: cs := by
  obtain ⟨htwo, hlower⟩ := h
  match w with
  | [] | [_] => simp at htwo
  | c :: d :: cs =>
    obtain ⟨hc, hcs⟩ := List.forall_mem_cons.mp hlower
    have hsmall := smallLetter_of_isLower hc
    refine ⟨c, d :: cs, rfl, hsmall, List.cons_ne_nil d cs, hcs, ?_⟩
    rw [capitalWord, hsmall.upper_eq, lowerWord_of_small hcs, List.singleton_append]

lemma ne_nil (h : IsPlainWord w) : w ≠ [] := by
  rintro rfl
  exact absurd h.two_le (by decide)

lemma lowerWord_eq (h : IsPlainWord w) : lowerWord w = w := lowerWord_of_small h.isLower

lemma lowerWord_capitalWord (h : IsPlainWord w) : lowerWord (capitalWord w) = w := by
  obtain ⟨c, cs, rfl, hc, hne, hcs, hcapital⟩ := h.exists_cons
  rw [hcapital, lowerWord, hc.lower_toUpper, lowerWord_of_small hcs, List.singleton_append]
  exact fun _ hnil => hne hnil

lemma alphanumeric (h : IsPlainWord w) : ∀ c ∈ w, isAlphanumeric c = true :=
  fun c hc => (smallLetter_of_isLower (h.isLower c hc)).alphanumeric

lemma alphanumeric_capitalWord (h : IsPlainWord w) :
    ∀ c ∈ capitalWord w, isAlphanumeric c = true := by
  obtain ⟨c, cs, rfl, hc, _, hcs, hcapital⟩ := h.exists_cons
  rw [hcapital, List.forall_mem_cons]
  exact ⟨hc.alphanumeric_toUpper, fun d hd => (smallLetter_of_isLower (hcs d hd)).alphanumeric⟩

end IsPlainWord

section Words
variable {w : List Char} {ws : List (List Char)}

lemma humps_capitalWords (hws : ∀ w ∈ ws, IsPlainWord w) :
    (∀ c ∈ (ws.flatMap capitalWord).head?, isUppercase c = true) ∧
    humps .none [] (ws.flatMap capitalWord) = ws.map capitalWord := by
  induction ws with
  | nil => exact ⟨by simp, rfl⟩
  | cons w ws ih =>
    obtain ⟨hw, hws⟩ := List.forall_mem_cons.mp hws
    obtain ⟨hhead, hcut⟩ := ih hws
    obtain ⟨c, cs, rfl, hc, hne, hcs, hcapital⟩ := hw.exists_cons
    rw [List.flatMap_cons, List.map_cons, hcapital]
    refine ⟨by simpa using hc.uppercase_toUpper, ?_⟩
    -- behind a capital the next letter is small, and no run of capitals is there to be cut
    have htail := humps_append hcs hne hhead .upper [c.toUpper]
    obtain ⟨d, ds, rfl⟩ := List.exists_cons_of_ne_nil hne
    simp only [List.cons_append] at htail ⊢
    rw [humps]
    simpa [hc.not_lowercase_toUpper, hc.uppercase_toUpper, hcut] using htail

/-- Camel case is cut where its capitals stand. -/
lemma words_camel (hw : IsPlainWord w) (hws : ∀ w ∈ ws, IsPlainWord w) :
    words (w ++ ws.flatMap capitalWord) = w :: ws.map capitalWord := by
  have halnum : ∀ c ∈ w ++ ws.flatMap capitalWord, isAlphanumeric c = true := by
    simp only [List.mem_append, List.mem_flatMap]
    rintro c (hc | ⟨v, hv, hc⟩)
    · exact hw.alphanumeric c hc
    · exact (hws v hv).alphanumeric_capitalWord c hc
  have hscore : '_' ∉ w ++ ws.flatMap capitalWord :=
    fun hmem => absurd (halnum '_' hmem) (by decide)
  obtain ⟨hhead, hcut⟩ := humps_capitalWords hws
  rw [words, pieces_eq_splitOn fun c hc => .inl (halnum c hc), List.splitOn_eq_singleton hscore,
    List.flatMap_singleton, humps_append hw.isLower hw.ne_nil hhead, hcut, List.nil_append]

end Words

section Names
variable {name : String}

lemma small_or_underscore (h : ∀ w ∈ name.toList.splitOn '_', IsPlainWord w) :
    ∀ c ∈ name.toList, c.isLower = true ∨ c = '_' := by
  intro c hc
  have hname : ['_'].intercalate (name.toList.splitOn '_') = name.toList :=
    List.intercalate_splitOn '_'
  rw [← hname] at hc
  rcases mem_intercalate_singleton hc with rfl | ⟨w, hw, hc⟩
  · exact .inr rfl
  · exact .inl ((h w hw).isLower c hc)

lemma words_of_plain (h : ∀ w ∈ name.toList.splitOn '_', IsPlainWord w) :
    words name.toList = name.toList.splitOn '_' := by
  have halnum : ∀ c ∈ name.toList, isAlphanumeric c = true ∨ c = '_' := fun c hc =>
    (small_or_underscore h c hc).imp_left fun hlower =>
      (smallLetter_of_isLower hlower).alphanumeric
  have hword : ∀ w ∈ name.toList.splitOn '_', humps .none [] w = [w] := by
    intro w hw
    have hend : ∀ c ∈ ([] : List Char).head?, isUppercase c = true := by simp
    have hcut := humps_append (h w hw).isLower (h w hw).ne_nil hend .none []
    rwa [List.append_nil, List.nil_append] at hcut
  rw [words, pieces_eq_splitOn halnum, List.flatMap_congr hword, List.flatMap_singleton']

/-- A name of plain words, the first of them apart. -/
structure PlainWords (name : String) (w : List Char) (ws : List (List Char)) : Prop where
  toList_eq : name.toList = ['_'].intercalate (w :: ws)
  words_eq : words name.toList = w :: ws
  first : IsPlainWord w
  others : ∀ v ∈ ws, IsPlainWord v

lemma exists_plainWords (h : ∀ w ∈ name.toList.splitOn '_', IsPlainWord w) :
    ∃ w ws, PlainWords name w ws := by
  obtain ⟨w, ws, hsplit⟩ := List.exists_cons_of_ne_nil (List.splitOn_ne_nil '_' name.toList)
  have hname : ['_'].intercalate (name.toList.splitOn '_') = name.toList :=
    List.intercalate_splitOn '_'
  have hwords := words_of_plain h
  rw [hsplit] at h hname hwords
  obtain ⟨hw, hws⟩ := List.forall_mem_cons.mp h
  exact ⟨w, ws, hname.symm, hwords, hw, hws⟩

namespace PlainWords
variable {w : List Char} {ws : List (List Char)}

/-- The first word stays in camel case, and every other one gets a capital. -/
lemma lowerCamelCase_eq (h : PlainWords name w ws) :
    lowerCamelCase name = String.ofList (w ++ ws.flatMap capitalWord) := by
  rw [lowerCamelCase, h.words_eq]
  exact congrArg (fun v => String.ofList (v ++ _)) h.first.lowerWord_eq

/-- Snake case brings camel case back. -/
theorem snakeCase_lowerCamelCase (h : PlainWords name w ws) :
    snakeCase (lowerCamelCase name) = name := by
  have hback : (ws.map capitalWord).map lowerWord = ws := by
    rw [List.map_map]
    exact (List.map_congr_left fun v hv => (h.others v hv).lowerWord_capitalWord).trans
      (List.map_id ws)
  rw [h.lowerCamelCase_eq, snakeCase, String.toList_ofList, words_camel h.first h.others,
    List.map_cons, h.first.lowerWord_eq, hback, ← h.toList_eq, String.ofList_toList]

/-- A name of several words has a capital in camel case. -/
lemma exists_mark_lowerCamelCase (h : PlainWords name w ws) (hscore : '_' ∈ name.toList) :
    ∃ c ∈ (lowerCamelCase name).toList, isMark c = true := by
  cases ws with
  | nil =>
    rw [h.toList_eq, List.intercalate_singleton] at hscore
    exact absurd (h.first.isLower '_' hscore) (by decide)
  | cons v vs =>
    obtain ⟨c, cs, rfl, hc, _, _, hcapital⟩ := (h.others v List.mem_cons_self).exists_cons
    refine ⟨c.toUpper, ?_, hc.isMark_toUpper⟩
    rw [h.lowerCamelCase_eq, String.toList_ofList, List.flatMap_cons, hcapital]
    simp

lemma exists_cons (h : PlainWords name w ws) : ∃ c cs, name.toList = c :: cs ∧ SmallLetter c := by
  obtain ⟨c, cs, rfl, hc, _⟩ := h.first.exists_cons
  rw [h.toList_eq]
  cases ws with
  | nil => exact ⟨c, cs, by rw [List.intercalate_singleton], hc⟩
  | cons v vs => exact ⟨c, _, by rw [List.intercalate_cons_cons]; rfl, hc⟩

end PlainWords

end Names

end Text

lemma canonicalName_of_mark {name : String} (h : ∃ c ∈ name.toList, Text.isMark c = true) :
    canonicalName name = Text.snakeCase name := by
  unfold canonicalName
  rw [if_pos]
  simpa [Text.isMark] using h

/-- A name other than `kind` that is made of plain words, with single underscores between them. -/
@[mk_iff] structure IsPlainName (key : String) : Prop where
  ne_kind : key ≠ "kind"
  words : ∀ w ∈ key.toList.splitOn '_', Text.IsPlainWord w

instance (key : String) : Decidable (IsPlainName key) := decidable_of_iff' _ (isPlainName_iff key)

namespace IsPlainName
variable {key : String}

lemma canonicalName_eq (h : IsPlainName key) : canonicalName key = key := by
  apply canonicalName_of_no_mark
  intro c hc
  rcases Text.small_or_underscore h.words c hc with hc | rfl
  · exact (Text.smallLetter_of_isLower hc).isMark_eq
  · decide

lemma isCapitalized_eq (h : IsPlainName key) : isCapitalized key.toList = false := by
  obtain ⟨_, _, hwords⟩ := Text.exists_plainWords h.words
  obtain ⟨c, cs, hname, hc⟩ := hwords.exists_cons
  rw [hname, isCapitalized, hc.upper_eq]
  simp [hc.toUpper_ne]

/-- The spelling of documents is another spelling of the same name. -/
theorem canonicalName_documentKey (h : IsPlainName key) :
    canonicalName (documentKey key) = key := by
  unfold documentKey
  rw [if_neg h.ne_kind, h.isCapitalized_eq, Bool.false_or]
  split
  · rename_i href
    rw [href]
    decide
  · split
    · exact h.canonicalName_eq
    · rename_i hscore
      have hscore : '_' ∈ key.toList := by simpa using hscore
      obtain ⟨_, _, hwords⟩ := Text.exists_plainWords h.words
      rw [canonicalName_of_mark (hwords.exists_mark_lowerCamelCase hscore),
        hwords.snakeCase_lowerCamelCase]

lemma ne_kindTag (h : IsPlainName key) : key ≠ kindTag := by
  rintro rfl
  exact absurd h (by decide)

lemma documentKey_ne_kindTag (h : IsPlainName key) : documentKey kindTag ≠ documentKey key := by
  intro heq
  have htag : canonicalName (documentKey kindTag) = "kind" := by decide
  rw [heq, h.canonicalName_documentKey] at htag
  exact h.ne_kind htag

end IsPlainName

lemma injOn_documentKey : Set.InjOn documentKey {key | IsPlainName key} := by
  intro key hkey other hother heq
  rw [← IsPlainName.canonicalName_documentKey hkey, heq,
    IsPlainName.canonicalName_documentKey hother]

/-- What stands under a name of plain words stays when keys are respelled, if no name of another
form comes to be spelled like it. -/
lemma mem_respell_of_plain {fs gs : Fields Tree} {key : String} {value : Tree}
    (hn : fs.keys.Nodup) (h : respell (.map fs) = .map gs) (hkey : IsPlainName key)
    (hmem : (key, value) ∈ fs)
    (hothers : ∀ other ∈ fs.keys, documentKey other = documentKey key → IsPlainName other) :
    (documentKey key, mapSlot respell key value) ∈ gs := by
  obtain ⟨before, after, rfl⟩ := List.append_of_mem hmem
  refine mem_of_lasting h ⟨before, after, rfl, fun e he heq => ?_⟩
  have hafter : e.1 ∈ Fields.keys after := Fields.mem_keys_of_mem he
  rw [Fields.keys_append, Fields.keys_cons] at hn hothers
  have hplain : IsPlainName e.1 :=
    hothers e.1 (List.mem_append_right _ (List.mem_cons_of_mem _ hafter)) heq
  obtain rfl := injOn_documentKey hplain hkey heq
  exact (List.nodup_cons.mp (List.nodup_append.mp hn).2.1).1 hafter

/-- The spelling that documents give to a name of plain words is accepted back: it addresses the
attribute that it was made of, no two of these names are spelled alike, and so an attribute of a
node is lost among the keys of a document only to one with a name of another form. -/
theorem documentKey_accepted :
    (∀ key, IsPlainName key → canonicalName (documentKey key) = key ∧
      ∀ n : Node, n.get? (documentKey key) = n.get? key ∧
        ∀ value, n.update (documentKey key) value = n.update key value) ∧
    Set.InjOn documentKey {key | IsPlainName key} ∧
    ∀ (k : Kind) (n : Node), n.Built k →
      ∃ gs : Fields Tree, respell n.toTree = .map gs ∧ gs.keys.Nodup ∧
        ∀ key v, (key, v) ∈ n.attributes → IsPlainName key →
          (∀ other ∈ n.attributes.keys, documentKey other = documentKey key → IsPlainName other) →
          (documentKey key, mapSlot respell key v.toTree) ∈ gs := by
  refine ⟨fun key hkey => ?_, injOn_documentKey, fun k n hn => ?_⟩
  · have hback := hkey.canonicalName_documentKey
    have hself := hkey.canonicalName_eq
    refine ⟨hback, fun n => ⟨?_, fun value => ?_⟩⟩
    · rw [Node.get?, Node.get?, hback, hself]
    · rw [Node.update, Node.update, hback, hself]
  · have hwell := hn.follows.toWellformed
    have hrespell : respell n.toTree = .map (respellKeys (mapSchemas respell n.fields)) := by
      rw [Node.toTree_eq, respell_map]
    refine ⟨_, hrespell, nodup_respellKeys _, fun key v hv hkey hothers => ?_⟩
    rw [Node.toTree_eq] at hrespell
    apply mem_respell_of_plain (Node.nodup_fields hwell) hrespell hkey
    · apply Fields.mem_of_get?
      have hget : n.attr? key = some v := Fields.get?_of_mem hwell.nodup hv
      rw [Node.get?_fields n hkey.ne_kindTag, hget, Option.map_some]
    · intro other hother heq
      rcases Node.mem_keys_fields hother with hother | rfl
      · exact hothers other hother heq
      · exact absurd heq hkey.documentKey_ne_kindTag

/-- A choice of one schema, which refers to another one. -/
def referring : Node := .mk Kind.boolean [("kind", .string "boolean"),
  ("any_of", .nodes [.mk Kind.null [("ref", .string "#")]])]

theorem documentKey_accepted_referring :
    IsPlainName "any_of" ∧ documentKey "any_of" = "anyOf" ∧
    Node.construct Kind.boolean referring.attributes = .ok referring ∧
    referring.get? "anyOf" = referring.get? "any_of" ∧
    ∃ gs : Fields Tree, respell referring.toTree = .map gs ∧
      ("anyOf", .list [.map [("$ref", .string "#")]]) ∈ gs := by
  have hplain : IsPlainName "any_of" := by decide
  have hkey : documentKey "any_of" = "anyOf" := by decide
  have hconstruct : Node.construct Kind.boolean referring.attributes = .ok referring := rfl
  have hothers : ∀ other ∈ referring.attributes.keys, documentKey other = documentKey "any_of" →
      IsPlainName other := by decide +kernel
  obtain ⟨haccepted, -, hnodes⟩ := documentKey_accepted
  obtain ⟨-, hread⟩ := haccepted "any_of" hplain
  obtain ⟨hget, -⟩ := hread referring
  obtain ⟨gs, hgs, -, hkept⟩ := hnodes Kind.boolean referring (.construct hconstruct)
  have hmem := hkept "any_of" _ (.tail _ (.head _)) hplain hothers
  rw [hkey] at hget hmem
  exact ⟨hplain, hkey, hconstruct, hget, gs, hgs, hmem⟩

/-- A word of one letter runs into the next one. -/
example : documentKey "a_b_c" = "aBC" ∧ canonicalName "aBC" = "a_bc" := by decide

end Schemata
