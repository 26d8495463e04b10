import Schemata.Proofs.Defaults
import Schemata.Proofs.Flags
import Schemata.Proofs.Respelling

/-! What remains of a schema without the choices it is boxed for: when it joins them, and when
it does not. -/
namespace Schemata

/-- Fields have two entries or more exactly if two of them are under different keys. -/
lemma Fields.one_lt_length_iff {α : Type} {fs : Fields α} (hn : (keys fs).Nodup) :
    1 < fs.length ↔ ∃ e ∈ fs, ∃ f ∈ fs, e.1 ≠ f.1 := by
  constructor
  · intro h
    match fs with
    | [] => cases h
    | [e] => simp at h
    | e :: f :: fs =>
      have hne : e.1 ≠ f.1 := by
        intro heq
        simp [heq] at hn
      exact ⟨e, by simp, f, by simp, hne⟩
  · rintro ⟨e, he, f, hf, hne⟩
    exact Flagged.one_lt_length_of_mem he hf fun heq => hne (congrArg Prod.fst heq)

/-- Fields without the value of one default. -/
def dropDefault (fs : Fields Tree) (d : String × AttrValue) : Fields Tree :=
  match fs.get? d.1 with
  | some t => if t.same d.2.toTree then fs.erase d.1 else fs
  | none => fs

lemma dropDefaults_cons (d : String × AttrValue) (ds : Fields AttrValue) (fs : Fields Tree) :
    dropDefaults (d :: ds) fs = dropDefaults ds (dropDefault fs d) := rfl

section Drop
variable {fs : Fields Tree} {e : String × Tree}

lemma nodup_dropDefault (hn : fs.keys.Nodup) (d : String × AttrValue) :
    (dropDefault fs d).keys.Nodup := by
  unfold dropDefault
  split
  · split
    · exact Fields.nodup_erase d.1 hn
    · exact hn
  · exact hn

lemma mem_dropDefault (hn : fs.keys.Nodup) (d : String × AttrValue) :
    e ∈ dropDefault fs d ↔ e ∈ fs ∧ (e.1 = d.1 → e.2.same d.2.toTree = false) := by
  have hvalue : e ∈ fs → e.1 = d.1 → fs.get? d.1 = some e.2 := by
    intro he hkey
    rw [← hkey]
    exact Fields.get?_of_mem hn he
  unfold dropDefault
  split
  · rename_i t ht
    rw [ht] at hvalue
    split
    · rename_i hsame
      rw [Fields.mem_erase]
      refine and_congr_right fun he => ⟨fun hne hkey => absurd hkey hne, fun hdiffers hkey => ?_⟩
      rw [← Option.some.inj (hvalue he hkey), hsame] at hdiffers
      cases hdiffers hkey
    · rename_i hdiffers
      refine ⟨fun he => ⟨he, fun hkey => ?_⟩, fun h => h.1⟩
      rw [← Option.some.inj (hvalue he hkey)]
      simpa using hdiffers
  · rename_i hnone
    rw [hnone] at hvalue
    exact ⟨fun he => ⟨he, fun hkey => nomatch hvalue he hkey⟩, fun h => h.1⟩

lemma nodup_dropDefaults (hn : fs.keys.Nodup) (defaults : Fields AttrValue) :
    (Fields.keys (dropDefaults defaults fs)).Nodup := by
  induction defaults generalizing fs with
  | nil => exact hn
  | cons d ds ih => exact ih (nodup_dropDefault hn d)

lemma mem_dropDefaults (hn : fs.keys.Nodup) {defaults : Fields AttrValue} :
    e ∈ dropDefaults defaults fs ↔
      e ∈ fs ∧ ∀ d, (e.1, d) ∈ defaults → e.2.same d.toTree = false := by
  induction defaults generalizing fs with
  | nil => exact ⟨fun h => ⟨h, fun _ hd => (nomatch hd)⟩, fun h => h.1⟩
  | cons d ds ih =>
    obtain ⟨key, value⟩ := d
    rw [dropDefaults_cons, ih (nodup_dropDefault hn _), mem_dropDefault hn, and_assoc]
    simp [or_imp, forall_and]

end Drop

lemma nodup_strip {fs : Fields Tree} (hn : fs.keys.Nodup) :
    (Fields.keys (dropBlankValues (mapSchemas strip (dropBookkeeping fs)))).Nodup := by
  refine hn.sublist ((List.filter_sublist.map Prod.fst).trans ?_)
  change List.Sublist (Fields.keys _) _
  rw [keys_mapSchemas]
  exact List.filter_sublist.map Prod.fst

/-- An entry that shows what a default did not put there: it is no bookkeeping, it is not blank
once it is stripped, and it equals no default of its key. -/
structure Shown (defaults : Fields AttrValue) (e : String × Tree) : Prop where
  not_bookkeeping : e.1 ∉ bookkeepingKeys
  not_blank : (mapSlot strip e.1 e.2).isBlank = false
  not_default : ∀ d, (e.1, d) ∈ defaults → e.2.same d.toTree = false

section Shown
variable {kinds : Registry} {rest : Fields Tree} {id : String}

/-- What is left of the remainder of an object are the entries that show. -/
lemma mem_strip_dropDefaults (hn : rest.keys.Nodup) {defaults : Fields AttrValue} {key : String}
    {w : Tree} :
    (key, w) ∈ dropBlankValues (mapSchemas strip (dropBookkeeping (dropDefaults defaults rest))) ↔
      ∃ value, (key, value) ∈ rest ∧ Shown defaults (key, value) ∧ mapSlot strip key value = w := by
  rw [mem_strip]
  constructor
  · rintro ⟨value, hvalue, hbook, rfl, hblank⟩
    obtain ⟨hrest, hdiffers⟩ := (mem_dropDefaults hn).mp hvalue
    exact ⟨value, hrest, ⟨hbook, hblank, hdiffers⟩, rfl⟩
  · rintro ⟨value, hrest, hshown, rfl⟩
    exact ⟨value, (mem_dropDefaults hn).mpr ⟨hrest, hshown.not_default⟩, hshown.not_bookkeeping,
      rfl, hshown.not_blank⟩

/-- What remains of an object carries meaning exactly if two of its entries are shown. -/
lemma carriesMeaning_object_iff_two (hn : rest.keys.Nodup)
    (hid : ((rest.get? kindTag).bind Tree.string?).getD "object" = id) :
    carriesMeaning kinds "object" rest = true ↔ ∃ e ∈ rest, ∃ f ∈ rest, e.1 ≠ f.1 ∧
      Shown (kinds.defaultsFor id) e ∧ Shown (kinds.defaultsFor id) f := by
  have hnodup := nodup_strip (nodup_dropDefaults hn (kinds.defaultsFor id))
  simp only [carriesMeaning, hid, strip_map, ne_eq, not_true_eq_false, decide_false, Bool.false_or,
    decide_eq_true_eq]
  rw [Fields.one_lt_length_iff hnodup]
  constructor
  · rintro ⟨e, he, f, hf, hne⟩
    obtain ⟨v, hv, hshown, _⟩ := (mem_strip_dropDefaults hn).mp he
    obtain ⟨w, hw, hshown', _⟩ := (mem_strip_dropDefaults hn).mp hf
    exact ⟨_, hv, _, hw, hne, hshown, hshown'⟩
  · rintro ⟨e, he, f, hf, hne, hshown, hshown'⟩
    exact ⟨_, (mem_strip_dropDefaults hn).mpr ⟨e.2, he, hshown, rfl⟩, _,
      (mem_strip_dropDefaults hn).mpr ⟨f.2, hf, hshown', rfl⟩, hne⟩

/-- Where its kind shows, one other entry is enough. -/
lemma carriesMeaning_object_iff_of_kind (hn : rest.keys.Nodup)
    (hkind : rest.get? "kind" = some (.string "object"))
    (hid : ((rest.get? kindTag).bind Tree.string?).getD "object" = id)
    (hshown : Shown (kinds.defaultsFor id) ("kind", .string "object")) :
    carriesMeaning kinds "object" rest = true ↔
      ∃ e ∈ rest, e.1 ≠ "kind" ∧ Shown (kinds.defaultsFor id) e := by
  rw [carriesMeaning_object_iff_two hn hid]
  constructor
  · rintro ⟨e, he, f, hf, hne, hshowne, hshownf⟩
    by_cases hkey : e.1 = "kind"
    · exact ⟨f, hf, hkey ▸ hne.symm, hshownf⟩
    · exact ⟨e, he, hkey, hshowne⟩
  · rintro ⟨e, he, hne, hshowne⟩
    exact ⟨e, he, _, Fields.mem_of_get? hkind, hne, hshowne, hshown⟩

/-- Where its kind does not show, two other entries are needed. -/
lemma carriesMeaning_object_iff_of_no_kind (hn : rest.keys.Nodup)
    (hkind : rest.get? "kind" = some (.string "object"))
    (hid : ((rest.get? kindTag).bind Tree.string?).getD "object" = id)
    (hshown : ¬ Shown (kinds.defaultsFor id) ("kind", .string "object")) :
    carriesMeaning kinds "object" rest = true ↔
      ∃ e ∈ rest, ∃ f ∈ rest, e.1 ≠ "kind" ∧ f.1 ≠ "kind" ∧ e.1 ≠ f.1 ∧
        Shown (kinds.defaultsFor id) e ∧ Shown (kinds.defaultsFor id) f := by
  have hother : ∀ e ∈ rest, Shown (kinds.defaultsFor id) e → e.1 ≠ "kind" := by
    rintro ⟨key, value⟩ he hshowne rfl
    rw [Fields.get?_of_mem hn he] at hkind
    cases hkind
    exact hshown hshowne
  rw [carriesMeaning_object_iff_two hn hid]
  constructor
  · rintro ⟨e, he, f, hf, hne, hshowne, hshownf⟩
    exact ⟨e, he, f, hf, hother e he hshowne, hother f hf hshownf, hne, hshowne, hshownf⟩
  · rintro ⟨e, he, f, hf, _, _, hne, hshowne, hshownf⟩
    exact ⟨e, he, f, hf, hne, hshowne, hshownf⟩

end Shown

/-- The identifier of an object: its tag, or the object itself. -/
def objectId (fs : Fields Tree) : String := ((fs.get? kindTag).bind Tree.string?).getD "object"

/-- A schema with choices is boxed at the first of them, and what remains of it joins them. An
object joins if it says something: one attribute beside its kind has to show, or two of them where
the kind itself is among the defaults that are left out. -/
theorem box_remainder (kinds : Registry) {fs : Fields Tree} (hn : fs.keys.Nodup) {kind : String}
    (hkind : specificKind? fs = some kind) {key : String} {ms : List Tree}
    (hfirst : firstChoices? fs = some (key, ms)) :
    let rest := fs.erase key
    let defaults := kinds.defaultsFor (objectId rest)
    box kinds (.map fs) = boxed key (ms.map (box kinds) ++
      if carriesMeaning kinds kind rest then [box kinds (.map rest)] else []) ∧
    (kind ≠ "object" → carriesMeaning kinds kind rest = true) ∧
    (kind = "object" →
      ((∀ d, ("kind", d) ∈ defaults → (Tree.string "object").same d.toTree = false) →
        (carriesMeaning kinds kind rest = true ↔
          ∃ e ∈ rest, e.1 ≠ "kind" ∧ Shown defaults e)) ∧
      ((∃ d, ("kind", d) ∈ defaults ∧ (Tree.string "object").same d.toTree = true) →
        (carriesMeaning kinds kind rest = true ↔
          ∃ e ∈ rest, ∃ f ∈ rest, e.1 ≠ "kind" ∧ f.1 ≠ "kind" ∧ e.1 ≠ f.1 ∧
            Shown defaults e ∧ Shown defaults f))) := by
  intro rest defaults
  refine ⟨box_eq_boxed kinds hkind hfirst, fun hne => by simp [carriesMeaning, hne], ?_⟩
  rintro rfl
  have hrest : rest.keys.Nodup := Fields.nodup_erase key hn
  have hobject : rest.get? "kind" = some (.string "object") := by
    obtain ⟨_, other, _, hkeys, hat, _⟩ := List.findSome?_eq_some_iff.mp hfirst
    obtain ⟨rfl, _⟩ := choicesAt?_eq_some_iff.mp hat
    have hall : ∀ k ∈ choiceKeys, k ≠ "kind" := by decide
    have hne := hall other (by simp [hkeys])
    rw [Fields.get?_erase_of_ne fs hne]
    exact (specificKind?_eq_some_iff.mp hkind).1
  constructor
  · intro hdiffers
    exact carriesMeaning_object_iff_of_kind hrest hobject rfl ⟨by decide, rfl, hdiffers⟩
  · rintro ⟨d, hd, hsame⟩
    apply carriesMeaning_object_iff_of_no_kind hrest hobject rfl
    intro hshown
    have hdiffers := hshown.not_default d hd
    rw [hsame] at hdiffers
    cases hdiffers

/-- A title as the only default of the object. -/
def titleDefault : List Config.Op := [.setDefaults "object" [("title", .string "T")]]

/-- An object with that title, with a choice and with a note of its own. -/
def notedObject : Fields Tree := [("kind", .string "object"), ("title", .string "T"),
  ("any_of", .list []), ("one_of", .list [nullSchema]), ("description", .string "a note")]

theorem box_remainder_notedObject :
    firstChoices? notedObject = some ("one_of", [nullSchema]) ∧
    box (Config.run titleDefault).kinds (.map notedObject) = boxed "one_of" [nullSchema,
      .map [("kind", .string "object"), ("title", .string "T"), ("any_of", .list []),
        ("description", .string "a note")]] := by
  have hn : notedObject.keys.Nodup := by decide
  have hfirst : firstChoices? notedObject = some ("one_of", [nullSchema]) := rfl
  obtain ⟨hbox, _, hobject⟩ :=
    box_remainder (Config.run titleDefault).kinds hn rfl hfirst
  have habsent : ∀ key ∈ ["kind", "description"], key ∉ ((Config.run titleDefault).kinds.defaultsFor
      (objectId (notedObject.erase "one_of"))).keys := by decide
  have hmeaning := (hobject rfl).1 fun d hd =>
    absurd (Fields.mem_keys_of_mem hd) (habsent "kind" (by decide))
  have hnote : carriesMeaning (Config.run titleDefault).kinds "object"
      (notedObject.erase "one_of") = true := by
    refine hmeaning.mpr ⟨("description", .string "a note"), Fields.mem_of_get? rfl, by decide, ?_⟩
    exact ⟨by decide, rfl, fun d hd =>
      absurd (Fields.mem_keys_of_mem hd) (habsent "description" (by decide))⟩
  refine ⟨hfirst, ?_⟩
  rw [hbox, hnote]
  rfl

/-- The kind itself as the only default of the object. -/
def kindDefault : List Config.Op := [.setDefaults "object" [("kind", .string "object")]]

/-- An object with a choice and with a title. -/
def titledObject : Fields Tree := [("kind", .string "object"), ("title", .string "T"),
  ("one_of", .list [.map [("kind", .string "string")]])]

/-- Where the kind is a default of the object, the only attribute that an object has of its own is
lost. -/
theorem remainder_lost : ¬ ∀ (ops : List Config.Op) (fs : Fields Tree) (key : String)
    (ms : List Tree), fs.keys.Nodup → specificKind? fs = some "object" →
    firstChoices? fs = some (key, ms) →
    (∃ e ∈ fs.erase key, e.1 ≠ "kind" ∧
      Shown ((Config.run ops).kinds.defaultsFor (objectId (fs.erase key))) e) →
    box (Config.run ops).kinds (.map fs) = boxed key (ms.map (box (Config.run ops).kinds) ++
      [box (Config.run ops).kinds (.map (fs.erase key))]) := by
  intro hall
  have habsent : "title" ∉ ((Config.run kindDefault).kinds.defaultsFor
      (objectId (titledObject.erase "one_of"))).keys := by decide
  have htitle : Shown ((Config.run kindDefault).kinds.defaultsFor
      (objectId (titledObject.erase "one_of"))) ("title", .string "T") :=
    ⟨by decide, rfl, fun d hd => absurd (Fields.mem_keys_of_mem hd) habsent⟩
  have hlost : box (Config.run kindDefault).kinds (.map titledObject) =
      .map [("kind", .string "entity"),
        ("one_of", .list [.map [("kind", .string "string")]])] := rfl
  have hbox := hall kindDefault titledObject "one_of" _ (by decide) rfl rfl
    ⟨_, Fields.mem_of_get? rfl, by decide, htitle⟩
  have hkept : boxed "one_of" ([Tree.map [("kind", .string "string")]].map
      (box (Config.run kindDefault).kinds) ++
        [box (Config.run kindDefault).kinds (.map (titledObject.erase "one_of"))]) =
      .map [("kind", .string "entity"), ("one_of", .list [.map [("kind", .string "string")],
        .map [("kind", .string "object"), ("title", .string "T")]])] := rfl
  rw [hlost, hkept] at hbox
  simp at hbox

end Schemata
