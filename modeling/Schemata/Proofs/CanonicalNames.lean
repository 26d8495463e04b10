import Schemata.Proofs.Atomic

/-! Canonical names: the names that kinds declare and the keys that nodes store are canonical, so a
value is read under every spelling of the name it was written under, and the tag of a kind never
stands in the way of an attribute. -/
namespace Schemata

namespace Kind

/-- A kind as declarations make it, whatever they redeclare. -/
inductive Made : Kind → Prop where
  | new (id : String) : Made (Kind.new id)
  | generic (id : String) : Made (Kind.generic id)
  | withTypeName {k : Kind} (typeName : String) : Made k → Made (k.withTypeName typeName)
  | declare {k : Kind} (name : String) (type : AttrType) : Made k → Made (k.declare name type)

/-- The kind has a type name, and it is not its identifier. -/
def isRenamed (k : Kind) : Bool := k.typeName.any fun typeName => typeName ≠ k.id

lemma tag_eq_ite (k : Kind) : k.tag = if k.isRenamed then [(kindTag, .string k.id)] else [] := by
  unfold tag isRenamed
  cases k.typeName with
  | none => rfl
  | some typeName => by_cases h : typeName = k.id <;> simp [h]

lemma canonicalName_of_mem_commonAttributes :
    ∀ name ∈ commonAttributes.keys, canonicalName name = name := by decide +kernel

lemma Made.canonicalName_eq {k : Kind} (h : k.Made) {name : String}
    (hname : name ∈ Fields.keys k.attributes) : canonicalName name = name := by
  induction h with
  | new id => exact canonicalName_of_mem_commonAttributes name hname
  | generic id => exact canonicalName_of_mem_commonAttributes name hname
  | withTypeName _ _ ih => exact ih hname
  | declare _ _ _ ih =>
    rcases Fields.mem_keys_insert.mp hname with rfl | hname
    · exact canonicalName_canonicalName _
    · exact ih hname

end Kind

namespace Node
variable {k : Kind} {n n' : Node} {key : String}

/-- A node of a kind as the operations on nodes make it. -/
inductive Built (k : Kind) : Node → Prop where
  | construct {entries : List (String × AttrValue)} {n : Node} :
      construct k entries = .ok n → Built k n
  | update {n n' : Node} {name : String} {value : AttrValue} :
      Built k n → n.update name value = .ok n' → Built k n'
  | addChild {n n' child : Node} : Built k n → n.addChild child = .ok n' → Built k n'

lemma Built.follows (h : n.Built k) : n.Follows k := by
  induction h with
  | construct h => exact ⟨wellformed_construct h, kind_of_construct h⟩
  | update _ h ih => exact ih.update h
  | addChild _ h ih => exact ih.addChild h

lemma Follows.mem_declared (h : n.Follows k) (hkey : key ∈ n.attributes.keys) :
    key ∈ Fields.keys k.attributes := by
  obtain ⟨v, hv⟩ := Fields.mem_keys.mp hkey
  have hcheck := h.check_eq (key, v) hv
  rw [h.kind_eq] at hcheck
  obtain ⟨type, htype, _⟩ := Kind.check_eq_ok_iff.mp hcheck
  exact Fields.mem_keys_of_get? htype

/-- Under every spelling of its name a written value is read, and no other one has changed. -/
lemma get?_of_update {name : String} {value : AttrValue} {stored : Option AttrValue}
    (hcheck : n.kind.check (canonicalName name) value = .ok stored)
    (h : n.update name value = .ok n') (other : String) :
    n'.get? other = if canonicalName other = canonicalName name then stored else n.get? other := by
  obtain ⟨v, hv, rfl⟩ := update_eq_ok_iff.mp h
  obtain rfl := Except.ok.inj (hv.symm.trans hcheck)
  change Fields.get? (n.attributes.assign (canonicalName name) v) (canonicalName other) = _
  split
  · rename_i heq
    rw [heq, Fields.get?_assign_self]
  · rename_i hne
    rw [Fields.get?_assign_of_ne _ _ (Ne.symm hne)]
    rfl

lemma check_eq_ok_iff_update {name : String} {value : AttrValue} {stored : Option AttrValue} :
    n.kind.check (canonicalName name) value = .ok stored ↔ ∃ n', n.update name value = .ok n' ∧
      ∀ other, n'.get? other =
        if canonicalName other = canonicalName name then stored else n.get? other := by
  constructor
  · intro hcheck
    have hupdate := update_eq_ok_iff.mpr ⟨stored, hcheck, rfl⟩
    exact ⟨_, hupdate, get?_of_update hcheck hupdate⟩
  · rintro ⟨n', hupdate, hget⟩
    have hself := hget name
    rw [if_pos rfl] at hself
    rw [(writes_of_update hupdate).check_eq, hself]

/-- Behind the attributes of a node the tag of its kind has a place of its own. -/
lemma fields_eq (h : n.Wellformed) (htag : kindTag ∉ n.attributes.keys) :
    n.fields = Fields.mapValues AttrValue.toTree n.attributes ++ n.kind.tag := by
  apply Fields.extend_of_nodup
  rw [Fields.keys_append, Fields.keys_mapValues]
  rcases n.kind.tag_eq with hnone | hsome
  · simpa [hnone] using h.nodup
  · simpa [hsome, List.nodup_append] using ⟨h.nodup, fun key hkey heq => htag (heq ▸ hkey)⟩

end Node

/-- Names are made canonical once and for all, without capitals of ASCII and dollar signs. Kinds
declare canonical names, and their nodes store values under canonical keys: a write that passes the
check is read under every spelling of its name, and the tree of a node holds the attributes and,
behind them, nothing but the tag of a kind with another type name. -/
theorem names_canonical :
    (∀ name, canonicalName (canonicalName name) = canonicalName name ∧
      ∀ c ∈ (canonicalName name).toList, c.isUpper = false ∧ c ≠ '$') ∧
    ∀ k : Kind, k.Made →
      (∀ name ∈ Fields.keys k.attributes, canonicalName name = name) ∧
      ∀ n : Node, n.Built k →
        (∀ key ∈ n.attributes.keys, canonicalName key = key) ∧
        (∀ name value stored, k.check (canonicalName name) value = .ok stored ↔
          ∃ n', n.update name value = .ok n' ∧ ∀ other, n'.get? other =
            if canonicalName other = canonicalName name then stored else n.get? other) ∧
        n.attributes.keys.Nodup ∧ kindTag ∉ n.attributes.keys ∧
        n.toTree = .map (Fields.mapValues AttrValue.toTree n.attributes ++
          if k.isRenamed then [(kindTag, .string k.id)] else []) := by
  refine ⟨fun name => ⟨canonicalName_canonicalName name, fun c hc => ?_⟩, fun k hk => ?_⟩
  · simpa [Text.isMark] using isMark_of_mem_canonicalName hc
  · refine ⟨fun name => hk.canonicalName_eq, fun n hn => ?_⟩
    have hfollows := hn.follows
    have hkeys : ∀ key ∈ n.attributes.keys, canonicalName key = key :=
      fun key hkey => hk.canonicalName_eq (hfollows.mem_declared hkey)
    have htag : kindTag ∉ n.attributes.keys :=
      fun hmem => canonicalName_ne_kindTag _ (hkeys kindTag hmem)
    refine ⟨hkeys, fun name value stored => ?_, hfollows.nodup, htag, ?_⟩
    · rw [← hfollows.kind_eq]
      exact Node.check_eq_ok_iff_update
    · rw [Node.toTree_eq, Node.fields_eq hfollows.toWellformed htag, hfollows.kind_eq,
        Kind.tag_eq_ite]

/-- A kind of texts that declares an attribute in the spelling of documents. -/
def postKind : Kind := ((Kind.new "post").withTypeName "string").declare "maxSize" .integer

/-- Entries under other spellings of the names that the kind declares. -/
def postEntries : List (String × AttrValue) :=
  [("Kind", .string "string"), ("$ref", .string "#"), ("maxSize", .literal (.ofInt 5))]

def post : Node := .mk postKind [("kind", .string "string"), ("ref", .string "#"),
  ("max_size", .literal (.ofInt 5))]

theorem names_canonical_post :
    Node.construct postKind postEntries = .ok post ∧
    canonicalName "MAX_SIZE" = canonicalName "maxSize" ∧
    (∃ n, post.update "MAX_SIZE" (.literal (.ofInt 7)) = .ok n ∧
      n.get? "maxSize" = some (.literal (.ofInt 7)) ∧ n.get? "$ref" = some (.string "#")) ∧
    post.toTree = .map [("kind", .string "string"), ("ref", .string "#"), ("max_size", .ofInt 5),
      ("$kind", .string "post")] := by
  have hmade : postKind.Made := ((Kind.Made.new "post").withTypeName "string").declare _ _
  have hconstruct : Node.construct postKind postEntries = .ok post := rfl
  obtain ⟨-, hkinds⟩ := names_canonical
  obtain ⟨-, hnodes⟩ := hkinds postKind hmade
  obtain ⟨-, hupdate, -, -, htree⟩ := hnodes post (.construct hconstruct)
  have hcheck : postKind.check (canonicalName "MAX_SIZE") (.literal (.ofInt 7)) =
    .ok (some (.literal (.ofInt 7))) := rfl
  obtain ⟨n, hn, hget⟩ := (hupdate "MAX_SIZE" _ _).mp hcheck
  have hsame : canonicalName "maxSize" = canonicalName "MAX_SIZE" := by decide
  have hother : canonicalName "$ref" ≠ canonicalName "MAX_SIZE" := by decide
  refine ⟨hconstruct, hsame.symm, ⟨n, hn, ?_, ?_⟩, ?_⟩
  · rw [hget, if_pos hsame]
  · rw [hget, if_neg hother]
    rfl
  · rw [htree]
    rfl

end Schemata
