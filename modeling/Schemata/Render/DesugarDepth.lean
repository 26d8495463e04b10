import Schemata.Render.Desugar

/-! The recursion of desugaring: below one level stand less deep schemas, and the choice of null. -/
namespace Schemata

/-- A value whose schemas are less deep than `d`, the choice of null apart. -/
def Shallow (d : Nat) (value : Tree) : Prop :=
  value.depth < d ∨ ∃ ts, value = .list ts ∧ ∀ t ∈ ts, t.depth < d ∨ t = nullSchema

theorem depthOfFields_lt {fs : List (String × Tree)} {d : Nat} (hd : 0 < d)
    (h : ∀ e ∈ fs, e.2.depth < d) : Tree.depthOfFields fs < d := by
  induction fs with
  | nil => simpa [Tree.depthOfFields] using hd
  | cons e fs ih =>
    obtain ⟨k, t⟩ := e
    simp only [Tree.depthOfFields]
    exact Nat.max_lt.2 ⟨h (k, t) (by simp), ih fun u hu => h u (by simp [hu])⟩

theorem depth_item_lt {key : String} {t : Tree} {ts : List Tree} {fs : Fields Tree}
    (hm : (key, Tree.list ts) ∈ fs) (ht : t ∈ ts) : t.depth < Tree.depthOfFields fs := by
  have h1 := Tree.depth_le_depthOfFields hm
  have h2 := Tree.depth_le_depthOfItems ht
  simp only [Tree.depth] at h1; omega

theorem depth_entry_lt {key : String} {e : String × Tree} {es : List (String × Tree)}
    {fs : Fields Tree} (hm : (key, Tree.map es) ∈ fs) (he : e ∈ es) :
    e.2.depth < Tree.depthOfFields fs := by
  have h1 := Tree.depth_le_depthOfFields hm
  have h2 := Tree.depth_le_depthOfFields he
  simp only [Tree.depth] at h1; omega

theorem shallow_of_mem {fs : Fields Tree} {e : String × Tree} (h : e ∈ fs) :
    Shallow (Tree.depthOfFields fs + 1) e.2 :=
  .inl (Nat.lt_succ_of_le (Tree.depth_le_depthOfFields h))

theorem visitSlot_congr_of_shallow {v w : Tree → Path → Except Error Tree} {d : Nat}
    (h : ∀ u, u.depth < d ∨ u = nullSchema → v u = w u) {key : String} {value : Tree}
    (hs : Shallow d value) : visitSlot v key value = visitSlot w key value := by
  rcases hs with hs | ⟨ts, rfl, hs⟩
  · exact visitSlot_congr fun u hu => h u (.inl (by omega))
  · funext path
    unfold visitSlot
    split
    · rfl
    · rename_i heq
      simp only [slot] at heq
      split at heq
      · simp at heq
      · split at heq
        · simp_all
        · split at heq <;> simp at heq
        · simp at heq
    · rename_i us hus
      cases slot_eq_items hus
      rw [visitItems_congr fun t ht => h t (hs t ht)]
    · rename_i fs hfs
      cases slot_eq_entries hfs

theorem mem_branchNull {fs : Fields Tree} {e : String × Tree} (h : e ∈ branchNull fs) :
    e ∈ fs ∨ e.1 = "any_of" ∧ Shallow (Tree.depthOfFields fs + 1) e.2 := by
  unfold branchNull at h
  split at h
  · simp only at h
    split at h
    · rename_i branches hb
      split at h
      · exact .inl (Fields.mem_of_mem_erase h)
      · rcases Fields.mem_insert h with h | rfl
        · exact .inl (Fields.mem_of_mem_erase h)
        · refine .inr ⟨rfl, .inr ⟨_, rfl, fun t ht => ?_⟩⟩
          rcases List.mem_append.1 ht with ht | ht
          · have := depth_item_lt (Fields.mem_of_mem_erase (Fields.mem_of_get? hb)) ht
            exact .inl (by omega)
          · exact .inr (by simpa using ht)
    · rcases Fields.mem_insert h with h | rfl
      · exact .inl (Fields.mem_of_mem_erase h)
      · exact .inr ⟨rfl, .inr ⟨_, rfl, fun t ht => .inr (by simpa using ht)⟩⟩
  · exact .inl h

theorem mem_of_get?_branchNull {fs : Fields Tree} {key : String} {value : Tree}
    (hk : key ≠ "any_of") (h : (branchNull fs).get? key = some value) : (key, value) ∈ fs := by
  rcases mem_branchNull (Fields.mem_of_get? h) with h | h
  · exact h
  · exact absurd h.1 hk

theorem depth_takeRequired (child : Fields Tree) :
    (Tree.map (takeRequired child).2).depth ≤ (Tree.map child).depth := by
  unfold takeRequired
  split
  · have := Tree.depthOfFields_filter_le (fun e => decide (e.1 ≠ "required")) child
    simp only [Tree.depth, Fields.erase]; omega
  · exact Nat.le_refl _

/-- The schemas of a promotion are less deep than `d`. -/
def Promotion.Within (d : Nat) (p : Promotion) : Prop :=
  (∀ e ∈ p.properties, e.2.depth < d) ∧ ∀ e ∈ p.patterns, e.2.depth < d

theorem Promotion.within_add {d : Nat} {p q : Promotion} {child : Tree} (hp : p.Within d)
    (hc : child.depth < d) (h : p.add child = .ok q) : q.Within d := by
  cases child with
  | map child =>
    have hd := depth_takeRequired child
    simp only [Promotion.add, bind, Except.bind, pure, Except.pure, throw, throwThe,
      MonadExceptOf.throw] at h
    split at h
    · simp at h
    · split at h
      · simp only [Except.ok.injEq] at h
        subst h
        refine ⟨fun e he => ?_, hp.2⟩
        rcases Fields.mem_insert he with he | rfl
        · exact hp.1 e he
        · exact Nat.lt_of_le_of_lt hd hc
      · split at h
        · simp at h
        · simp only [Except.ok.injEq] at h
          subst h
          refine ⟨hp.1, fun e he => ?_⟩
          rcases Fields.mem_insert he with he | rfl
          · exact hp.2 e he
          · exact Nat.lt_of_le_of_lt hd hc
  | _ => simp [Promotion.add] at h

theorem within_promoteFrom {d : Nat} {fs : Fields Tree} {path : Path} {i : Nat} {p q : Promotion}
    {children : List Tree} (hp : p.Within d) (hc : ∀ c ∈ children, c.depth < d)
    (h : promoteFrom fs path i p children = .ok q) : q.Within d := by
  induction children generalizing i p with
  | nil =>
    simp only [promoteFrom, Except.ok.injEq] at h
    exact h ▸ hp
  | cons c cs ih =>
    have hcs : ∀ c ∈ cs, c.depth < d := fun c h => hc c (List.mem_cons_of_mem _ h)
    simp only [promoteFrom] at h
    split at h
    · exact ih hp hcs h
    · split at h
      · rename_i r hr
        exact ih (Promotion.within_add hp (hc c List.mem_cons_self) hr) hcs h
      · simp at h

theorem shallow_mergeEntries {d : Nat} {fs entries : Fields Tree} {key : String}
    (hfs : ∀ e ∈ fs, Shallow (d + 1) e.2) (hkey : ∀ v, fs.get? key = some v → v.depth ≤ d)
    (hd : 0 < d) (hentries : ∀ e ∈ entries, e.2.depth < d) :
    ∀ e ∈ mergeEntries fs key entries, Shallow (d + 1) e.2 := by
  intro e he
  unfold mergeEntries at he
  split at he
  · exact hfs e he
  · split at he
    · rename_i existing hex
      rcases Fields.mem_insert he with he | rfl
      · exact hfs e he
      · refine .inl ?_
        have : Tree.depthOfFields (Fields.extend existing entries) < d :=
          depthOfFields_lt hd fun e he => by
            rcases Fields.mem_extend he with he | he
            · have h1 := hkey _ hex
              have h2 := Tree.depth_le_depthOfFields he
              simp only [Tree.depth] at h1; omega
            · exact hentries e he
        simp only [Tree.depth]; omega
    · rcases Fields.mem_insert he with he | rfl
      · exact hfs e he
      · refine .inl ?_
        have := depthOfFields_lt hd hentries
        simp only [Tree.depth]; omega

theorem depth_of_ownRequired {value : Option Tree} {own : List Tree}
    (h : ownRequired value = .ok own) : ∀ t ∈ own, t.depth = 0 := by
  unfold ownRequired at h
  split at h
  all_goals try (simp only [Except.ok.injEq] at h; subst h; simp)
  · rename_i entries
    split at h
    · simp at h
    · rename_i hf
      simp only [Except.ok.injEq] at h
      subst h
      intro t ht
      have := List.find?_eq_none.1 hf t ht
      cases t <;> simp_all [Tree.isString, Tree.string?, Tree.depth]
  · simp at h

theorem depth_addRequired {own : List Tree} {names : List String} (h : ∀ t ∈ own, t.depth = 0) :
    ∀ t ∈ addRequired own names, t.depth = 0 := by
  induction names generalizing own with
  | nil => exact h
  | cons name names ih =>
    refine ih fun t ht => ?_
    simp only at ht
    split at ht
    · exact h t ht
    · rcases List.mem_append.1 ht with ht | ht
      · exact h t ht
      · simp at ht
        simp [ht, Tree.depth]

theorem mem_mergeRequired {fs gs : Fields Tree} {path : Path} {names : List String}
    {e : String × Tree} (h : mergeRequired fs path names = .ok gs) (he : e ∈ gs) :
    e ∈ fs ∨ e.1 = "required" ∧ ∃ ts, e.2 = .list ts ∧ ∀ t ∈ ts, t.depth = 0 := by
  unfold mergeRequired at h
  split at h
  · simp only [Except.ok.injEq] at h
    exact .inl (h ▸ he)
  · split at h
    · rename_i own ho
      simp only [Except.ok.injEq] at h
      subst h
      rcases Fields.mem_insert he with he | rfl
      · exact .inl (Fields.mem_of_mem_erase he)
      · exact .inr ⟨rfl, _, rfl, depth_addRequired (depth_of_ownRequired ho)⟩
    · simp at h

theorem shallow_promote {d : Nat} {fs gs : Fields Tree} {path : Path} {children : Tree}
    (hfs : ∀ e ∈ fs, Shallow (d + 1) e.2)
    (hmaps : ∀ e ∈ fs, e.1 ≠ "any_of" → e.2.depth ≤ d) (hc : children.depth ≤ d)
    (h : promote fs path children = .ok gs) : ∀ e ∈ gs, Shallow (d + 1) e.2 := by
  cases children with
  | list children =>
    have hd : 0 < d := by simp only [Tree.depth] at hc; omega
    have hc : ∀ c ∈ children, c.depth < d := fun c h => by
      have := Tree.depth_le_depthOfItems h
      simp only [Tree.depth] at hc; omega
    simp only [promote, bind, Except.bind, pure, Except.pure] at h
    split at h
    · simp at h
    · rename_i p hp
      have hp : p.Within d := within_promoteFrom ⟨by simp, by simp⟩ hc hp
      split at h
      · simp at h
      · rename_i fs' hr
        simp only [Except.ok.injEq] at h
        subst h
        have hfs' : ∀ e ∈ fs', Shallow (d + 1) e.2 := fun e he => by
          rcases mem_mergeRequired hr he with he | ⟨_, ts, ht, hts⟩
          · exact hfs e he
          · exact .inr ⟨ts, ht, fun t h => .inl (by have := hts t h; omega)⟩
        have hmaps' : ∀ e ∈ fs', e.1 ≠ "any_of" → e.1 ≠ "required" → e.2.depth ≤ d :=
          fun e he h1 h2 => by
            rcases mem_mergeRequired hr he with he | ⟨h, _⟩
            · exact hmaps e he h1
            · exact absurd h h2
        refine shallow_mergeEntries (shallow_mergeEntries hfs' (fun v hv => ?_) hd hp.1)
          (fun v hv => ?_) hd hp.2
        · exact hmaps' _ (Fields.mem_of_get? hv) (by simp) (by simp)
        · have hget : fs'.get? "pattern_properties" = some v := by
            rw [← hv]
            unfold mergeEntries
            split
            · rfl
            · split <;> rw [Fields.get?_insert_of_ne _ _ (by decide)]
          exact hmaps' _ (Fields.mem_of_get? hget) (by simp) (by simp)
  | _ => simp [promote] at h

theorem shallow_desugarFields {fs gs : Fields Tree} {path : Path}
    (h : desugarFields fs path = .ok gs) : ∀ e ∈ gs, Shallow (Tree.depthOfFields fs + 1) e.2 := by
  have hb : ∀ e ∈ branchNull fs, Shallow (Tree.depthOfFields fs + 1) e.2 := fun e he => by
    rcases mem_branchNull he with he | he
    · exact shallow_of_mem he
    · exact he.2
  unfold desugarFields at h
  simp only at h
  split at h
  · simp only [Except.ok.injEq] at h
    subst h
    intro e he
    unfold unwrapItems at he
    split at he
    · rename_i wrapper hi
      split at he
      · rename_i only hw
        rcases Fields.mem_insert he with he | rfl
        · exact hb e he
        · have h1 := depth_entry_lt (mem_of_get?_branchNull (by decide) hi) (Fields.mem_of_get? hw)
          simp only [Tree.depth, Tree.depthOfItems] at h1
          exact .inl (by simp only; omega)
      · exact hb e he
    · exact hb e he
  · split at h
    · rename_i children hch
      have hmem := mem_of_get?_branchNull (by decide) hch
      refine shallow_promote (fun e he => hb e (Fields.mem_of_mem_erase he)) (fun e he hne => ?_)
        (Tree.depth_le_depthOfFields hmem) h
      rcases mem_branchNull (Fields.mem_of_mem_erase he) with he | he
      · exact Tree.depth_le_depthOfFields he
      · exact absurd he.1 hne
    · simp only [Except.ok.injEq] at h
      exact h ▸ hb

theorem desugarLevel_nullSchema (visit : Tree → Path → Except Error Tree) (path : Path) :
    desugarLevel visit nullSchema path = .ok nullSchema := rfl

theorem desugarLevel_descends : Descends desugarLevel fun t _ => .ok t := by
  refine ⟨fun v t ht => ?_, fun v w t h => ?_⟩
  · cases t <;> simp_all [Tree.depth] <;> rfl
  · cases t with
    | map fs =>
      funext path
      simp only [desugarLevel, bind, Except.bind]
      split
      · rfl
      · rename_i gs hgs
        have : visitSchemas v path gs = visitSchemas w path gs :=
          visitEntries_congr fun e he =>
            visitSlot_congr_of_shallow (fun u hu => h u ?_) (shallow_desugarFields hgs e he)
        · rw [this]
        · rcases hu with hu | rfl
          · exact .inl (by simpa [Tree.depth] using hu)
          · exact .inr fun x => funext (desugarLevel_nullSchema x)
    | _ => rfl

/-- Desugaring a schema is desugaring it alone, then the schemas inside it. -/
theorem desugarAt_map (fs : Fields Tree) (path : Path) :
    desugarAt (.map fs) path =
      (desugarFields fs path).bind fun gs => (visitSchemas desugarAt path gs).map .map := by
  rw [desugarAt, byDepth_eq desugarLevel_descends]
  simp only [desugarLevel, bind]
  cases desugarFields fs path with
  | error e => rfl
  | ok gs =>
    show (visitSchemas (fun t p => desugarAt t p) path gs).bind _ = _
    simp only [Except.bind]
    cases visitSchemas (fun t p => desugarAt t p) path gs <;> rfl

@[simp] theorem desugarAt_of_not_map {t : Tree} (h : t.isMap = false) (path : Path) :
    desugarAt t path = .ok t := by
  rw [desugarAt, byDepth_eq desugarLevel_descends]
  cases t <;> simp_all [desugarLevel, Tree.isMap]

end Schemata
