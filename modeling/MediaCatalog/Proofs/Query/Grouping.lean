import MediaCatalog.Proofs.Query.Arrangement

/-!
# Groups and pages

Grouped results are the first of each group: among entries in some order, the one that precedes all others with its
value. Pages are windows of the results, and consecutive windows of one size make up the results again.

* **The first of each group** (`mem_firstPerValue_iff`): which entries are kept; each value has one
  (`existsUnique_mem_firstPerValue`).
* **Pages** (`flatten_pages`): the first pages of a size, one after the other, are the first results.
* `Query.unpaged`, `Query.onPage`: a query without a page, and on its pages of one size; a page is a window of the
  results (`select_eq_cut`).
-/

namespace MediaCatalog.Query

/-! ## The first of each group -/

/-- Among some entries, the one that stands before all others with a value. -/
structure FirstWith (before : Entry → Entry → Prop) (value? : Entry → Option String) (l : List Entry) (v : String)
    (e : Entry) : Prop where
  mem : e ∈ l
  value : value? e = some v
  first : ∀ other ∈ l, value? other = some v → other = e ∨ before e other

/-- Only one entry stands before all others with a value. -/
theorem FirstWith.eq {before : Entry → Entry → Prop} {value? : Entry → Option String} {l : List Entry} {v : String}
    {a b : Entry} (hasymm : ∀ {a b}, before a b → ¬before b a) (ha : FirstWith before value? l v a)
    (hb : FirstWith before value? l v b) : a = b := by
  rcases ha.first b hb.mem hb.value with h | hab
  · exact h.symm
  · rcases hb.first a ha.mem ha.value with h | hba
    · exact h
    · exact absurd hba (hasymm hab)

section firstPerValue

variable {target : Target} {seen : List String} {l : List Entry} {e : Entry} {v : String}
  {before : Entry → Entry → Prop}

/-- The first of each group stand among the entries, in their order. -/
theorem firstPerValue_sublist (target : Target) (seen : List String) (l : List Entry) :
    (firstPerValue target seen l).Sublist l := by
  fun_induction firstPerValue target seen l with
  | case1 => exact List.Sublist.slnil
  | case2 seen d l hd ih => exact ih.cons d
  | case3 seen d l w hd hw ih => exact ih.cons d
  | case4 seen d l w hd hw ih => exact ih.cons_cons d

/-- Each value that was not seen is that of an entry that is kept. -/
theorem exists_mem_firstPerValue (he : e ∈ l) (hget : target.get? e = some v) (hv : v ∉ seen) :
    ∃ e' ∈ firstPerValue target seen l, target.get? e' = some v := by
  fun_induction firstPerValue target seen l with
  | case1 => cases he
  | case2 seen d l hd ih =>
    rcases List.mem_cons.mp he with rfl | hl
    · rw [hget] at hd
      cases hd
    · exact ih hl hv
  | case3 seen d l w hd hw ih =>
    rcases List.mem_cons.mp he with rfl | hl
    · rw [hget] at hd
      cases hd
      exact absurd (List.contains_iff_mem.mp hw) hv
    · exact ih hl hv
  | case4 seen d l w hd hw ih =>
    by_cases hvw : v = w
    · subst hvw
      exact ⟨d, List.mem_cons_self, hd⟩
    · rcases List.mem_cons.mp he with rfl | hl
      · rw [hget] at hd
        cases hd
        exact absurd rfl hvw
      · have hseen : v ∉ w :: seen := by simp [hvw, hv]
        obtain ⟨e', he', hget'⟩ := ih hl hseen
        exact ⟨e', List.mem_cons_of_mem d he', hget'⟩

/-- What is kept stands before all others with its value, which was not seen. -/
theorem firstWith_of_mem_firstPerValue (hl : l.Pairwise before) (he : e ∈ firstPerValue target seen l) :
    ∃ v, FirstWith before (fun e => target.get? e) l v e ∧ v ∉ seen := by
  -- an entry that is left out in front has no value, or one that was seen
  have hskip : ∀ {d : Entry} {l : List Entry} {v : String}, target.get? d ≠ some v →
      FirstWith before (fun e => target.get? e) l v e → FirstWith before (fun e => target.get? e) (d :: l) v e :=
    fun hd h => ⟨List.mem_cons_of_mem _ h.mem, h.value, List.forall_mem_cons.mpr ⟨fun hd' => absurd hd' hd, h.first⟩⟩
  fun_induction firstPerValue target seen l with
  | case1 => cases he
  | case2 seen d l hd ih =>
    obtain ⟨v, hfirst, hv⟩ := ih hl.of_cons he
    exact ⟨v, hskip (by simp [hd]) hfirst, hv⟩
  | case3 seen d l w hd hw ih =>
    obtain ⟨v, hfirst, hv⟩ := ih hl.of_cons he
    have hne : w ≠ v := fun h => hv (h ▸ List.contains_iff_mem.mp hw)
    exact ⟨v, hskip (by simp [hd, hne]) hfirst, hv⟩
  | case4 seen d l w hd hw ih =>
    obtain ⟨hbefore, hrest⟩ := List.pairwise_cons.mp hl
    rcases List.mem_cons.mp he with rfl | he
    · refine ⟨w, ⟨List.mem_cons_self, hd, List.forall_mem_cons.mpr ⟨fun _ => .inl rfl, ?_⟩⟩, fun hmem => hw ?_⟩
      · exact fun other hother _ => .inr (hbefore other hother)
      · exact List.contains_iff_mem.mpr hmem
    · obtain ⟨v, hfirst, hv⟩ := ih hrest he
      obtain ⟨hvw, hseen⟩ := List.ne_and_not_mem_of_not_mem_cons hv
      exact ⟨v, hskip (by simp [hd, Ne.symm hvw]) hfirst, hseen⟩

/-- **The first of each group**: among entries in an order, those are kept that stand before all others with their
value. -/
theorem mem_firstPerValue_iff (hasymm : ∀ {a b}, before a b → ¬before b a) (hl : l.Pairwise before) :
    e ∈ firstPerValue target [] l ↔ ∃ v, FirstWith before (fun e => target.get? e) l v e := by
  constructor
  · intro he
    obtain ⟨v, hfirst, -⟩ := firstWith_of_mem_firstPerValue hl he
    exact ⟨v, hfirst⟩
  · rintro ⟨v, hfirst⟩
    -- some entry with the value is kept, and stands before all others with the value as well
    obtain ⟨e', he', hget'⟩ := exists_mem_firstPerValue hfirst.mem hfirst.value List.not_mem_nil
    obtain ⟨v', hfirst', -⟩ := firstWith_of_mem_firstPerValue hl he'
    have hv : v = v' := Option.some.inj (hget'.symm.trans hfirst'.value)
    subst hv
    rwa [hfirst.eq hasymm hfirst']

/-- **Each value** of some entries is that of just one entry that is kept. -/
theorem existsUnique_mem_firstPerValue (hasymm : ∀ {a b}, before a b → ¬before b a) (hl : l.Pairwise before)
    (he : e ∈ l) (hget : target.get? e = some v) :
    ∃! e', e' ∈ firstPerValue target [] l ∧ target.get? e' = some v := by
  have hkept : ∀ a, a ∈ firstPerValue target [] l → target.get? a = some v →
      FirstWith before (fun e => target.get? e) l v a := by
    intro a ha hget
    obtain ⟨w, hfirst⟩ := (mem_firstPerValue_iff hasymm hl).mp ha
    have hw : v = w := Option.some.inj (hget.symm.trans hfirst.value)
    exact hw ▸ hfirst
  obtain ⟨e', he', hget'⟩ := exists_mem_firstPerValue he hget List.not_mem_nil
  refine ⟨e', ⟨he', hget'⟩, ?_⟩
  rintro a ⟨ha, hgeta⟩
  exact (hkept a ha hgeta).eq hasymm (hkept e' he' hget')

end firstPerValue

/-! ## Pages -/

/-- Consecutive pages of one size, one after the other, are the beginning of the list. -/
theorem flatten_pages {α : Type} (l : List α) (n count : Nat) :
    ((List.range count).map fun k => Page.cut (some ⟨n, k * n⟩) l).flatten = l.take (count * n) := by
  induction count with
  | zero => simp
  | succ count ih =>
    rw [List.range_succ, List.map_append, List.flatten_append, ih, Nat.succ_mul, List.take_add]
    simp [Page.cut]

/-- The query without a page. -/
def unpaged (q : Query) : Query := { q with page := none }

/-- The query on a page; pages of `n` results are counted from zero. -/
def onPage (q : Query) (n k : Nat) : Query := { q with page := some ⟨n, k * n⟩ }

/-- A page is a window of the results. -/
theorem select_eq_cut (q : Query) (group : Option Target) (entries : List Entry) :
    q.select group entries = Page.cut q.page (q.unpaged.select group entries) :=
  rfl

end MediaCatalog.Query
