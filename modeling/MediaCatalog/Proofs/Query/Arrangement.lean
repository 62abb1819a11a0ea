import Mathlib.Data.List.Sort
import MediaCatalog.Query.Selection

/-!
# Arranged results

A query with an ordering arranges its results by their values, and results whose values tie by their keys. The sort
itself compares values only; that ties are left in key order is owed to its stability.

* `Mode.Precedes`, `Mode.Ties`: the comparison of two values in a mode.
* `Arrangement.Before`, `Query.Precedes`: the order of entries, by value and then by key.
* **Stability** (`Arrangement.filter_mergeSort`): entries that tie keep their order.
* **Main results** (`arrange_perm`, `arrange_pairwise`): the same entries, in that order.
-/

namespace MediaCatalog.Query

/-! ## Values -/

namespace Mode

/-- One value stands before another. -/
def Precedes (mode : Mode) (a b : String) : Prop :=
  match mode with
  | textAscending => a < b
  | textDescending => b < a
  | numberAscending => numberRank a < numberRank b
  | numberDescending => numberRank b < numberRank a

/-- Two values compare equal: as texts, or as numbers. -/
def Ties (mode : Mode) (a b : String) : Prop :=
  match mode with
  | textAscending => a = b
  | textDescending => a = b
  | numberAscending => numberRank a = numberRank b
  | numberDescending => numberRank a = numberRank b

/-- Which of two values stands first can be decided. -/
instance (mode : Mode) (a b : String) : Decidable (mode.Precedes a b) := by
  unfold Precedes
  cases mode <;> infer_instance

/-- Whether two values tie can be decided. -/
instance (mode : Mode) (a b : String) : Decidable (mode.Ties a b) := by
  unfold Ties
  cases mode <;> infer_instance

variable {mode : Mode} {a b c : String}

/-- A value stands before another exactly if it may not stand behind it. -/
theorem precedes_iff : mode.Precedes a b ↔ ¬mode.le b a = true := by
  cases mode <;> simp [Precedes, le]

/-- Values tie exactly if either of them may stand before the other. -/
theorem ties_iff : mode.Ties a b ↔ mode.le a b = true ∧ mode.le b a = true := by
  have htext : ∀ {x y : String}, x = y ↔ x ≤ y ∧ y ≤ x := fun {x y} =>
    ⟨fun h => h ▸ ⟨String.le_refl x, String.le_refl x⟩, fun h => String.le_antisymm h.1 h.2⟩
  cases mode with
  | textAscending => simpa [Ties, le] using htext
  | textDescending => simpa [Ties, le, and_comm] using htext
  | numberAscending => simpa [Ties, le] using Int.eq_iff_le_and_ge
  | numberDescending => simpa [Ties, le, and_comm] using Int.eq_iff_le_and_ge

/-- The order of values is transitive. -/
theorem le_trans (hab : mode.le a b = true) (hbc : mode.le b c = true) : mode.le a c = true := by
  cases mode with
  | textAscending => exact decide_eq_true (String.le_trans (of_decide_eq_true hab) (of_decide_eq_true hbc))
  | textDescending => exact decide_eq_true (String.le_trans (of_decide_eq_true hbc) (of_decide_eq_true hab))
  | numberAscending => exact decide_eq_true (Int.le_trans (of_decide_eq_true hab) (of_decide_eq_true hbc))
  | numberDescending => exact decide_eq_true (Int.le_trans (of_decide_eq_true hbc) (of_decide_eq_true hab))

/-- Of two values one may stand before the other. -/
theorem le_total (mode : Mode) (a b : String) : mode.le a b = true ∨ mode.le b a = true := by
  cases mode with
  | textAscending => exact (String.le_total a b).imp decide_eq_true decide_eq_true
  | textDescending => exact (String.le_total b a).imp decide_eq_true decide_eq_true
  | numberAscending => exact (Int.le_total _ _).imp decide_eq_true decide_eq_true
  | numberDescending => exact (Int.le_total _ _).imp decide_eq_true decide_eq_true

end Mode

/-! ## Entries -/

/-- Entries in ascending order of their keys. -/
def KeyOrdered (l : List Entry) : Prop := l.Pairwise fun a b => a.key.text < b.key.text

namespace Arrangement

/-- The value by which an entry is arranged; a missing one counts as the empty text. -/
def value (o : Arrangement) (e : Entry) : String := (o.target.get? e).getD ""

/-- One entry stands before another: by its value, or by its key if the values tie. -/
def Before (o : Arrangement) (a b : Entry) : Prop :=
  o.mode.Precedes (o.value a) (o.value b) ∨ (o.mode.Ties (o.value a) (o.value b) ∧ a.key.text < b.key.text)

/-- Which of two entries stands first can be decided. -/
instance (o : Arrangement) (a b : Entry) : Decidable (o.Before a b) := inferInstanceAs (Decidable (_ ∨ _))

/-- Whether two entries tie in their values. -/
def ties (o : Arrangement) (a b : Entry) : Bool := o.le a b && o.le b a

variable {o : Arrangement} {a b : Entry}

/-- The order of entries by their values is transitive. -/
theorem le_trans (o : Arrangement) (a b c : Entry) (hab : o.le a b = true) (hbc : o.le b c = true) : o.le a c = true :=
  Mode.le_trans hab hbc

/-- Of two entries one may stand before the other. -/
theorem le_total (o : Arrangement) (a b : Entry) : (o.le a b || o.le b a) = true :=
  Bool.or_eq_true_iff.mpr (o.mode.le_total _ _)

/-- Of two entries only one stands before the other. -/
theorem Before.asymm (hab : o.Before a b) : ¬o.Before b a := by
  rintro (hba | ⟨hties, hkey⟩)
  · rcases hab with hab | ⟨hties, -⟩
    · rcases Bool.or_eq_true_iff.mp (o.le_total a b) with hle | hle
      · exact Mode.precedes_iff.mp hba hle
      · exact Mode.precedes_iff.mp hab hle
    · exact Mode.precedes_iff.mp hba (Mode.ties_iff.mp hties).1
  · rcases hab with hab | ⟨-, hkey'⟩
    · exact Mode.precedes_iff.mp hab (Mode.ties_iff.mp hties).1
    · exact String.lt_irrefl _ (String.lt_trans hkey hkey')

/-- **Stability.** The entries that tie with one entry keep their order. -/
theorem filter_mergeSort (o : Arrangement) (l : List Entry) (e : Entry) :
    (l.mergeSort o.le).filter (o.ties e) = l.filter (o.ties e) := by
  have htied : (l.filter (o.ties e)).Pairwise fun a b => o.le a b = true := by
    refine List.pairwise_of_forall_mem_list fun a ha b hb => ?_
    have ha := (Bool.and_eq_true_iff.mp (List.mem_filter.mp ha).2).2
    have hb := (Bool.and_eq_true_iff.mp (List.mem_filter.mp hb).2).1
    exact o.le_trans a e b ha hb
  have hkept : (l.filter (o.ties e)).Sublist (l.mergeSort o.le) :=
    List.sublist_mergeSort o.le_trans o.le_total htied List.filter_sublist
  have hsame := hkept.filter (o.ties e)
  simp only [List.filter_filter, Bool.and_self] at hsame
  exact (hsame.eq_of_length ((List.mergeSort_perm l o.le).filter (o.ties e)).length_eq.symm).symm

/-- Entries in key order are arranged by value and then by key. -/
theorem pairwise_mergeSort {l : List Entry} (h : KeyOrdered l) : (l.mergeSort o.le).Pairwise o.Before := by
  have hsorted : (l.mergeSort o.le).Pairwise fun a b => o.le a b = true :=
    List.pairwise_mergeSort o.le_trans o.le_total l
  rw [List.pairwise_iff_forall_sublist] at hsorted ⊢
  intro a b hab
  by_cases hba : o.le b a = true
  · -- the two stand among those that tie with the first of them, which are left in key order
    have hle := hsorted hab
    have hties : [a, b].filter (o.ties a) = [a, b] := by
      have hself : o.le a a = true := (Bool.or_self _).symm.trans (o.le_total a a)
      simp [ties, hle, hba, hself]
    have hclass := hab.filter (o.ties a)
    rw [hties, o.filter_mergeSort] at hclass
    have hkey := List.pairwise_iff_forall_sublist.mp h (hclass.trans List.filter_sublist)
    exact .inr ⟨Mode.ties_iff.mpr ⟨hle, hba⟩, hkey⟩
  · exact .inl (Mode.precedes_iff.mpr hba)

/-- Entries in key order stay so if they are arranged by their keys. -/
theorem mergeSort_key {l : List Entry} (h : KeyOrdered l) :
    l.mergeSort (Arrangement.mk .key .textAscending).le = l := by
  refine List.mergeSort_of_pairwise (h.imp fun {a b} hab => ?_)
  have hle : a.key.text ≤ b.key.text := String.not_lt.mp fun hba => String.lt_irrefl _ (String.lt_trans hab hba)
  exact decide_eq_true hle

end Arrangement

/-! ## Queries -/

/-- The order of the results of a query: that of its arrangement, or the order of the keys. -/
def Precedes (q : Query) (a b : Entry) : Prop :=
  match q.order with
  | none => a.key.text < b.key.text
  | some o => o.Before a b

/-- Which of two results comes first can be decided. -/
instance (q : Query) (a b : Entry) : Decidable (q.Precedes a b) := by
  unfold Precedes
  split <;> infer_instance

variable {q : Query}

/-- Of two entries only one precedes the other. -/
theorem Precedes.asymm {a b : Entry} (h : q.Precedes a b) : ¬q.Precedes b a := by
  unfold Precedes at h ⊢
  cases horder : q.order with
  | none =>
    rw [horder] at h
    exact fun h' => String.lt_irrefl _ (String.lt_trans h h')
  | some o =>
    rw [horder] at h
    exact h.asymm

/-- A query arranges its results and neither drops nor adds one. -/
theorem arrange_perm (q : Query) (l : List Entry) : (q.arrange l).Perm l := by
  unfold arrange
  cases q.order with
  | none => exact List.Perm.refl l
  | some o => exact List.mergeSort_perm l o.le

/-- **Arranged results** stand in the order of the query. -/
theorem arrange_pairwise (q : Query) {l : List Entry} (h : KeyOrdered l) : (q.arrange l).Pairwise q.Precedes := by
  unfold arrange Precedes
  cases q.order with
  | none => exact h
  | some o => exact Arrangement.pairwise_mergeSort h

/-- There is only one arrangement of the same entries in the order of a query. -/
theorem eq_of_perm_of_pairwise (q : Query) {l l' : List Entry} (hperm : l.Perm l') (hl : l.Pairwise q.Precedes)
    (hl' : l'.Pairwise q.Precedes) : l = l' :=
  hperm.eq_of_pairwise (fun _ _ _ _ hab hba => absurd hba hab.asymm) hl hl'

end MediaCatalog.Query
