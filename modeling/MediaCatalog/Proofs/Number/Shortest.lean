import Mathlib.Data.List.Basic
import Mathlib.Tactic.Ring
import MediaCatalog.Number.Shortest

/-!
# The shape of the text of a floating-point number

* `Binary64.contains_of_isValue`, `Binary64.one_le_powerAbove`: a whole number rounds to itself, and has a digit before
  the point.
* `Binary64.power_shortestDigits`: so its digits end before the point.
* **Main result** (`Binary64.text_eq`): a number is written as a word, or with digits; a whole one has no fraction.
-/

namespace MediaCatalog.Number.Binary64

/-! ## Whole numbers -/

/-- The quotient that a finite magnitude stands for. -/
def ratioOf (magnitude : Nat) : Ratio := .scale (parts magnitude).1 (power 2 (parts magnitude).2)

/-- A finite magnitude stands for a whole number. -/
def IsValue (magnitude value : Nat) : Prop := (ratioOf magnitude).num = value * (ratioOf magnitude).den

variable {magnitude value : Nat}

/-- A whole number stands for itself. -/
theorem exists_isValue {x : Binary64} (h : x.isWhole = true) : ∃ value, IsValue x.magnitude value := by
  simp only [isWhole, Bool.and_eq_true, Bool.or_eq_true, decide_eq_true_eq, beq_iff_eq] at h
  simp only [IsValue, ratioOf, Ratio.scale, power]
  obtain ⟨-, hq | hm⟩ := h
  · rw [if_pos hq]
    exact ⟨_, (Nat.mul_one _).symm⟩
  · split
    · exact ⟨_, (Nat.mul_one _).symm⟩
    · obtain ⟨value, hvalue⟩ := Nat.dvd_of_mod_eq_zero hm
      exact ⟨value, by rw [hvalue]; ring⟩

/-- The factor of a positive magnitude is positive. -/
theorem parts_pos (h : magnitude ≠ 0) : 0 < (parts magnitude).1 := by
  simp only [parts]
  split
  · next hzero =>
    have hsmall : magnitude < hiddenBit := (Nat.div_eq_zero_iff_lt (by decide)).mp hzero
    rw [Nat.mod_eq_of_lt hsmall]
    omega
  · exact Nat.add_pos_left (by decide) _

/-- The value in quarters of the last place. -/
theorem four_mul_unit (h : IsValue magnitude value) :
    4 * (parts magnitude).1 * (power 2 ((parts magnitude).2 - 2)).num = value * (power 2 ((parts magnitude).2 - 2)).den := by
  simp only [IsValue, ratioOf, Ratio.scale] at h
  generalize (parts magnitude).1 = m at h ⊢
  generalize (parts magnitude).2 = q at h ⊢
  simp only [power, Nat.pow_eq] at h ⊢
  by_cases hlarge : q ≥ 2
  · obtain ⟨e, rfl⟩ : ∃ e : Nat, q = e + 2 := ⟨(q - 2).toNat, by omega⟩
    have he : ((e : Int) + 2).toNat = e + 2 := by omega
    have he' : ((e : Int) + 2 - 2).toNat = e := by omega
    rw [if_pos (by omega)] at h
    rw [if_pos (by omega)]
    simp only [he, he', Nat.mul_one, pow_add] at h ⊢
    rw [← h]
    ring
  · rw [if_neg (by omega)]
    by_cases hneg : q < 0
    · obtain ⟨e, rfl⟩ : ∃ e : Nat, q = -e := ⟨(-q).toNat, by omega⟩
      have he : (-(-(e : Int))).toNat = e := by omega
      have he' : (-(-(e : Int) - 2)).toNat = e + 2 := by omega
      rw [if_neg (by omega)] at h
      simp only [he, he', Nat.mul_one, pow_add] at h ⊢
      rw [h]
      ring
    · obtain rfl | rfl : q = 0 ∨ q = 1 := by omega
      · simp at h ⊢
        omega
      · simp at h ⊢
        omega

/-- **A whole number rounds to itself.** -/
theorem contains_of_isValue (hne : magnitude ≠ 0) (h : IsValue magnitude value) :
    (interval magnitude).contains ⟨value, 1⟩ = true := by
  have hpos := parts_pos hne
  have hunit := four_mul_unit h
  have hnum : 0 < (power 2 ((parts magnitude).2 - 2)).num := by
    unfold power
    split
    · exact Nat.pow_pos (by decide)
    · exact Nat.one_pos
  have hlow : (interval magnitude).low.num * 1 < value * (interval magnitude).low.den := by
    have hbelow : 0 < if (parts magnitude).1 = hiddenBit && (parts magnitude).2 > -1074 then 1 else 2 := by
      split <;> decide
    calc (interval magnitude).low.num * 1
        = (4 * (parts magnitude).1 - if (parts magnitude).1 = hiddenBit && (parts magnitude).2 > -1074 then 1 else 2) *
            (power 2 ((parts magnitude).2 - 2)).num := Nat.mul_one _
      _ < 4 * (parts magnitude).1 * (power 2 ((parts magnitude).2 - 2)).num :=
        Nat.mul_lt_mul_of_pos_right (by omega) hnum
      _ = value * (interval magnitude).low.den := hunit
  have hhigh : value * (interval magnitude).high.den < (interval magnitude).high.num * 1 := by
    calc value * (interval magnitude).high.den
        = 4 * (parts magnitude).1 * (power 2 ((parts magnitude).2 - 2)).num := hunit.symm
      _ < (4 * (parts magnitude).1 + 2) * (power 2 ((parts magnitude).2 - 2)).num :=
        Nat.mul_lt_mul_of_pos_right (by omega) hnum
      _ = (interval magnitude).high.num * 1 := (Nat.mul_one _).symm
  unfold Interval.contains
  split
  · simp only [Ratio.le, Bool.and_eq_true, decide_eq_true_eq]
    exact ⟨hlow.le, hhigh.le⟩
  · simp only [Ratio.lt, Bool.and_eq_true, decide_eq_true_eq]
    exact ⟨hlow, hhigh⟩

/-- A candidate has the power that it was looked for. -/
theorem power_of_candidate? {x : Ratio} {i : Interval} {p : Int} {c : Nat × Int} (h : candidate? x i p = some c) :
    c.2 = p := by
  simp only [candidate?] at h
  split at h
  · split at h <;> cases h <;> rfl
  · cases h
    rfl
  · cases h
    rfl
  · cases h

/-- A whole number is a candidate itself. -/
theorem candidate?_of_isValue (hne : magnitude ≠ 0) (h : IsValue magnitude value) :
    candidate? (ratioOf magnitude) (interval magnitude) 0 ≠ none := by
  have hden : 0 < (ratioOf magnitude).den := by
    simp only [ratioOf, Ratio.scale, power]
    split
    · exact Nat.one_pos
    · exact Nat.pow_pos (by decide)
  have hgrid : power 10 0 = ⟨1, 1⟩ := rfl
  have hquotient : (ratioOf magnitude).num * 1 / ((ratioOf magnitude).den * 1) = value := by
    rw [Nat.mul_one, Nat.mul_one, show (ratioOf magnitude).num = value * (ratioOf magnitude).den from h]
    exact Nat.mul_div_cancel value hden
  have hcontains : (interval magnitude).contains (.scale value ⟨1, 1⟩) = true := by
    rw [Ratio.scale, Nat.mul_one]
    exact contains_of_isValue hne h
  simp only [candidate?, hgrid, Ratio.mul, hquotient, hcontains]
  split
  · split <;> exact Option.some_ne_none _
  · exact Option.some_ne_none _
  · exact Option.some_ne_none _
  · next hfirst _ => cases hfirst

/-- **A number that is at least one** has a digit before the point. -/
theorem one_le_powerAbove {x : Ratio} (hx : x.den ≤ x.num) {fuel : Nat} {k : Int} (hk : 1 ≤ k + fuel) :
    1 ≤ powerAbove x fuel k := by
  induction fuel generalizing k with
  | zero => simpa [powerAbove] using hk
  | succ fuel ih =>
    rw [powerAbove]
    split
    · next hlt =>
      by_contra hsmall
      have hpower : (power 10 k).num ≤ (power 10 k).den := by
        unfold power
        split
        · obtain rfl : k = 0 := by omega
          decide
        · exact Nat.pow_pos (by decide)
      have hle : (power 10 k).num * x.den ≤ x.num * (power 10 k).den :=
        (Nat.mul_le_mul hpower hx).trans (Nat.mul_comm _ _).le
      rw [Ratio.lt, decide_eq_true_eq] at hlt
      omega
    · exact ih (by omega)

/-- **The digits of a whole number** end before the point. -/
theorem power_shortestDigits (hne : magnitude ≠ 0) (h : IsValue magnitude value) : 0 ≤ (shortestDigits magnitude).2 := by
  have hvalue : 0 < value := by
    have hnum : 0 < (ratioOf magnitude).num := by
      refine Nat.mul_pos (parts_pos hne) ?_
      unfold power
      split
      · exact Nat.pow_pos (by decide)
      · exact Nat.one_pos
    rw [show (ratioOf magnitude).num = value * (ratioOf magnitude).den from h] at hnum
    exact Nat.pos_of_mul_pos_right hnum
  have hlarge : (ratioOf magnitude).den ≤ (ratioOf magnitude).num :=
    (Nat.le_mul_of_pos_left _ hvalue).trans (Eq.ge h)
  have hsize : 1 ≤ powerAbove (ratioOf magnitude) powersInRange (-330) := one_le_powerAbove hlarge (by decide)
  change 0 ≤ (((List.range 17).findSome? fun n : Nat => candidate? (ratioOf magnitude) (interval magnitude)
    (powerAbove (ratioOf magnitude) powersInRange (-330) - (n : Int) - 1)).getD ((parts magnitude).1, 0)).2
  generalize powerAbove (ratioOf magnitude) powersInRange (-330) = size at hsize ⊢
  cases hfound : (List.range 17).findSome? fun n : Nat =>
      candidate? (ratioOf magnitude) (interval magnitude) (size - (n : Int) - 1) with
  | none => exact Int.le_refl 0
  | some c =>
    obtain ⟨before, n, after, hrange, hc, hnone⟩ := List.findSome?_eq_some_iff.mp hfound
    rw [Option.getD_some, power_of_candidate? hc]
    by_contra hneg
    -- with all digits before the point the number was a candidate itself, and that is tried earlier
    obtain ⟨digits, rfl⟩ : ∃ digits : Nat, size = digits + 1 := ⟨(size - 1).toNat, by omega⟩
    have hbefore : digits ∈ before := by
      have hsorted := List.pairwise_lt_range (n := 17)
      have hn : n < 17 := List.mem_range.mp (hrange ▸ by simp)
      have hmem : digits ∈ before ++ n :: after := hrange ▸ List.mem_range.mpr (by omega)
      rw [hrange, List.pairwise_append, List.pairwise_cons] at hsorted
      rcases List.mem_append.mp hmem with hmem | hmem
      · exact hmem
      · rcases List.mem_cons.mp hmem with rfl | hmem
        · omega
        · have := hsorted.2.1.1 digits hmem
          omega
    have hself := hnone digits hbefore
    rw [show (digits : Int) + 1 - digits - 1 = 0 by omega] at hself
    exact candidate?_of_isValue hne h hself

/-! ## Texts -/

/-- What stands behind the digits before the point: nothing, or a point and digits. -/
def IsFraction (fraction : List Char) : Prop :=
  fraction = [] ∨ ∃ digits, fraction = '.' :: digits ∧ digits ≠ [] ∧ ∀ c ∈ digits, c.isDigit = true

/-- The positional notation has digits before the point, and perhaps a fraction. -/
theorem positional_eq (digits : Nat) (p : Int) : ∃ n fraction, (positional digits p).toList = Nat.toDigits 10 n ++ fraction ∧
    IsFraction fraction ∧ (0 ≤ p → fraction = []) := by
  have hwhole (n : Nat) : (toString n).toList = Nat.toDigits 10 n ++ [] := by
    rw [List.append_nil]
    exact Nat.toList_repr
  have hpoint (n : Nat) (kept : List Char) :
      (toString n ++ ("." ++ String.ofList kept)).toList = Nat.toDigits 10 n ++ '.' :: kept := by
    rw [String.toList_append, String.toList_append, hwhole, List.append_nil, String.toList_ofList, String.toList_ofList]
    rfl
  unfold positional
  split
  · exact ⟨_, [], hwhole _, .inl rfl, fun _ => rfl⟩
  · next hp =>
    dsimp only
    split
    · exact ⟨_, [], by rw [String.append_empty]; exact hwhole _, .inl rfl, fun _ => rfl⟩
    · next hkept =>
      refine ⟨_, _, hpoint _ _, .inr ⟨_, rfl, mt List.isEmpty_iff.mpr hkept, fun c hc => ?_⟩, fun h => absurd h hp⟩
      have hpadded := (List.dropWhile_sublist _).mem (List.mem_reverse.mp hc)
      rw [List.mem_reverse, List.mem_append] at hpadded
      rcases hpadded with hzero | hdigit
      · rw [List.eq_of_mem_replicate hzero]
        decide
      · exact Nat.isDigit_of_mem_toDigits (by decide) (by decide) hdigit

/-- What stands after the sign of a number: a word, or digits and perhaps a fraction, which a whole number does not
have. -/
def IsBody (x : Binary64) (body : List Char) : Prop :=
  infinite < x.magnitude ∨ (x.magnitude = infinite ∧ body = "inf".toList) ∨
    ∃ n fraction, body = Nat.toDigits 10 n ++ fraction ∧ IsFraction fraction ∧ (x.isWhole = true → fraction = [])

/-- **The text of a number** is its body after the sign. -/
theorem text_eq (x : Binary64) :
    ∃ body, x.text.toList = (if x.negative then "-" else "").toList ++ body ∧ IsBody x body := by
  have hsign (body : String) (h : IsBody x body.toList) :
      ∃ text, (if x.negative then "-" ++ body else body).toList = (if x.negative then "-" else "").toList ++ text ∧
        IsBody x text := by
    refine ⟨body.toList, ?_, h⟩
    cases x.negative
    · exact (List.nil_append _).symm
    · exact String.toList_append
  refine hsign _ ?_
  split
  · next hlarge => exact .inl hlarge
  · split
    · next hinfinite => exact .inr (.inl ⟨hinfinite, rfl⟩)
    · refine .inr (.inr ?_)
      split
      · exact ⟨0, [], rfl, .inl rfl, fun _ => rfl⟩
      · next hne =>
        obtain ⟨n, fraction, htext, hfraction, hwhole⟩ :=
          positional_eq (shortestDigits x.magnitude).1 (shortestDigits x.magnitude).2
        refine ⟨n, fraction, htext, hfraction, fun h => hwhole ?_⟩
        obtain ⟨value, hvalue⟩ := exists_isValue h
        exact power_shortestDigits hne hvalue

end MediaCatalog.Number.Binary64
