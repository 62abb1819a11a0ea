import Mathlib
import MediaCatalog.Number.Decimal
import MediaCatalog.Text.Blank

/-!
# Numbers written in decimal

A number is read back from its decimal digits, and blanks around them would not matter.

* `digitsValue?_toDigits`: the value of the digits of a number.
* `word64?_toDigits`: the same for numbers of 64 bits.
* `trimChars_toDigits`: digits have no blank ends.
-/

namespace MediaCatalog

namespace Number

/-- Decimal digits denote a number, whatever was read before them. -/
theorem foldl_digitValue? {digits : List Char} (h : ∀ c ∈ digits, c.isDigit = true) (n : Nat) :
    digits.foldl (fun acc c => do return (← acc) * 10 + (← digitValue? c)) (some n) =
      some (Nat.ofDigitChars 10 digits n) := by
  induction digits generalizing n with
  | nil => rfl
  | cons c digits ih =>
    have hc : digitValue? c = some (c.toNat - 48) := if_pos (h c List.mem_cons_self)
    have hstep : (do return (← some n) * 10 + (← digitValue? c) : Option Nat) = some (10 * n + (c.toNat - 48)) := by
      rw [hc, Nat.mul_comm]
      rfl
    rw [List.foldl_cons, hstep, ih fun d hd => h d (List.mem_cons_of_mem c hd)]
    rfl

/-- The number that decimal digits denote. -/
theorem digitsValue?_of_forall {digits : List Char} (h : ∀ c ∈ digits, c.isDigit = true) :
    digitsValue? digits = some (Nat.ofDigitChars 10 digits 0) := foldl_digitValue? h 0

/-- Digits denote a number with no more digits. -/
theorem ofDigitChars_lt {digits : List Char} (h : ∀ c ∈ digits, c.isDigit = true) (n : Nat) :
    Nat.ofDigitChars 10 digits n < (n + 1) * 10 ^ digits.length := by
  induction digits generalizing n with
  | nil => simp
  | cons c digits ih =>
    have hc : c.toNat - '0'.toNat < 10 := by
      have hdigit := h c List.mem_cons_self
      simp only [Char.isDigit, Bool.and_eq_true, decide_eq_true_eq, ge_iff_le, UInt32.le_iff_toNat_le] at hdigit
      have hnine : c.toNat ≤ 57 := hdigit.2
      have hzero : '0'.toNat = 48 := rfl
      omega
    rw [Nat.ofDigitChars_cons, List.length_cons, Nat.pow_succ']
    calc Nat.ofDigitChars 10 digits (10 * n + (c.toNat - '0'.toNat))
        < (10 * n + (c.toNat - '0'.toNat) + 1) * 10 ^ digits.length := ih (fun d hd => h d (List.mem_cons_of_mem c hd)) _
      _ ≤ ((n + 1) * 10) * 10 ^ digits.length := Nat.mul_le_mul_right _ (by omega)
      _ = (n + 1) * (10 * 10 ^ digits.length) := Nat.mul_assoc _ _ _

/-- The digits of a number are decimal digits. -/
theorem isDigit_of_mem_toDigits {n : Nat} {c : Char} (h : c ∈ Nat.toDigits 10 n) : c.isDigit = true :=
  Nat.isDigit_of_mem_toDigits (by decide) (by decide) h

/-- A number is the value of its digits. -/
theorem digitsValue?_toDigits (n : Nat) : digitsValue? (Nat.toDigits 10 n) = some n := by
  rw [digitsValue?_of_forall fun _ => isDigit_of_mem_toDigits, Nat.ofDigitChars_toDigits (by decide) (by decide)]

/-- There is always a digit. -/
theorem toDigits_ne_nil (n : Nat) : Nat.toDigits 10 n ≠ [] := by
  intro h
  have hlength := Nat.length_toDigits_pos (b := 10) (n := n)
  rw [h] at hlength
  exact absurd hlength (by decide)

/-- **A number of 64 bits** is read back from its digits. -/
theorem word64?_toDigits {n : Nat} (h : n ≤ maxWord64) : word64? (Nat.toDigits 10 n) = some n := by
  obtain ⟨c, digits, hdigits⟩ := List.exists_cons_of_ne_nil (toDigits_ne_nil n)
  have hc : c ≠ '+' := by
    rintro rfl
    have hdigit : ('+' : Char).isDigit = true := isDigit_of_mem_toDigits (hdigits ▸ List.mem_cons_self)
    exact absurd hdigit (by decide)
  have hvalue := digitsValue?_toDigits n
  rw [hdigits] at hvalue ⊢
  unfold word64?
  split
  next hplus => exact absurd (List.cons.inj hplus).1 hc
  next =>
    simp only [List.isEmpty_cons, Bool.false_eq_true, if_false, hvalue, Option.bind_eq_bind, Option.bind_some, if_pos h]

end Number

namespace Text

/-- Digits have no blank ends. -/
theorem trimChars_toDigits (n : Nat) : trimChars (Nat.toDigits 10 n) = Nat.toDigits 10 n :=
  trimChars_of_forall fun _ hc => isBlank_of_isDigit (Number.isDigit_of_mem_toDigits hc)

end Text

end MediaCatalog
