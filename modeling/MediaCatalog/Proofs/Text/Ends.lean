import Mathlib.Data.List.TakeWhile
import MediaCatalog.Proofs.Text.Identifier
import MediaCatalog.Text.Blank

/-!
# Texts without their ends

Blanks are dropped at both ends of a text, and slashes at both ends of a path. This file says what is left, for any
class of characters.

* `trimEnds`: a text without the characters of a class at its ends; `exists_ends`: what is dropped.
* `beginsOutside_trimEnds`, `endsOutside_trimEnds`: what is left neither begins nor ends with the class.
* `trimEnds_eq_self`: of such a text nothing is dropped.
* `trimEnds_eq_nil_iff`: nothing is left of the texts within the class.
* `NoBlankEnds`: a text without blanks at its ends; these are the texts that stay (`trim_eq_self_iff`).
-/

namespace MediaCatalog.Text

variable {p : Char → Bool} {s : List Char}

/-- A text without the characters of a class at its two ends. -/
def trimEnds (p : Char → Bool) (s : List Char) : List Char := ((s.dropWhile p).reverse.dropWhile p).reverse

/-- What is left stands between characters of the class. -/
theorem exists_ends (p : Char → Bool) (s : List Char) :
    ∃ before after, s = before ++ (trimEnds p s ++ after) ∧ (∀ c ∈ before, p c = true) ∧ ∀ c ∈ after, p c = true := by
  refine ⟨s.takeWhile p, ((s.dropWhile p).reverse.takeWhile p).reverse, ?_, ?_, ?_⟩
  · have hend : trimEnds p s ++ ((s.dropWhile p).reverse.takeWhile p).reverse = s.dropWhile p := by
      rw [trimEnds, ← List.reverse_append, List.takeWhile_append_dropWhile, List.reverse_reverse]
    rw [hend, List.takeWhile_append_dropWhile]
  · exact List.all_eq_true.mp List.all_takeWhile
  · intro c hc
    exact List.all_eq_true.mp List.all_takeWhile c (List.mem_reverse.mp hc)

/-- What is left does not begin with the class. -/
theorem beginsOutside_trimEnds (p : Char → Bool) (s : List Char) : BeginsOutside p (trimEnds p s) := by
  have hprefix : trimEnds p s <+: s.dropWhile p := by
    have hsuffix := List.reverse_prefix.mpr (List.dropWhile_suffix (l := (s.dropWhile p).reverse) p)
    rwa [List.reverse_reverse] at hsuffix
  obtain ⟨after, hwhole⟩ := hprefix
  intro c hc
  apply beginsOutside_dropWhile p s c
  rw [← hwhole, Option.mem_def, List.head?_append, Option.mem_def.mp hc]
  rfl

/-- What is left does not end with the class. -/
theorem endsOutside_trimEnds (p : Char → Bool) (s : List Char) : EndsOutside p (trimEnds p s) := by
  rw [EndsOutside, trimEnds, List.getLast?_reverse]
  exact beginsOutside_dropWhile p _

/-- A text that neither begins nor ends with the class is left as it is. -/
theorem trimEnds_eq_self (hbegins : BeginsOutside p s) (hends : EndsOutside p s) : trimEnds p s = s := by
  have hkeep (t : List Char) (ht : BeginsOutside p t) : t.dropWhile p = t := by
    have hdrop : ([] ++ t).dropWhile p = t := dropWhile_append_of_beginsOutside (List.forall_mem_nil _) ht
    exact hdrop
  rw [trimEnds, hkeep s hbegins, hkeep s.reverse, List.reverse_reverse]
  rw [BeginsOutside, List.head?_reverse]
  exact hends

/-- Nothing is left of a text exactly if it is all within the class. -/
theorem trimEnds_eq_nil_iff : trimEnds p s = [] ↔ ∀ c ∈ s, p c = true := by
  constructor
  · intro hnil
    obtain ⟨before, after, hs, hbefore, hafter⟩ := exists_ends p s
    rw [hnil, List.nil_append] at hs
    intro c hc
    rw [hs] at hc
    rcases List.mem_append.mp hc with hc | hc
    · exact hbefore c hc
    · exact hafter c hc
  · intro hall
    have hdrop : s.dropWhile p = [] := List.dropWhile_eq_nil_iff.mpr hall
    rw [trimEnds, hdrop]
    rfl

/-! ## Blank ends -/

/-- A text neither begins nor ends with a blank. -/
def NoBlankEnds (s : String) : Prop := BeginsOutside isBlank s.toList ∧ EndsOutside isBlank s.toList

/-- What stands between its blank ends has none. -/
theorem noBlankEnds_trimChars (s : List Char) : NoBlankEnds (String.ofList (trimChars s)) := by
  rw [NoBlankEnds, String.toList_ofList]
  exact ⟨beginsOutside_trimEnds isBlank s, endsOutside_trimEnds isBlank s⟩

/-- A text without blanks has none at its ends. -/
theorem noBlankEnds_of_forall {s : String} (h : ∀ c ∈ s.toList, isBlank c = false) : NoBlankEnds s :=
  ⟨fun c hc => h c (List.mem_of_mem_head? hc), endsOutside_of_forall h⟩

/-- A text stays without its blank ends exactly if it has none. -/
theorem trim_eq_self_iff {s : String} : trim s = s ↔ NoBlankEnds s := by
  constructor
  · intro h
    rw [← h]
    exact noBlankEnds_trimChars s.toList
  · rintro ⟨hbegins, hends⟩
    rw [trim, trimChars_eq_self hbegins hends, String.ofList_toList]

/-- Nothing stands between its blank ends exactly if a text is blank. -/
theorem ofList_trimChars_eq_empty_iff : String.ofList (trimChars s) = "" ↔ ∀ c ∈ s, isBlank c = true := by
  rw [← trimEnds_eq_nil_iff, ← String.toList_inj, String.toList_ofList]
  rfl

end MediaCatalog.Text
