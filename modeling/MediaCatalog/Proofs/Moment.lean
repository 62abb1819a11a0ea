import MediaCatalog.Moment
import MediaCatalog.Proofs.Number.Decimal
import MediaCatalog.Proofs.Text.Reader

/-!
# Moments are read back

* `Moment.Valid`: a moment whose parts are in their ranges; only such are read (`Moment.valid_of_read`).
* `Moment.Ends`: a text that cannot belong to a moment before it.
* **Main result** (`Moment.read_text`): such a moment is read back from its written form, whatever text follows that
  cannot belong to it.
-/

namespace MediaCatalog

open Text

/-! ## Moments within their ranges -/

/-- A day of the calendar. -/
structure Date.Valid (d : Date) : Prop where
  year : d.year ≤ 9999
  month : 1 ≤ d.month ∧ d.month ≤ 12
  day : 1 ≤ d.day ∧ d.day ≤ Date.daysIn d.year d.month

/-- A time of day; a minute may have a leap second. -/
structure TimeOfDay.Valid (t : TimeOfDay) : Prop where
  hour : t.hour ≤ 23
  minute : t.minute ≤ 59
  second : t.second ≤ 60
  nanosecond : t.nanosecond < 10 ^ 9

/-- An offset of less than a day. -/
def Offset.Valid : Offset → Prop
  | universal => True
  | minutes ahead => ahead.natAbs < 24 * 60

/-- All parts are in their ranges. -/
def Moment.Valid : Moment → Prop
  | date d => d.Valid
  | time t => t.Valid
  | both d t offset => d.Valid ∧ t.Valid ∧ ∀ o ∈ offset, o.Valid

/-! ## Numbers with leading zeros -/

section Padded

variable {width n : Nat}

/-- The characters of a number with leading zeros. -/
theorem toList_padded (width n : Nat) : (padded width n).toList =
    List.replicate (width - (Nat.toDigits 10 n).length) '0' ++ Nat.toDigits 10 n := String.toList_ofList

/-- A number with leading zeros is made of digits. -/
theorem isDigit_of_mem_padded {c : Char} (h : c ∈ (padded width n).toList) : c.isDigit = true := by
  rw [toList_padded, List.mem_append] at h
  rcases h with h | h
  · rw [List.eq_of_mem_replicate h]
    decide
  · exact Number.isDigit_of_mem_toDigits h

/-- A small enough number has exactly the width. -/
theorem length_padded (width : Nat) (hwidth : 0 < width) (h : n < 10 ^ width) : (padded width n).toList.length = width := by
  have hlength := (Nat.length_toDigits_le_iff (b := 10) (by decide) hwidth).mpr h
  rw [toList_padded, List.length_append, List.length_replicate]
  omega

/-- Leading zeros do not change the number. -/
theorem digitsValue?_padded (width n : Nat) : Number.digitsValue? (padded width n).toList = some n := by
  rw [Number.digitsValue?_of_forall fun _ => isDigit_of_mem_padded, toList_padded, Nat.ofDigitChars_append,
    Nat.ofDigitChars_replicate_zero, Nat.mul_zero, Nat.ofDigitChars_toDigits (by decide) (by decide)]

end Padded

namespace Moment

variable {s s' rest : List Char}

/-- A number in its range is read back. -/
theorem number_padded (width low high n : Nat) (hwidth : 0 < width) (h : n < 10 ^ width) (hlow : low ≤ n)
    (hhigh : n ≤ high) (rest : List Char) : number width low high ((padded width n).toList ++ rest) = some (n, rest) := by
  have hcount : Reader.count Char.isDigit width ((padded width n).toList ++ rest) = some ((padded width n).toList, rest) :=
    Reader.count_eq_some_iff.mpr ⟨rfl, length_padded width hwidth h, fun _ => isDigit_of_mem_padded⟩
  rw [number, Reader.bind_apply, hcount, Option.bind_some, digitsValue?_padded]
  simp only [if_pos (And.intro hlow hhigh)]
  rfl

/-- A number that is read is in its range. -/
theorem range_of_number {width low high n : Nat} (h : number width low high s = some (n, s')) : low ≤ n ∧ n ≤ high := by
  obtain ⟨run, t, -, h⟩ := Reader.bind_eq_some_iff.mp h
  cases hvalue : Number.digitsValue? run with
  | none =>
    rw [hvalue] at h
    cases h
  | some m =>
    simp only [hvalue] at h
    by_cases hrange : low ≤ m ∧ m ≤ high
    · rw [if_pos hrange] at h
      cases h
      exact hrange
    · rw [if_neg hrange] at h
      cases h

/-! ## Dates -/

/-- A date is read back. -/
theorem readDate_text {d : Date} (hd : d.Valid) (rest : List Char) : readDate (d.text.toList ++ rest) = some (d, rest) := by
  have hdays : Date.daysIn d.year d.month ≤ 31 := by
    unfold Date.daysIn
    split
    · split <;> omega
    · split <;> omega
  have hyear := number_padded 4 0 9999 d.year (by decide) (by have := hd.year; omega) (Nat.zero_le _) hd.year
  have hmonth := number_padded 2 1 12 d.month (by decide) (by have := hd.month; omega) hd.month.1 hd.month.2
  have hday := number_padded 2 1 _ d.day (by decide) (by have := hd.day; omega) hd.day.1 hd.day.2
  simp only [readDate, Date.text, String.toList_append, List.append_assoc, Reader.bind_apply, hyear, hmonth, hday,
    Reader.exactly_append, Option.bind_some, Reader.pure_apply]

/-- A date that is read is in its ranges. -/
theorem valid_of_readDate {d : Date} (h : readDate s = some (d, s')) : d.Valid := by
  simp only [readDate, Reader.bind_eq_some_iff] at h
  obtain ⟨year, _, hyear, _, _, -, month, _, hmonth, _, _, -, day, _, hday, h⟩ := h
  cases h
  exact ⟨(range_of_number hyear).2, range_of_number hmonth, range_of_number hday⟩

/-! ## Times of day -/

/-- A character that belongs to a fraction of a second. -/
def isFraction (c : Char) : Bool := c.isDigit || c == '.'

/-- Zeros at the end can be added again. -/
theorem exists_zeros (digits : List Char) :
    ∃ zeros, digits = (digits.reverse.dropWhile (· == '0')).reverse ++ List.replicate zeros '0' := by
  have hzeros : digits.reverse.takeWhile (· == '0') =
      List.replicate (digits.reverse.takeWhile (· == '0')).length '0' := by
    refine List.eq_replicate_iff.mpr ⟨rfl, fun c hc => ?_⟩
    exact beq_iff_eq.mp (List.all_eq_true.mp List.all_takeWhile c hc)
  refine ⟨(digits.reverse.takeWhile (· == '0')).length, ?_⟩
  calc digits = (digits.reverse.takeWhile (· == '0') ++ digits.reverse.dropWhile (· == '0')).reverse := by
        rw [List.takeWhile_append_dropWhile, List.reverse_reverse]
    _ = _ := by rw [List.reverse_append, hzeros, List.reverse_replicate, List.length_replicate]

/-- The digits of a fraction, to which zeros can be added. -/
theorem fraction_eq {t : TimeOfDay} (hne : t.nanosecond ≠ 0) : ∃ kept : List Char,
    t.fraction.toList = '.' :: kept ∧ kept ≠ [] ∧
      ∃ zeros, (padded 9 t.nanosecond).toList = kept ++ List.replicate zeros '0' := by
  obtain ⟨zeros, hdigits⟩ := exists_zeros (padded 9 t.nanosecond).toList
  refine ⟨_, ?_, ?_, zeros, hdigits⟩
  · rw [TimeOfDay.fraction, if_neg hne, String.toList_append, String.toList_ofList, String.toList_ofList,
      List.singleton_append]
  · intro hnil
    -- nothing but zeros is the number zero
    have hvalue := digitsValue?_padded 9 t.nanosecond
    rw [Number.digitsValue?_of_forall fun _ => isDigit_of_mem_padded, hdigits, hnil, List.nil_append,
      Nat.ofDigitChars_replicate_zero, Nat.mul_zero, Option.some.injEq] at hvalue
    exact hne hvalue.symm

/-- A fraction of a second is read back. -/
theorem readFraction_fraction {t : TimeOfDay} (ht : t.Valid) (hne : t.nanosecond ≠ 0) (hrest : BeginsOutside Char.isDigit rest) :
    readFraction (t.fraction.toList ++ rest) = some (t.nanosecond, rest) := by
  obtain ⟨kept, htext, hkept, zeros, hdigits⟩ := fraction_eq hne
  have hlength := length_padded 9 (by decide) ht.nanosecond
  rw [hdigits, List.length_append, List.length_replicate] at hlength
  have hmem : ∀ c ∈ kept, c.isDigit = true := fun c hc =>
    isDigit_of_mem_padded (hdigits ▸ List.mem_append_left _ hc)
  have htake : kept.take 9 = kept := List.take_of_length_le (by omega)
  have hzeros : 9 - kept.length = zeros := by omega
  have hpoint : Reader.exactly "." (t.fraction.toList ++ rest) = some ((), kept ++ rest) :=
    Reader.exactly_eq_some_iff.mpr (by rw [htext]; rfl)
  simp only [readFraction, Reader.bind_apply, hpoint, Option.bind_some, Reader.takeSome_append hkept hmem hrest, htake,
    hzeros, ← hdigits, digitsValue?_padded, Reader.pure_apply]

/-- A time of day is read back. -/
theorem readTime_text {t : TimeOfDay} (ht : t.Valid) (hrest : BeginsOutside isFraction rest) :
    readTime (t.text.toList ++ rest) = some (t, rest) := by
  have hhour := number_padded 2 0 23 t.hour (by decide) (by have := ht.hour; omega) (Nat.zero_le _) ht.hour
  have hminute := number_padded 2 0 59 t.minute (by decide) (by have := ht.minute; omega) (Nat.zero_le _) ht.minute
  have hsecond := number_padded 2 0 60 t.second (by decide) (by have := ht.second; omega) (Nat.zero_le _) ht.second
  simp only [readTime, TimeOfDay.text, String.toList_append, List.append_assoc, Reader.bind_apply, hhour, hminute, hsecond,
    Reader.exactly_append, Option.bind_some, Reader.peek_apply]
  by_cases hne : t.nanosecond = 0
  · have hhead : (rest.head? == some '.') = false := by
      cases rest with
      | nil => rfl
      | cons c rest =>
        have hc := hrest c rfl
        simp only [isFraction, Bool.or_eq_false_iff] at hc
        simpa using hc.2
    have htext : t.fraction = "" := if_pos hne
    simp only [htext, String.toList_empty, List.nil_append, hhead, Bool.false_eq_true, if_false, Reader.bind_apply,
      Reader.pure_apply, Option.bind_some]
    rw [← hne]
  · obtain ⟨kept, htext, -⟩ := fraction_eq hne
    have hdigits : BeginsOutside Char.isDigit rest := fun c hc => (Bool.or_eq_false_iff.mp (hrest c hc)).1
    have hhead : ((t.fraction.toList ++ rest).head? == some '.') = true := by
      rw [htext]
      rfl
    simp only [hhead, if_pos, Reader.bind_apply, readFraction_fraction ht hne hdigits, Option.bind_some, Reader.pure_apply]

/-- A fraction that is read is less than a second. -/
theorem lt_of_readFraction {n : Nat} (h : readFraction s = some (n, s')) : n < 10 ^ 9 := by
  simp only [readFraction, Reader.bind_eq_some_iff] at h
  obtain ⟨_, _, -, digits, _, hdigits, h⟩ := h
  obtain ⟨-, -, hmem, -⟩ := Reader.takeSome_eq_some hdigits
  have hkept : ∀ c ∈ digits.take 9 ++ List.replicate (9 - (digits.take 9).length) '0', c.isDigit = true := by
    intro c hc
    rcases List.mem_append.mp hc with hc | hc
    · exact hmem c (List.mem_of_mem_take hc)
    · rw [List.eq_of_mem_replicate hc]
      decide
  simp only [Number.digitsValue?_of_forall hkept] at h
  cases h
  have hlt := Number.ofDigitChars_lt hkept 0
  have hlength : (digits.take 9 ++ List.replicate (9 - (digits.take 9).length) '0').length = 9 := by
    rw [List.length_append, List.length_replicate, List.length_take]
    omega
  rw [hlength] at hlt
  simpa using hlt

/-- A time of day that is read is in its ranges. -/
theorem valid_of_readTime {t : TimeOfDay} (h : readTime s = some (t, s')) : t.Valid := by
  simp only [readTime, Reader.bind_eq_some_iff, Reader.peek_apply] at h
  obtain ⟨hour, _, hhour, _, _, -, minute, _, hminute, _, _, -, second, _, hsecond, head, _, -, h⟩ := h
  have hranges := And.intro (range_of_number hhour).2 (And.intro (range_of_number hminute).2 (range_of_number hsecond).2)
  by_cases hpoint : (head == some '.') = true
  · rw [if_pos hpoint, Reader.bind_eq_some_iff] at h
    obtain ⟨fraction, _, hfraction, h⟩ := h
    cases h
    exact ⟨hranges.1, hranges.2.1, hranges.2.2, lt_of_readFraction hfraction⟩
  · rw [if_neg hpoint] at h
    cases h
    exact ⟨hranges.1, hranges.2.1, hranges.2.2, Nat.pow_pos (by decide)⟩

/-! ## Offsets -/

/-- An offset is read back. -/
theorem readOffset_text {o : Offset} (ho : o.Valid) (rest : List Char) : readOffset (o.text.toList ++ rest) = some (o, rest) := by
  cases o with
  | universal => rfl
  | minutes ahead =>
    have hrange : ahead.natAbs < 24 * 60 := ho
    have hhour := number_padded 2 0 23 (ahead.natAbs / 60) (by decide) (by omega) (Nat.zero_le _) (by omega)
    have hminute := number_padded 2 0 59 (ahead.natAbs % 60) (by decide) (by omega) (Nat.zero_le _) (by omega)
    have hsign : ∃ sign : Char, (if ahead < 0 then "-" else "+" : String).toList = [sign] ∧
        (sign == 'Z' || sign == 'z') = false ∧ (sign == 'Z' || sign == 'z' || sign == '+' || sign == '-') = true ∧
        ((sign == '-') = true ↔ ahead < 0) := by
      by_cases hneg : ahead < 0
      · exact ⟨'-', by rw [if_pos hneg]; rfl, rfl, rfl, iff_of_true rfl hneg⟩
      · exact ⟨'+', by rw [if_neg hneg]; rfl, rfl, rfl, iff_of_false (by decide) hneg⟩
    obtain ⟨sign, htext, hletter, hsign, hminus⟩ := hsign
    have hone : Reader.one (fun c => c == 'Z' || c == 'z' || c == '+' || c == '-')
        ((Offset.minutes ahead).text.toList ++ rest) = some (sign, (padded 2 (ahead.natAbs / 60)).toList ++ (":".toList ++
          ((padded 2 (ahead.natAbs % 60)).toList ++ rest))) := by
      refine Reader.one_eq_some_iff.mpr ⟨?_, hsign⟩
      simp only [Offset.text, String.toList_append, List.append_assoc, htext, List.cons_append, List.nil_append]
    simp only [readOffset, Reader.bind_apply, hone, Option.bind_some, hletter, Bool.false_eq_true, if_false, hhour,
      Reader.exactly_append, hminute, Reader.pure_apply, hminus]
    have hvalue : (if ahead < 0 then -((ahead.natAbs / 60 : Nat) * 60 + (ahead.natAbs % 60 : Nat) : Int)
        else (ahead.natAbs / 60 : Nat) * 60 + (ahead.natAbs % 60 : Nat)) = ahead := by
      split <;> omega
    rw [hvalue]

/-- An offset that is read is less than a day. -/
theorem valid_of_readOffset {o : Offset} (h : readOffset s = some (o, s')) : o.Valid := by
  simp only [readOffset, Reader.bind_eq_some_iff] at h
  obtain ⟨c, _, -, h⟩ := h
  split at h
  · cases h
    exact True.intro
  · obtain ⟨hour, _, hhour, h⟩ := Reader.bind_eq_some_iff.mp h
    obtain ⟨_, _, -, h⟩ := Reader.bind_eq_some_iff.mp h
    obtain ⟨minute, _, hminute, h⟩ := Reader.bind_eq_some_iff.mp h
    cases h
    have hhours := (range_of_number hhour).2
    have hminutes := (range_of_number hminute).2
    have hahead : ((hour : Int) * 60 + minute).natAbs < 24 * 60 := by omega
    by_cases hminus : (c == '-') = true
    · rw [if_pos hminus, Offset.Valid, Int.natAbs_neg]
      exact hahead
    · rw [if_neg hminus]
      exact hahead

/-! ## Moments -/

/-- A character with which the written form of a moment can go on. -/
def goesOn (c : Char) : Bool := isFraction c || c == 'T' || c == 't' || c == 'Z' || c == 'z' || c == '+' || c == '-'

/-- A text that cannot belong to a moment before it. -/
structure Ends (rest : List Char) : Prop where
  outside : BeginsOutside goesOn rest
  blank : ∀ after, rest = ' ' :: after → begins after = false

/-- No fraction goes on where a text ends. -/
theorem Ends.fraction (h : Ends rest) : BeginsOutside isFraction rest := by
  intro c hc
  have hc := h.outside c hc
  simp only [goesOn, Bool.or_eq_false_iff] at hc
  simp only [hc]

/-- A text begins with just so many digits and then a character. -/
def BeginsWith (width : Nat) (mark : Char) (s : List Char) : Prop :=
  (s.takeWhile Char.isDigit).length = width ∧ (s.drop width).head? = some mark

/-- A padded number and a mark after it. -/
theorem beginsWith_padded (width n : Nat) (mark : Char) (hwidth : 0 < width) (h : n < 10 ^ width)
    (hmark : mark.isDigit = false) (rest : List Char) : BeginsWith width mark ((padded width n).toList ++ mark :: rest) := by
  have hlength := length_padded width hwidth h
  constructor
  · rw [takeWhile_append_of_beginsOutside (fun _ => isDigit_of_mem_padded) (beginsOutside_cons hmark), hlength]
  · rw [List.drop_left' hlength]
    rfl

/-- A time of day begins with its hour. -/
theorem beginsWith_time {t : TimeOfDay} (ht : t.Valid) (rest : List Char) : BeginsWith 2 ':' (t.text.toList ++ rest) := by
  have hhour := beginsWith_padded 2 t.hour ':' (by decide) (by have := ht.hour; omega) (by decide)
  simpa [TimeOfDay.text] using hhour _

/-- A date begins with its year. -/
theorem beginsWith_date {d : Date} (hd : d.Valid) (rest : List Char) : BeginsWith 4 '-' (d.text.toList ++ rest) := by
  have hyear := beginsWith_padded 4 d.year '-' (by decide) (by have := hd.year; omega) (by decide)
  simpa [Date.text] using hyear _

/-- An hour with its colon begins a moment. -/
theorem begins_of_time (h : BeginsWith 2 ':' s) : begins s = true := by simp [begins, h.1, h.2]

/-- A year with its hyphen begins a moment. -/
theorem begins_of_date (h : BeginsWith 4 '-' s) : begins s = true := by simp [begins, h.1, h.2]

/-- No time follows a date where a text ends. -/
theorem readTimeAfter_of_ends (h : Ends rest) : readTimeAfter rest = some (none, rest) := by
  simp only [readTimeAfter, Reader.bind_apply, Reader.get_apply, Option.bind_some]
  rw [if_neg]
  · rfl
  · cases rest with
    | nil => decide
    | cons c after =>
      have hc := h.outside c rfl
      simp only [goesOn, Bool.or_eq_false_iff] at hc
      simp only [hc, Bool.false_or, Bool.and_eq_true, beq_iff_eq]
      rintro ⟨rfl, hbegins⟩
      rw [h.blank after rfl] at hbegins
      cases hbegins

/-- The first character of an offset. -/
theorem head_offset (o : Offset) : ∃ c after, o.text.toList = c :: after ∧
    (c == 'Z' || c == 'z' || c == '+' || c == '-') = true ∧ isFraction c = false := by
  cases o with
  | universal => exact ⟨'Z', [], rfl, rfl, rfl⟩
  | minutes ahead =>
    rw [Offset.text, String.toList_append, String.toList_append, String.toList_append]
    split
    · exact ⟨'-', _, rfl, rfl, rfl⟩
    · exact ⟨'+', _, rfl, rfl, rfl⟩

/-- A time after a date is read back. -/
theorem readTimeAfter_text {t : TimeOfDay} {offset : Option Offset} (ht : t.Valid) (ho : ∀ o ∈ offset, o.Valid)
    (hrest : Ends rest) :
    readTimeAfter ('T' :: (t.text.toList ++ (((offset.map Offset.text).getD "").toList ++ rest))) =
      some (some (t, offset), rest) := by
  simp only [readTimeAfter, Reader.bind_apply, Reader.get_apply, Option.bind_some, begins_of_time (beginsWith_time ht _)]
  rw [if_pos (by decide)]
  cases offset with
  | none =>
    simp only [Reader.bind_apply, Reader.set_apply, Option.bind_some, List.drop_one, List.tail_cons, Option.map_none,
      Option.getD_none, String.toList_empty, List.nil_append, readTime_text ht hrest.fraction, Reader.peek_apply]
    cases rest with
    | nil => rfl
    | cons c after =>
      have hc := hrest.outside c rfl
      simp only [goesOn, Bool.or_eq_false_iff] at hc
      simp only [List.head?_cons, hc, Bool.or_false, Bool.false_eq_true, if_false]
      rfl
  | some o =>
    obtain ⟨c, after, htext, hsigned, hfraction⟩ := head_offset o
    have hoffset := readOffset_text (ho o rfl) rest
    rw [htext] at hoffset
    simp only [Reader.bind_apply, Reader.set_apply, Option.bind_some, List.drop_one, List.tail_cons, Option.map_some,
      Option.getD_some, htext, List.cons_append, readTime_text ht (beginsOutside_cons hfraction), Reader.peek_apply,
      List.head?_cons, hsigned, if_pos, Reader.map_apply]
    rw [← List.cons_append, hoffset]
    rfl

/-- The written form of a moment begins as one. -/
theorem begins_text {m : Moment} (hm : m.Valid) (rest : List Char) : begins (m.text.toList ++ rest) = true := by
  cases m with
  | date d => exact begins_of_date (beginsWith_date hm rest)
  | time t => exact begins_of_time (beginsWith_time hm rest)
  | both d t offset =>
    simp only [text, String.toList_append, List.append_assoc]
    exact begins_of_date (beginsWith_date hm.1 _)

/-- The written form of a moment begins with a digit. -/
theorem head_text {m : Moment} (hm : m.Valid) : ∃ c after, m.text.toList = c :: after ∧ c.isDigit = true := by
  have hbegins := begins_text hm []
  rw [List.append_nil] at hbegins
  cases htext : m.text.toList with
  | nil =>
    rw [htext] at hbegins
    exact absurd hbegins (by decide)
  | cons c after =>
    refine ⟨c, after, rfl, ?_⟩
    by_contra hc
    rw [htext, begins, List.takeWhile_cons_of_neg hc] at hbegins
    exact absurd hbegins (by simp)

/-- **A moment is read back** from its written form, whatever text follows that cannot belong to it. -/
theorem read_text {m : Moment} (hm : m.Valid) (hrest : Ends rest) : read (m.text.toList ++ rest) = some (m, rest) := by
  simp only [read, Reader.bind_apply, Reader.get_apply, Option.bind_some]
  cases m with
  | date d =>
    have hdigits := (beginsWith_date hm rest).1
    simp only [text, hdigits, Nat.reduceEqDiff, if_false, Reader.bind_apply, readDate_text hm,
      readTimeAfter_of_ends hrest, Option.bind_some, Reader.pure_apply]
  | time t =>
    have hdigits := (beginsWith_time hm rest).1
    simp only [text, hdigits, if_true, Reader.bind_apply, readTime_text hm hrest.fraction, Option.bind_some, Reader.pure_apply]
  | both d t offset =>
    obtain ⟨hd, ht, ho⟩ := hm
    have hdigits := (beginsWith_date hd ('T' :: (t.text.toList ++ (((offset.map Offset.text).getD "").toList ++ rest)))).1
    have htext : (both d t offset).text.toList ++ rest = d.text.toList ++
        'T' :: (t.text.toList ++ (((offset.map Offset.text).getD "").toList ++ rest)) := by
      simp [text]
    simp only [htext, hdigits, Nat.reduceEqDiff, if_false, Reader.bind_apply, readDate_text hd,
      readTimeAfter_text ht ho hrest, Option.bind_some, Reader.pure_apply]

/-- A time after a date that is read is in its ranges, and so is its offset. -/
theorem valid_of_readTimeAfter {t : TimeOfDay} {offset : Option Offset} (h : readTimeAfter s = some (some (t, offset), s')) :
    t.Valid ∧ ∀ o ∈ offset, o.Valid := by
  obtain ⟨text, _, -, h⟩ := Reader.bind_eq_some_iff.mp h
  split_ifs at h
  · obtain ⟨_, _, -, h⟩ := Reader.bind_eq_some_iff.mp h
    obtain ⟨t, _, ht, h⟩ := Reader.bind_eq_some_iff.mp h
    obtain ⟨head, _, -, h⟩ := Reader.bind_eq_some_iff.mp h
    dsimp only at h
    split_ifs at h
    · obtain ⟨offset, _, hoffset, h⟩ := Reader.bind_eq_some_iff.mp h
      cases h
      rw [Reader.map_apply, Option.map_eq_some_iff] at hoffset
      obtain ⟨⟨o, _⟩, ho, hoffset⟩ := hoffset
      cases hoffset
      refine ⟨valid_of_readTime ht, fun o' ho' => ?_⟩
      cases ho'
      exact valid_of_readOffset ho
    · cases h
      exact ⟨valid_of_readTime ht, fun o ho => by cases ho⟩
  · cases h

/-- **Only moments within their ranges are read.** -/
theorem valid_of_read {m : Moment} (h : read s = some (m, s')) : m.Valid := by
  obtain ⟨text, _, -, h⟩ := Reader.bind_eq_some_iff.mp h
  split at h
  · obtain ⟨t, _, ht, h⟩ := Reader.bind_eq_some_iff.mp h
    cases h
    exact valid_of_readTime ht
  · obtain ⟨d, _, hd, h⟩ := Reader.bind_eq_some_iff.mp h
    obtain ⟨after, _, hafter, h⟩ := Reader.bind_eq_some_iff.mp h
    cases after with
    | none =>
      cases h
      exact valid_of_readDate hd
    | some found =>
      cases h
      exact ⟨valid_of_readDate hd, valid_of_readTimeAfter hafter⟩

end Moment

end MediaCatalog
