import MediaCatalog.Proofs.Moment
import MediaCatalog.Proofs.Number.Shortest
import MediaCatalog.Proofs.Toml.Quoted
import MediaCatalog.Toml.Statement

/-!
# Scalars are read back

* `Ends`: a text that cannot belong to a scalar before it.
* `decimalValue?`, `readNumber_append`: what is read of a number, whatever follows it.
* `scalarBack`: what a scalar becomes when it is written and read; all stay but null, which is written as an empty string, and
  floats, which are rounded to the text that they are written as.
* **Main result** (`readScalar_write`): only that is read, and nothing of what follows.
-/

namespace MediaCatalog.Toml

open Text

variable {rest : List Char}

/-! ## Ends of scalars -/

/-- A character with which a scalar can go on. -/
def belongs (c : Char) : Bool :=
  c.isAlphanum || c == '_' || c == '.' || c == '+' || c == '-' || c == ':' || isQuote c

/-- A text that cannot belong to a scalar before it. -/
structure Ends (rest : List Char) : Prop where
  outside : BeginsOutside belongs rest
  blank : ∀ after, rest = ' ' :: after → Moment.begins after = false

/-- A scalar ends where the text does. -/
theorem ends_nil : Ends [] := ⟨fun c hc => (by cases hc), fun after h => (by cases h)⟩

/-- What does not belong to a scalar is none of the characters that do. -/
theorem Ends.class {p : Char → Bool} (h : Ends rest) (hp : ∀ c, p c = true → belongs c = true) : BeginsOutside p rest := by
  intro c hc
  by_contra htrue
  have hbelongs := hp c (by simpa using htrue)
  rw [h.outside c hc] at hbelongs
  cases hbelongs

/-- No quote follows a scalar. -/
theorem Ends.quote (h : Ends rest) : BeginsOutside isQuote rest := h.class fun c hc => by simp [belongs, hc]

/-- What cannot belong to a scalar cannot belong to a moment. -/
theorem Ends.moment (h : Ends rest) : Moment.Ends rest where
  outside := h.class fun c hc => by
    simp only [Moment.goesOn, Moment.isFraction, Bool.or_eq_true, beq_iff_eq] at hc
    rcases hc with (((((((hc | rfl) | rfl) | rfl) | rfl) | rfl) | rfl) | rfl)
    · simp [belongs, Char.isAlphanum, hc]
    all_goals decide
  blank := h.blank

/-! ## Numbers -/

/-- A run of digits. -/
structure IsDigits (digits : List Char) : Prop where
  ne_nil : digits ≠ []
  isDigit : ∀ c ∈ digits, c.isDigit = true

/-- The decimal digits of a number are a run of digits. -/
theorem isDigits_toDigits (n : Nat) : IsDigits (Nat.toDigits 10 n) :=
  ⟨Number.toDigits_ne_nil n, fun _ => Number.isDigit_of_mem_toDigits⟩

/-- A character of a run of digits with underscores. -/
def isGroup (c : Char) : Bool := c.isDigit || c == '_'

/-- No run of digits goes on behind a scalar. -/
theorem Ends.group (h : Ends rest) : BeginsOutside isGroup rest := h.class fun c hc => by
  simp only [isGroup, Bool.or_eq_true, beq_iff_eq] at hc
  rcases hc with hc | rfl
  · simp [belongs, Char.isAlphanum, hc]
  · decide

/-- A run of digits is read. -/
theorem readDigits_append {digits : List Char} (h : IsDigits digits) (hrest : BeginsOutside isGroup rest) :
    readDigits Char.isDigit (digits ++ rest) = some (digits, rest) := by
  have hrun : Reader.takeSome isGroup (digits ++ rest) = some (digits, rest) :=
    Reader.takeSome_append h.ne_nil (fun c hc => by simp [isGroup, h.isDigit c hc]) hrest
  have hgroups : digits.splitOnP (· == '_') = [digits] := by
    refine List.splitOnP_eq_singleton fun c hc => ?_
    rw [beq_eq_false_iff_ne]
    rintro rfl
    exact absurd (h.isDigit '_' hc) (by decide)
  have hempty : digits.isEmpty = false := by simpa using h.ne_nil
  change (Reader.takeSome isGroup >>= _) _ = _
  rw [Reader.bind_apply, hrun, Option.bind_some]
  simp only [hgroups, List.any_cons, hempty, List.any_nil, Bool.or_self, Bool.false_eq_true, if_false, List.flatten_cons,
    List.flatten_nil, List.append_nil, Reader.pure_apply]

/-- An integer within the bounds. -/
def integerValue? (n : Int) : Option Value :=
  if -(Number.signedBound64 : Int) ≤ n ∧ n < Number.signedBound64 then some (.integer n) else none

/-- An integer within the bounds is found, and the text stays. -/
theorem fitting_apply (n : Int) (s : List Char) : fitting n s = (integerValue? n).map fun v => (v, s) := by
  unfold fitting integerValue?
  split_ifs <;> rfl

/-- The number with given digits before the point and a given fraction. -/
def decimalValue? (negative : Bool) (whole fraction : List Char) : Option Value :=
  if hasLeadingZero whole then none
  else if fraction.isEmpty then integerValue? (if negative then -(valueOf 10 whole : Int) else valueOf 10 whole)
  else
    match Number.Binary64.decimal? (whole ++ fraction) with
    | some magnitude =>
      if !negative && magnitude = Number.Binary64.infinite then none else some (.float ⟨negative, magnitude⟩)
    | none => none

/-- No exponent is read where a scalar ends. -/
theorem readExponent_of_ends (h : Ends rest) : readExponent rest = some ([], rest) := by
  cases rest with
  | nil => rfl
  | cons c after =>
    have hc : (c == 'e' || c == 'E') = false :=
      h.class (p := fun c => c == 'e' || c == 'E') (fun c hc => by
        simp only [Bool.or_eq_true, beq_iff_eq] at hc
        rcases hc with rfl | rfl <;> decide) c rfl
    simp only [readExponent, Reader.bind_apply, Reader.peek_apply, List.head?_cons, Option.bind_some, hc, Bool.false_eq_true,
      if_false, Reader.pure_apply]

/-- A fraction is read. -/
theorem readFraction_append {fraction : List Char} (h : Number.Binary64.IsFraction fraction) (hrest : Ends rest) :
    readFraction (fraction ++ rest) = some (fraction, rest) := by
  rcases h with rfl | ⟨digits, rfl, hne, hdigits⟩
  · have hpoint : (rest.head? == some '.') = false := by
      cases rest with
      | nil => rfl
      | cons c after =>
        have hc := hrest.class (p := (· == '.')) (fun c hc => by rw [beq_iff_eq.mp hc]; decide) c rfl
        simpa using hc
    simp only [readFraction, Reader.bind_apply, Reader.peek_apply, List.nil_append, Option.bind_some, hpoint,
      Bool.false_eq_true, if_false, Reader.pure_apply]
  · have hpoint : Reader.exactly "." ('.' :: digits ++ rest) = some ((), digits ++ rest) :=
      Reader.exactly_eq_some_iff.mpr rfl
    simp only [readFraction, Reader.bind_apply, Reader.peek_apply, List.cons_append, List.head?_cons, Option.bind_some,
      beq_self_eq_true, if_true]
    rw [← List.cons_append, hpoint, Option.bind_some, readDigits_append ⟨hne, hdigits⟩ hrest.group]
    rfl

/-- Digits before the point end where a fraction or the rest begins. -/
theorem beginsOutside_fraction {p : Char → Bool} {fraction : List Char} (h : Number.Binary64.IsFraction fraction)
    (hpoint : p '.' = false) (hrest : BeginsOutside p rest) : BeginsOutside p (fraction ++ rest) := by
  rcases h with rfl | ⟨digits, rfl, -⟩
  · exact hrest
  · exact beginsOutside_cons hpoint

/-- **A number is read** as what its digits say, whatever follows it. -/
theorem readDecimal_append (negative : Bool) {whole fraction : List Char} (hwhole : IsDigits whole)
    (hfraction : Number.Binary64.IsFraction fraction) (hrest : Ends rest) :
    readDecimal negative (whole ++ (fraction ++ rest)) = (decimalValue? negative whole fraction).map fun v => (v, rest) := by
  have hdigits := readDigits_append hwhole (beginsOutside_fraction hfraction (by decide) hrest.group)
  simp only [readDecimal, Reader.bind_apply, hdigits, Option.bind_some]
  unfold decimalValue?
  split
  · rfl
  · simp only [Reader.bind_apply, Option.bind_some, readFraction_append hfraction hrest, readExponent_of_ends hrest,
      List.isEmpty_nil, Bool.and_true, List.append_nil]
    split
    · exact fitting_apply _ rest
    · cases Number.Binary64.decimal? (whole ++ fraction) with
      | none => rfl
      | some magnitude =>
        dsimp only
        split_ifs <;> rfl

/-- The characters of a number with a sign. -/
def numberText (negative : Bool) (whole fraction : List Char) : List Char :=
  (if negative then "-" else "").toList ++ (whole ++ fraction)

/-- A sign is read, and the digits after it are not. -/
theorem readSign_number (negative : Bool) {whole : List Char} (hwhole : IsDigits whole) (fraction rest : List Char) :
    ∃ sign, readSign (numberText negative whole fraction ++ rest) = some (sign, whole ++ (fraction ++ rest)) ∧
      (sign == some true) = negative := by
  obtain ⟨d, digits, rfl⟩ := List.exists_cons_of_ne_nil hwhole.ne_nil
  have hd := hwhole.isDigit d List.mem_cons_self
  cases negative with
  | true =>
    have htext : numberText true (d :: digits) fraction ++ rest = "-".toList ++ (d :: digits ++ (fraction ++ rest)) := by
      simp [numberText]
    refine ⟨some true, ?_, rfl⟩
    simp only [readSign, Reader.bind_apply, Reader.peek_apply, htext, Option.bind_some]
    exact (Reader.bind_apply _ _ _).trans (by rw [Reader.exactly_append]; rfl)
  | false =>
    have htext : numberText false (d :: digits) fraction ++ rest = d :: (digits ++ (fraction ++ rest)) := by simp [numberText]
    refine ⟨none, ?_, rfl⟩
    simp only [readSign, Reader.bind_apply, Reader.peek_apply, htext, List.head?_cons, Option.bind_some]
    generalize hhead : some d = head
    split
    · cases hhead
      exact absurd hd (by decide)
    · cases hhead
      exact absurd hd (by decide)
    · rfl

section NumberText

variable (negative : Bool) {whole fraction : List Char} (hwhole : IsDigits whole)
  (hfraction : Number.Binary64.IsFraction fraction) (hrest : Ends rest)

include hfraction hrest

/-- Behind the digits no other character of a scalar comes next than the point. -/
theorem head_afterDigits {c : Char} (hbelongs : belongs c = true) (hpoint : c ≠ '.') :
    (fraction ++ rest).head? ≠ some c := by
  intro hc
  have hother : BeginsOutside (· == c) (fraction ++ rest) :=
    beginsOutside_fraction hfraction (by simpa using hpoint.symm) (hrest.class fun d hd => beq_iff_eq.mp hd ▸ hbelongs)
  simpa using hother c hc

include hwhole

/-- No base is read where a number in decimal digits stands. -/
theorem numberText_ne {c : Char} (hc : c.isDigit = false) (hbelongs : belongs c = true) (hpoint : c ≠ '.')
    (after : List Char) : numberText negative whole fraction ++ rest ≠ '0' :: c :: after := by
  intro heq
  cases negative with
  | true => exact absurd (List.cons.inj heq).1 (by decide)
  | false =>
    have htext : whole ++ (fraction ++ rest) = '0' :: c :: after := by simpa [numberText] using heq
    obtain ⟨hne, hdigits⟩ := hwhole
    match whole, hne, hdigits with
    | [d], _, _ => exact head_afterDigits hfraction hrest hbelongs hpoint (congrArg List.head? (List.cons.inj htext).2)
    | d :: e :: whole, _, hdigits =>
      have he := hdigits e (List.mem_cons_of_mem d List.mem_cons_self)
      rw [(List.cons.inj (List.cons.inj htext).2).1, hc] at he
      cases he

/-- A number with a sign is read. -/
theorem readNumber_append : readNumber (numberText negative whole fraction ++ rest) =
    (decimalValue? negative whole fraction).map fun v => (v, rest) := by
  have hdecimal := readDecimal_append negative hwhole hfraction hrest
  obtain ⟨sign, hsign, hnegative⟩ := readSign_number negative hwhole fraction rest
  have hbase {c : Char} := numberText_ne negative hwhole hfraction hrest (c := c)
  simp only [readNumber, Reader.bind_apply, Reader.get_apply, Option.bind_some]
  generalize numberText negative whole fraction ++ rest = text at hsign hbase ⊢
  split
  · exact absurd rfl (hbase (by decide) (by decide) (by decide) _)
  · exact absurd rfl (hbase (by decide) (by decide) (by decide) _)
  · exact absurd rfl (hbase (by decide) (by decide) (by decide) _)
  · simp only [Reader.bind_apply, hsign, Option.bind_some, Reader.peek_apply, hnegative]
    obtain ⟨d, digits, rfl⟩ := List.exists_cons_of_ne_nil hwhole.ne_nil
    have hd := hwhole.isDigit d List.mem_cons_self
    rw [List.cons_append, List.head?_cons]
    generalize hhead : some d = head
    split
    · cases hhead
      exact absurd hd (by decide)
    · cases hhead
      exact absurd hd (by decide)
    · exact hdecimal

/-- A number does not begin as a moment does. -/
theorem begins_number : Moment.begins (numberText negative whole fraction ++ rest) = false := by
  cases negative with
  | true => rfl
  | false =>
    have hend : BeginsOutside Char.isDigit (fraction ++ rest) :=
      beginsOutside_fraction hfraction (by decide) (hrest.class fun c hc => by simp [belongs, Char.isAlphanum, hc])
    have htext : numberText false whole fraction ++ rest = whole ++ (fraction ++ rest) := by simp [numberText]
    have hhyphen := head_afterDigits hfraction hrest (c := '-') (by decide) (by decide)
    have hcolon := head_afterDigits hfraction hrest (c := ':') (by decide) (by decide)
    rw [Moment.begins, htext, takeWhile_append_of_beginsOutside hwhole.isDigit hend, List.drop_left]
    generalize (fraction ++ rest).head? = next at hhyphen hcolon ⊢
    simp [hhyphen, hcolon]

end NumberText

/-! ## Scalars -/

/-- What a float becomes when it is written and read: the number that its text denotes. -/
def floatBack (x : Number.Binary64) : Value := (Reader.whole? readScalar (writeFloat x).toList).getD (.float x)

/-- An integer or a float. -/
def IsNumber : Value → Prop
  | .integer _ => True
  | .float _ => True
  | _ => False

/-- Digits denote a number, if anything. -/
theorem isNumber_decimalValue? {negative : Bool} {whole fraction : List Char} {v : Value}
    (h : decimalValue? negative whole fraction = some v) : IsNumber v := by
  unfold decimalValue? integerValue? at h
  by_cases hzero : hasLeadingZero whole = true
  · rw [if_pos hzero] at h
    cases h
  · rw [if_neg hzero] at h
    by_cases hfraction : fraction.isEmpty = true
    · rw [if_pos hfraction] at h
      obtain ⟨-, h⟩ := Option.ite_none_right_eq_some.mp h
      cases h
      exact True.intro
    · rw [if_neg hfraction] at h
      cases hmagnitude : Number.Binary64.decimal? (whole ++ fraction) with
      | none =>
        rw [hmagnitude] at h
        cases h
      | some magnitude =>
        simp only [hmagnitude] at h
        obtain ⟨-, h⟩ := Option.ite_none_left_eq_some.mp h
        cases h
        exact True.intro

/-- A text that begins with a quote is read as a string. -/
theorem readScalar_quote {c : Char} (hc : c = '"' ∨ c = '\'') (s : List Char) :
    readScalar (c :: s) = (readText (c :: s)).map fun found => (.text found.1, found.2) := by
  rcases hc with rfl | rfl
  · exact Reader.map_apply Value.text readText _
  · exact Reader.map_apply Value.text readText _

/-- A text that begins with a digit or a hyphen is read as a moment or a number. -/
theorem readScalar_digit {c : Char} (hc : c = '-' ∨ c.isDigit = true) (s : List Char) :
    readScalar (c :: s) = if Moment.begins (c :: s) then (Moment.read (c :: s)).map fun found => (.moment found.1, found.2)
      else readNumber (c :: s) := by
  have hother {d : Char} (hd : d.isDigit = false) (hne : d ≠ '-') : some c ≠ some d := by
    rintro heq
    cases heq
    rcases hc with rfl | hc
    · exact hne rfl
    · rw [hd] at hc
      cases hc
  simp only [readScalar, Reader.bind_apply, Reader.get_apply, Option.bind_some, List.head?_cons]
  generalize hbegins : Moment.begins (c :: s) = begins
  generalize hhead : some c = head
  split
  · exact absurd hhead (hother (by decide) (by decide))
  · exact absurd hhead (hother (by decide) (by decide))
  · exact absurd hhead (hother (by decide) (by decide))
  · exact absurd hhead (hother (by decide) (by decide))
  · split
    · exact Reader.map_apply Value.moment Moment.read _
    · rfl

/-- A text is read as a number, or not at all, whatever follows it. -/
def ReadsAs (text : List Char) (found : Option Value) : Prop :=
  (∀ rest, Ends rest → readScalar (text ++ rest) = found.map fun v => (v, rest)) ∧ ∀ v ∈ found, IsNumber v

/-- Without anything after it, it is all that is read. -/
theorem whole?_of_readsAs {text : List Char} {found : Option Value} (h : ReadsAs text found) :
    Reader.whole? readScalar text = found := by
  have hnil := h.1 [] ends_nil
  rw [List.append_nil] at hnil
  rw [Reader.whole?, hnil]
  cases found <;> rfl

/-- A number in decimal digits is read as a number. -/
theorem readsAs_numberText (negative : Bool) {whole fraction : List Char} (hwhole : IsDigits whole)
    (hfraction : Number.Binary64.IsFraction fraction) :
    ReadsAs (numberText negative whole fraction) (decimalValue? negative whole fraction) := by
  refine ⟨fun rest hrest => ?_, fun v hv => isNumber_decimalValue? hv⟩
  have hread := readNumber_append negative hwhole hfraction hrest
  have hmoment := begins_number negative hwhole hfraction hrest
  have hhead : ∃ c after, numberText negative whole fraction ++ rest = c :: after ∧ (c = '-' ∨ c.isDigit = true) := by
    cases negative with
    | true => exact ⟨'-', _, rfl, .inl rfl⟩
    | false =>
      obtain ⟨d, digits, rfl⟩ := List.exists_cons_of_ne_nil hwhole.ne_nil
      exact ⟨d, digits ++ fraction ++ rest, by simp [numberText], .inr (hwhole.isDigit d List.mem_cons_self)⟩
  obtain ⟨c, after, htext, hc⟩ := hhead
  rw [htext] at hread hmoment ⊢
  rw [readScalar_digit hc, hmoment, if_neg (by decide), hread]

/-- A word for a number is read as it. -/
theorem readsAs_word {text : List Char} {x : Number.Binary64} (h : ∀ rest, readScalar (text ++ rest) = some (.float x, rest)) :
    ReadsAs text (some (.float x)) := ⟨fun rest _ => h rest, fun v hv => by cases hv; exact True.intro⟩

/-- The written form of a float: a word, or digits and perhaps a fraction. -/
theorem writeFloat_cases (x : Number.Binary64) :
    (writeFloat x).toList = "nan".toList ∨ (writeFloat x).toList = "inf".toList ∨ (writeFloat x).toList = "-inf".toList ∨
      ∃ n fraction, (writeFloat x).toList = numberText x.negative (Nat.toDigits 10 n) fraction ∧
        Number.Binary64.IsFraction fraction := by
  unfold writeFloat
  split
  · exact .inl rfl
  · next hsmall =>
    rw [String.toList_append]
    obtain ⟨body, htext, hlarge | ⟨hinfinite, rfl⟩ | ⟨n, fraction, rfl, hfraction, hwhole⟩⟩ := x.text_eq
    · exact absurd hlarge hsmall
    · have hnot : x.isWhole = false := by simp [Number.Binary64.isWhole, hinfinite]
      rw [htext, hnot]
      cases x.negative
      · exact .inr (.inl rfl)
      · exact .inr (.inr (.inl rfl))
    · refine .inr (.inr (.inr ?_))
      rw [htext, List.append_assoc]
      by_cases hx : x.isWhole = true
      · obtain rfl := hwhole hx
        rw [if_pos hx, List.append_nil]
        exact ⟨n, _, rfl, .inr ⟨['0'], rfl, List.cons_ne_nil _ _, List.forall_mem_singleton.mpr rfl⟩⟩
      · rw [if_neg hx, String.toList_empty, List.append_nil]
        exact ⟨n, fraction, rfl, hfraction⟩

/-- **A float is read as a number**, or not at all. -/
theorem readsAs_writeFloat (x : Number.Binary64) : ∃ found, ReadsAs (writeFloat x).toList found := by
  rcases writeFloat_cases x with htext | htext | htext | ⟨n, fraction, htext, hfraction⟩
  · rw [htext]
    exact ⟨_, readsAs_word (x := ⟨false, Number.Binary64.notNumber⟩) fun rest => rfl⟩
  · rw [htext]
    exact ⟨_, readsAs_word (x := ⟨false, Number.Binary64.infinite⟩) fun rest => rfl⟩
  · rw [htext]
    exact ⟨_, readsAs_word (x := ⟨true, Number.Binary64.infinite⟩) fun rest => rfl⟩
  · rw [htext]
    exact ⟨_, readsAs_numberText x.negative (isDigits_toDigits n) hfraction⟩

/-- So it becomes a number. -/
theorem isNumber_floatBack (x : Number.Binary64) : IsNumber (floatBack x) := by
  obtain ⟨found, hread, hnumber⟩ := readsAs_writeFloat x
  rw [floatBack, whole?_of_readsAs ⟨hread, hnumber⟩]
  cases found with
  | none => exact True.intro
  | some v => exact hnumber v rfl

/-- A number is the value of its digits. -/
theorem valueOf_toDigits (n : Nat) : valueOf 10 (Nat.toDigits 10 n) = n := by
  have hfold (digits : List Char) (h : ∀ c ∈ digits, c.isDigit = true) (n : Nat) :
      digits.foldl (fun n c => n * 10 + (hexValue? c).getD 0) n = Nat.ofDigitChars 10 digits n := by
    induction digits generalizing n with
    | nil => rfl
    | cons c digits ih =>
      have hc : hexValue? c = some (c.toNat - 48) := by
        have hdigit := h c List.mem_cons_self
        simp only [Char.isDigit, Bool.and_eq_true, decide_eq_true_eq, ge_iff_le, UInt32.le_iff_toNat_le] at hdigit
        exact if_pos (by simpa using hdigit)
      rw [List.foldl_cons, ih (fun d hd => h d (List.mem_cons_of_mem c hd)), hc, Nat.ofDigitChars_cons, Nat.mul_comm]
      rfl
  exact (hfold _ (fun _ => Number.isDigit_of_mem_toDigits) 0).trans (Nat.ofDigitChars_toDigits (by decide) (by decide))

/-- An integer is written with its digits. -/
theorem toList_integer (n : Int) : (toString n).toList = numberText (decide (n < 0)) (Nat.toDigits 10 n.natAbs) [] := by
  cases n with
  | ofNat n =>
    have hsign : decide (Int.ofNat n < 0) = false := decide_eq_false (by simp)
    have htext : toString (Int.ofNat n) = n.repr := rfl
    rw [hsign, htext, Nat.toList_repr]
    simp [numberText]
  | negSucc n =>
    have htext : toString (Int.negSucc n) = "-" ++ (n + 1).repr := rfl
    rw [htext, String.toList_append, Nat.toList_repr]
    simp [numberText]

/-- What a scalar becomes when it is written and read. -/
def scalarBack : Value → Value
  | .null => .text ""
  | .float x => floatBack x
  | v => v

/-- Neither a list nor a table; moments are in their ranges. -/
def IsScalar : Value → Prop
  | .list _ => False
  | .table _ => False
  | .moment m => m.Valid
  | _ => True

/-- The written form of a scalar begins with a character that belongs to one. -/
theorem head_writeScalar {v : Value} (hv : IsScalar v) : ∃ c after, (writeValue v).toList = c :: after ∧ belongs c = true := by
  have hdigit {c : Char} (hc : c.isDigit = true) : belongs c = true := by simp [belongs, Char.isAlphanum, hc]
  have hnumber (negative : Bool) (n : Nat) (fraction : List Char) :
      ∃ c after, numberText negative (Nat.toDigits 10 n) fraction = c :: after ∧ belongs c = true := by
    cases negative with
    | true => exact ⟨'-', _, rfl, by decide⟩
    | false =>
      obtain ⟨c, digits, hdigits⟩ := List.exists_cons_of_ne_nil (Number.toDigits_ne_nil n)
      exact ⟨c, digits ++ fraction, by simp [numberText, hdigits],
        hdigit (Number.isDigit_of_mem_toDigits (hdigits ▸ List.mem_cons_self))⟩
  cases v with
  | null => exact ⟨'"', _, rfl, by decide⟩
  | bool b =>
    cases b
    · exact ⟨'f', _, rfl, by decide⟩
    · exact ⟨'t', _, rfl, by decide⟩
  | integer n =>
    rw [writeValue, toList_integer]
    exact hnumber _ _ _
  | float x =>
    rcases writeFloat_cases x with htext | htext | htext | ⟨n, fraction, htext, -⟩
    · exact ⟨'n', _, htext, by decide⟩
    · exact ⟨'i', _, htext, by decide⟩
    · exact ⟨'-', _, htext, by decide⟩
    · rw [writeValue, htext]
      exact hnumber _ _ _
  | text s =>
    obtain ⟨c, after, htext, hc⟩ := head_write s
    refine ⟨c, after, htext, ?_⟩
    rcases hc with rfl | rfl <;> decide
  | moment m =>
    obtain ⟨c, after, htext, hc⟩ := Moment.head_text hv
    exact ⟨c, after, htext, hdigit hc⟩
  | list _ => exact absurd hv id
  | table _ => exact absurd hv id

/-- An integer is read back. -/
theorem readScalar_back_integer {n : Int} {w : Value} {left : List Char} (hrest : Ends rest)
    (h : readScalar ((writeValue (.integer n)).toList ++ rest) = some (w, left)) : w = .integer n ∧ left = rest := by
  have hread := (readsAs_numberText (decide (n < 0)) (isDigits_toDigits n.natAbs) (.inl rfl)).1 rest hrest
  have hvalue : (if decide (n < 0) = true then -(n.natAbs : Int) else n.natAbs) = n := by
    simp only [decide_eq_true_eq]
    split <;> omega
  rw [writeValue, toList_integer, hread] at h
  obtain ⟨number, hnumber, heq⟩ := Option.map_eq_some_iff.mp h
  cases heq
  obtain ⟨-, hnumber⟩ := Option.ite_none_left_eq_some.mp hnumber
  rw [List.isEmpty_nil, if_pos rfl, valueOf_toDigits, hvalue] at hnumber
  obtain ⟨-, hnumber⟩ := Option.ite_none_right_eq_some.mp hnumber
  cases hnumber
  exact ⟨rfl, rfl⟩

/-- A string is read back. -/
theorem readScalar_back_text {s : String} {w : Value} {left : List Char} (hrest : Ends rest)
    (h : readScalar ((write s).toList ++ rest) = some (w, left)) : w = .text s ∧ left = rest := by
  obtain ⟨c, after, htext, hc⟩ := head_write s
  have hread := readText_write s hrest.quote
  rw [htext, List.cons_append] at h hread
  rw [readScalar_quote hc, hread] at h
  cases h
  exact ⟨rfl, rfl⟩

/-- A moment is read back. -/
theorem readScalar_back_moment {m : Moment} {w : Value} {left : List Char} (hm : m.Valid) (hrest : Ends rest)
    (h : readScalar (m.text.toList ++ rest) = some (w, left)) : w = .moment m ∧ left = rest := by
  have hread := Moment.read_text hm hrest.moment
  have hbegins := Moment.begins_text hm rest
  obtain ⟨c, after, htext, hc⟩ := Moment.head_text hm
  rw [htext, List.cons_append] at h hread hbegins
  rw [readScalar_digit (.inr hc), hbegins, if_pos rfl, hread] at h
  cases h
  exact ⟨rfl, rfl⟩

/-- **Of a scalar's written form only what it becomes is read**, and nothing of what follows. -/
theorem readScalar_write {v w : Value} {left : List Char} (hv : IsScalar v) (hrest : Ends rest)
    (h : readScalar ((writeValue v).toList ++ rest) = some (w, left)) : w = scalarBack v ∧ left = rest := by
  cases v with
  | null => exact readScalar_back_text hrest h
  | bool b =>
    cases b <;> cases h <;> exact ⟨rfl, rfl⟩
  | integer n => exact readScalar_back_integer hrest h
  | float x =>
    obtain ⟨found, hread⟩ := readsAs_writeFloat x
    rw [writeValue, hread.1 rest hrest] at h
    obtain ⟨number, rfl, heq⟩ := Option.map_eq_some_iff.mp h
    cases heq
    rw [scalarBack, floatBack, whole?_of_readsAs hread]
    exact ⟨rfl, rfl⟩
  | text s => exact readScalar_back_text hrest h
  | moment m => exact readScalar_back_moment hv hrest h
  | list _ => exact absurd hv id
  | table _ => exact absurd hv id

end MediaCatalog.Toml
