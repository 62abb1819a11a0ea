import MediaCatalog.Proofs.Query.Grammar

/-!
# The extent of a rejected clause

A text at whose start no clause can be read is rejected up to the next separator outside parentheses. For this extent
every parenthesis counts, also one that a backslash hides from the count of an argument. So a malformed clause with a
hidden parenthesis may end too soon, or take the clauses behind it along.

* `openAfter`, `Unbroken`: parentheses and separators as the extent counts them.
* **Extents** (`malformed_unbroken`, `malformed_ends`, `malformed_append_of_unbroken`): what `malformed` takes is unbroken,
  and it stops only where nothing is open.
* `Chunk`: a malformed clause of its own, by the count of arguments; `Isolated`: by the count of extents.
* **Main result** (`Chunk.rejected_alone_iff`): a malformed clause before a comma is rejected by itself exactly if it is
  isolated, which it is unless it hides a parenthesis.
-/

namespace MediaCatalog.Query

/-! ## Parentheses as the extent counts them -/

/-- The number of parentheses open after a text that begins inside `depth` of them. Hidden ones count, and a closing
parenthesis without an opening one does not. -/
def openAfter (depth : Nat) (s : List Char) : Nat := s.foldl depthAfter depth

/-- No separator stands where `openAfter` leaves nothing open. -/
def Unbroken (depth : Nat) (s : List Char) : Prop :=
  ∀ i (h : i < s.length), openAfter depth (s.take i) = 0 → Text.isSeparator s[i] = false

/-- Whether a text is unbroken can be decided. -/
instance (depth : Nat) (s : List Char) : Decidable (Unbroken depth s) :=
  inferInstanceAs (Decidable (∀ i (_ : i < s.length), _ → _))

/-- Of two texts the second begins inside the parentheses that the first leaves open. -/
theorem openAfter_append (depth : Nat) (s t : List Char) :
    openAfter depth (s ++ t) = openAfter (openAfter depth s) t :=
  List.foldl_append

/-- The first character and the others are looked at one after the other. -/
theorem unbroken_cons_iff {depth : Nat} {c : Char} {s : List Char} :
    Unbroken depth (c :: s) ↔ (depth = 0 → Text.isSeparator c = false) ∧ Unbroken (depthAfter depth c) s := by
  constructor
  · intro h
    exact ⟨h 0 (Nat.zero_lt_succ _), fun i hi => h (i + 1) (Nat.succ_lt_succ hi)⟩
  · rintro ⟨hfirst, hrest⟩ i hi
    cases i with
    | zero => exact hfirst
    | succ i => exact hrest i (Nat.lt_of_succ_lt_succ hi)

/-- Characters other than parentheses leave open what was open. -/
theorem depthAfter_of_ne {depth : Nat} {c : Char} (hopen : c ≠ '(') (hclose : c ≠ ')') : depthAfter depth c = depth := by
  rw [depthAfter, if_neg hopen, if_neg hclose]

/-! ## Extents -/

/-- A character that does not end the extent belongs to it. -/
theorem malformed_cons {depth : Nat} {c : Char} (h : depth = 0 → Text.isSeparator c = false) (rest : List Char) :
    malformed depth (c :: rest) =
      (c :: (malformed (depthAfter depth c) rest).1, (malformed (depthAfter depth c) rest).2) := by
  rw [malformed, if_neg]
  rintro ⟨hdepth, hc⟩
  rw [h hdepth] at hc
  cases hc

/-- A separator outside parentheses ends the extent. -/
theorem malformed_separator {c : Char} (hc : Text.isSeparator c = true) (rest : List Char) :
    malformed 0 (c :: rest) = ([], c :: rest) := by
  rw [malformed, if_pos ⟨rfl, hc⟩]

/-- The extent ends at a character or goes on behind it. -/
theorem ends_or_goes_on (depth : Nat) (c : Char) :
    (depth = 0 ∧ Text.isSeparator c = true) ∨ (depth = 0 → Text.isSeparator c = false) := by
  cases hc : Text.isSeparator c with
  | true => exact (Nat.eq_zero_or_pos depth).imp (fun h => ⟨h, rfl⟩) fun hpos h => absurd h (Nat.ne_of_gt hpos)
  | false => exact .inr fun _ => rfl

/-- No extent is broken. -/
theorem malformed_unbroken (depth : Nat) (s : List Char) : Unbroken depth (malformed depth s).1 := by
  induction s generalizing depth with
  | nil =>
    intro i hi
    cases hi
  | cons c rest ih =>
    rcases ends_or_goes_on depth c with ⟨rfl, hc⟩ | hc
    · rw [malformed_separator hc]
      intro i hi
      cases hi
    · rw [malformed_cons hc]
      exact unbroken_cons_iff.mpr ⟨hc, ih _⟩

/-- An extent before more text ends with nothing open. -/
theorem malformed_ends {depth : Nat} {s : List Char} (h : (malformed depth s).2 ≠ []) :
    openAfter depth (malformed depth s).1 = 0 := by
  induction s generalizing depth with
  | nil => exact absurd rfl h
  | cons c rest ih =>
    rcases ends_or_goes_on depth c with ⟨rfl, hc⟩ | hc
    · rw [malformed_separator hc]
      rfl
    · rw [malformed_cons hc] at h ⊢
      exact ih h

/-- An unbroken text belongs to the extent, which goes on after it. -/
theorem malformed_append_of_unbroken {depth : Nat} {s : List Char} (h : Unbroken depth s) (t : List Char) :
    malformed depth (s ++ t) =
      (s ++ (malformed (openAfter depth s) t).1, (malformed (openAfter depth s) t).2) := by
  induction s generalizing depth with
  | nil => rfl
  | cons c s ih =>
    obtain ⟨hfirst, hrest⟩ := unbroken_cons_iff.mp h
    rw [List.cons_append, malformed_cons hfirst, ih hrest]
    rfl

/-- A text at whose start no clause can be read is rejected in its extent. -/
theorem outcomes_of_malformed {s : List Char} (hne : s ≠ []) (hbegins : Text.BeginsOutside Text.isSeparator s)
    (hread : RawClause.read? s = none) :
    outcomes s = .error (.unparsable (String.ofList (malformed 0 s).1)) :: outcomes (malformed 0 s).2 := by
  cases s with
  | nil => exact absurd rfl hne
  | cons c s =>
    have hc : Text.isSeparator c = false := hbegins c rfl
    rw [outcomes_of_read?_eq_none hc hread, malformed_cons fun _ => hc]

/-! ## Malformed clauses between commas -/

/-- A text that begins without a character continues behind it where that character stands. -/
theorem exists_append_of_not_mem {c : Char} {i x m w : List Char} (hi : c ∉ i) (h : i ++ x = m ++ c :: w) :
    ∃ a, m = i ++ a ∧ x = a ++ c :: w := by
  rcases List.append_eq_append_iff.mp h with ⟨a, hm, hx⟩ | ⟨b, hb, hw⟩
  · exact ⟨a, hm, hx⟩
  · cases b with
    | nil => exact ⟨[], by simpa using hb.symm, hw.symm⟩
    | cons d b =>
      cases hw
      exact absurd (hb ▸ List.mem_append_right m List.mem_cons_self) hi

namespace RawClause

/-- A text that begins with no clause begins with none up to any place. -/
theorem read?_eq_none_of_append {s t : List Char} (h : read? (s ++ t) = none) : read? s = none := by
  rw [Option.eq_none_iff_forall_ne_some] at h ⊢
  rintro ⟨c, rest⟩ hread
  obtain ⟨rfl, hformed⟩ := read?_eq_some_iff.mp hread
  exact h (c, rest ++ t) (read?_eq_some_iff.mpr ⟨List.append_assoc _ _ _, hformed⟩)

/-- No comma stands in the names. -/
theorem WellFormed.comma_not_mem_names {c : RawClause} (h : c.WellFormed) : ',' ∉ c.names := by
  have hident : ∀ {i : List Char}, Text.isIdent i = true → ',' ∉ i := by
    intro i hi hmem
    exact absurd ((Text.isIdent_iff.mp hi).2 ',' hmem) (by decide)
  simp only [names, List.mem_append, List.mem_cons, List.not_mem_nil, or_false]
  rintro (hfield | hdot | hoperator | hparen)
  · exact hident h.field hfield
  · exact absurd hdot (by decide)
  · exact hident h.operator hoperator
  · exact absurd hparen (by decide)

end RawClause

/-- A text ends outside its parentheses, by the count of arguments. A backslash at the end hides what follows from the
count and is itself outside. -/
def EndsOutside (s : List Char) : Prop :=
  balance 0 s = some 0 ∨ (s.getLast? = some '\\' ∧ balance 0 s.dropLast = some 0)

/-- Whether a text ends outside can be decided. -/
instance (s : List Char) : Decidable (EndsOutside s) := inferInstanceAs (Decidable (_ ∨ _))

/-- A malformed clause of its own: no clause can be read at its start, it closes just the parentheses that it opens, and
it has no separator outside them. So it does not begin with a separator either. -/
structure Chunk (m : List Char) : Prop where
  ne_nil : m ≠ []
  malformed : RawClause.read? m = none
  balanced : Balanced m
  whole : ∀ i (h : i < m.length), EndsOutside (m.take i) → Text.isSeparator m[i] = false

/-- A text that an extent takes as a whole and ends behind: if every parenthesis counts, nothing is left open and no
separator stands outside. -/
structure Isolated (m : List Char) : Prop where
  closed : openAfter 0 m = 0
  unbroken : Unbroken 0 m

/-- Some parenthesis is hidden by a backslash. -/
def hidesParen : List Char → Bool
  | '\\' :: c :: rest => c == '(' || c == ')' || hidesParen rest
  | _ :: rest => hidesParen rest
  | [] => false

/-- Only a backslash hides anything. -/
theorem hidesParen_cons {c : Char} (h : c ≠ '\\') (rest : List Char) : hidesParen (c :: rest) = hidesParen rest := by
  rw [hidesParen]
  rintro _ _ rfl
  exact absurd rfl h

/-- A text that hides no parenthesis hides none up to any place. -/
theorem hidesParen_of_append {s t : List Char} (h : hidesParen (s ++ t) = false) : hidesParen s = false := by
  fun_induction hidesParen s with
  | case1 c rest ih =>
    rw [List.cons_append, List.cons_append, hidesParen, Bool.or_eq_false_iff] at h
    rw [h.1, ih h.2]
    rfl
  | case2 c rest hcases ih =>
    by_cases hslash : c = '\\'
    · -- the backslash at the end hides nothing here
      subst hslash
      cases rest with
      | nil => rfl
      | cons d rest => exact absurd rfl (hcases d rest rfl)
    · rw [List.cons_append, hidesParen_cons hslash] at h
      exact ih h
  | case3 => rfl

/-- Without hidden parentheses both counts are the same. -/
theorem openAfter_of_balance {depth depth' : Nat} {s : List Char} (hhides : hidesParen s = false)
    (h : balance depth s = some depth') : openAfter depth s = depth' := by
  fun_induction balance depth s with
  | case1 depth =>
    cases h
    rfl
  | case2 => cases h
  | case3 depth c rest ih =>
    rw [hidesParen, Bool.or_eq_false_iff, Bool.or_eq_false_iff] at hhides
    obtain ⟨⟨hopen, hclose⟩, hrest⟩ := hhides
    have hhidden : depthAfter (depthAfter depth '\\') c = depth :=
      depthAfter_of_ne (ne_of_beq_false hopen) (ne_of_beq_false hclose)
    rw [openAfter, List.foldl_cons, List.foldl_cons, hhidden]
    exact ih hrest h
  | case4 depth rest ih =>
    rw [hidesParen_cons (by decide)] at hhides
    exact ih hhides h
  | case5 => cases h
  | case6 depth rest ih =>
    rw [hidesParen_cons (by decide)] at hhides
    exact ih hhides h
  | case7 depth c rest h₁ h₂ hopen h₄ h₅ ih =>
    obtain ⟨hslash, hclose⟩ := ordinary_of_cases h₁ h₂ h₄ h₅
    rw [hidesParen_cons hslash] at hhides
    rw [openAfter, List.foldl_cons, depthAfter_of_ne hopen hclose]
    exact ih hhides h

/-- In a text that is balanced and hides no parenthesis, each place that the extent counts as outside parentheses is
outside by the count of arguments too. -/
theorem endsOutside_of_openAfter {s t : List Char} (hbalanced : Balanced (s ++ t)) (hhides : hidesParen s = false)
    (h : openAfter 0 s = 0) : EndsOutside s := by
  cases hcount : balance 0 s with
  | some depth =>
    rw [openAfter_of_balance hhides hcount] at h
    exact .inl (h ▸ hcount)
  | none =>
    rcases of_balance_eq_none hcount with ⟨a, r, rfl, ha⟩ | ⟨u, depth, rfl, hu⟩
    · -- a parenthesis that closes nothing is not balanced by what follows
      rw [Balanced, List.append_assoc, balance_append ha] at hbalanced
      cases hbalanced
    · right
      rw [openAfter_append, openAfter_of_balance (hidesParen_of_append hhides) hu] at h
      have hdepth : depth = 0 := h
      subst hdepth
      exact ⟨List.getLast?_concat, by rw [List.dropLast_concat, hu]⟩

namespace Chunk

variable {m : List Char}

/-- A malformed clause of its own begins with no separator. -/
theorem beginsOutside (hm : Chunk m) (rest : List Char) : Text.BeginsOutside Text.isSeparator (m ++ rest) := by
  cases m with
  | nil => exact absurd rfl hm.ne_nil
  | cons c m => exact Text.beginsOutside_cons (hm.whole 0 (Nat.zero_lt_succ _) (.inl rfl))

/-- Before a comma it stays malformed: the names of a clause would end inside it, and then its argument would too. -/
theorem read?_append_comma (hm : Chunk m) (t : List Char) : RawClause.read? (m ++ ',' :: t) = none := by
  rw [Option.eq_none_iff_forall_ne_some]
  rintro ⟨c, rest⟩ hread
  obtain ⟨hsource, hformed⟩ := RawClause.read?_eq_some_iff.mp hread
  rw [RawClause.source_append_eq_names] at hsource
  obtain ⟨a, rfl, -⟩ := exists_append_of_not_mem hformed.comma_not_mem_names hsource.symm
  have hbalance : balance 1 a = some 0 := by
    rw [← balance_append (hformed.balance_names 0)]
    exact hm.balanced
  obtain ⟨inner, after, rfl, hinner, -⟩ := exists_of_balance_succ hbalance
  have hread' : RawClause.read? (c.names ++ (inner ++ ')' :: after)) = some (⟨c.field, c.operator, inner⟩, after) :=
    RawClause.read?_eq_some_iff.mpr
      ⟨(RawClause.source_append_eq_names ⟨c.field, c.operator, inner⟩ after).symm, hformed.field, hformed.operator, hinner⟩
  rw [hm.malformed] at hread'
  cases hread'

/-- Unless it hides a parenthesis, it is isolated. -/
theorem isolated (hm : Chunk m) (hhides : hidesParen m = false) : Isolated m := by
  refine ⟨openAfter_of_balance hhides hm.balanced, fun i hi hopen => hm.whole i hi ?_⟩
  have hsplit : m.take i ++ m.drop i = m := List.take_append_drop i m
  refine endsOutside_of_openAfter (t := m.drop i) ?_ (hidesParen_of_append (t := m.drop i) ?_) hopen
  · rw [hsplit]
    exact hm.balanced
  · rw [hsplit]
    exact hhides

/-- Before a comma it is rejected by itself, and the text behind the comma is read as it stands, exactly if it is
isolated. -/
theorem outcomes_append_comma_iff (hm : Chunk m) (t : List Char) :
    outcomes (m ++ ',' :: t) = .error (.unparsable (String.ofList m)) :: outcomes t ↔ Isolated m := by
  have hcomma : Text.isSeparator ',' = true := by decide
  have hne : m ++ ',' :: t ≠ [] := List.append_ne_nil_of_right_ne_nil m (List.cons_ne_nil _ _)
  rw [outcomes_of_malformed hne (hm.beginsOutside _) (hm.read?_append_comma t)]
  constructor
  · intro h
    simp only [List.cons.injEq, Except.error.injEq, Rejection.unparsable.injEq, String.ofList_inj] at h
    have hparts := malformed_append 0 (m ++ ',' :: t)
    have hunbroken := malformed_unbroken 0 (m ++ ',' :: t)
    have hends := @malformed_ends 0 (m ++ ',' :: t)
    rw [h.1] at hparts hunbroken hends
    refine ⟨hends ?_, hunbroken⟩
    rw [List.append_cancel_left hparts]
    exact List.cons_ne_nil _ _
  · rintro ⟨hclosed, hunbroken⟩
    have htail : outcomes (',' :: t) = outcomes t :=
      outcomes_append_of_separators (List.forall_mem_singleton.mpr hcomma) t
    rw [malformed_append_of_unbroken hunbroken, hclosed, malformed_separator hcomma, List.append_nil, htail]

/-- **A malformed clause before a comma** is rejected by itself, and the text behind the comma is read as it stands,
exactly if it is isolated; and it is isolated unless it hides a parenthesis. -/
theorem rejected_alone_iff (hm : Chunk m) (t : List Char) :
    (outcomes (m ++ ',' :: t) = .error (.unparsable (String.ofList m)) :: outcomes t ↔ Isolated m) ∧
      (hidesParen m = false → Isolated m) :=
  ⟨hm.outcomes_append_comma_iff t, hm.isolated⟩

/-- A clause without an operator, with commas and parentheses inside its parentheses. -/
theorem rejected_alone_of_title :
    let m := "title(Example, Show (TV)\\!)".toList
    Chunk m ∧ hidesParen m = false ∧
      outcomes (m ++ ',' :: " kind.Equals(show)".toList) =
        .error (.unparsable "title(Example, Show (TV)\\!)") :: outcomes " kind.Equals(show)".toList := by
  intro m
  have hm : Chunk m := ⟨by decide, by decide, by decide, by decide⟩
  have hhides : hidesParen m = false := by decide
  obtain ⟨hiff, hisolated⟩ := rejected_alone_iff hm " kind.Equals(show)".toList
  exact ⟨hm, hhides, hiff.mpr (hisolated hhides)⟩

/-- **A hidden parenthesis** takes the clause behind the comma along: the extent counts it as open. -/
theorem not_rejected_alone_of_hidden :
    let m := "a\\(b".toList
    Chunk m ∧
      outcomes (m ++ ',' :: "c.Equals(1)".toList) ≠ .error (.unparsable "a\\(b") :: outcomes "c.Equals(1)".toList := by
  intro m
  have hm : Chunk m := ⟨by decide, by decide, by decide, by decide⟩
  refine ⟨hm, fun h => ?_⟩
  have hisolated : Isolated m := (hm.outcomes_append_comma_iff "c.Equals(1)".toList).mp h
  exact absurd hisolated.closed (by decide)

end Chunk

end MediaCatalog.Query
