import MediaCatalog.Proofs.Query.Extent

/-!
# Condition texts are read as a whole

Every character of a condition text is a separator or belongs to the text of just one outcome, and that text has the
same outcome when it is read by itself.

* `sourceOf`: the text that an outcome names.
* `Piece`: a part of a text with the separators in front of it and its outcome; `Piece.Faithful`.
* `Covered`: texts that are made up of faithful pieces.
* **One piece** (`Piece.faithful_of_wellFormed`, `Piece.faithful_of_malformed`): both ways in which the reader goes on.
* **Main result** (`outcomes_cover`): a text is made up of faithful pieces with its outcomes.
-/

namespace MediaCatalog.Query

/-- The text of a rejected clause. -/
def Rejection.clause : Rejection → String
  | unparsable clause => clause
  | unknownOperator _ clause => clause
  | invalidPattern clause => clause

/-- The text that an outcome names as its own. -/
def sourceOf : Except Rejection Clause → String
  | .ok clause => clause.source
  | .error rejection => rejection.clause

/-- What a clause means names the text of the clause. -/
theorem RawClause.Means.sourceOf_eq {c : RawClause} {outcome : Except Rejection Clause} (h : c.Means outcome) :
    sourceOf outcome = String.ofList c.source := by
  cases h <;> rfl

/-! ## Pieces -/

/-- A part of a text, the separators in front of it, and what is read in it. -/
structure Piece where
  gap : List Char
  text : List Char
  outcome : Except Rejection Clause

namespace Piece

/-- A part of a text that is the source of its outcome and has this outcome also by itself. It is a clause that means
the outcome, or no clause can be read in it. -/
structure Faithful (p : Piece) : Prop where
  separators : Separators p.gap
  ne_nil : p.text ≠ []
  source : sourceOf p.outcome = String.ofList p.text
  alone : outcomes p.text = [p.outcome]
  reads : (∃ c : RawClause, c.WellFormed ∧ p.text = c.source ∧ c.Means p.outcome) ∨
    (RawClause.read? p.text = none ∧ p.outcome = .error (.unparsable (String.ofList p.text)))

/-- A clause that is read is a faithful piece. -/
theorem faithful_of_wellFormed {gap : List Char} (hgap : Separators gap) {c : RawClause} (hc : c.WellFormed) :
    Faithful ⟨gap, c.source, c.compile⟩ := by
  have hmeans := c.means_compile
  have hbegins : Text.BeginsOutside Text.isSeparator (c.source ++ []) := by
    rw [RawClause.source_append]
    exact beginsOutside_append hc.field _
  have hread : RawClause.read? (c.source ++ []) = some (c, []) := RawClause.read?_eq_some_iff.mpr ⟨rfl, hc⟩
  have halone : outcomes c.source = [c.compile] := by
    rw [← List.append_nil c.source, outcomes_of_read? hbegins hread, outcomes_separators (List.forall_mem_nil _)]
  exact ⟨hgap, by simp [RawClause.source], hmeans.sourceOf_eq, halone, .inl ⟨c, hc, rfl, hmeans⟩⟩

/-- The extent of a malformed clause is a faithful piece: up to no place in it can a clause be read, and no separator
outside parentheses is left in it. -/
theorem faithful_of_malformed {gap : List Char} (hgap : Separators gap) {c : Char} {rest bad after : List Char}
    (hc : Text.isSeparator c = false) (hread : RawClause.read? (c :: rest) = none)
    (hextent : malformed 0 (c :: rest) = (bad, after)) : Faithful ⟨gap, bad, .error (.unparsable (String.ofList bad))⟩ := by
  have hparts : bad ++ after = c :: rest := by
    rw [← malformed_append 0 (c :: rest), hextent]
  have hunbroken : Unbroken 0 bad := by
    have h := malformed_unbroken 0 (c :: rest)
    rwa [hextent] at h
  obtain ⟨bad', rfl⟩ : ∃ bad', bad = c :: bad' := by
    rw [malformed_cons fun _ => hc] at hextent
    exact ⟨_, (Prod.mk.inj hextent).1.symm⟩
  have hmalformed : RawClause.read? (c :: bad') = none := by
    rw [← hparts] at hread
    exact RawClause.read?_eq_none_of_append hread
  have hwhole : malformed 0 (c :: bad') = (c :: bad', []) := by
    rw [← List.append_nil (c :: bad'), malformed_append_of_unbroken hunbroken, malformed, List.append_nil]
  have halone := outcomes_of_malformed (List.cons_ne_nil c bad') (Text.beginsOutside_cons hc) hmalformed
  rw [hwhole, outcomes_separators (List.forall_mem_nil _)] at halone
  exact ⟨hgap, List.cons_ne_nil c bad', rfl, halone, .inr ⟨hmalformed, rfl⟩⟩

end Piece

/-! ## Whole texts -/

/-- A text that is made up of faithful pieces and of separators behind them, with the outcomes of the pieces. -/
inductive Covered : List Char → List (Except Rejection Clause) → Prop
  | separators {trail : List Char} (htrail : Separators trail) : Covered trail []
  | piece {p : Piece} {rest : List Char} {results : List (Except Rejection Clause)} (hp : p.Faithful)
      (hrest : Covered rest results) : Covered (p.gap ++ (p.text ++ rest)) (p.outcome :: results)

/-- There are no more pieces than characters. -/
theorem Covered.length_le {s : List Char} {results : List (Except Rejection Clause)} (h : Covered s results) :
    results.length ≤ s.length := by
  induction h with
  | separators _ => exact Nat.zero_le _
  | piece hp _ ih =>
    have hpos := List.length_pos_iff.mpr hp.ne_nil
    simp only [List.length_cons, List.length_append]
    omega

/-- A text is covered by its outcomes. -/
theorem covered_outcomes (s : List Char) : Covered s (outcomes s) := by
  fun_induction outcomes s with
  | case1 s hs => exact .separators (List.dropWhile_eq_nil_iff.mp hs)
  | case2 s d rest hs c after hread ih =>
    obtain ⟨hsource, hformed⟩ := RawClause.read?_eq_some_iff.mp hread
    have hlead : Separators (s.takeWhile Text.isSeparator) := List.all_eq_true.mp List.all_takeWhile
    have hcovered := Covered.piece (Piece.faithful_of_wellFormed hlead hformed) ih
    rw [← hsource, ← hs, List.takeWhile_append_dropWhile] at hcovered
    exact hcovered
  | case3 s d rest hs hread bad ih =>
    have hlead : Separators (s.takeWhile Text.isSeparator) := List.all_eq_true.mp List.all_takeWhile
    have hd : Text.isSeparator d = false := by
      have hbegins := Text.beginsOutside_dropWhile Text.isSeparator s
      rw [hs] at hbegins
      exact hbegins d rfl
    have hcovered := Covered.piece (Piece.faithful_of_malformed hlead hd hread (malformed_cons (fun _ => hd) rest)) ih
    rw [List.cons_append, malformed_append, ← hs, List.takeWhile_append_dropWhile] at hcovered
    exact hcovered

/-- **A text is read as a whole.** It is made up of faithful pieces and of separators behind them, and the outcomes of
the pieces are its outcomes, one for each and in order; so there are no more of them than it has characters. -/
theorem outcomes_cover (s : List Char) : Covered s (outcomes s) ∧ (outcomes s).length ≤ s.length :=
  ⟨covered_outcomes s, (covered_outcomes s).length_le⟩

end MediaCatalog.Query
