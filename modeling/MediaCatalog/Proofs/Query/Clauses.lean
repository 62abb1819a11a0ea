import MediaCatalog.Query.Selection
import MediaCatalog.Proofs.Text.Identifier

/-!
# Reading what was written

A clause can be read back from its text if both its names are identifiers and its argument closes
just the parentheses that it opens. This file makes that exact, for one clause and for clauses with
separators between them.

* `balance`, `Balanced`: the parentheses that an argument leaves open; none.
* **Arguments** (`argument?_eq_some_iff`): the argument that is read is the one that is balanced.
* **Clauses** (`RawClause.read?_eq_some_iff`): a clause is read exactly if it is well-formed.
* `Item`: a well-formed clause with the separators in front of it.
* **Texts** (`outcomes_items`): clause by clause, with any text after them.
* **Reading strictly** (`ofTextStrict_eq`): the first rejected clause, or what is read otherwise.
-/

namespace MediaCatalog.Query

/-! ## Arguments -/

/-- The number of parentheses open after a text that begins inside `depth` of them; a backslash
hides the character after it. Nothing if the text closes more than are open, or if it ends in a
backslash that hides nothing. -/
def balance : Nat → List Char → Option Nat
  | depth, [] => some depth
  | _, ['\\'] => none
  | depth, '\\' :: _ :: rest => balance depth rest
  | depth, '(' :: rest => balance (depth + 1) rest
  | 0, ')' :: _ => none
  | depth + 1, ')' :: rest => balance depth rest
  | depth, _ :: rest => balance depth rest

/-- A text that closes just the parentheses that it opens. -/
def Balanced (s : List Char) : Prop := balance 0 s = some 0

/-- Whether a text is balanced can be decided. -/
instance (s : List Char) : Decidable (Balanced s) := inferInstanceAs (Decidable (_ = _))

/-- Characters other than parentheses and backslashes do not count. -/
theorem balance_cons {depth : Nat} {c : Char} {rest : List Char} (hslash : c ≠ '\\') (hopen : c ≠ '(')
    (hclose : c ≠ ')') : balance depth (c :: rest) = balance depth rest := by
  rw [balance] <;> simp [hslash, hopen, hclose]

/-- Characters other than parentheses and backslashes belong to the argument. -/
theorem argument?_cons {depth : Nat} {c : Char} {rest : List Char} (hslash : c ≠ '\\') (hopen : c ≠ '(')
    (hclose : c ≠ ')') :
    argument? depth (c :: rest) = (argument? depth rest).map fun (a, r) => (c :: a, r) := by
  rw [argument?] <;> simp [hslash, hopen, hclose]

/-- What is left of the cases of a character is that it does not count. -/
theorem ordinary_of_cases {depth : Nat} {c : Char} {rest : List Char}
    (h₁ : c = '\\' → rest = [] → False) (h₂ : ∀ d rest', c = '\\' → rest = d :: rest' → False)
    (h₄ : depth = 0 → c = ')' → False) (h₅ : ∀ depth', depth = depth' + 1 → c = ')' → False) :
    c ≠ '\\' ∧ c ≠ ')' := by
  refine ⟨?_, ?_⟩
  · rintro rfl
    cases rest with
    | nil => exact h₁ rfl rfl
    | cons d rest => exact h₂ d rest rfl rfl
  · rintro rfl
    cases depth with
    | zero => exact h₄ rfl rfl
    | succ depth => exact h₅ depth rfl rfl

/-- The count goes on after a text that has one. -/
theorem balance_append {depth depth' : Nat} {s : List Char} (h : balance depth s = some depth') (t : List Char) :
    balance depth (s ++ t) = balance depth' t := by
  fun_induction balance depth s with
  | case1 depth =>
    cases h
    rfl
  | case2 => cases h
  | case3 depth c rest ih =>
    rw [List.cons_append, List.cons_append, balance]
    exact ih h
  | case4 depth rest ih => exact ih h
  | case5 => cases h
  | case6 depth rest ih => exact ih h
  | case7 depth c rest h₁ h₂ hopen h₄ h₅ ih =>
    obtain ⟨hslash, hclose⟩ := ordinary_of_cases h₁ h₂ h₄ h₅
    rw [List.cons_append, balance_cons hslash hopen hclose]
    exact ih h

/-- Inside more parentheses as many more stay open. -/
theorem balance_add {depth depth' : Nat} {s : List Char} (h : balance depth s = some depth') (k : Nat) :
    balance (depth + k) s = some (depth' + k) := by
  fun_induction balance depth s with
  | case1 depth =>
    cases h
    rfl
  | case2 => cases h
  | case3 depth c rest ih =>
    rw [balance]
    exact ih h
  | case4 depth rest ih =>
    rw [balance, Nat.add_right_comm]
    exact ih h
  | case5 => cases h
  | case6 depth rest ih =>
    rw [Nat.succ_add, balance]
    exact ih h
  | case7 depth c rest h₁ h₂ hopen h₄ h₅ ih =>
    obtain ⟨hslash, hclose⟩ := ordinary_of_cases h₁ h₂ h₄ h₅
    rw [balance_cons hslash hopen hclose]
    exact ih h

/-- A text without parentheses and backslashes leaves open what was open. -/
theorem balance_of_forall {s : List Char} (h : ∀ c ∈ s, c ≠ '\\' ∧ c ≠ '(' ∧ c ≠ ')') (depth : Nat) :
    balance depth s = some depth := by
  induction s with
  | nil => rfl
  | cons c s ih =>
    obtain ⟨hslash, hopen, hclose⟩ := h c List.mem_cons_self
    rw [balance_cons hslash hopen hclose]
    exact ih fun d hd => h d (List.mem_cons_of_mem c hd)

/-- **A text without a count** closes more parentheses than are open, or ends in a backslash that hides
nothing. -/
theorem of_balance_eq_none {depth : Nat} {s : List Char} (h : balance depth s = none) :
    (∃ a r, s = a ++ ')' :: r ∧ balance depth a = some 0) ∨
      ∃ u depth', s = u ++ ['\\'] ∧ balance depth u = some depth' := by
  fun_induction balance depth s with
  | case1 => cases h
  | case2 depth => exact .inr ⟨[], depth, rfl, rfl⟩
  | case3 depth c rest ih =>
    rcases ih h with ⟨a, r, rfl, ha⟩ | ⟨u, depth', rfl, hu⟩
    · exact .inl ⟨'\\' :: c :: a, r, rfl, by rw [balance, ha]⟩
    · exact .inr ⟨'\\' :: c :: u, depth', rfl, by rw [balance, hu]⟩
  | case4 depth rest ih =>
    rcases ih h with ⟨a, r, rfl, ha⟩ | ⟨u, depth', rfl, hu⟩
    · exact .inl ⟨'(' :: a, r, rfl, ha⟩
    · exact .inr ⟨'(' :: u, depth', rfl, hu⟩
  | case5 rest => exact .inl ⟨[], rest, rfl, rfl⟩
  | case6 depth rest ih =>
    rcases ih h with ⟨a, r, rfl, ha⟩ | ⟨u, depth', rfl, hu⟩
    · exact .inl ⟨')' :: a, r, rfl, ha⟩
    · exact .inr ⟨')' :: u, depth', rfl, hu⟩
  | case7 depth c rest h₁ h₂ hopen h₄ h₅ ih =>
    obtain ⟨hslash, hclose⟩ := ordinary_of_cases h₁ h₂ h₄ h₅
    rcases ih h with ⟨a, r, rfl, ha⟩ | ⟨u, depth', rfl, hu⟩
    · exact .inl ⟨c :: a, r, rfl, by rw [balance_cons hslash hopen hclose, ha]⟩
    · exact .inr ⟨c :: u, depth', rfl, by rw [balance_cons hslash hopen hclose, hu]⟩

/-- What is read as an argument is balanced. -/
theorem balance_of_argument? {depth : Nat} {s a r : List Char} (h : argument? depth s = some (a, r)) :
    balance depth a = some 0 := by
  fun_induction argument? depth s generalizing a r with
  | case1 => cases h
  | case2 => cases h
  | case3 depth c rest ih =>
    obtain ⟨⟨a', r'⟩, hr, heq⟩ := Option.map_eq_some_iff.mp h
    cases heq
    rw [balance]
    exact ih hr
  | case4 depth rest ih =>
    obtain ⟨⟨a', r'⟩, hr, heq⟩ := Option.map_eq_some_iff.mp h
    cases heq
    exact ih hr
  | case5 =>
    cases h
    rfl
  | case6 depth rest ih =>
    obtain ⟨⟨a', r'⟩, hr, heq⟩ := Option.map_eq_some_iff.mp h
    cases heq
    exact ih hr
  | case7 depth c rest h₁ h₂ hopen h₄ h₅ ih =>
    obtain ⟨⟨a', r'⟩, hr, heq⟩ := Option.map_eq_some_iff.mp h
    cases heq
    obtain ⟨hslash, hclose⟩ := ordinary_of_cases h₁ h₂ h₄ h₅
    rw [balance_cons hslash hopen hclose]
    exact ih hr

/-- A text that has a count belongs to the argument, which goes on after it. -/
theorem argument?_append {depth depth' : Nat} {s : List Char} (h : balance depth s = some depth')
    (t : List Char) :
    argument? depth (s ++ t) = (argument? depth' t).map fun (a, r) => (s ++ a, r) := by
  fun_induction balance depth s with
  | case1 depth =>
    cases h
    exact Option.map_id'.symm
  | case2 => cases h
  | case3 depth c rest ih =>
    rw [List.cons_append, List.cons_append, argument?, ih h, Option.map_map]
    rfl
  | case4 depth rest ih =>
    rw [List.cons_append, argument?, ih h, Option.map_map]
    rfl
  | case5 => cases h
  | case6 depth rest ih =>
    rw [List.cons_append, argument?, ih h, Option.map_map]
    rfl
  | case7 depth c rest h₁ h₂ hopen h₄ h₅ ih =>
    obtain ⟨hslash, hclose⟩ := ordinary_of_cases h₁ h₂ h₄ h₅
    rw [List.cons_append, argument?_cons hslash hopen hclose, ih h, Option.map_map]
    rfl

/-- A balanced text before a closing parenthesis is read as an argument. -/
theorem argument?_append_paren {depth : Nat} {a : List Char} (h : balance depth a = some 0) (r : List Char) :
    argument? depth (a ++ ')' :: r) = some (a, r) := by
  rw [argument?_append h]
  simp [argument?]

/-- No argument ends in a text that closes no more parentheses than are open. -/
theorem argument?_eq_none {depth depth' : Nat} {s : List Char} (h : balance depth s = some depth') :
    argument? depth s = none := by
  rw [← List.append_nil s, argument?_append h]
  rfl

/-- **Arguments** are read up to the first closing parenthesis at which they are balanced. -/
theorem argument?_eq_some_iff {depth : Nat} {s a r : List Char} :
    argument? depth s = some (a, r) ↔ s = a ++ ')' :: r ∧ balance depth a = some 0 := by
  constructor
  · intro h
    exact ⟨argument?_eq_some h, balance_of_argument? h⟩
  · rintro ⟨rfl, h⟩
    exact argument?_append_paren h r

/-- **A text that is not balanced** is not read as the argument before the parenthesis that follows it:
either the argument ends at the first parenthesis that the text closes without having opened it, or
there is no argument at all. -/
theorem argument?_of_not_balanced {v rest : List Char} (hv : ¬Balanced v)
    (hrest : ∀ depth, balance depth rest = some depth) :
    argument? 0 (v ++ ')' :: rest) = none ∨
      ∃ a r, v = a ++ ')' :: r ∧ argument? 0 (v ++ ')' :: rest) = some (a, r ++ ')' :: rest) := by
  cases h : balance 0 v with
  | some depth =>
    cases depth with
    | zero => exact absurd h hv
    | succ depth =>
      -- a parenthesis of the text is closed in place of the one before it
      left
      apply argument?_eq_none
      rw [balance_append h, balance]
      exact hrest depth
  | none =>
    rcases of_balance_eq_none h with ⟨a, r, rfl, ha⟩ | ⟨u, depth, rfl, hu⟩
    · right
      refine ⟨a, r, rfl, ?_⟩
      rw [List.append_assoc]
      exact argument?_append_paren ha _
    · -- the closing parenthesis is hidden
      left
      apply argument?_eq_none
      rw [List.append_assoc, balance_append hu, List.cons_append, List.nil_append, balance]
      exact hrest depth

/-! ## Clauses -/

namespace RawClause

/-- A clause that can be read back from its text. -/
structure WellFormed (c : RawClause) : Prop where
  field : Text.isIdent c.field = true
  operator : Text.isIdent c.operator = true
  argument : Balanced c.argument

/-- After its two names a clause is read if its argument is. -/
theorem read?_of_isIdent {field operator : List Char} (hfield : Text.isIdent field = true)
    (hoperator : Text.isIdent operator = true) (s : List Char) :
    read? (field ++ '.' :: (operator ++ '(' :: s)) =
      (argument? 0 s).map fun (argument, rest) => (⟨field, operator, argument⟩, rest) := by
  have hfield : Text.identifier? (field ++ '.' :: (operator ++ '(' :: s)) =
      some (field, '.' :: (operator ++ '(' :: s)) :=
    Text.identifier?_eq_some_iff.mpr ⟨rfl, hfield, Text.beginsOutside_cons (by decide)⟩
  have hoperator : Text.identifier? (operator ++ '(' :: s) = some (operator, '(' :: s) :=
    Text.identifier?_eq_some_iff.mpr ⟨rfl, hoperator, Text.beginsOutside_cons (by decide)⟩
  simp only [read?, hfield, hoperator, Text.afterChar?_eq_some_iff.mpr rfl, Option.bind_eq_bind, Option.bind_some,
    Option.pure_def]
  cases argument? 0 s <;> rfl

/-- A clause before any text, up to its argument. -/
theorem source_append (c : RawClause) (rest : List Char) :
    c.source ++ rest = c.field ++ '.' :: (c.operator ++ '(' :: (c.argument ++ ')' :: rest)) := by
  simp [source]

/-- **A clause is read** exactly if the text begins with it and it is well-formed. -/
theorem read?_eq_some_iff {s rest : List Char} {c : RawClause} :
    read? s = some (c, rest) ↔ s = c.source ++ rest ∧ c.WellFormed := by
  constructor
  · intro h
    refine ⟨read?_eq_some h, ?_⟩
    simp only [read?, Option.bind_eq_bind, Option.bind_eq_some_iff, Option.pure_def, Option.some.injEq,
      Prod.exists, Prod.mk.injEq] at h
    obtain ⟨field, s₁, hfield, s₂, -, operator, s₃, hoperator, s₄, -, argument, r, hargument, rfl, rfl⟩ := h
    exact ⟨(Text.identifier?_eq_some_iff.mp hfield).2.1, (Text.identifier?_eq_some_iff.mp hoperator).2.1,
      balance_of_argument? hargument⟩
  · rintro ⟨rfl, h⟩
    rw [source_append, read?_of_isIdent h.field h.operator, argument?_append_paren h.argument]
    rfl

/-- A clause up to its argument: its names and the parenthesis behind them. -/
def names (c : RawClause) : List Char := c.field ++ '.' :: (c.operator ++ ['('])

/-- A clause goes on after its names with its argument. -/
theorem source_append_eq_names (c : RawClause) (rest : List Char) :
    c.source ++ rest = c.names ++ (c.argument ++ ')' :: rest) := by
  simp [source, names]

/-- The names leave the parenthesis before the argument open. -/
theorem WellFormed.balance_names {c : RawClause} (h : c.WellFormed) (depth : Nat) :
    balance depth c.names = some (depth + 1) := by
  have hident : ∀ {i : List Char}, Text.isIdent i = true → ∀ depth, balance depth i = some depth := by
    intro i hi depth
    refine balance_of_forall (fun d hd => ?_) depth
    have hd := (Text.isIdent_iff.mp hi).2 d hd
    refine ⟨?_, ?_, ?_⟩ <;>
      · rintro rfl
        exact absurd hd (by decide)
  rw [names, balance_append (hident h.field depth), balance_cons (by decide) (by decide) (by decide),
    balance_append (hident h.operator depth)]
  rfl

/-- A well-formed clause leaves no parenthesis open. -/
theorem WellFormed.balance_source {c : RawClause} (h : c.WellFormed) (depth : Nat) :
    balance depth c.source = some depth := by
  have hargument : balance (depth + 1) c.argument = some (depth + 1) := by
    have hadd := balance_add h.argument (depth + 1)
    rwa [Nat.zero_add] at hadd
  rw [← List.append_nil c.source, source_append_eq_names, balance_append (h.balance_names depth),
    balance_append hargument]
  rfl

/-- An equality clause on a field tests for its argument. -/
theorem compile_equals {field argument : List Char} (h : String.ofList field ≠ Entry.keyField) :
    compile ⟨field, Operator.equals.name.toList, argument⟩ =
      .ok ⟨.field (String.ofList field), .equals (String.ofList argument),
        String.ofList (source ⟨field, Operator.equals.name.toList, argument⟩)⟩ := by
  simp only [compile, String.ofList_toList, Operator.ofName?_name, Test.ofArgument?, Target.ofName, if_neg h]

end RawClause

/-! ## Texts -/

/-- No separator is part of an identifier. -/
theorem isSeparator_eq_false {c : Char} (h : Text.isIdentChar c = true) : Text.isSeparator c = false := by
  have hrange : (48 ≤ c.toNat ∧ c.toNat ≤ 57) ∨ (65 ≤ c.toNat ∧ c.toNat ≤ 90) ∨ c.toNat = 95 ∨
      (97 ≤ c.toNat ∧ c.toNat ≤ 122) := by
    have hclass : (((decide ('A'.val ≤ c.val ∧ c.val ≤ 'Z'.val) ||
        (decide ('a'.val ≤ c.val) && decide (c.val ≤ 'z'.val))) ||
        (decide ('0'.val ≤ c.val) && decide (c.val ≤ '9'.val))) || c == '_') = true := h
    simp only [Bool.or_eq_true, Bool.and_eq_true, decide_eq_true_eq, beq_iff_eq, UInt32.le_iff_toNat_le] at hclass
    rcases hclass with ((h | h) | h) | rfl
    · exact .inr (.inl h)
    · exact .inr (.inr (.inr h))
    · exact .inl h
    · exact .inr (.inr (.inl rfl))
  have hcomma : c ≠ ',' := by
    rintro rfl
    exact absurd hrange (by decide)
  simp only [Text.isSeparator, Text.isBlank, Bool.or_eq_false_iff, Bool.and_eq_false_iff, decide_eq_false_iff_not,
    beq_eq_false_iff_ne]
  refine ⟨?_, hcomma⟩
  omega

/-- The outcomes of a text, clause by clause. -/
theorem outcomes_eq (s : List Char) :
    outcomes s =
      match s.dropWhile Text.isSeparator with
      | [] => []
      | c :: rest =>
        match RawClause.read? (c :: rest) with
        | some (raw, after) => raw.compile :: outcomes after
        | none =>
          let bad := malformed (depthAfter 0 c) rest
          .error (.unparsable (String.ofList (c :: bad.1))) :: outcomes bad.2 := by
  rw [outcomes]
  split
  next hs => simp only [hs]
  next c rest hs =>
    simp only [hs]
    split
    next hc => simp only [hc]
    next hc => simp only [hc]

/-- Separators leave no parenthesis open. -/
theorem balance_of_separators {gap : List Char} (h : ∀ c ∈ gap, Text.isSeparator c = true) (depth : Nat) :
    balance depth gap = some depth := by
  refine balance_of_forall (fun d hd => ?_) depth
  refine ⟨?_, ?_, ?_⟩ <;>
    · rintro rfl
      exact absurd (h _ hd) (by decide)

/-- Separators in front of a text have no outcome. -/
theorem outcomes_append_of_separators {gap : List Char} (h : ∀ c ∈ gap, Text.isSeparator c = true)
    (s : List Char) : outcomes (gap ++ s) = outcomes s := by
  rw [outcomes_eq, List.dropWhile_append_of_pos h, ← outcomes_eq]

/-- Separators alone have no outcome. -/
theorem outcomes_separators {gap : List Char} (h : ∀ c ∈ gap, Text.isSeparator c = true) : outcomes gap = [] := by
  rw [← List.append_nil gap, outcomes_append_of_separators h, outcomes_eq]
  rfl

/-- A clause that is read is the first outcome. -/
theorem outcomes_of_read? {s rest : List Char} {c : RawClause} (hs : Text.BeginsOutside Text.isSeparator s)
    (h : RawClause.read? s = some (c, rest)) : outcomes s = c.compile :: outcomes rest := by
  cases s with
  | nil => cases h
  | cons d s =>
    rw [outcomes_eq, List.dropWhile_cons_of_neg (by simp [hs d rfl])]
    simp only [h]

/-- A text that begins with no clause is rejected up to the next separator. -/
theorem outcomes_of_read?_eq_none {c : Char} {s : List Char} (hc : Text.isSeparator c = false)
    (h : RawClause.read? (c :: s) = none) :
    outcomes (c :: s) = .error (.unparsable (String.ofList (c :: (malformed (depthAfter 0 c) s).1))) ::
      outcomes (malformed (depthAfter 0 c) s).2 := by
  rw [outcomes_eq, List.dropWhile_cons_of_neg (by simp [hc])]
  simp only [h]

/-- A text that begins with an identifier begins with no separator. -/
theorem beginsOutside_append {i : List Char} (h : Text.isIdent i = true) (rest : List Char) :
    Text.BeginsOutside Text.isSeparator (i ++ rest) := by
  obtain ⟨hne, hrun⟩ := Text.isIdent_iff.mp h
  cases i with
  | nil => exact absurd rfl hne
  | cons c i => exact Text.beginsOutside_cons (isSeparator_eq_false (hrun c List.mem_cons_self))

/-- A well-formed clause with the separators in front of it. -/
structure Item where
  gap : List Char
  clause : RawClause
  separates : ∀ c ∈ gap, Text.isSeparator c = true
  wellFormed : clause.WellFormed

namespace Item

/-- The text of the clause after its separators. -/
def text (i : Item) : List Char := i.gap ++ i.clause.source

/-- What compiling the clause gives. -/
def outcome (i : Item) : Except Rejection Clause := i.clause.compile

end Item

/-- **Texts are read clause by clause.** Each clause of a list has its own outcome, whatever follows
the list. -/
theorem outcomes_items (items : List Item) (rest : List Char) :
    outcomes (items.flatMap Item.text ++ rest) = items.map Item.outcome ++ outcomes rest := by
  induction items with
  | nil => rfl
  | cons i items ih =>
    have hread : RawClause.read? (i.clause.source ++ (items.flatMap Item.text ++ rest)) =
        some (i.clause, items.flatMap Item.text ++ rest) := RawClause.read?_eq_some_iff.mpr ⟨rfl, i.wellFormed⟩
    have hbegin : Text.BeginsOutside Text.isSeparator (i.clause.source ++ (items.flatMap Item.text ++ rest)) := by
      rw [RawClause.source, List.append_assoc]
      exact beginsOutside_append i.wellFormed.field _
    rw [List.flatMap_cons, Item.text, List.append_assoc, List.append_assoc,
      outcomes_append_of_separators i.separates, outcomes_of_read? hbegin hread, ih]
    rfl

/-- Clauses leave no parenthesis open. -/
theorem balance_items (items : List Item) (depth : Nat) :
    balance depth (items.flatMap Item.text) = some depth := by
  induction items with
  | nil => rfl
  | cons i items ih =>
    rw [List.flatMap_cons, Item.text, List.append_assoc, balance_append (balance_of_separators i.separates depth),
      balance_append (i.wellFormed.balance_source depth), ih]

/-! ## Reading strictly -/

/-- The reason why an outcome is a rejection. -/
def rejection? : Except Rejection Clause → Option Rejection
  | .error rejection => some rejection
  | .ok _ => none

/-- The first rejected clause of a condition text. -/
def firstRejection? (text : String) : Option Rejection := (outcomes text.toList).findSome? rejection?

/-- Outcomes are taken together up to the first rejection; without one they are all accepted. -/
theorem mapM_id_eq (results : List (Except Rejection Clause)) :
    results.mapM id =
      match results.findSome? rejection? with
      | some rejection => .error rejection
      | none => .ok (accepted results) := by
  induction results with
  | nil => rfl
  | cons result rest ih =>
    rw [List.mapM_cons, ih]
    cases result with
    | error rejection => rfl
    | ok clause =>
      rw [List.findSome?_cons_of_isNone rfl]
      cases rest.findSome? rejection? <;> rfl

/-- **Reading strictly** gives the first rejected clause, and what is read otherwise if there is none. -/
theorem ofTextStrict_eq (text : String) :
    ofTextStrict text =
      match firstRejection? text with
      | some rejection => .error rejection
      | none => .ok (ofText text) := by
  unfold ofTextStrict firstRejection?
  rw [mapM_id_eq]
  cases (outcomes text.toList).findSome? rejection? <;> rfl

end MediaCatalog.Query
