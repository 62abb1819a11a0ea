import MediaCatalog.Query.Condition
import MediaCatalog.Text.Identifier

/-!
# The condition language

A condition text is a list of clauses `field.Operator(argument)`, with blanks and commas between
them. The argument runs to the closing parenthesis that balances the opening one; a backslash hides
the character after it from the count and stays in the argument. A malformed clause is rejected on
its own: reading goes on at the next separator outside parentheses.

* `argument?`, `RawClause.read?`: the reader of one clause; nothing is lost (`read?_eq_some`).
* `malformed`: the extent of a rejected clause (`malformed_append`).
* `outcomes`: the clauses and rejections of a text, in order.
-/

namespace MediaCatalog.Query

/-- Why a clause is rejected; `clause` is its text. -/
inductive Rejection where
  /-- It has not the form of a clause. -/
  | unparsable (clause : String)
  /-- No operator has that name. -/
  | unknownOperator (operator clause : String)
  /-- Its argument should be a regular expression and is none. -/
  | invalidPattern (clause : String)
  deriving DecidableEq, Repr

/-- The wording of a rejection. -/
def Rejection.message : Rejection → String
  | unparsable clause => s!"unparsable clause `{clause}`"
  | unknownOperator operator clause => s!"unknown operator `{operator}` in `{clause}`"
  | invalidPattern clause => s!"invalid regular expression in `{clause}`"

/-! ### One clause -/

/-- The argument at the start of a text, which follows an opening parenthesis, and the text after
the closing one; `depth` counts the parentheses opened inside the argument. -/
def argument? : Nat → List Char → Option (List Char × List Char)
  | _, [] => none
  | _, ['\\'] => none
  | depth, '\\' :: c :: rest => (argument? depth rest).map fun (a, r) => ('\\' :: c :: a, r)
  | depth, '(' :: rest => (argument? (depth + 1) rest).map fun (a, r) => ('(' :: a, r)
  | 0, ')' :: rest => some ([], rest)
  | depth + 1, ')' :: rest => (argument? depth rest).map fun (a, r) => (')' :: a, r)
  | depth, c :: rest => (argument? depth rest).map fun (a, r) => (c :: a, r)

/-- The argument, the closing parenthesis and the rest make up the text. -/
theorem argument?_eq_some {depth : Nat} {s a r : List Char} (h : argument? depth s = some (a, r)) :
    s = a ++ ')' :: r := by
  fun_induction argument? depth s generalizing a r with
  | case1 => cases h
  | case2 => cases h
  | case3 depth c rest ih =>
    obtain ⟨⟨a', r'⟩, hr, heq⟩ := Option.map_eq_some_iff.mp h
    cases heq
    rw [ih hr]; rfl
  | case4 depth rest ih =>
    obtain ⟨⟨a', r'⟩, hr, heq⟩ := Option.map_eq_some_iff.mp h
    cases heq
    rw [ih hr]; rfl
  | case5 => cases h; rfl
  | case6 depth rest ih =>
    obtain ⟨⟨a', r'⟩, hr, heq⟩ := Option.map_eq_some_iff.mp h
    cases heq
    rw [ih hr]; rfl
  | case7 depth c rest _ _ _ _ _ ih =>
    obtain ⟨⟨a', r'⟩, hr, heq⟩ := Option.map_eq_some_iff.mp h
    cases heq
    rw [ih hr]; rfl

/-- The three parts of a clause before they are given a meaning. -/
structure RawClause where
  field : List Char
  operator : List Char
  argument : List Char
  deriving DecidableEq, Repr

namespace RawClause

/-- The text of a clause. -/
def source (c : RawClause) : List Char := c.field ++ '.' :: (c.operator ++ '(' :: (c.argument ++ [')']))

/-- The clause at the start of a text, and what follows it. -/
def read? (s : List Char) : Option (RawClause × List Char) := do
  let (field, s) ← Text.identifier? s
  let s ← Text.afterChar? '.' s
  let (operator, s) ← Text.identifier? s
  let s ← Text.afterChar? '(' s
  let (argument, rest) ← argument? 0 s
  return (⟨field, operator, argument⟩, rest)

/-- The text of the clause and the rest make up the text that was read. -/
theorem read?_eq_some {s rest : List Char} {c : RawClause} (h : read? s = some (c, rest)) :
    s = c.source ++ rest := by
  simp only [read?, Option.bind_eq_bind, Option.bind_eq_some_iff, Option.pure_def,
    Option.some.injEq, Prod.exists, Prod.mk.injEq] at h
  obtain ⟨field, s₁, h₁, s₂, h₂, operator, s₃, h₃, s₄, h₄, argument, r, h₅, rfl, rfl⟩ := h
  rw [(Text.identifier?_eq_some h₁).1, Text.afterChar?_eq_some h₂, (Text.identifier?_eq_some h₃).1,
    Text.afterChar?_eq_some h₄, argument?_eq_some h₅]
  simp [source]

/-- A clause that was read takes up at least one character. -/
theorem length_lt_of_read? {s rest : List Char} {c : RawClause} (h : read? s = some (c, rest)) :
    rest.length < s.length := by
  rw [read?_eq_some h, source]
  simp only [List.length_append, List.length_cons]
  omega

/-- A clause with its meaning, or the reason why it has none. -/
def compile (c : RawClause) : Except Rejection Clause :=
  let source := String.ofList c.source
  match Operator.ofName? (String.ofList c.operator) with
  | none => .error (.unknownOperator (String.ofList c.operator) source)
  | some op =>
    match Test.ofArgument? op (String.ofList c.argument) with
    | none => .error (.invalidPattern source)
    | some test => .ok ⟨Target.ofName (String.ofList c.field), test, source⟩

end RawClause

/-! ### Whole texts -/

/-- The parenthesis depth after a character; closing parentheses without an opening one do not
count. -/
def depthAfter (depth : Nat) (c : Char) : Nat :=
  if c = '(' then depth + 1 else if c = ')' then depth - 1 else depth

/-- The text up to the first separator outside parentheses, and the rest from there on. -/
def malformed : Nat → List Char → List Char × List Char
  | _, [] => ([], [])
  | depth, c :: rest =>
    if depth = 0 ∧ Text.isSeparator c = true then ([], c :: rest)
    else
      let (bad, after) := malformed (depthAfter depth c) rest
      (c :: bad, after)

/-- Nothing is lost around a malformed clause. -/
theorem malformed_append (depth : Nat) (s : List Char) :
    (malformed depth s).1 ++ (malformed depth s).2 = s := by
  induction s generalizing depth with
  | nil => rfl
  | cons c rest ih =>
    unfold malformed
    split
    · rfl
    · exact congrArg (c :: ·) (ih _)

/-- A malformed clause takes up text. -/
theorem malformed_length_le (depth : Nat) (s : List Char) :
    (malformed depth s).2.length ≤ s.length := by
  have := congrArg List.length (malformed_append depth s)
  simp only [List.length_append] at this
  omega

/-- Dropping a run makes no text longer. -/
theorem length_dropWhile_le (p : Char → Bool) (s : List Char) : (s.dropWhile p).length ≤ s.length :=
  (List.dropWhile_sublist p).length_le

/-- The clauses and rejections of a condition text, in order. -/
def outcomes (s : List Char) : List (Except Rejection Clause) :=
  match _hs : s.dropWhile Text.isSeparator with
  | [] => []
  | c :: rest =>
    match _hc : RawClause.read? (c :: rest) with
    | some (raw, after) => raw.compile :: outcomes after
    | none =>
      let bad := malformed (depthAfter 0 c) rest
      .error (.unparsable (String.ofList (c :: bad.1))) :: outcomes bad.2
  termination_by s.length
  decreasing_by
    · have h1 := RawClause.length_lt_of_read? _hc
      have h2 := length_dropWhile_le Text.isSeparator s
      rw [_hs] at h2
      omega
    · have h1 := malformed_length_le (depthAfter 0 c) rest
      have h2 := length_dropWhile_le Text.isSeparator s
      rw [_hs] at h2
      simp only [List.length_cons] at h2
      omega

end MediaCatalog.Query
