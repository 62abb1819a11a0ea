import MediaCatalog.Number.Decimal

/-!
# The syntax of globs

A glob describes names: `?` is one character, `*` and `$` any number of them, `**` any number of
path components, `[a-z]` one of some characters, `{a,b}` one of some globs, and `<a:1,2>` a glob
repeated. `(?i)` and `(?-i)` turn the case of literals off and on. A backslash makes a special
character literal.

* `Token`: the parts of a glob.
* `tokens?`: the parts of a glob text.
-/

namespace MediaCatalog.Glob

/-- A part of a glob. -/
inductive Token where
  | literal (text : List Char) (ignoreCase : Bool)
  | separator
  /-- One character. -/
  | one
  /-- Any number of characters within a component. -/
  | many
  /-- Any number of components; `rooted` if a slash comes first. -/
  | tree (rooted : Bool)
  /-- One character within, or without, some ranges. -/
  | chars (negated : Bool) (ranges : List (Char × Char))
  | oneOf (branches : List (List Token))
  | repeated (atLeast : Nat) (atMost : Option Nat) (inner : List Token)

/-- What ends a glob: the end of the text, or what ends a branch or a repeated glob. -/
inductive Ending where
  | text
  | branch
  | repetition
  deriving DecidableEq, Repr

/-- Whether an ending stands at the start of a text. -/
def Ending.isAt (ending : Ending) (s : List Char) : Bool :=
  match ending, s.head? with
  | text, none => true
  | branch, some c => c == ',' || c == '}'
  | repetition, some c => c == ':' || c == '>'
  | _, _ => false

/-- The characters that are literal only after a backslash, apart from `/`. -/
def specialChars : List Char := ['?', '*', '$', ':', '<', '>', '(', ')', '[', ']', '\x7b', '\x7d', ',', '\\']

/-! ### Flags -/

/-- The case state after the rest of a flag group, which its last flag decides, and what follows the
group. -/
def toggles? : List Char → Option (Bool × List Char)
  | 'i' :: ')' :: rest => some (true, rest)
  | '-' :: 'i' :: ')' :: rest => some (false, rest)
  | 'i' :: rest => toggles? rest
  | '-' :: 'i' :: rest => toggles? rest
  | _ => none

/-- The case state after the flag groups at the start of a text, and what follows them; `groups`
bounds their number. -/
def skipFlags (ignoreCase : Bool) : Nat → List Char → Bool × List Char
  | groups + 1, '(' :: '?' :: rest =>
    match toggles? rest with
    | some (ignoreCase, rest) => skipFlags ignoreCase groups rest
    | none => (ignoreCase, '(' :: '?' :: rest)
  | _, s => (ignoreCase, s)

/-- The case state after all flag groups at the start of a text, and what follows them. -/
def afterFlags (ignoreCase : Bool) (s : List Char) : Bool × List Char := skipFlags ignoreCase s.length s

/-! ### Parts without inner globs -/

/-- The literal text at the start of a text, perhaps empty, and what follows it. -/
def literal? : List Char → Option (List Char × List Char)
  | [] => some ([], [])
  | '\\' :: c :: rest =>
    if specialChars.contains c then (literal? rest).map fun (text, r) => (c :: text, r) else none
  | c :: rest =>
    if c == '\\' then none
    else if c == '/' || specialChars.contains c then some ([], c :: rest)
    else (literal? rest).map fun (text, r) => (c :: text, r)

/-- One character of a class. -/
def classChar? : List Char → Option (Char × List Char)
  | '\\' :: c :: rest => if ['[', ']', '-', '\\'].contains c then some (c, rest) else none
  | c :: rest => if ['[', ']', '-', '\\'].contains c then none else some (c, rest)
  | [] => none

/-- The ranges of a class, and what follows them; `ranges` bounds their number. -/
def classRanges : Nat → List Char → List (Char × Char) × List Char
  | 0, s => ([], s)
  | ranges + 1, s =>
    match classChar? s with
    | none => ([], s)
    | some (a, rest) =>
      let (b, rest) := match rest with
        | '-' :: after => (classChar? after).getD (a, rest)
        | _ => (a, rest)
      let (more, rest) := classRanges ranges rest
      ((a, b) :: more, rest)

/-- The class whose bracket was just opened, and what follows it. -/
def class? (s : List Char) : Option (Token × List Char) :=
  let (negated, s) := match s with
    | '!' :: rest => (true, rest)
    | s => (false, s)
  match classRanges s.length s with
  | (first :: more, ']' :: rest) => some (.chars negated (first :: more), rest)
  | _ => none

/-- The number at the start of a text, and what follows it. -/
def number? (s : List Char) : Option (Nat × List Char) := do
  let digits := s.takeWhile Char.isDigit
  let n ← Number.word64? digits
  return (n, s.dropWhile Char.isDigit)

/-- The bounds of a repetition up to its closing bracket, and what follows it. -/
def bounds? : List Char → Option ((Nat × Option Nat) × List Char)
  | '>' :: rest => some ((0, none), rest)
  | ':' :: '>' :: rest => some ((1, none), rest)
  | ':' :: s => do
    let (lower, s) ← number? s
    match s with
    | '>' :: rest => some ((lower, some lower), rest)
    | ',' :: '>' :: rest => some ((lower, none), rest)
    | ',' :: s =>
      let (upper, s) ← number? s
      match s with
      | '>' :: rest => some ((lower, some upper), rest)
      | _ => none
    | _ => none
  | _ => none

/-- A tree wildcard at the start of a text, and what follows it. Slashes around it belong to it. -/
def tree? (ending : Ending) (atStart ignoreCase : Bool) (s : List Char) : Option (Token × Bool × List Char) := do
  let (rooted, ignoreCase, s) ← match s with
    | '/' :: rest => some (true, afterFlags ignoreCase rest)
    | s => if atStart then some (false, ignoreCase, s) else none
  match s with
  | '*' :: '*' :: rest =>
    let (ignoreCase', after) := afterFlags ignoreCase rest
    match after with
    | '/' :: after => some (.tree rooted, ignoreCase', after)
    | _ => if ending.isAt rest then some (.tree rooted, ignoreCase, rest) else none
  | _ => none

/-- Whether a `*` or `$` may stand before a text: not before another one. -/
def mayFollowMany (ending : Ending) (s : List Char) : Bool :=
  ending.isAt s || (afterFlags false s).2.head?.any fun c => c != '*' && c != '$'

/-! ### Whole globs -/

mutual

/-- The parts of a glob up to its ending, the case state there, and what follows; `fuel` bounds the
nesting and number of parts. -/
def tokensFrom? (ending : Ending) (atStart ignoreCase : Bool) : Nat → List Char → Option (List Token × Bool × List Char)
  | 0, _ => none
  | fuel + 1, s =>
    if ending.isAt s then if atStart then none else some ([], ignoreCase, s)
    else do
      let (token, ignoreCase, s) ← token? ending atStart ignoreCase fuel s
      let (tokens, ignoreCase, s) ← tokensFrom? ending false ignoreCase fuel s
      return (token :: tokens, ignoreCase, s)

/-- The part at the start of a text. -/
def token? (ending : Ending) (atStart ignoreCase : Bool) : Nat → List Char → Option (Token × Bool × List Char)
  | 0, _ => none
  | fuel + 1, s =>
    let (ignoreCase, s) := afterFlags ignoreCase s
    match tree? ending atStart ignoreCase s with
    | some found => some found
    | none =>
      match s with
      | '/' :: rest => some (.separator, ignoreCase, rest)
      | '?' :: rest => some (.one, ignoreCase, rest)
      | '*' :: rest | '$' :: rest => if mayFollowMany ending rest then some (.many, ignoreCase, rest) else none
      | '[' :: rest => (class? rest).map fun (token, rest) => (token, ignoreCase, rest)
      | '\x7b' :: rest => do
        let (branches, ignoreCase, rest) ← branches? ignoreCase fuel rest
        return (.oneOf branches, ignoreCase, rest)
      | '<' :: rest => do
        let (inner, ignoreCase, rest) ← tokensFrom? .repetition true ignoreCase fuel rest
        let ((lower, upper), rest) ← bounds? rest
        return (.repeated lower upper inner, ignoreCase, rest)
      | s => do
        let (text, rest) ← literal? s
        if text.isEmpty then none
        return (.literal text ignoreCase, ignoreCase, rest)

/-- The branches up to the closing brace, and what follows it. -/
def branches? (ignoreCase : Bool) : Nat → List Char → Option (List (List Token) × Bool × List Char)
  | 0, _ => none
  | fuel + 1, s => do
    let (branch, ignoreCase, s) ← tokensFrom? .branch true ignoreCase fuel s
    match s with
    | ',' :: rest =>
      let (branches, ignoreCase, rest) ← branches? ignoreCase fuel rest
      return (branch :: branches, ignoreCase, rest)
    | '\x7d' :: rest => return ([branch], ignoreCase, rest)
    | _ => none

end

/-- The parts of a glob text; nothing if it is no glob. The empty text is the empty glob. -/
def tokens? (text : String) : Option (List Token) :=
  let s := text.toList
  if s.isEmpty then some []
  else (tokensFrom? .text true false (3 * s.length + 3) s).map (·.1)

end MediaCatalog.Glob
