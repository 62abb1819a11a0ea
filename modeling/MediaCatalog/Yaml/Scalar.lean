import MediaCatalog.Text.Hex
import MediaCatalog.Yaml.Cursor

/-!
# The written forms of scalars

* `takeQuoted`: a scalar between single or double quotes.
* `takePlain`: a scalar without quotes.
* `takeBlock`: a scalar on lines of its own, with line breaks kept or folded.

Where a scalar goes on in the next line, the line break and the blanks around it are folded
(`Gap.folded`).
-/

namespace MediaCatalog.Yaml

open Scan

/-! ### Gaps between words -/

/-- The blanks and line breaks between two words. -/
structure Gap where
  /-- Whether the line ends here. -/
  broken : Bool
  /-- The blanks, if the line does not end. -/
  blanks : List Char
  first : List Char
  further : List Char

namespace Gap

/-- The characters that a gap stands for: a single line break becomes a blank, further ones stay. -/
def folded (g : Gap) : List Char :=
  if g.broken then
    if g.first.head? == some '\n' then if g.further.isEmpty then [' '] else g.further
    else g.first ++ g.further
  else g.blanks

/-- Whether a blank may indent a line that has not reached a column. -/
def mayIndent (indent : Nat) (g : Gap) (column : Nat) (c : Char) : Bool :=
  !(g.broken && column < indent && c == '\t')

/-- Moves past blanks and line breaks; no tab may stand before the column `indent` of a line. -/
def takeFrom (indent : Nat) (g : Gap) : Nat → Scan Gap
  | 0 => failure
  | n + 1 => do
    match ← ahead 0 with
    | none => return g
    | some c =>
      if isBlank c then
        if !mayIndent indent g (← get).column c then failure
        skip
        takeFrom indent (if g.broken then g else { g with blanks := g.blanks ++ [c] }) n
      else if isBreak c then
        let content ← takeBreak
        takeFrom indent
          (if g.broken then { g with further := g.further ++ content } else ⟨true, [], content, []⟩) n
      else return g

end Gap

/-! ### Quoted scalars -/

/-- The character of an escape with a letter of its own. -/
def letterEscape? : Char → Option Char
  | '0' => some '\x00'
  | 'a' => some '\x07'
  | 'b' => some '\x08'
  | 't' => some '\t'
  | '\t' => some '\t'
  | 'n' => some '\n'
  | 'v' => some '\x0b'
  | 'f' => some '\x0c'
  | 'r' => some '\r'
  | 'e' => some '\x1b'
  | ' ' => some ' '
  | '"' => some '"'
  | '/' => some '/'
  | '\\' => some '\\'
  | 'N' => some '\x85'
  | '_' => some '\xa0'
  | 'L' => some '\u2028'
  | 'P' => some '\u2029'
  | _ => none

/-- The number of hexadecimal digits after the letter of an escape. -/
def digitsAfter? : Char → Option Nat
  | 'x' => some 2
  | 'u' => some 4
  | 'U' => some 8
  | _ => none

/-- Moves past some hexadecimal digits and gives the character with that code point. -/
def takeCodePoint (digits : Nat) : Scan Char := do
  let run ← (List.replicate digits ()).mapM fun _ => take
  match Text.hexNat? run with
  | some n => if n.isValidChar then return Char.ofNat n else failure
  | none => failure

/-- Moves past an escape after its backslash. -/
def takeEscape : Scan Char := do
  let letter ← take
  match letterEscape? letter, digitsAfter? letter with
  | some c, _ => return c
  | none, some digits => takeCodePoint digits
  | none, none => failure

/-- Moves past the characters of a quoted scalar up to a blank, a line break or the closing quote.
Tells whether an escaped line break ended the run. -/
def takeQuotedRun (double : Bool) : Nat → Scan (List Char × Bool)
  | 0 => failure
  | n + 1 => do
    let add (c : Char) (r : List Char × Bool) : List Char × Bool := (c :: r.1, r.2)
    match ← ahead 0 with
    | none => return ([], false)
    | some c =>
      if isBlank c || isBreak c then return ([], false)
      else if !double && c == '\'' && (← ahead 1) == some '\'' then
        skip
        skip
        return add '\'' (← takeQuotedRun double n)
      else if c == (if double then '"' else '\'') then return ([], false)
      else if double && c == '\\' then
        skip
        if ← seesAny isBreak then
          discard takeBreak
          return ([], true)
        else
          let e ← takeEscape
          return add e (← takeQuotedRun double n)
      else
        skip
        return add c (← takeQuotedRun double n)

/-- Moves past the rest of a quoted scalar with its closing quote. -/
def takeQuotedRest (double : Bool) : Nat → Scan (List Char)
  | 0 => failure
  | n + 1 => do
    if (← seesDocumentMark) || (← ahead 0).isNone then failure
    let (run, escapedBreak) ← takeQuotedRun double (← fuel)
    if ← sees (if double then '"' else '\'') then
      skip
      return run
    else
      let gap ← Gap.takeFrom 0 ⟨escapedBreak, [], [], []⟩ (← fuel)
      return run ++ gap.folded ++ (← takeQuotedRest double n)

/-- Moves past a quoted scalar and gives its content. -/
def takeQuoted (double : Bool) : Scan (List Char) := do
  skip
  takeQuotedRest double (← fuel)

/-! ### Plain scalars -/

/-- A character that ends a plain scalar within brackets. -/
def isFlowIndicator (c : Char) : Bool :=
  c == ',' || c == '[' || c == ']' || c == '\x7b' || c == '\x7d'

/-- Moves past the characters of a plain scalar up to a blank, a line break or an indicator. -/
def takePlainRun (flow : Bool) : Nat → Scan (List Char)
  | 0 => failure
  | n + 1 => do
    match ← ahead 0 with
    | none => return []
    | some c =>
      let next ← ahead 1
      if isBlank c || isBreak c then return []
      else if flow && c == ':' && next.any (fun d => isFlowIndicator d || d == '?') then failure
      else if (c == ':' && endsWord next) || (flow && isFlowIndicator c) then return []
      else
        skip
        return c :: (← takePlainRun flow n)

/-- Moves past the rest of a plain scalar after a gap. Tells whether the scalar ended with a line. -/
def takePlainRest (flow : Bool) (indent : Nat) (gap : Gap) : Nat → Scan (List Char × Bool)
  | 0 => failure
  | n + 1 => do
    if (← seesDocumentMark) || (← sees '#') then return ([], gap.broken)
    let run ← takePlainRun flow (← fuel)
    if run.isEmpty then return ([], gap.broken)
    let text := gap.folded ++ run
    if ← seesAny fun c => isBlank c || isBreak c then
      let gap ← Gap.takeFrom indent ⟨false, [], [], []⟩ (← fuel)
      if !flow && (← get).column < indent then return (text, gap.broken)
      else
        let (rest, broken) ← takePlainRest flow indent gap n
        return (text ++ rest, broken)
    else return (text, false)

/-- Moves past a plain scalar. Its further lines begin at the column `indent` or after it. -/
def takePlain (flow : Bool) (indent : Nat) : Scan (List Char × Bool) := do
  takePlainRest flow indent ⟨false, [], [], []⟩ (← fuel)

/-! ### Block scalars -/

/-- What becomes of the line breaks at the end. -/
inductive Chomping where
  | strip
  | clip
  | keep
  deriving DecidableEq

/-- Moves past an indicator of chomping, if there is one. -/
def takeChomping? : Scan (Option Chomping) := do
  if ← sees '+' then skip; return some .keep
  else if ← sees '-' then skip; return some .strip
  else return none

/-- Moves past an indicator of indentation, if there is one. -/
def takeIncrement? : Scan (Option Nat) := do
  if ← seesAny Char.isDigit then
    let c ← take
    if c == '0' then failure
    return some (c.toNat - 48)
  else return none

/-- Moves past the indicators of a block scalar, which come in either order. -/
def takeIndicators : Scan (Chomping × Option Nat) := do
  match ← takeChomping? with
  | some chomping => return (chomping, ← takeIncrement?)
  | none =>
    let increment ← takeIncrement?
    return ((← takeChomping?).getD .clip, increment)

/-- Moves past empty lines and indentation. Gives the line breaks and the column of the deepest
indentation; `indent` is the column of the content, zero if it is not known yet. -/
def takeEmptyLines (indent : Nat) : Nat → Scan (List Char × Nat)
  | 0 => failure
  | n + 1 => do
    let s ← get
    let spaces := (s.rest.takeWhile (· == ' ')).length
    let eaten := if indent = 0 then spaces else min spaces (indent - s.column)
    set { s with rest := s.rest.drop eaten, column := s.column + eaten, index := s.index + eaten }
    let column := s.column + eaten
    if (indent = 0 || column < indent) && (← sees '\t') then failure
    if ← seesAny isBreak then
      let content ← takeBreak
      let (rest, deepest) ← takeEmptyLines indent n
      return (content ++ rest, max column deepest)
    else return ([], column)

/-- Moves past the lines of a block scalar. `leading` is the line break before, `trailing` those of
the empty lines after it, and `blank` says whether the line before began with a blank. Gives the
content and the line breaks at its end. -/
def takeLines (literal : Bool) (indent : Nat) (leading trailing : List Char) (blank : Bool) :
    Nat → Scan (List Char × List Char × List Char)
  | 0 => failure
  | n + 1 => do
    if (← get).column ≠ indent || (← ahead 0).isNone then return ([], leading, trailing)
    let blankHere ← seesAny isBlank
    let joint :=
      if !literal && leading.head? == some '\n' && !blank && !blankHere then
        if trailing.isEmpty then [' '] else trailing
      else leading ++ trailing
    let line ← takeWhile fun _ => true
    let leading ← if ← seesAny isBreak then takeBreak else pure []
    let (trailing, _) ← takeEmptyLines indent (← fuel)
    let (content, ends) ← takeLines literal indent leading trailing blankHere n
    return (joint ++ line ++ content, ends)

/-- Moves past a block scalar inside of a structure at column `parent`. -/
def takeBlock (literal : Bool) (parent : Int) : Scan (List Char) := do
  skip
  let (chomping, increment) ← takeIndicators
  endLine
  let base : Int := max parent 0
  let (trailing, indent) ← match increment with
    | some n => do
      let indent := (base + n).toNat
      let (breaks, _) ← takeEmptyLines indent (← fuel)
      pure (breaks, indent)
    | none => do
      let (breaks, deepest) ← takeEmptyLines 0 (← fuel)
      pure (breaks, max deepest (max (parent + 1).toNat 1))
  let (content, leading, trailing) ← takeLines literal indent [] trailing false (← fuel)
  return match chomping with
    | .strip => content
    | .clip => content ++ leading
    | .keep => content ++ leading ++ trailing

end MediaCatalog.Yaml
