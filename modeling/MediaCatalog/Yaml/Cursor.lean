/-!
# Positions in YAML text

* `Cursor`: the text left, with the line and column where it begins.
* `Scan`: computations that move the cursor forward, or fail.
-/

namespace MediaCatalog.Yaml

/-- The text left to read and where it begins. -/
structure Cursor where
  rest : List Char
  line : Nat
  column : Nat
  /-- The number of characters before. -/
  index : Nat

/-- A computation on the text left. -/
abbrev Scan := StateT Cursor Option

/-! ### Characters -/

/-- A character that ends a line. -/
def isBreak (c : Char) : Bool :=
  c == '\n' || c == '\r' || c == '\x85' || c == '\u2028' || c == '\u2029'

/-- A character between words on a line. -/
def isBlank (c : Char) : Bool := c == ' ' || c == '\t'

/-- A character of names of anchors and directives. -/
def isWord (c : Char) : Bool := c.isAlphanum || c == '_' || c == '-'

/-- A character that may occur in a stream at all. -/
def isAllowed (c : Char) : Bool :=
  let n := c.toNat
  n == 9 || n == 10 || n == 13 || (0x20 ≤ n && n ≤ 0x7E) || n == 0x85 || (0xA0 ≤ n && n ≤ 0xFFFD) ||
    0x10000 ≤ n

/-- Whether a character, if there is one, ends a word: blank or the end of the line. -/
def endsWord : Option Char → Bool
  | some c => isBlank c || isBreak c
  | none => true

namespace Scan

/-! ### Looking ahead -/

/-- The character some places ahead. -/
def ahead (n : Nat) : Scan (Option Char) := do return (← get).rest[n]?

/-- Whether a given character comes next. -/
def sees (c : Char) : Scan Bool := do return (← ahead 0) == some c

/-- Whether the next character exists and is accepted. -/
def seesAny (accept : Char → Bool) : Scan Bool := do return (← ahead 0).any accept

/-- Whether a given text comes next and a blank or the end of the line after it. -/
def seesMark (mark : String) : Scan Bool := do
  let rest := (← get).rest
  return mark.toList.isPrefixOf rest && endsWord rest[mark.length]?

/-- Whether the line begins with a mark between documents. -/
def seesDocumentMark : Scan Bool := do
  if (← get).column = 0 then return (← seesMark "---") || (← seesMark "...") else return false

/-- A bound on the number of steps that are left. -/
def fuel : Scan Nat := do return (← get).rest.length + 1

/-! ### Moving -/

/-- Moves past one character within the line and gives it. -/
def take : Scan Char := do
  let s ← get
  match s.rest with
  | [] => failure
  | c :: rest =>
    set { s with rest := rest, column := s.column + 1, index := s.index + 1 }
    return c

/-- Moves past one character within the line. -/
def skip : Scan Unit := discard take

/-- Moves past the accepted characters of this line and gives them. -/
def takeWhile (accept : Char → Bool) : Scan (List Char) := do
  let s ← get
  let run := s.rest.takeWhile fun c => accept c && !isBreak c
  set { s with rest := s.rest.drop run.length, column := s.column + run.length, index := s.index + run.length }
  return run

/-- Moves to the next line; gives the content of the line break, which is a line feed except for
the two separators of Unicode. -/
def takeBreak : Scan (List Char) := do
  let s ← get
  let next (rest : List Char) (n : Nat) : Cursor := ⟨rest, s.line + 1, 0, s.index + n⟩
  match s.rest with
  | '\r' :: '\n' :: rest => set (next rest 2); return ['\n']
  | c :: rest =>
    if isBreak c then
      set (next rest 1)
      return [if c == '\u2028' || c == '\u2029' then c else '\n']
    else failure
  | [] => failure

/-- Moves past blanks and a comment to the end of the line, and past it. -/
def endLine : Scan Unit := do
  discard (takeWhile isBlank)
  if ← sees '#' then discard (takeWhile fun _ => true)
  match ← ahead 0 with
  | none => return ()
  | some _ => discard takeBreak

end Scan

end MediaCatalog.Yaml
