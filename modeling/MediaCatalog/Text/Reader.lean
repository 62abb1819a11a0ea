/-!
# Readers of text

A reader consumes the beginning of a text and gives what it found there, or fails.

* `Reader.whole?`: what a reader finds if it consumes all of a text.
* `Reader.optional`, `Reader.repeated`, `Reader.separated`: readers made of other readers; a part
  that fails consumes nothing.
-/

namespace MediaCatalog.Text

/-- A reader of text. -/
abbrev Reader := StateT (List Char) Option

namespace Reader

variable {α : Type}

/-- What is found in a text if all of it is consumed. -/
def whole? (r : Reader α) (text : List Char) : Option α :=
  match r text with
  | some (a, []) => some a
  | _ => none

/-- The next character, which is not consumed. -/
def peek : Reader (Option Char) := do return (← get).head?

/-- The next characters as far as they are accepted. -/
def takeWhile (accept : Char → Bool) : Reader (List Char) := do
  let text ← get
  set (text.dropWhile accept)
  return text.takeWhile accept

/-- The next characters as far as they are accepted, at least one. -/
def takeSome (accept : Char → Bool) : Reader (List Char) := do
  let run ← takeWhile accept
  if run.isEmpty then failure else return run

/-- The next character, which has to be accepted. -/
def one (accept : Char → Bool) : Reader Char := do
  match ← get with
  | [] => failure
  | c :: rest => if accept c then set rest; return c else failure

/-- The next characters, as many as are asked for and each of them accepted. -/
def count (accept : Char → Bool) : Nat → Reader (List Char)
  | 0 => return []
  | n + 1 => do return (← one accept) :: (← count accept n)

/-- A given text comes next. -/
def exactly (text : String) : Reader Unit := do
  let rest ← get
  if text.toList.isPrefixOf rest then set (rest.drop text.length) else failure

/-- What a reader finds, unless it fails. -/
def optional (r : Reader α) : Reader (Option α) := fun text =>
  match r text with
  | some (a, rest) => some (some a, rest)
  | none => some (none, text)

/-- What a reader finds again and again, at most `n` times. -/
def upTo (r : Reader α) : Nat → Reader (List α)
  | 0 => return []
  | n + 1 => do
    match ← optional r with
    | none => return []
    | some a => return a :: (← upTo r n)

/-- What a reader finds again and again until it fails. The reader consumes something each time. -/
def repeated (r : Reader α) : Reader (List α) := do upTo r (← get).length

/-- What a reader finds again and again with a separator in between; perhaps nothing. -/
def separated (r : Reader α) (separator : Reader Unit) : Reader (List α) := do
  match ← optional r with
  | none => return []
  | some a => return a :: (← repeated do separator; r)

/-- The text ends here. -/
def atEnd : Reader Unit := do
  if (← get).isEmpty then return () else failure

end Reader

end MediaCatalog.Text
