import MediaCatalog.Regex.Tree
import MediaCatalog.Text.Blank
import MediaCatalog.Text.Hex
import MediaCatalog.Unicode.Word
import MediaCatalog.Unicode.Property

/-!
# Reading regular expressions

The concrete syntax of regular expressions: alternation, repetition, groups with flags or names,
bracketed classes with set operators, escapes. There is no look-around and there are no
back-references. `Tree.read?` gives the tree of a text, or nothing if the text is no expression.

Every reader consumes characters of a `Cursor`; loops carry a bound on the number of characters
left, which `Tree.read?` takes from the length of the text.
-/

namespace MediaCatalog.Regex

/-- What is left to read, whether blanks and comments are skipped, and the group names in use. -/
structure Cursor where
  rest : List Char
  verbose : Bool
  names : List (List Char)

/-- A reader: it consumes text, or fails. -/
abbrev Reader := StateT Cursor Option

namespace Reader

/-- Skips blanks and comments; the flag says whether a comment has begun. -/
def skipText : Bool → List Char → List Char
  | _, [] => []
  | true, c :: rest => skipText (c != '\n') rest
  | false, c :: rest =>
    if Text.isBlank c then skipText false rest
    else if c == '#' then skipText true rest
    else c :: rest

/-- The next character, if there is one. -/
def peek : Reader (Option Char) := do return (← get).rest.head?

/-- Moves past the next character. -/
def advance : Reader Unit := modify fun s => { s with rest := s.rest.drop 1 }

/-- Skips blanks and comments if the expression is verbose here. -/
def skip : Reader Unit := modify fun s =>
  if s.verbose then { s with rest := skipText false s.rest } else s

/-- Moves past the next character and what is skipped after it. -/
def advanceSkip : Reader Unit := do advance; skip

/-- The next character; fails at the end. -/
def demand : Reader Char := do
  match ← peek with
  | some c => return c
  | none => failure

/-- Moves past a given text if it comes next, and says whether it did. -/
def tryText (text : String) : Reader Bool := do
  let rest := (← get).rest
  if text.toList.isPrefixOf rest then
    modify fun s => { s with rest := rest.drop text.length }
    return true
  else return false

/-- Moves past one given character; fails on any other. -/
def expect (c : Char) : Reader Unit := do
  if (← demand) == c then advance else failure

/-- The longest run of accepted characters, with what is skipped between them, of at most `n`. -/
def takeWhileSkip (accept : Char → Bool) : Nat → Reader (List Char)
  | 0 => return []
  | n + 1 => do
    match ← peek with
    | some c =>
      if accept c then
        advanceSkip
        return c :: (← takeWhileSkip accept n)
      else return []
    | none => return []

/-- A bound on the number of characters left. -/
def fuel : Reader Nat := do return (← get).rest.length + 1

end Reader

open Reader

/-! ### Escapes -/

/-- The characters with a meaning of their own somewhere in an expression. -/
def isMeta (c : Char) : Bool :=
  c ∈ ['\\', '.', '+', '*', '?', '(', ')', '|', '[', ']', '\x7b', '\x7d', '^', '$', '#', '&', '-', '~']

/-- The characters that a backslash makes literal: those with a meaning, and any other ASCII
character but letters, digits and angle brackets. -/
def isEscapable (c : Char) : Bool :=
  isMeta c || (c.toNat < 128 && !c.isAlphanum && c != '<' && c != '>')

/-- What an escape or a single character can be. -/
inductive Primitive where
  | literal (l : Literal)
  | assertion (a : Assertion)
  | named (n : NamedClass)
  | dot

/-- The character with a code point, if there is one. -/
def charOfNat? (n : Nat) : Option Char :=
  if h : n.isValidChar then some (Char.ofNatAux n h) else none

/-- Hexadecimal digits in braces, after `\x`, `\u` or `\U`. -/
def hexBraced : Reader Literal := do
  advanceSkip
  let digits ← takeWhileSkip (· != '\x7d') (← fuel)
  expect '\x7d'
  skip
  if digits.isEmpty then failure
  match Text.hexNat? digits with
  | some n => return ⟨← charOfNat? n, false⟩
  | none => failure

/-- A fixed number of hexadecimal digits. -/
def hexDigits : Nat → Reader (List Char)
  | 0 => return []
  | n + 1 => do
    let c ← demand
    if (Text.hexValue? c).isNone then failure
    advanceSkip
    return c :: (← hexDigits n)

/-- A character by its number, after the backslash. -/
def hexEscape (kind : Char) : Reader Literal := do
  advanceSkip
  if (← demand) == '\x7b' then hexBraced
  else
    let count := if kind == 'x' then 2 else if kind == 'u' then 4 else 8
    match Text.hexNat? (← hexDigits count) with
    | some n => return ⟨← charOfNat? n, kind == 'x'⟩
    | none => failure

/-- The parts of a text around the first occurrence of another. -/
def cutAt? (mark : List Char) : List Char → Option (List Char × List Char)
  | [] => none
  | c :: rest =>
    if mark.isPrefixOf (c :: rest) then some ([], (c :: rest).drop mark.length)
    else (cutAt? mark rest).map fun (a, b) => (c :: a, b)

/-- A class by its Unicode property, after `\p` or `\P`. -/
def propertyEscape (negated : Bool) : Reader NamedClass := do
  advanceSkip
  let c ← demand
  if c == '\x7b' then
    advanceSkip
    let name ← takeWhileSkip (· != '\x7d') (← fuel)
    expect '\x7d'
    match cutAt? ['!', '='] name with
    | some (property, value) => return .property (.valued property value) (!negated)
    | none =>
      match cutAt? [':'] name with
      | some (property, value) => return .property (.valued property value) negated
      | none =>
        match cutAt? ['='] name with
        | some (property, value) => return .property (.valued property value) negated
        | none => return .property (.named name) negated
  else
    if c == '\\' then failure
    advanceSkip
    return .property (.named [c]) negated

/-- The kind of word boundary in braces after `\b`; nothing if the braces hold a count. -/
def specialBoundary? : Reader (Option Assertion) := do
  let start ← get
  let isName := fun c : Char => c.isAlpha || c == '-'
  advanceSkip
  if !isName (← demand) then
    set start
    return none
  let name ← takeWhileSkip isName (← fuel)
  expect '\x7d'
  match String.ofList name with
  | "start" => return some .wordStart
  | "end" => return some .wordEnd
  | "start-half" => return some .wordStartHalf
  | "end-half" => return some .wordEndHalf
  | _ => failure

/-- An escape, from its backslash on. -/
def escape : Reader Primitive := do
  advance
  let c ← demand
  let plain := fun c : Char => return Primitive.literal ⟨c, false⟩
  let short := fun kind negated => do advance; return Primitive.named (.short kind negated)
  match c with
  | 'x' | 'u' | 'U' => return .literal (← hexEscape c)
  | 'p' | 'P' => return .named (← propertyEscape (c == 'P'))
  | 'd' => short .digit false
  | 'D' => short .digit true
  | 's' => short .space false
  | 'S' => short .space true
  | 'w' => short .word false
  | 'W' => short .word true
  | _ =>
    advance
    if isEscapable c then plain c
    else match c with
    | 'a' => plain '\x07'
    | 'f' => plain '\x0c'
    | 't' => plain '\t'
    | 'n' => plain '\n'
    | 'r' => plain '\r'
    | 'v' => plain '\x0b'
    | 'A' => return .assertion .textStart
    | 'z' => return .assertion .textEnd
    | 'B' => return .assertion .notWordBoundary
    | '<' => return .assertion .wordStart
    | '>' => return .assertion .wordEnd
    | 'b' =>
      if (← peek) == some '\x7b' then
        return .assertion ((← specialBoundary?).getD .wordBoundary)
      else return .assertion .wordBoundary
    | _ => failure

/-- An escape, an assertion, the dot or a character that stands for itself. -/
def primitive : Reader Primitive := do
  match ← demand with
  | '\\' => escape
  | '.' => advance; return .dot
  | '^' => advance; return .assertion .lineStart
  | '$' => advance; return .assertion .lineEnd
  | c => advance; return .literal ⟨c, false⟩

/-! ### Bracketed classes -/

/-- The class with a name between `[:` and `:]`. -/
def PosixClass.ofName? : String → Option PosixClass
  | "alnum" => some .alnum
  | "alpha" => some .alpha
  | "ascii" => some .ascii
  | "blank" => some .blank
  | "cntrl" => some .cntrl
  | "digit" => some .digit
  | "graph" => some .graph
  | "lower" => some .lower
  | "print" => some .print
  | "punct" => some .punct
  | "space" => some .space
  | "upper" => some .upper
  | "word" => some .word
  | "xdigit" => some .xdigit
  | _ => none

/-- A class `[:name:]` or `[:^name:]` at the start of a text, and what follows it. -/
def posixClass? : List Char → Option (NamedClass × List Char)
  | '[' :: ':' :: rest =>
    let negated := rest.head? == some '^'
    let rest := if negated then rest.drop 1 else rest
    let name := rest.takeWhile (· != ':')
    match rest.dropWhile (· != ':') with
    | ':' :: ']' :: rest =>
      (PosixClass.ofName? (String.ofList name)).map fun kind => (.posix kind negated, rest)
    | _ => none
  | _ => none

/-- A member of a class: an escape or any character. -/
def setMember : Reader Primitive := do
  match ← demand with
  | '\\' => escape
  | c => advance; return .literal ⟨c, false⟩

/-- A member as a set. -/
def Primitive.toSet? : Primitive → Option SetExpr
  | .literal l => some (.range l l)
  | .named n => some (.named n)
  | .assertion _ | .dot => none

/-- A member or a range of characters. -/
def setRange : Reader SetExpr := do
  let first ← setMember
  skip
  let c ← demand
  let s ← get
  let after := s.rest.drop 1
  let next := (if s.verbose then skipText false after else after).head?
  if c != '-' || next == some ']' || next == some '-' then first.toSet?
  else
    advanceSkip
    let _ ← demand
    match first, ← setMember with
    | .literal a, .literal b =>
      if a.char.toNat ≤ b.char.toNat then return .range a b else failure
    | _, _ => failure

/-- The part of a class before its last operator joined with the part after it. -/
def closeSet (left : Option (SetExpr × SetOperator)) (items : SetExpr) : SetExpr :=
  match left with
  | some (a, op) => .combined op a items
  | none => items

/-- A set with one more member. -/
def SetExpr.add : SetExpr → SetExpr → SetExpr
  | .none, s => s
  | items, s => .union items s

/-- The dashes at the start of a class, which stand for themselves. -/
def leadingDashes : Nat → Reader SetExpr
  | 0 => failure
  | n + 1 => do
    if (← demand) == '-' then
      advanceSkip
      return SetExpr.add (.range ⟨'-', false⟩ ⟨'-', false⟩) (← leadingDashes n)
    else return .none

mutual

/-- A bracketed class, from its opening bracket on. -/
def bracketed : Nat → Reader SetExpr
  | 0 => failure
  | n + 1 => do
    advanceSkip
    let negated := (← demand) == '^'
    if negated then advanceSkip
    let dashes ← leadingDashes (← fuel)
    let c ← demand
    let first ← match dashes, c with
      | .none, ']' => do
        advanceSkip
        let _ ← demand
        pure (SetExpr.range ⟨']', false⟩ ⟨']', false⟩)
      | _, _ => pure dashes
    return .bracketed negated (← setItems n none first)

/-- The rest of a class: `left` is what stands before the last operator, `items` what was read
since then. -/
def setItems : Nat → Option (SetExpr × SetOperator) → SetExpr → Reader SetExpr
  | 0, _, _ => failure
  | n + 1, left, items => do
    skip
    let c ← demand
    let operator := fun op => do
      advance
      advance
      setItems n (some (closeSet left items, op)) .none
    let second := (← get).rest[1]?
    match c with
    | '[' =>
      match posixClass? (← get).rest with
      | some (named, rest) =>
        modify fun s => { s with rest }
        setItems n left (items.add (.named named))
      | none => setItems n left (items.add (← bracketed n))
    | ']' =>
      advance
      return closeSet left items
    | '&' => if second == some '&' then operator .inter else setItems n left (items.add (← setRange))
    | '-' => if second == some '-' then operator .diff else setItems n left (items.add (← setRange))
    | '~' =>
      if second == some '~' then operator .symmDiff else setItems n left (items.add (← setRange))
    | _ => setItems n left (items.add (← setRange))

end

/-! ### Repetition -/

/-- A decimal number below 2³², with blanks around it. -/
def decimal : Reader Nat := do
  modify fun s => { s with rest := s.rest.dropWhile Text.isBlank }
  let digits ← takeWhileSkip Char.isDigit (← fuel)
  modify fun s => { s with rest := s.rest.dropWhile Text.isBlank }
  skip
  if digits.isEmpty then failure
  let n := digits.foldl (fun acc c => acc * 10 + (c.toNat - 48)) 0
  if n < 0x100000000 then return n else failure

/-- The bounds in braces after an expression, from the opening brace on. -/
def counted : Reader (Nat × Option Nat) := do
  advanceSkip
  let _ ← demand
  let atLeast ← decimal
  let bounds ← do
    if (← demand) == ',' then
      advanceSkip
      if (← demand) == '\x7d' then pure (atLeast, none) else pure (atLeast, some (← decimal))
    else pure (atLeast, some atLeast)
  expect '\x7d'
  skip
  if (← peek) == some '?' then advance
  match bounds with
  | (a, some b) => if a ≤ b then return bounds else failure
  | (_, none) => return bounds

/-- A repetition sign, and the question mark that marks it as lazy. -/
def sign : Reader Unit := do
  advance
  if (← peek) == some '?' then advance

/-- The last expression read, repeated; there has to be one that can be. -/
def repeatLast (atLeast : Nat) (atMost : Option Nat) : List Tree → Reader (List Tree)
  | [] => failure
  | .empty :: _ => failure
  | .flags _ :: _ => failure
  | last :: items => return .repeated atLeast atMost last :: items

/-! ### Groups -/

/-- The flag with a letter. -/
def Flag.ofChar? : Char → Option Flag
  | 'i' => some .ignoreCase
  | 'm' => some .multiLine
  | 's' => some .dotAll
  | 'U' => some .swapGreed
  | 'u' => some .unicode
  | 'R' => some .crlf
  | 'x' => some .verbose
  | _ => none

/-- Flags up to a colon or a closing parenthesis: each at most once, with at most one dash, which
some flag follows. -/
def flagChange : Nat → Bool → FlagChange → Reader FlagChange
  | 0, _, _ => failure
  | n + 1, negated, change => do
    let c ← demand
    if c == ':' || c == ')' then
      if negated && change.off.isEmpty then failure
      return change
    else if c == '-' then
      if negated then failure
      advance
      flagChange n true change
    else
      let flag ← Flag.ofChar? c
      if flag ∈ change.on || flag ∈ change.off then failure
      advance
      let change := if negated then { change with off := change.off ++ [flag] }
        else { change with on := change.on ++ [flag] }
      flagChange n negated change

/-- A character that a group name may contain, at its start or later. -/
def isNameChar (first : Bool) (c : Char) : Bool :=
  let isLetter := Unicode.alphabetic.contains c
  if first then c == '_' || isLetter
  else c == '_' || c == '.' || c == '[' || c == ']' || isLetter || Unicode.numeric.contains c

/-- A group's name, up to the closing angle bracket, which no other group may have. -/
def groupName : Reader Unit := do
  let s ← get
  let name := s.rest.takeWhile (· != '>')
  match name with
  | [] => failure
  | c :: more =>
    if !(isNameChar true c && more.all (isNameChar false)) then failure
    if name ∈ s.names then failure
    set { s with rest := s.rest.drop name.length, names := name :: s.names }
    expect '>'

/-- The start of a group, from its parenthesis on: a directive that sets flags for what follows,
or a group with the flags that hold inside. -/
def groupStart : Reader (FlagChange ⊕ (Bool × FlagChange)) := do
  advanceSkip
  let rest := (← get).rest
  if ["?=", "?!", "?<=", "?<!"].any fun mark => mark.toList.isPrefixOf rest then failure
  if (← tryText "?P<") || (← tryText "?<") then
    groupName
    return .inr (true, ⟨[], []⟩)
  else if ← tryText "?" then
    let change ← flagChange (← fuel) false ⟨[], []⟩
    let closing ← demand
    advance
    if closing == ')' then
      if change.on.isEmpty && change.off.isEmpty then failure
      return .inl change
    else return .inr (false, change)
  else return .inr (true, ⟨[], []⟩)

/-- An alternation up to the end or to a closing parenthesis, which is left unread: `branches` and
`items`, the latest first, are the finished branches and the expressions of the current one. -/
def readAlternation : Nat → List Tree → List Tree → Reader Tree
  | 0, _, _ => failure
  | n + 1, branches, items => do
    skip
    let finished := Tree.concatAll items.reverse
    match ← peek with
    | none | some ')' => return Tree.alternationAll (finished :: branches).reverse
    | some '|' =>
      advance
      readAlternation n (finished :: branches) []
    | some '(' =>
      match ← groupStart with
      | .inl change =>
        modify fun s => { s with verbose := (change.state? .verbose).getD s.verbose }
        readAlternation n branches (.flags change :: items)
      | .inr (captures, change) =>
        let outer := (← get).verbose
        modify fun s => { s with verbose := (change.state? .verbose).getD outer }
        let inner ← readAlternation n [] []
        expect ')'
        modify fun s => { s with verbose := outer }
        readAlternation n branches (.group captures change inner :: items)
    | some '[' => readAlternation n branches (.set (← bracketed (← fuel)) :: items)
    | some '?' =>
      sign
      readAlternation n branches (← repeatLast 0 (some 1) items)
    | some '*' =>
      sign
      readAlternation n branches (← repeatLast 0 none items)
    | some '+' =>
      sign
      readAlternation n branches (← repeatLast 1 none items)
    | some '\x7b' =>
      if items.isEmpty then failure
      let (atLeast, atMost) ← counted
      readAlternation n branches (← repeatLast atLeast atMost items)
    | some _ =>
      let item ← match ← primitive with
        | .literal l => pure (Tree.literal l)
        | .assertion a => pure (Tree.assertion a)
        | .named c => pure (Tree.set (.named c))
        | .dot => pure Tree.dot
      readAlternation n branches (item :: items)

/-- The largest nesting that is accepted. -/
def nestingLimit : Nat := 250

/-- The tree of a regular expression, if the text is one. -/
def Tree.read? (text : String) : Option Tree := do
  let chars := text.toList
  let (tree, cursor) ← readAlternation (2 * chars.length + 2) [] [] |>.run ⟨chars, false, []⟩
  if !cursor.rest.isEmpty then none
  else if tree.nesting none ≤ nestingLimit then some tree
  else none

end MediaCatalog.Regex
