import MediaCatalog.Yaml.Scalar

/-!
# Tokens

The tokens of a stream. Where a structure is laid out by indentation, its beginning and end are
tokens like the brackets of the other structures; a key in front of a colon is only known when the
colon comes, so its token is put in afterwards.

* `tokens?`: the tokens of a text.
-/

namespace MediaCatalog.Yaml

/-- A token of a stream. -/
inductive Token where
  | blockSequenceStart
  | blockMappingStart
  | blockEnd
  | flowSequenceStart
  | flowSequenceEnd
  | flowMappingStart
  | flowMappingEnd
  | blockEntry
  | flowEntry
  | key
  | value
  | alias (name : String)
  | anchor (name : String)
  /-- A tag, the handle of which is empty if the other part is all of the tag. -/
  | tag (handle rest : String)
  | scalar (plain : Bool) (content : String)
  | documentStart
  | documentEnd
  | version (major minor : Nat)
  | handle (name meaning : String)
  deriving DecidableEq

/-- A place where a key may have begun. -/
structure PossibleKey where
  /-- The number of tokens before. -/
  place : Nat
  /-- Whether a key must begin there. -/
  required : Bool
  line : Nat
  column : Nat
  index : Nat

/-- What is known of a stream at some place. -/
structure Scanner where
  tokens : Array Token
  /-- How many brackets are open. -/
  flow : Nat
  /-- The column of the innermost structure laid out by indentation, and those around it. -/
  indent : Int
  outer : List Int
  /-- Whether a key may begin here. -/
  keyAllowed : Bool
  /-- The possible keys on the levels of brackets, the innermost first. -/
  keys : List (Option PossibleKey)

/-- A computation of tokens. -/
abbrev Tokenize := StateT Scanner Scan

namespace Tokenize

/-- How far a key may reach. -/
def maxKeyLength : Nat := 1024

/-- Puts a token behind the others. -/
def emit (t : Token) : Tokenize Unit := modify fun s => { s with tokens := s.tokens.push t }

/-- Notes whether a key may begin next. -/
def allowKey (allowed : Bool) : Tokenize Unit := modify fun s => { s with keyAllowed := allowed }

/-- The column where the stream stands. -/
def column : Tokenize Nat := do return (← getThe Cursor).column

/-- Whether brackets are open. -/
def inFlow : Tokenize Bool := do return 0 < (← get).flow

/-! ### Possible keys -/

/-- The possible key, unless it is too far back; a key that is required must not be. -/
def current? (c : Cursor) : Option PossibleKey → Tokenize (Option PossibleKey)
  | some k =>
    if k.line < c.line || k.index + maxKeyLength < c.index then
      if k.required then failure else return none
    else return some k
  | none => return none

/-- Forgets possible keys that are too far back. -/
def forgetStaleKeys : Tokenize Unit := do
  let c ← getThe Cursor
  let keys ← (← get).keys.mapM (current? c)
  modify fun s => { s with keys := keys }

/-- Forgets the possible key of the innermost level. -/
def forgetKey : Tokenize Unit := do
  match (← get).keys with
  | some k :: rest => if k.required then failure else modify fun s => { s with keys := none :: rest }
  | _ => return ()

/-- Notes that a key may begin here. -/
def noteKey : Tokenize Unit := do
  let s ← get
  let c ← getThe Cursor
  if s.keyAllowed then
    forgetKey
    let k : PossibleKey :=
      ⟨s.tokens.size, s.flow = 0 && s.indent = c.column, c.line, c.column, c.index⟩
    modify fun s => { s with keys := some k :: s.keys.drop 1 }

/-! ### Indentation -/

/-- Begins a structure at a column if it is further right than the innermost one; its token is put
at a place among the tokens. -/
def openBlock (column place : Nat) (start : Token) : Tokenize Unit := do
  let s ← get
  if s.flow = 0 && s.indent < column then
    set { s with
      indent := column
      outer := s.indent :: s.outer
      tokens := s.tokens.insertIdxIfInBounds place start }

/-- Begins a structure here. -/
def openBlockHere (start : Token) : Tokenize Unit := do
  openBlock (← column) (← get).tokens.size start

/-- Ends the structures that begin right of a column. -/
def closeBlocks (column : Int) : Tokenize Unit := do
  let s ← get
  if s.flow = 0 then
    let around := (s.indent :: s.outer)
    let kept := around.dropWhile fun indent => column < indent
    let ended := around.length - kept.length
    set { s with
      indent := kept.head?.getD (-1)
      outer := kept.drop 1
      tokens := s.tokens ++ (List.replicate ended Token.blockEnd).toArray }

/-! ### Between tokens -/

/-- Moves to the next token. Tabs may not indent a line on which a key may begin. -/
def toNextToken : Nat → Tokenize Unit
  | 0 => failure
  | n + 1 => do
    if (← getThe Cursor).index = 0 && (← Scan.sees '\uFEFF') then Scan.skip
    let tabs := (← inFlow) || !(← get).keyAllowed
    discard (Scan.takeWhile fun c => c == ' ' || (tabs && c == '\t'))
    if ← Scan.sees '#' then discard (Scan.takeWhile fun _ => true)
    if ← Scan.seesAny isBreak then
      discard Scan.takeBreak
      if !(← inFlow) then allowKey true
      toNextToken n

/-! ### Directives and tags -/

/-- Moves past a number of at most nine digits. -/
def takeNumber : Tokenize Nat := do
  let digits ← Scan.takeWhile Char.isDigit
  if digits.isEmpty || 9 < digits.length then failure
  return digits.foldl (fun n c => n * 10 + (c.toNat - 48)) 0

/-- Moves past a given character. -/
def expect (c : Char) : Tokenize Unit := do
  if ← Scan.sees c then Scan.skip else failure

/-- Moves past a handle: `!`, `!!`, or a name between two of them. -/
def takeHandle : Tokenize String := do
  expect '!'
  let name ← Scan.takeWhile isWord
  if ← Scan.sees '!' then
    Scan.skip
    return String.ofList ('!' :: name ++ ['!'])
  else return String.ofList ('!' :: name)

/-- A character of a tag; brackets and commas only occur in tags written in full. -/
def isTagCharacter (full : Bool) (c : Char) : Bool :=
  isWord c || ";/?:@&=+$.%!~*'()".toList.contains c || (full && (c == ',' || c == '[' || c == ']'))

/-- Moves past the characters of a tag. -/
def takeTagText (full : Bool) : Tokenize String := do
  return String.ofList (← Scan.takeWhile (isTagCharacter full))

/-- Moves past a tag. -/
def takeTag : Tokenize Token := do
  let tag ← if (← Scan.ahead 1) == some '<' then do
      Scan.skip
      Scan.skip
      let rest ← takeTagText true
      if rest.isEmpty then failure
      expect '>'
      pure (Token.tag "" rest)
    else do
      let first ← takeHandle
      let rest ← takeTagText false
      if 1 < first.length && first.toList.getLast? == some '!' then
        if rest.isEmpty then failure
        pure (Token.tag first rest)
      else
        let rest := String.ofList (first.toList.drop 1) ++ rest
        pure (if rest.isEmpty then Token.tag "" "!" else Token.tag "!" rest)
  let next ← Scan.ahead 0
  if endsWord next || ((← inFlow) && next == some ',') then return tag else failure

/-- Moves past a directive and its line. -/
def takeDirective : Tokenize Token := do
  Scan.skip
  let name := String.ofList (← Scan.takeWhile isWord)
  if !endsWord (← Scan.ahead 0) then failure
  discard (Scan.takeWhile isBlank)
  let directive ← if name = "YAML" then do
      let major ← takeNumber
      expect '.'
      pure (Token.version major (← takeNumber))
    else if name = "TAG" then do
      let first ← takeHandle
      if first ≠ "!" && first.toList.getLast? ≠ some '!' then failure
      if !(← Scan.seesAny isBlank) then failure
      discard (Scan.takeWhile isBlank)
      let meaning ← takeTagText true
      if meaning.isEmpty || !endsWord (← Scan.ahead 0) then failure
      pure (Token.handle first meaning)
    else failure
  Scan.endLine
  return directive

/-! ### Single tokens -/

/-- Moves past a bracket that opens. -/
def openFlow (t : Token) : Tokenize Unit := do
  noteKey
  modify fun s => { s with keys := none :: s.keys, flow := s.flow + 1 }
  allowKey true
  Scan.skip
  emit t

/-- Moves past a bracket that closes. -/
def closeFlow (t : Token) : Tokenize Unit := do
  forgetKey
  modify fun s => if s.flow = 0 then s else { s with keys := s.keys.drop 1, flow := s.flow - 1 }
  allowKey false
  Scan.skip
  emit t

/-- Moves past a comma between items in brackets. -/
def flowEntry : Tokenize Unit := do
  forgetKey
  allowKey true
  Scan.skip
  emit .flowEntry

/-- Moves past the hyphen of an item. -/
def blockEntry : Tokenize Unit := do
  if !(← inFlow) then
    if !(← get).keyAllowed then failure
    openBlockHere .blockSequenceStart
  forgetKey
  allowKey true
  Scan.skip
  emit .blockEntry

/-- Moves past the mark of a key. -/
def explicitKey : Tokenize Unit := do
  let flow ← inFlow
  if !flow then
    if !(← get).keyAllowed then failure
    openBlockHere .blockMappingStart
  forgetKey
  allowKey !flow
  Scan.skip
  emit .key

/-- Moves past a colon. What stands before it on the line is its key if a key may have begun
there. -/
def colon : Tokenize Unit := do
  let s ← get
  match s.keys with
  | some k :: rest =>
    set { s with tokens := s.tokens.insertIdxIfInBounds k.place .key, keys := none :: rest }
    openBlock k.column k.place .blockMappingStart
    allowKey false
  | _ =>
    let flow ← inFlow
    if !flow then
      if !s.keyAllowed then failure
      openBlockHere .blockMappingStart
    allowKey !flow
  Scan.skip
  emit .value

/-- Moves past the name of an anchor or an alias. -/
def takeName : Tokenize String := do
  Scan.skip
  let name ← Scan.takeWhile isWord
  let next ← Scan.ahead 0
  if name.isEmpty || !(endsWord next || next.any fun c => "?:,]\x7d%@`".toList.contains c) then failure
  return String.ofList name

/-- Moves past a token that may be a key. -/
def keyLike (r : Tokenize Token) : Tokenize Unit := do
  noteKey
  allowKey false
  emit (← r)

/-- The token of a scalar without quotes. Behind one on several lines a key may begin. -/
def plainScalar : Tokenize Token := do
  let s ← get
  let (content, broken) ← takePlain (0 < s.flow) (s.indent + 1).toNat
  if broken then allowKey true
  return .scalar true (String.ofList content)

/-- Moves past a scalar that is laid out by indentation. -/
def blockScalar (literal : Bool) : Tokenize Unit := do
  forgetKey
  allowKey true
  let content ← takeBlock literal (← get).indent
  emit (.scalar false (String.ofList content))

/-- Ends what was laid out before a mark or a directive. -/
def endDocument : Tokenize Unit := do
  closeBlocks (-1)
  forgetKey
  allowKey false

/-- Moves past the three characters that begin or end a document. -/
def documentMark (t : Token) : Tokenize Unit := do
  endDocument
  discard Scan.take
  discard Scan.take
  discard Scan.take
  emit t

/-- Whether a character cannot begin a plain scalar whatever follows it. -/
def isIndicator (c : Char) : Bool := "-?:,[]\x7b\x7d#&*!|>'\"%@`".toList.contains c

/-- Moves past the token that begins with a given character. -/
def token (c : Char) : Tokenize Unit := do
  let flow ← inFlow
  let next ← Scan.ahead 1
  if c == '[' then openFlow .flowSequenceStart
  else if c == '\x7b' then openFlow .flowMappingStart
  else if c == ']' then closeFlow .flowSequenceEnd
  else if c == '\x7d' then closeFlow .flowMappingEnd
  else if c == ',' then flowEntry
  else if c == '-' && endsWord next then blockEntry
  else if c == '?' && (flow || endsWord next) then explicitKey
  else if c == ':' && (flow || endsWord next) then colon
  else if c == '*' then keyLike (Token.alias <$> takeName)
  else if c == '&' then keyLike (Token.anchor <$> takeName)
  else if c == '!' then keyLike takeTag
  else if c == '|' && !flow then blockScalar true
  else if c == '>' && !flow then blockScalar false
  else if c == '\'' then keyLike do return .scalar false (String.ofList (← takeQuoted false))
  else if c == '"' then keyLike do return .scalar false (String.ofList (← takeQuoted true))
  else if (!isBlank c && !isIndicator c) || (c == '-' && !next.any isBlank) ||
      (!flow && (c == '?' || c == ':') && !endsWord next) then keyLike plainScalar
  else failure

/-- Moves past all tokens. -/
def all : Nat → Tokenize Unit
  | 0 => failure
  | n + 1 => do
    toNextToken (← Scan.fuel)
    forgetStaleKeys
    closeBlocks (← column)
    match ← Scan.ahead 0 with
    | none => endDocument
    | some c =>
      let first := (← column) = 0
      if first && c == '%' then
        endDocument
        emit (← takeDirective)
      else if first && (← Scan.seesMark "---") then documentMark .documentStart
      else if first && (← Scan.seesMark "...") then documentMark .documentEnd
      else token c
      all n

end Tokenize

/-- The tokens of a text, unless it has none. -/
def tokens? (text : String) : Option (List Token) :=
  let chars := text.toList
  if chars.all isAllowed then
    ((Tokenize.all (chars.length + 1)).run ⟨#[], 0, -1, [], true, [none]⟩ ⟨chars, 0, 0, 0⟩).map
      fun ((_, s), _) => s.tokens.toList
  else none

end MediaCatalog.Yaml
