import MediaCatalog.Regex.Pattern
import MediaCatalog.Regex.Tree
import MediaCatalog.Unicode.CaseVariants
import MediaCatalog.Unicode.Property

/-!
# The meaning of syntax trees

A tree becomes a pattern under the flags in force: a directive changes them up to the end of the
group it stands in, and a group may change them for its inside. Texts are sequences of characters,
so with the flag `u` off everything that would match a byte outside ASCII is refused.
-/

namespace MediaCatalog.Regex

open Unicode (CharSet)

/-- The flags that decide what classes, literals and assertions mean. -/
structure Flags where
  ignoreCase : Bool
  multiLine : Bool
  dotAll : Bool
  crlf : Bool
  unicode : Bool

/-- The flags at the start of an expression. -/
def Flags.initial : Flags := ⟨false, false, false, false, true⟩

/-- The flags after a directive. -/
def Flags.change (f : Flags) (c : FlagChange) : Flags where
  ignoreCase := (c.state? .ignoreCase).getD f.ignoreCase
  multiLine := (c.state? .multiLine).getD f.multiLine
  dotAll := (c.state? .dotAll).getD f.dotAll
  crlf := (c.state? .crlf).getD f.crlf
  unicode := (c.state? .unicode).getD f.unicode

/-- The ASCII characters in a set. -/
def ofChars (ranges : List (Char × Char)) : CharSet :=
  CharSet.ofRanges (ranges.map fun (a, b) => (a.toNat, b.toNat))

/-- The members of a class `[:name:]`. -/
def PosixClass.chars : PosixClass → CharSet
  | alnum => ofChars [('0', '9'), ('A', 'Z'), ('a', 'z')]
  | alpha => ofChars [('A', 'Z'), ('a', 'z')]
  | ascii => [(0, 0x7F)]
  | blank => ofChars [('\t', '\t'), (' ', ' ')]
  | cntrl => [(0, 0x1F), (0x7F, 0x7F)]
  | digit => ofChars [('0', '9')]
  | graph => ofChars [('!', '~')]
  | lower => ofChars [('a', 'z')]
  | print => ofChars [(' ', '~')]
  | punct => ofChars [('!', '/'), (':', '@'), ('[', '`'), ('\x7b', '~')]
  | space => ofChars [('\t', '\r'), (' ', ' ')]
  | upper => ofChars [('A', 'Z')]
  | word => ofChars [('0', '9'), ('A', 'Z'), ('_', '_'), ('a', 'z')]
  | xdigit => ofChars [('0', '9'), ('A', 'F'), ('a', 'f')]

/-- The members of a class of one letter, with Unicode or with ASCII only. -/
def ShortClass.chars (unicode : Bool) : ShortClass → CharSet
  | digit => if unicode then Unicode.decimalDigits else PosixClass.digit.chars
  | space => if unicode then Unicode.whiteSpace else PosixClass.space.chars
  | word => if unicode then Unicode.wordChars else PosixClass.word.chars

/-- A set with the other case of its ASCII letters. -/
def withAsciiVariants (s : CharSet) : CharSet :=
  let lower := (s.clip 97 122).map fun (a, b) => (a - 32, b - 32)
  let upper := (s.clip 65 90).map fun (a, b) => (a + 32, b + 32)
  CharSet.ofRanges (s ++ lower ++ upper)

namespace Flags

/-- A set with the case variants that the flags ask for. -/
def fold (f : Flags) (s : CharSet) : CharSet :=
  if !f.ignoreCase then s
  else if f.unicode then s.withCaseVariants
  else withAsciiVariants s

/-- The complement if it is asked for; outside Unicode there is none within ASCII. -/
def negate? (f : Flags) (negated : Bool) (s : CharSet) : Option CharSet :=
  if !negated then some s
  else if f.unicode then some s.compl
  else none

/-- The members of a class with a name. -/
def named? (f : Flags) : NamedClass → Option CharSet
  | .short kind negated => f.negate? negated (kind.chars f.unicode)
  | .posix kind negated => f.negate? negated (f.fold kind.chars)
  | .property query negated => do
    if !f.unicode then failure
    let set ← match query with
      | .named name => Unicode.namedSet? name
      | .valued property value => Unicode.valuedSet? property value
    f.negate? negated (f.fold set)

/-- Whether a literal may stand in a class: outside Unicode only ASCII may. -/
def allowsInSet (f : Flags) (l : Literal) : Bool := f.unicode || l.char.toNat < 128

/-- The members of a set as written. -/
def set? (f : Flags) : SetExpr → Option CharSet
  | .none => some []
  | .range a b =>
    if f.allowsInSet a && f.allowsInSet b then some (CharSet.range a.char b.char) else none
  | .named n => f.named? n
  | .union a b => do return (← f.set? a).union (← f.set? b)
  | .bracketed negated inner => do f.negate? negated (f.fold (← f.set? inner))
  | .combined op a b => do
    let left := f.fold (← f.set? a)
    let right := f.fold (← f.set? b)
    return match op with
      | .inter => left.inter right
      | .diff => left.diff right
      | .symmDiff => left.symmDiff right

/-- The pattern of a literal: the character, with its case variants if case is ignored. -/
def literal? (f : Flags) (l : Literal) : Option Pattern :=
  if f.unicode || !l.asByte || l.char.toNat < 128 then
    some (.chars (f.fold (CharSet.singleton l.char)))
  else none

/-- The pattern of the dot. -/
def dot? (f : Flags) : Option Pattern :=
  if !f.unicode then none
  else if f.dotAll then some (.chars CharSet.full)
  else if f.crlf then some (.chars (ofChars [('\n', '\n'), ('\r', '\r')]).compl)
  else some (.chars (CharSet.singleton '\n').compl)

/-- What an assertion tests. -/
def spot (f : Flags) : Assertion → Spot
  | .lineStart => if !f.multiLine then .textStart else if f.crlf then .crlfStart else .lineStart
  | .lineEnd => if !f.multiLine then .textEnd else if f.crlf then .crlfEnd else .lineEnd
  | .textStart => .textStart
  | .textEnd => .textEnd
  | .wordBoundary => .wordBoundary (ShortClass.word.chars f.unicode)
  | .notWordBoundary => .notWordBoundary (ShortClass.word.chars f.unicode)
  | .wordStart => .wordStart (ShortClass.word.chars f.unicode)
  | .wordEnd => .wordEnd (ShortClass.word.chars f.unicode)
  | .wordStartHalf => .wordStartHalf (ShortClass.word.chars f.unicode)
  | .wordEndHalf => .wordEndHalf (ShortClass.word.chars f.unicode)

end Flags

/-- The pattern of a tree under some flags, and the flags for what follows it; nothing if the tree
asks for something that only matches bytes. -/
def Tree.pattern? (f : Flags) : Tree → Option (Pattern × Flags)
  | empty => some (.empty, f)
  | flags change => some (.empty, f.change change)
  | literal l => do return (← f.literal? l, f)
  | dot => do return (← f.dot?, f)
  | assertion a => some (.spot (f.spot a), f)
  | set s => do return (.chars (← f.set? s), f)
  | repeated atLeast atMost inner => do
    let (p, f) ← inner.pattern? f
    return (.repeated atLeast atMost p, f)
  | group captures change inner => do
    let (p, _) ← inner.pattern? (f.change change)
    return (if captures then .group p else p, f)
  | concat a b => do
    let (p, f) ← a.pattern? f
    let (q, f) ← b.pattern? f
    return (.concat p q, f)
  | alternation a b => do
    let (p, f) ← a.pattern? f
    let (q, f) ← b.pattern? f
    return (.either p q, f)

end MediaCatalog.Regex
