import MediaCatalog.Unicode.CharSet
import MediaCatalog.Unicode.Word

/-!
# Patterns and matching

A `Pattern` is a regular expression whose classes are plain sets of characters and whose assertions
are tests of a position. Matching works on sets of positions: `Pattern.advance` gives the positions
that a pattern can reach from a set of positions, so every way to match is followed at once and no
choice is ever taken back.

* `Spot.holds`: what each assertion tests.
* `Pattern.advance`: the reachable positions.
* `Pattern.isMatch`: whether the pattern matches somewhere in a text.
-/

namespace MediaCatalog.Regex

open Unicode (CharSet)

/-- A test of a position between two characters. -/
inductive Spot where
  /-- The start of the text. -/
  | textStart
  /-- The end of the text. -/
  | textEnd
  /-- After a line feed, or at the start. -/
  | lineStart
  /-- Before a line feed, or at the end. -/
  | lineEnd
  /-- After a line end of any kind, or at the start. -/
  | crlfStart
  /-- Before a line end of any kind, or at the end. -/
  | crlfEnd
  /-- Between a word character and none. -/
  | wordBoundary (word : CharSet)
  /-- Between two word characters or two others. -/
  | notWordBoundary (word : CharSet)
  /-- Before the first character of a word. -/
  | wordStart (word : CharSet)
  /-- After the last character of a word. -/
  | wordEnd (word : CharSet)
  /-- Not after a word character. -/
  | wordStartHalf (word : CharSet)
  /-- Not before a word character. -/
  | wordEndHalf (word : CharSet)

/-- Whether a neighbouring character exists and is in a set. -/
def neighbourIn (set : CharSet) (c : Option Char) : Bool := c.any set.contains

/-- Whether the test holds between the characters before and after a position. -/
def Spot.holds (before after : Option Char) : Spot → Bool
  | textStart => before.isNone
  | textEnd => after.isNone
  | lineStart => before.all (· == '\n')
  | lineEnd => after.all (· == '\n')
  | crlfStart => before.isNone || before == some '\n' || (before == some '\r' && after != some '\n')
  | crlfEnd => after.isNone || after == some '\r' || (after == some '\n' && before != some '\r')
  | wordBoundary w => neighbourIn w before != neighbourIn w after
  | notWordBoundary w => neighbourIn w before == neighbourIn w after
  | wordStart w => !neighbourIn w before && neighbourIn w after
  | wordEnd w => neighbourIn w before && !neighbourIn w after
  | wordStartHalf w => !neighbourIn w before
  | wordEndHalf w => !neighbourIn w after

/-- A regular expression over sets of characters. -/
inductive Pattern where
  /-- The empty text. -/
  | empty
  /-- One character of a set. -/
  | chars (set : CharSet)
  /-- A test of the position. -/
  | spot (test : Spot)
  /-- One pattern after another. -/
  | concat (a b : Pattern)
  /-- One pattern or another. -/
  | either (a b : Pattern)
  /-- A pattern repeated at least and at most some number of times. -/
  | repeated (atLeast : Nat) (atMost : Option Nat) (inner : Pattern)
  /-- A pattern whose match is numbered; it matches as the pattern does. -/
  | group (inner : Pattern)

/-- A set of positions in a text: entry `i` says whether the position before character `i` is in
the set. -/
abbrev Positions := Array Bool

/-- The positions in one of two sets. -/
def Positions.union (s t : Positions) : Positions := s.zipWith (· || ·) t

/-- Repeats a step exactly `n` times; a set that a step leaves as it is stays so. -/
def iterate (step : Positions → Positions) : Nat → Positions → Positions
  | 0, s => s
  | n + 1, s =>
    let next := step s
    if next = s then s else iterate step n next

/-- Adds what up to `n` further steps reach; stops when a step adds nothing. -/
def close (step : Positions → Positions) : Nat → Positions → Positions
  | 0, s => s
  | n + 1, s =>
    let next := s.union (step s)
    if next = s then s else close step n next

namespace Pattern

/-- The positions that the pattern can reach from those of a set. -/
def advance (text : Array Char) : Pattern → Positions → Positions
  | empty, s => s
  | chars set, s =>
    Array.ofFn (n := text.size + 1) fun j =>
      match j.val with
      | 0 => false
      | i + 1 => s.getD i false && text[i]?.any set.contains
  | spot test, s =>
    Array.ofFn (n := text.size + 1) fun j =>
      s.getD j.val false && test.holds (if j.val = 0 then none else text[j.val - 1]?) text[j.val]?
  | concat a b, s => b.advance text (a.advance text s)
  | either a b, s => (a.advance text s).union (b.advance text s)
  | repeated atLeast atMost inner, s =>
    let first := iterate (inner.advance text) atLeast s
    let more := match atMost with
      | some n => n - atLeast
      | none => text.size + 2
    close (inner.advance text) more first
  | group inner, s => inner.advance text s

/-- Whether the pattern matches some part of a text. -/
def isMatch (p : Pattern) (text : String) : Bool :=
  let chars := text.toList.toArray
  (p.advance chars (Array.replicate (chars.size + 1) true)).any id

/-- Whether the pattern matches a whole text. -/
def matchesWhole (p : Pattern) (text : String) : Bool :=
  let chars := text.toList.toArray
  let start := Array.ofFn (n := chars.size + 1) fun i => i.val == 0
  (p.advance chars start).getD chars.size false

/-- The patterns of a list one after another. -/
def concatAll : List Pattern → Pattern
  | [] => empty
  | [p] => p
  | p :: rest => concat p (concatAll rest)

/-- One of the patterns of a list; no text at all for the empty list. -/
def eitherAll : List Pattern → Pattern
  | [] => chars []
  | [p] => p
  | p :: rest => either p (eitherAll rest)

end Pattern

end MediaCatalog.Regex
