import MediaCatalog.Text.Blank
import MediaCatalog.Text.Hex

/-!
# Sets of characters

A set of characters is a list of ranges of code points. Lists made by `CharSet.ofRanges` ascend,
and neither overlap nor touch; the operations below keep that form. Surrogates are in no set, as
they are no characters.
-/

namespace MediaCatalog.Unicode

/-- A set of characters, as ranges of code points with both ends included. -/
abbrev CharSet := List (Nat × Nat)

namespace CharSet

/-- Joins ascending ranges that overlap or touch. -/
def join : List (Nat × Nat) → List (Nat × Nat)
  | [] => []
  | [r] => [r]
  | (a, b) :: (c, d) :: rest =>
    if c ≤ b + 1 then join ((a, max b d) :: rest) else (a, b) :: join ((c, d) :: rest)
  termination_by ranges => ranges.length

/-- The set made of some ranges, in any order. -/
def ofRanges (ranges : List (Nat × Nat)) : CharSet :=
  join (ranges.mergeSort fun a b => a.1 < b.1 || (a.1 == b.1 && a.2 ≤ b.2))

/-- The set of one character. -/
def singleton (c : Char) : CharSet := [(c.toNat, c.toNat)]

/-- The characters from one to another, both included. -/
def range (a b : Char) : CharSet := [(a.toNat, b.toNat)]

/-- Whether a code point is in the set. -/
def containsNat : CharSet → Nat → Bool
  | [], _ => false
  | (a, b) :: rest, n => if n < a then false else n ≤ b || containsNat rest n

/-- Whether a character is in the set. -/
def contains (s : CharSet) (c : Char) : Bool := s.containsNat c.toNat

/-- All characters: every code point but the surrogates. -/
def full : CharSet := [(0, 0xD7FF), (0xE000, 0x10FFFF)]

/-- The characters in one of two sets. -/
def union (s t : CharSet) : CharSet := ofRanges (s ++ t)

/-- The part of a set inside a range. -/
def clip (s : CharSet) (a b : Nat) : CharSet :=
  s.filterMap fun (c, d) => if max a c ≤ min b d then some (max a c, min b d) else none

/-- The characters in both of two sets. -/
def inter (s t : CharSet) : CharSet := ofRanges (t.flatMap fun (a, b) => s.clip a b)

/-- The code points between consecutive ranges, from `start` up to `stop`. -/
def gaps (start stop : Nat) : CharSet → CharSet
  | [] => if start ≤ stop then [(start, stop)] else []
  | (a, b) :: rest => (if start < a then [(start, a - 1)] else []) ++ gaps (b + 1) stop rest

/-- The characters outside a set. -/
def compl (s : CharSet) : CharSet := (gaps 0 0x10FFFF s).inter full

/-- The characters of the first set outside the second. -/
def diff (s t : CharSet) : CharSet := s.inter t.compl

/-- The characters in exactly one of two sets. -/
def symmDiff (s t : CharSet) : CharSet := (s.diff t).union (t.diff s)

/-- The set in a compact notation: for each range, the distance from the end of the one before it,
and after a `+` how many characters follow the first, all in hexadecimal. -/
def ofChars (text : List Char) : CharSet :=
  let step := fun (acc : List (Nat × Nat) × Nat) (item : List Char) =>
    let (gap, more) := (item.takeWhile (· ≠ '+'), (item.dropWhile (· ≠ '+')).drop 1)
    let first := acc.2 + (Text.hexNat? gap).getD 0
    let last := first + (Text.hexNat? more).getD 0
    ((first, last) :: acc.1, last + 1)
  ((Text.runs Text.isBlank text).foldl step ([], 0)).1.reverse

/-- The set that a text stands for. -/
def ofText (text : String) : CharSet := ofChars text.toList

end CharSet

end MediaCatalog.Unicode
