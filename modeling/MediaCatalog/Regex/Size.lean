import MediaCatalog.Regex.Pattern

/-!
# The size of patterns

An expression is refused if its automaton over UTF-8 bytes would take more than ten mebibytes. The
automaton reads texts backwards, so it is the prefixes of byte sequences that its classes cannot
share; a state takes 32 bytes, an edge out of a branching state four or eight. Repetition with
bounds copies what is repeated.
-/

namespace MediaCatalog.Regex

open Unicode (CharSet)

/-- A sequence of byte ranges: the first byte of a character, then the others. -/
abbrev ByteRanges := List (Nat × Nat)

/-- The byte sequences of the characters from `lo` to `hi`, written with a first byte of at least
`base` and `more` further bytes of six bits each. -/
def byteRanges (base : Nat) : Nat → Nat → Nat → List ByteRanges
  | 0, lo, hi => [[(base + lo, base + hi)]]
  | more + 1, lo, hi =>
    let unit := Nat.pow 64 (more + 1)
    let (l, h) := (lo / unit, hi / unit)
    let under := fun top a b => (byteRanges 0x80 more a b).map ((base + top, base + top) :: ·)
    if l = h then under l (lo % unit) (hi % unit)
    else
      let startsWhole := lo % unit = 0
      let endsWhole := hi % unit = unit - 1
      let l' := if startsWhole then l else l + 1
      let h' := if endsWhole then h + 1 else h
      (if startsWhole then [] else under l (lo % unit) (unit - 1)) ++
        (if l' < h' then [(base + l', base + h' - 1) :: List.replicate (more + 1) (0x80, 0xBF)]
          else []) ++
        (if endsWhole then [] else under h 0 (hi % unit))

/-- The byte sequences of a set of characters, in ascending order. -/
def setByteRanges (s : CharSet) : List ByteRanges :=
  s.flatMap fun (a, b) =>
    let part := fun base more first last =>
      if max a first ≤ min b last then byteRanges base more (max a first) (min b last) else []
    part 0 0 0 0x7F ++ part 0xC0 1 0x80 0x7FF ++ part 0xE0 2 0x800 0xFFFF ++
      part 0xF0 3 0x10000 0x10FFFF

/-- The length of the common start of two lists. -/
def commonLength : ByteRanges → ByteRanges → Nat
  | a :: as, b :: bs => if a = b then commonLength as bs + 1 else 0
  | _, _ => 0

/-- The number of different non-empty prefixes of ascending sequences. -/
def prefixCount (previous : ByteRanges) : List ByteRanges → Nat
  | [] => 0
  | s :: rest => s.length - commonLength previous s + prefixCount s rest

/-- The bytes that one state takes. -/
def stateSize : Nat := 32

/-- The bytes that a class takes. -/
def charsSize (s : CharSet) : Nat :=
  match s with
  | [] => stateSize
  | [(a, b)] =>
    if a = b then stateSize * (if a < 0x80 then 1 else if a < 0x800 then 2 else if a < 0x10000 then 3 else 4)
    else general s
  | s => general s
where
  /-- The size of a class of more than one character. -/
  general (s : CharSet) : Nat :=
    let sequences := setByteRanges s
    if s.all (·.2 < 0x80) then 2 * stateSize + 8 * s.length
    else 2 * stateSize + 4 * sequences.length + stateSize * prefixCount [] sequences

/-- The bytes that a pattern takes. -/
def Pattern.size : Pattern → Nat
  | empty => stateSize
  | chars set => charsSize set
  | spot _ => stateSize
  | concat a b => a.size + b.size
  | either a b => a.size + b.size + 2 * stateSize + 8
  | repeated atLeast none inner => max 1 atLeast * inner.size + stateSize + 8
  | repeated atLeast (some atMost) inner =>
    if atLeast = atMost then max stateSize (atLeast * inner.size)
    else atMost * inner.size + (atMost - atLeast) * (stateSize + 8) + stateSize
  | group inner => inner.size + 2 * stateSize

/-- The largest size that is accepted. -/
def sizeLimit : Nat := 10 * 0x100000

end MediaCatalog.Regex
