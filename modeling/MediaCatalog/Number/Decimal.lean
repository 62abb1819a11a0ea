/-!
# Decimal numbers as text

* `digitsValue?`: the number that a run of decimal digits denotes.
* `word64?`: an unsigned 64-bit number with an optional plus sign.
-/

namespace MediaCatalog.Number

/-- The value of a decimal digit. -/
def digitValue? (c : Char) : Option Nat :=
  if c.isDigit then some (c.toNat - 48) else none

/-- The number that a run of decimal digits denotes, zero for the empty run; nothing if another
character occurs. -/
def digitsValue? (digits : List Char) : Option Nat :=
  digits.foldl (fun acc c => do return (← acc) * 10 + (← digitValue? c)) (some 0)

/-- The largest unsigned 64-bit number. -/
def maxWord64 : Nat := 0xFFFFFFFFFFFFFFFF

/-- The number of negative numbers of 64 bits with a sign; the other numbers are below it. -/
def signedBound64 : Nat := 0x8000000000000000

/-- The unsigned 64-bit number that a text denotes: decimal digits, at least one, after an optional
plus sign. -/
def word64? (text : List Char) : Option Nat := do
  let digits := match text with
    | '+' :: rest => rest
    | rest => rest
  if digits.isEmpty then none
  let n ← digitsValue? digits
  if n ≤ maxWord64 then some n else none

end MediaCatalog.Number
