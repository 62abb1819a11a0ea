import MediaCatalog.Number.Binary64

/-!
# The shortest decimal text of a floating-point number

Of all decimal numbers that round to a given number, the text is one with the fewest digits, and of
those the nearest. It is written without an exponent.

* `shortestDigits`: the digits and the power of ten.
* `Binary64.text`: the text in positional notation.
-/

namespace MediaCatalog.Number

namespace Binary64

/-- The whole factor and the power of two of a finite magnitude. -/
def parts (magnitude : Nat) : Nat × Int :=
  let e : Nat := magnitude / hiddenBit
  let f : Nat := magnitude % hiddenBit
  if e = 0 then (f, -1074) else (hiddenBit + f, (e : Int) - 1075)

/-- A positive rational number. -/
structure Ratio where
  num : Nat
  den : Nat

/-- A power of a base, as a ratio. -/
def power (base : Nat) (exponent : Int) : Ratio :=
  if exponent ≥ 0 then ⟨Nat.pow base exponent.toNat, 1⟩ else ⟨1, Nat.pow base (-exponent).toNat⟩

namespace Ratio

/-- Whether a ratio is at most another one. -/
def le (x y : Ratio) : Bool := x.num * y.den ≤ y.num * x.den

/-- Whether a ratio is less than another one. -/
def lt (x y : Ratio) : Bool := x.num * y.den < y.num * x.den

/-- The product of two ratios. -/
def mul (x y : Ratio) : Ratio := ⟨x.num * y.num, x.den * y.den⟩

/-- A multiple of a ratio. -/
def scale (n : Nat) (x : Ratio) : Ratio := ⟨n * x.num, x.den⟩

end Ratio

/-- The numbers that round to a magnitude: those between two bounds, which count themselves if the
factor is even. -/
structure Interval where
  low : Ratio
  high : Ratio
  closed : Bool

/-- The numbers that round to a finite positive magnitude. Below a power of two the next number is
half as far. -/
def interval (magnitude : Nat) : Interval :=
  let (m, q) := parts magnitude
  let unit := power 2 (q - 2)
  let below := if m = hiddenBit && q > -1074 then 1 else 2
  ⟨.scale (4 * m - below) unit, .scale (4 * m + 2) unit, m % 2 = 0⟩

/-- Whether a ratio rounds to the magnitude of an interval. -/
def Interval.contains (i : Interval) (x : Ratio) : Bool :=
  if i.closed then i.low.le x && x.le i.high else i.low.lt x && x.lt i.high

/-- The least power of ten above a number, counted up from `k`. -/
def powerAbove (x : Ratio) : Nat → Int → Int
  | 0, k => k
  | fuel + 1, k => if x.lt (power 10 k) then k else powerAbove x fuel (k + 1)

/-- More than the number of powers of ten in the range of the format. -/
def powersInRange : Nat := 700

/-- The multiple of a power of ten that lies in the interval, the nearer one to `x` if two do. -/
def candidate? (x : Ratio) (i : Interval) (p : Int) : Option (Nat × Int) :=
  let grid := power 10 p
  let quotient := x.mul ⟨grid.den, grid.num⟩
  let c := quotient.num / quotient.den
  let rest := quotient.num % quotient.den
  match i.contains (.scale c grid), i.contains (.scale (c + 1) grid) with
  | true, true =>
    if 2 * rest < quotient.den || (2 * rest == quotient.den && c % 2 == 0) then some (c, p)
    else some (c + 1, p)
  | true, false => some (c, p)
  | false, true => some (c + 1, p)
  | false, false => none

/-- The digits `c` with the fewest places, and the power `p`, such that `c · 10 ^ p` rounds to a
finite positive magnitude. -/
def shortestDigits (magnitude : Nat) : Nat × Int :=
  let (m, q) := parts magnitude
  let x := Ratio.scale m (power 2 q)
  let size := powerAbove x powersInRange (-330)
  ((List.range 17).findSome? fun (n : Nat) =>
    candidate? x (interval magnitude) (size - (n : Int) - 1)).getD (m, 0)

/-- A number times a power of ten in positional notation; a point only if there is a fraction. -/
def positional (digits : Nat) (p : Int) : String :=
  if p ≥ 0 then toString (digits * Nat.pow 10 p.toNat)
  else
    let places := (-p).toNat
    let unit := Nat.pow 10 places
    let whole := digits / unit
    let fraction := Nat.toDigits 10 (digits % unit)
    let padded := List.replicate (places - fraction.length) '0' ++ fraction
    let kept := (padded.reverse.dropWhile (· == '0')).reverse
    toString whole ++ (if kept.isEmpty then "" else "." ++ String.ofList kept)

/-- Whether a finite number is whole; infinity and non-numbers do not count as whole. -/
def isWhole (x : Binary64) : Bool :=
  let (m, q) := parts x.magnitude
  x.magnitude < infinite && (q ≥ 0 || m % Nat.pow 2 (-q).toNat == 0)

/-- The text of a number. -/
def text (x : Binary64) : String :=
  let body :=
    if x.magnitude > infinite then "nan"
    else if x.magnitude = infinite then "inf"
    else if x.magnitude = 0 then "0"
    else
      let (digits, p) := shortestDigits x.magnitude
      positional digits p
  if x.negative then "-" ++ body else body

end Binary64

end MediaCatalog.Number
