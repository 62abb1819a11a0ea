import MediaCatalog.Number.Decimal

/-!
# Binary floating-point numbers of 64 bits

A `Binary64` is kept as its sign and the other 63 bits, read as a number: larger magnitudes denote
larger absolute values, then comes infinity, then what is not a number.

* `Binary64.ofRatio`: the nearest such number to a quotient, ties to the even one.
* `Binary64.ofText?`: reads decimal text, exactly rounded.
* `Binary64.rank`: a position in the total order, from the negative non-numbers over the negative
  and positive numbers to the positive non-numbers; negative zero precedes zero.
-/

namespace MediaCatalog.Number

/-- A floating-point number of 64 bits. -/
structure Binary64 where
  negative : Bool
  /-- The bits below the sign. -/
  magnitude : Nat
  deriving DecidableEq, Repr

namespace Binary64

/-- Positive zero. -/
def zero : Binary64 := ⟨false, 0⟩

/-- The bit above the stored part of the factor of a normal number. -/
def hiddenBit : Nat := 0x10000000000000

/-- The magnitude of infinity. -/
def infinite : Nat := 0x7FF * hiddenBit

/-- The magnitude of what is not a number. -/
def notNumber : Nat := infinite + hiddenBit / 2

/-- The quotient of two numbers, rounded to the nearest whole number, a half to the even one. -/
def roundHalfEven (num den : Nat) : Nat :=
  let q := num / den
  let r := num % den
  if 2 * r < den then q
  else if den < 2 * r then q + 1
  else if q % 2 = 0 then q else q + 1

/-- The exponent of the binary digit before which a positive quotient starts: the largest `e` with
`2 ^ e ≤ num / den`. -/
def leadingExponent (num den : Nat) : Int :=
  let e : Int := (num.log2 : Int) - den.log2
  let reached := if e ≥ 0 then den * Nat.pow 2 e.toNat ≤ num else den ≤ num * Nat.pow 2 (-e).toNat
  if reached then e else e - 1

/-- The magnitude nearest to a quotient with a positive denominator, ties to the even one. -/
def ofRatio (num den : Nat) : Nat :=
  if num = 0 then 0
  else
    let q := max (leadingExponent num den - 52) (-1074)
    let m := if q ≥ 0 then roundHalfEven num (den * Nat.pow 2 q.toNat)
      else roundHalfEven (num * Nat.pow 2 (-q).toNat) den
    min infinite ((q + 1074).toNat * hiddenBit + m)

/-- The magnitude nearest to a number times a power of ten. Far beyond the range of the format the
power need not be computed. -/
def ofScaled (digits : Nat) (exponent : Int) : Nat :=
  if digits = 0 then 0
  else
    let size : Int := ((Nat.toDigits 10 digits).length : Int) + exponent
    if size > 310 then infinite
    else if size < -330 then 0
    else if exponent ≥ 0 then ofRatio (digits * Nat.pow 10 exponent.toNat) 1
    else ofRatio digits (Nat.pow 10 (-exponent).toNat)

/-- The magnitude of an unsigned decimal number: digits, a point and digits, an exponent. Either
run of digits may be empty, but not both. -/
def decimal? (text : List Char) : Option Nat := do
  let whole := text.takeWhile Char.isDigit
  let rest := text.dropWhile Char.isDigit
  let (fraction, rest) := match rest with
    | '.' :: rest => (rest.takeWhile Char.isDigit, rest.dropWhile Char.isDigit)
    | rest => ([], rest)
  if whole.isEmpty && fraction.isEmpty then none
  let exponent ← match rest with
    | [] => some 0
    | c :: rest =>
      if c == 'e' || c == 'E' then
        match rest with
        | '-' :: digits => if digits.isEmpty then none else (digitsValue? digits).map fun n => -(n : Int)
        | '+' :: digits => if digits.isEmpty then none else (digitsValue? digits).map fun n => (n : Int)
        | digits => if digits.isEmpty then none else (digitsValue? digits).map fun n => (n : Int)
      else none
  return ofScaled (← digitsValue? (whole ++ fraction)) (exponent - fraction.length)

/-- The magnitude of an unsigned number as text; infinity and non-numbers are written as words in
any case. -/
def magnitude? (text : List Char) : Option Nat :=
  match decimal? text with
  | some n => some n
  | none =>
    let word := String.ofList (text.map Char.toLower)
    if word = "inf" || word = "infinity" then some infinite
    else if word = "nan" then some notNumber
    else none

/-- The number that a text denotes. -/
def ofText? : List Char → Option Binary64
  | '-' :: rest => (magnitude? rest).map (⟨true, ·⟩)
  | '+' :: rest => (magnitude? rest).map (⟨false, ·⟩)
  | text => (magnitude? text).map (⟨false, ·⟩)

/-- The position of a number in the total order. -/
def rank (x : Binary64) : Int := if x.negative then -(x.magnitude : Int) - 1 else x.magnitude

end Binary64

end MediaCatalog.Number
