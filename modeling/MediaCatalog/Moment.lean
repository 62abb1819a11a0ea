import MediaCatalog.Text.Reader
import MediaCatalog.Number.Decimal

/-!
# Moments

A moment is a date, a time of day, or both, perhaps with an offset from universal time.

* `Moment.text`: the written form, with `T` between date and time.
* `Moment.read`: reads a moment; `t` or a blank may stand for `T`, and `z` for `Z`.
-/

namespace MediaCatalog

/-- A day of the calendar. -/
structure Date where
  year : Nat
  month : Nat
  day : Nat
  deriving DecidableEq, Repr

/-- A time of day. -/
structure TimeOfDay where
  hour : Nat
  minute : Nat
  /-- Sixty in a leap second. -/
  second : Nat
  nanosecond : Nat
  deriving DecidableEq, Repr

/-- The offset of a local time from universal time. -/
inductive Offset where
  | universal
  | minutes (ahead : Int)
  deriving DecidableEq, Repr

/-- A date, a time of day, or both. -/
inductive Moment where
  | date (d : Date)
  | time (t : TimeOfDay)
  | both (d : Date) (t : TimeOfDay) (offset : Option Offset)
  deriving DecidableEq, Repr

/-! ### Writing -/

/-- A number with leading zeros up to a number of digits. -/
def padded (width n : Nat) : String :=
  let digits := Nat.toDigits 10 n
  String.ofList (List.replicate (width - digits.length) '0' ++ digits)

namespace Date

/-- The written form of a date. -/
def text (d : Date) : String := padded 4 d.year ++ "-" ++ padded 2 d.month ++ "-" ++ padded 2 d.day

/-- Whether a year has a 29th of February. -/
def isLeap (year : Nat) : Bool := year % 4 == 0 && (year % 100 != 0 || year % 400 == 0)

/-- The number of days in a month. -/
def daysIn (year month : Nat) : Nat :=
  if month = 2 then (if isLeap year then 29 else 28)
  else if [4, 6, 9, 11].contains month then 30
  else 31

end Date

namespace TimeOfDay

/-- The fraction of the second, without zeros at its end. -/
def fraction (t : TimeOfDay) : String :=
  if t.nanosecond = 0 then ""
  else
    let digits := (padded 9 t.nanosecond).toList
    "." ++ String.ofList (digits.reverse.dropWhile (· == '0')).reverse

/-- The written form of a time of day. -/
def text (t : TimeOfDay) : String :=
  padded 2 t.hour ++ ":" ++ padded 2 t.minute ++ ":" ++ padded 2 t.second ++ t.fraction

end TimeOfDay

/-- The written form of an offset. -/
def Offset.text : Offset → String
  | universal => "Z"
  | minutes ahead =>
    let n := ahead.natAbs
    (if ahead < 0 then "-" else "+") ++ padded 2 (n / 60) ++ ":" ++ padded 2 (n % 60)

/-- The written form of a moment. -/
def Moment.text : Moment → String
  | date d => d.text
  | time t => t.text
  | both d t offset => d.text ++ "T" ++ t.text ++ (offset.map Offset.text).getD ""

/-! ### Reading -/

namespace Moment

open Text

/-- A number of exactly some digits within bounds. -/
def number (digits low high : Nat) : Reader Nat := do
  match Number.digitsValue? (← Reader.count Char.isDigit digits) with
  | some n => if low ≤ n ∧ n ≤ high then return n else failure
  | none => failure

/-- Reads a date. -/
def readDate : Reader Date := do
  let year ← number 4 0 9999
  Reader.exactly "-"
  let month ← number 2 1 12
  Reader.exactly "-"
  let day ← number 2 1 (Date.daysIn year month)
  return ⟨year, month, day⟩

/-- The digits after a point, as nanoseconds; further digits are dropped. -/
def readFraction : Reader Nat := do
  Reader.exactly "."
  let digits ← Reader.takeSome Char.isDigit
  let kept := digits.take 9
  match Number.digitsValue? (kept ++ List.replicate (9 - kept.length) '0') with
  | some n => return n
  | none => failure

/-- Reads a time of day. -/
def readTime : Reader TimeOfDay := do
  let hour ← number 2 0 23
  Reader.exactly ":"
  let minute ← number 2 0 59
  Reader.exactly ":"
  let second ← number 2 0 60
  let fraction ← if (← Reader.peek) == some '.' then readFraction else pure 0
  return ⟨hour, minute, second, fraction⟩

/-- Reads an offset, of which universal time has a letter. -/
def readOffset : Reader Offset := do
  let c ← Reader.one fun c => c == 'Z' || c == 'z' || c == '+' || c == '-'
  if c == 'Z' || c == 'z' then return .universal
  else
    let hour ← number 2 0 23
    Reader.exactly ":"
    let minute ← number 2 0 59
    let n : Int := hour * 60 + minute
    return .minutes (if c == '-' then -n else n)

/-- Whether a text can only go on as a moment: a year and a hyphen, or an hour and a colon. -/
def begins (text : List Char) : Bool :=
  let digits := text.takeWhile Char.isDigit
  let next := (text.drop digits.length).head?
  (digits.length == 4 && next == some '-') || (digits.length == 2 && next == some ':')

/-- The time and offset after a date, unless what follows is no time. -/
def readTimeAfter : Reader (Option (TimeOfDay × Option Offset)) := do
  let text ← get
  let separated := match text with
    | c :: rest => (c == 'T' || c == 't' || c == ' ') && begins rest
    | [] => false
  if separated then
    set (text.drop 1)
    let t ← readTime
    let signed := match ← Reader.peek with
      | some c => c == 'Z' || c == 'z' || c == '+' || c == '-'
      | none => false
    return some (t, ← if signed then some <$> readOffset else pure none)
  else return none

/-- Reads a moment. -/
def read : Reader Moment := do
  let text ← get
  if (text.takeWhile Char.isDigit).length = 2 then return .time (← readTime)
  else
    let d ← readDate
    match ← readTimeAfter with
    | none => return .date d
    | some (t, offset) => return .both d t offset

end Moment

end MediaCatalog
