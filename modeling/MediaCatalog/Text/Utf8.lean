/-!
# UTF-8

Bytes read as UTF-8 text. Where bytes are no text, the longest run that could have begun a
character is one malformed unit.

* `units`: the characters and malformed units of bytes, in order.
* `lossy`: the text in which each malformed unit is a replacement character.
* `strict?`: the text of bytes without malformed units.
-/

namespace MediaCatalog.Text.Utf8

/-- What the first byte of a character announces. -/
structure Lead where
  /-- The part of the code point in the first byte. -/
  value : Nat
  /-- The number of bytes that follow. -/
  tails : Nat
  /-- The least and greatest value of the second byte. -/
  low : Nat
  high : Nat

/-- What a byte announces as the first of a character. -/
def lead? (b : Nat) : Option Lead :=
  if b < 0x80 then some ⟨b, 0, 0x80, 0xBF⟩
  else if 0xC2 ≤ b ∧ b ≤ 0xDF then some ⟨b - 0xC0, 1, 0x80, 0xBF⟩
  else if b = 0xE0 then some ⟨0, 2, 0xA0, 0xBF⟩
  else if b = 0xED then some ⟨13, 2, 0x80, 0x9F⟩
  else if 0xE1 ≤ b ∧ b ≤ 0xEF then some ⟨b - 0xE0, 2, 0x80, 0xBF⟩
  else if b = 0xF0 then some ⟨0, 3, 0x90, 0xBF⟩
  else if 0xF1 ≤ b ∧ b ≤ 0xF3 then some ⟨b - 0xF0, 3, 0x80, 0xBF⟩
  else if b = 0xF4 then some ⟨4, 3, 0x80, 0x8F⟩
  else none

/-- Reads the bytes that follow the first one of a character: its code point, or nothing where a
byte is missing, and the bytes left. -/
def readTails (value : Nat) : Nat → Nat → Nat → List UInt8 → Option Nat × List UInt8
  | 0, _, _, rest => (some value, rest)
  | _ + 1, _, _, [] => (none, [])
  | n + 1, low, high, b :: rest =>
    if low ≤ b.toNat ∧ b.toNat ≤ high then readTails (value * 64 + b.toNat % 64) n 0x80 0xBF rest
    else (none, b :: rest)

/-- The bytes that are left are no more than there were. -/
theorem readTails_length_le (value n low high : Nat) (bytes : List UInt8) :
    (readTails value n low high bytes).2.length ≤ bytes.length := by
  fun_induction readTails value n low high bytes with
  | case1 => exact Nat.le_refl _
  | case2 => exact Nat.le_refl _
  | case3 value n low high b rest _ ih => exact Nat.le_succ_of_le ih
  | case4 => exact Nat.le_refl _

/-- The characters and malformed units of bytes, in order; `none` is a malformed unit. -/
def units : List UInt8 → List (Option Char)
  | [] => []
  | b :: rest =>
    match lead? b.toNat with
    | none => none :: units rest
    | some ⟨value, tails, low, high⟩ =>
      (readTails value tails low high rest).1.map Char.ofNat ::
        units (readTails value tails low high rest).2
  termination_by bytes => bytes.length
  decreasing_by
    · simp
    · have := readTails_length_le value tails low high rest
      simp only [List.length_cons]
      omega

/-- What stands for a malformed unit. -/
def replacement : Char := '\uFFFD'

/-- The text in which each malformed unit is a replacement character. -/
def lossy (bytes : List UInt8) : String :=
  String.ofList ((units bytes).map fun unit => unit.getD replacement)

/-- The text of bytes without malformed units. -/
def strict? (bytes : List UInt8) : Option String := ((units bytes).mapM id).map String.ofList

/-- The bytes of a text. -/
def bytes (text : String) : List UInt8 := text.toUTF8.toList

end MediaCatalog.Text.Utf8
