import Mathlib.Tactic.SplitIfs
import MediaCatalog.Proofs.Text.Utf8

/-!
# What is lost by reading bytes as text

Bytes that are read as a character are those of the character, so bytes without malformed units are those of
their text. A malformed unit is read as a replacement character, which is also a character of its own; so a text
says which bytes it was read from exactly if it holds no replacement character.

* `lead?_eq_some`, `readTails_eq_some`: the bytes of one character, band by band.
* `units_eq_some_cons`: what is read as a character are its bytes.
* **Main results** (`strict?_eq_some_iff`, `exists_lossy_eq_iff`): bytes that are text are those of their text, and
  other bytes are read as the same text exactly if it holds a replacement character.
-/

namespace MediaCatalog.Text.Utf8

/-! ## One character -/

/-- What the first byte of a character announces: by the number of bytes that follow it. -/
theorem lead?_eq_some {b value tails low high : Nat} (h : lead? b = some ⟨value, tails, low, high⟩) :
    0x80 ≤ low ∧ high ≤ 0xBF ∧
      ((tails = 0 ∧ b = value ∧ value < 0x80) ∨ (tails = 1 ∧ b = value + 0xC0 ∧ 2 ≤ value ∧ value < 32) ∨
        (tails = 2 ∧ b = value + 0xE0 ∧ value < 16 ∧ (value = 0 → 0xA0 ≤ low) ∧ (value = 13 → high ≤ 0x9F)) ∨
        (tails = 3 ∧ b = value + 0xF0 ∧ value < 5 ∧ (value = 0 → 0x90 ≤ low) ∧ (value = 4 → high ≤ 0x8F))) := by
  unfold lead? at h
  split_ifs at h <;> simp only [Option.some.injEq, Lead.mk.injEq] at h <;> omega

/-- A byte that is read after the first one adds six bits. -/
theorem readTails_eq_some {value n low high code : Nat} {bytes rest : List UInt8} (hlow : 0x80 ≤ low) (hhigh : high ≤ 0xBF)
    (h : readTails value (n + 1) low high bytes = (some code, rest)) :
    ∃ bits tail, bits < 64 ∧ low ≤ bits + 128 ∧ bits + 128 ≤ high ∧ bytes = UInt8.ofNat (bits + 128) :: tail ∧
      readTails (value * 64 + bits) n 0x80 0xBF tail = (some code, rest) := by
  cases bytes with
  | nil => cases h
  | cons b tail =>
    rw [readTails] at h
    split at h
    case isTrue hrange =>
      have hbits : b.toNat % 64 + 128 = b.toNat := by omega
      refine ⟨b.toNat % 64, tail, by omega, by omega, by omega, ?_, h⟩
      rw [hbits, UInt8.ofNat_toNat]
    case isFalse => cases h

/-- The bytes of a character with a code point. -/
theorem utf8EncodeChar_ofNat {code : Nat} (h : code.isValidChar) :
    String.utf8EncodeChar (Char.ofNat code) =
      if code ≤ 0x7F then [UInt8.ofNat code]
      else if code ≤ 0x7FF then [UInt8.ofNat (code / 64 % 32 + 192), UInt8.ofNat (code % 64 + 128)]
      else if code ≤ 0xFFFF then
        [UInt8.ofNat (code / 4096 % 16 + 224), UInt8.ofNat (code / 64 % 64 + 128), UInt8.ofNat (code % 64 + 128)]
      else
        [UInt8.ofNat (code / 262144 % 8 + 240), UInt8.ofNat (code / 4096 % 64 + 128), UInt8.ofNat (code / 64 % 64 + 128),
          UInt8.ofNat (code % 64 + 128)] := by
  have hcode : (Char.ofNat code).val.toNat = code := by
    unfold Char.ofNat
    rw [dif_pos h]
    rfl
  unfold String.utf8EncodeChar
  rw [hcode]

/-- A first byte, and what is read after it, are the bytes of the character with the code point that is read. -/
theorem cons_eq_of_readTails {b : UInt8} {value tails low high code : Nat} {bytes rest : List UInt8}
    (hlead : lead? b.toNat = some ⟨value, tails, low, high⟩)
    (hread : readTails value tails low high bytes = (some code, rest)) :
    b :: bytes = String.utf8EncodeChar (Char.ofNat code) ++ rest := by
  have hb : UInt8.ofNat b.toNat = b := UInt8.ofNat_toNat
  obtain ⟨hlow, hhigh, ⟨rfl, hfirst, hvalue⟩ | ⟨rfl, hfirst, hvalue, hvalue'⟩ | ⟨rfl, hfirst, hvalue, hleast, hgreatest⟩ |
    ⟨rfl, hfirst, hvalue, hleast, hgreatest⟩⟩ := lead?_eq_some hlead
  · -- one byte
    rw [readTails] at hread
    cases hread
    rw [utf8EncodeChar_ofNat (.inl (by omega)), if_pos (by omega), ← hfirst, hb]
    rfl
  · -- two bytes
    obtain ⟨x, tail, hx, -, -, rfl, hlast⟩ := readTails_eq_some hlow hhigh hread
    rw [readTails] at hlast
    cases hlast
    have hfirst' : (value * 64 + x) / 64 % 32 + 192 = b.toNat := by omega
    have hsecond : (value * 64 + x) % 64 = x := by omega
    rw [utf8EncodeChar_ofNat (.inl (by omega)), if_neg (by omega), if_pos (by omega), hfirst', hsecond, hb]
    rfl
  · -- three bytes: the second one is restricted below 0x800 and among the surrogates
    obtain ⟨x, tail, hx, hleast', hgreatest', rfl, hmore⟩ := readTails_eq_some hlow hhigh hread
    obtain ⟨y, tail, hy, -, -, rfl, hlast⟩ := readTails_eq_some (Nat.le_refl _) (Nat.le_refl _) hmore
    rw [readTails] at hlast
    cases hlast
    have hvalid : ((value * 64 + x) * 64 + y).isValidChar := by
      unfold Nat.isValidChar
      omega
    have hfirst' : ((value * 64 + x) * 64 + y) / 4096 % 16 + 224 = b.toNat := by omega
    have hsecond : ((value * 64 + x) * 64 + y) / 64 % 64 = x := by omega
    have hthird : ((value * 64 + x) * 64 + y) % 64 = y := by omega
    rw [utf8EncodeChar_ofNat hvalid, if_neg (by omega), if_neg (by omega), if_pos (by omega), hfirst', hsecond,
      hthird, hb]
    rfl
  · -- four bytes: the second one is restricted at both ends
    obtain ⟨x, tail, hx, hleast', hgreatest', rfl, hmore⟩ := readTails_eq_some hlow hhigh hread
    obtain ⟨y, tail, hy, -, -, rfl, hmore'⟩ := readTails_eq_some (Nat.le_refl _) (Nat.le_refl _) hmore
    obtain ⟨z, tail, hz, -, -, rfl, hlast⟩ := readTails_eq_some (Nat.le_refl _) (Nat.le_refl _) hmore'
    rw [readTails] at hlast
    cases hlast
    have hvalid : (((value * 64 + x) * 64 + y) * 64 + z).isValidChar := by
      unfold Nat.isValidChar
      omega
    have hfirst' : (((value * 64 + x) * 64 + y) * 64 + z) / 262144 % 8 + 240 = b.toNat := by omega
    have hsecond : (((value * 64 + x) * 64 + y) * 64 + z) / 4096 % 64 = x := by omega
    have hthird : (((value * 64 + x) * 64 + y) * 64 + z) / 64 % 64 = y := by omega
    have hfourth : (((value * 64 + x) * 64 + y) * 64 + z) % 64 = z := by omega
    rw [utf8EncodeChar_ofNat hvalid, if_neg (by omega), if_neg (by omega), if_neg (by omega), hfirst', hsecond,
      hthird, hfourth, hb]
    rfl

/-- **What is read as a character** are the bytes of the character, before any others. -/
theorem units_eq_some_cons {bytes : List UInt8} {c : Char} {others : List (Option Char)}
    (h : units bytes = some c :: others) : ∃ rest, bytes = String.utf8EncodeChar c ++ rest ∧ units rest = others := by
  cases bytes with
  | nil =>
    rw [units] at h
    cases h
  | cons b tail =>
    rw [units] at h
    cases hlead : lead? b.toNat with
    | none =>
      rw [hlead] at h
      cases h
    | some lead =>
      obtain ⟨value, tails, low, high⟩ := lead
      rw [hlead] at h
      obtain ⟨hunit, hothers⟩ := List.cons.inj h
      obtain ⟨code, hcode, rfl⟩ := Option.map_eq_some_iff.mp hunit
      exact ⟨_, cons_eq_of_readTails hlead (Prod.ext hcode rfl), hothers⟩

/-! ## Texts -/

/-- Bytes that are read as characters only are those of the characters. -/
theorem eq_bytes_of_units {bytes : List UInt8} {chars : List Char} (h : units bytes = chars.map some) :
    bytes = Utf8.bytes (String.ofList chars) := by
  rw [bytes_ofList]
  induction chars generalizing bytes with
  | nil =>
    cases bytes with
    | nil => rfl
    | cons b rest =>
      rw [units] at h
      split at h <;> cases h
  | cons c chars ih =>
    obtain ⟨rest, rfl, hrest⟩ := units_eq_some_cons h
    rw [List.flatMap_cons, ← ih hrest]

/-- Units that are all characters. -/
theorem eq_map_some_of_mapM {found : List (Option Char)} {chars : List Char} (h : found.mapM id = some chars) :
    found = chars.map some := by
  induction found generalizing chars with
  | nil =>
    cases h
    rfl
  | cons unit found ih =>
    rw [List.mapM_cons] at h
    obtain ⟨c, rfl, hrest⟩ := Option.bind_eq_some_iff.mp h
    obtain ⟨rest, hfound, hchars⟩ := Option.bind_eq_some_iff.mp hrest
    cases hchars
    rw [ih hfound, List.map_cons]

/-- **Bytes that are text** are those of their text. -/
theorem strict?_eq_some_iff {bytes : List UInt8} {text : String} : strict? bytes = some text ↔ bytes = Utf8.bytes text := by
  constructor
  · intro h
    obtain ⟨chars, hchars, rfl⟩ := Option.map_eq_some_iff.mp h
    apply eq_bytes_of_units
    exact eq_map_some_of_mapM hchars
  · rintro rfl
    exact strict?_bytes text

/-- A text without a replacement character is read from its bytes only. -/
theorem eq_bytes_of_lossy {bytes : List UInt8} (h : replacement ∉ (lossy bytes).toList) :
    bytes = Utf8.bytes (lossy bytes) := by
  have hunits : units bytes = (lossy bytes).toList.map some := by
    unfold lossy at h ⊢
    rw [String.toList_ofList] at h ⊢
    have hsome : ∀ unit ∈ units bytes, (some ∘ fun unit => unit.getD replacement) unit = id unit := by
      intro unit hunit
      cases unit with
      | none => exact absurd (List.mem_map.mpr ⟨none, hunit, rfl⟩) h
      | some c => rfl
    rw [List.map_map, List.map_congr_left hsome, List.map_id]
  have hbytes := eq_bytes_of_units hunits
  rw [String.ofList_toList] at hbytes
  exact hbytes

/-- A byte that begins no character is one malformed unit. -/
theorem units_malformed (rest : List UInt8) : units (0xFF :: rest) = none :: units rest := by
  rw [units]
  rfl

/-- **Whether other bytes are read as the same text**: exactly if it holds a replacement character. -/
theorem exists_lossy_eq_iff {bytes : List UInt8} :
    (∃ other, other ≠ bytes ∧ lossy other = lossy bytes) ↔ replacement ∈ (lossy bytes).toList := by
  constructor
  · rintro ⟨other, hne, hsame⟩
    by_cases hmem : replacement ∈ (lossy bytes).toList
    · exact hmem
    · have hother := eq_bytes_of_lossy (hsame ▸ hmem)
      rw [hsame, ← eq_bytes_of_lossy hmem] at hother
      exact absurd hother hne
  · intro hmem
    by_cases hbytes : bytes = Utf8.bytes (lossy bytes)
    · -- the character itself stands in the bytes: a malformed unit is read as well
      obtain ⟨before, after, htext⟩ := List.append_of_mem hmem
      have hunits : units (Utf8.bytes (String.ofList before) ++ 0xFF :: Utf8.bytes (String.ofList after)) =
          before.map some ++ none :: after.map some := by
        rw [units_bytes_append, units_malformed, units_bytes, String.toList_ofList, String.toList_ofList]
      refine ⟨Utf8.bytes (String.ofList before) ++ 0xFF :: Utf8.bytes (String.ofList after), ?_, ?_⟩
      · intro heq
        rw [heq, hbytes, units_bytes] at hunits
        have hnone : none ∈ (lossy bytes).toList.map some := hunits ▸ List.mem_append_right _ List.mem_cons_self
        obtain ⟨c, -, hc⟩ := List.mem_map.mp hnone
        cases hc
      · apply String.toList_injective
        rw [htext, lossy, hunits, String.toList_ofList, List.map_append, List.map_cons, map_getD_some, map_getD_some]
        rfl
    · -- there is a malformed unit: the character itself is read as well
      exact ⟨Utf8.bytes (lossy bytes), fun heq => hbytes heq.symm, lossy_bytes _⟩

end MediaCatalog.Text.Utf8
