import MediaCatalog.Text.Utf8

/-!
# Reading what was written as UTF-8

A text is read back from its bytes, character by character. The four forms of a character are told
apart by its first byte, and in two of the bands of that byte the second one is restricted.

* `units_of_lead`: one character is read, once its first byte and the others are known.
* `units_utf8EncodeChar`: a character is read back before any bytes that follow it.
* **Main results** (`lossy_bytes`, `strict?_bytes`): a text is read back from its bytes.
-/

namespace MediaCatalog.Text.Utf8

/-! ## Bytes as a list -/

/-- What is left of a list of bytes after a number of steps stands behind what was collected. -/
theorem toList_loop (data : ByteArray) (i : Nat) (collected : List UInt8) :
    ByteArray.toList.loop data i collected = collected.reverse ++ data.data.toList.drop i := by
  fun_induction ByteArray.toList.loop data i collected with
  | case1 i collected hlt ih =>
    have hi : i < data.data.toList.length := by simpa using hlt
    rw [ih, List.drop_eq_getElem_cons hi]
    simp [ByteArray.get!, hlt]
  | case2 i collected hle =>
    rw [List.drop_eq_nil_of_le (by simpa using Nat.le_of_not_lt hle)]
    simp

/-- The bytes of a text are those of its characters. -/
theorem bytes_ofList (chars : List Char) : bytes (String.ofList chars) = chars.flatMap String.utf8EncodeChar := by
  unfold bytes ByteArray.toList
  rw [toList_loop, String.toUTF8_eq_toByteArray, String.toByteArray_ofList, List.utf8Encode,
    List.toList_data_toByteArray]
  rfl

/-! ## One character -/

/-- A byte that follows the first one adds six bits. -/
theorem readTails_cons {value n low high bits : Nat} (hlow : low ≤ bits + 128) (hhigh : bits + 128 ≤ high)
    (hbits : bits < 64) (rest : List UInt8) :
    readTails value (n + 1) low high (UInt8.ofNat (bits + 128) :: rest) =
      readTails (value * 64 + bits) n 0x80 0xBF rest := by
  have hbyte : (UInt8.ofNat (bits + 128)).toNat = bits + 128 := by
    rw [UInt8.toNat_ofNat']
    omega
  rw [readTails, hbyte, if_pos ⟨hlow, hhigh⟩]
  congr 2
  omega

/-- A character is read, if the first byte announces what the others are. -/
theorem units_of_lead {first code value tails low high : Nat} {rest rest' : List UInt8} (hfirst : first < 256)
    (hlead : lead? first = some ⟨value, tails, low, high⟩)
    (htails : readTails value tails low high rest = (some code, rest')) :
    units (UInt8.ofNat first :: rest) = some (Char.ofNat code) :: units rest' := by
  have hbyte : (UInt8.ofNat first).toNat = first := by
    rw [UInt8.toNat_ofNat']
    omega
  rw [units, hbyte, hlead]
  simp only [htails]
  rfl

/-- What the first byte of three announces. -/
theorem lead_of_three {n : Nat} (h : n < 16) :
    lead? (n + 224) = some ⟨n, 2, if n = 0 then 0xA0 else 0x80, if n = 13 then 0x9F else 0xBF⟩ := by
  by_cases hzero : n = 0
  · subst hzero
    rfl
  · by_cases hsurrogates : n = 13
    · subst hsurrogates
      rfl
    · unfold lead?
      rw [if_neg (by omega), if_neg (by omega), if_neg (by omega), if_neg (by omega), if_pos (by omega), if_neg hzero,
        if_neg hsurrogates, Nat.add_sub_cancel]

/-- What the first byte of four announces. -/
theorem lead_of_four {n : Nat} (h : n ≤ 4) :
    lead? (n + 240) = some ⟨n, 3, if n = 0 then 0x90 else 0x80, if n = 4 then 0x8F else 0xBF⟩ := by
  by_cases hzero : n = 0
  · subst hzero
    rfl
  · by_cases hlast : n = 4
    · subst hlast
      rfl
    · unfold lead?
      rw [if_neg (by omega), if_neg (by omega), if_neg (by omega), if_neg (by omega), if_neg (by omega),
        if_neg (by omega), if_pos (by omega), if_neg hzero, if_neg hlast, Nat.add_sub_cancel]

/-- **A character is read back**, whatever follows it. -/
theorem units_utf8EncodeChar (c : Char) (rest : List UInt8) :
    units (String.utf8EncodeChar c ++ rest) = some c :: units rest := by
  have hchar : Char.ofNat c.val.toNat = c := Char.ofNat_toNat c
  have hvalid : c.val.toNat < 0xD800 ∨ 0xDFFF < c.val.toNat ∧ c.val.toNat < 0x110000 := c.valid
  unfold String.utf8EncodeChar
  generalize c.val.toNat = v at hchar hvalid
  by_cases hone : v ≤ 127
  · -- one byte
    simp only [hone, if_true]
    have hlead : lead? v = some ⟨v, 0, 0x80, 0xBF⟩ := by
      unfold lead?
      rw [if_pos (by omega)]
    rw [← hchar]
    exact units_of_lead (by omega) hlead rfl
  · by_cases htwo : v ≤ 2047
    · -- two bytes
      simp only [hone, htwo, if_false, if_true]
      have hlead : lead? (v / 64 % 32 + 192) = some ⟨v / 64, 1, 0x80, 0xBF⟩ := by
        have hvalue : v / 64 % 32 + 192 - 0xC0 = v / 64 := by omega
        unfold lead?
        rw [if_neg (by omega), if_pos (by omega), hvalue]
      have htails : readTails (v / 64) 1 0x80 0xBF (UInt8.ofNat (v % 64 + 128) :: rest) = (some v, rest) := by
        rw [readTails_cons (by omega) (by omega) (by omega), readTails]
        congr 2
        omega
      rw [← hchar]
      exact units_of_lead (by omega) hlead htails
    · by_cases hthree : v ≤ 65535
      · -- three bytes: the second one is restricted below 0x800 and among the surrogates
        simp only [hone, htwo, hthree, if_false, if_true]
        have hlead := @lead_of_three (v / 4096 % 16) (by omega)
        have htails : readTails (v / 4096 % 16) 2 (if v / 4096 % 16 = 0 then 0xA0 else 0x80)
            (if v / 4096 % 16 = 13 then 0x9F else 0xBF)
            (UInt8.ofNat (v / 64 % 64 + 128) :: UInt8.ofNat (v % 64 + 128) :: rest) = (some v, rest) := by
          rw [readTails_cons (by split <;> omega) (by split <;> omega) (by omega),
            readTails_cons (by omega) (by omega) (by omega), readTails]
          congr 2
          omega
        rw [← hchar]
        exact units_of_lead (by omega) hlead htails
      · -- four bytes: the second one is restricted at both ends
        simp only [hone, htwo, hthree, if_false]
        have hlead := @lead_of_four (v / 262144 % 8) (by omega)
        have htails : readTails (v / 262144 % 8) 3 (if v / 262144 % 8 = 0 then 0x90 else 0x80)
            (if v / 262144 % 8 = 4 then 0x8F else 0xBF)
            (UInt8.ofNat (v / 4096 % 64 + 128) :: UInt8.ofNat (v / 64 % 64 + 128) :: UInt8.ofNat (v % 64 + 128) :: rest) =
              (some v, rest) := by
          rw [readTails_cons (by split <;> omega) (by split <;> omega) (by omega),
            readTails_cons (by omega) (by omega) (by omega), readTails_cons (by omega) (by omega) (by omega), readTails]
          congr 2
          omega
        rw [← hchar]
        exact units_of_lead (by omega) hlead htails

/-! ## Texts -/

/-- The bytes of a text are its characters, whatever follows them. -/
theorem units_bytes_append (text : String) (rest : List UInt8) :
    units (bytes text ++ rest) = text.toList.map some ++ units rest := by
  rw [← String.ofList_toList (s := text), bytes_ofList, String.toList_ofList]
  induction text.toList with
  | nil => rfl
  | cons c chars ih =>
    rw [List.flatMap_cons, List.append_assoc, units_utf8EncodeChar, ih, List.map_cons, List.cons_append]

/-- The bytes of a text are its characters. -/
theorem units_bytes (text : String) : units (bytes text) = text.toList.map some := by
  have hunits := units_bytes_append text []
  rw [List.append_nil, units, List.append_nil] at hunits
  exact hunits

/-- Characters stand for themselves. -/
theorem map_getD_some (chars : List Char) : (chars.map some).map (fun unit => unit.getD replacement) = chars := by
  rw [List.map_map]
  exact List.map_id _

/-- **A text is read back from its bytes.** -/
theorem lossy_bytes (text : String) : lossy (bytes text) = text := by
  unfold lossy
  rw [units_bytes, map_getD_some, String.ofList_toList]

/-- The bytes of a text are well-formed. -/
theorem strict?_bytes (text : String) : strict? (bytes text) = some text := by
  have hchars : (text.toList.map some).mapM id = some text.toList := by
    induction text.toList with
    | nil => rfl
    | cons c chars ih =>
      rw [List.map_cons, List.mapM_cons, ih]
      rfl
  unfold strict?
  rw [units_bytes, hchars, Option.map_some, String.ofList_toList]

end MediaCatalog.Text.Utf8
