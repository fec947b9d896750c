-- SUMMARY: Both readings of UTF-8 give back the text that was written.
import TwoOfThree.Text.Utf8

/-!
# Reading encoded text

The machine takes the bytes of a character one at a time, and the last of them
completes the character: the numbers that the first byte and its continuations
carry are the base-64 digits of the code point. So encoded text is cut into its
characters, with no fault, and both readings return the text.
-/

namespace TwoOfThree.Utf8

/-! ## The bytes of a character -/

/-- The byte that carries the digit of a number at one place. -/
def continuation (k : Nat) : UInt8 := UInt8.ofNat (0x80 + k % 64)

theorem toNat_continuation (k : Nat) : (continuation k).toNat = 0x80 + k % 64 := by
  rw [continuation, UInt8.toNat_ofNat']
  omega

theorem encodeChars_cons (c : Char) (chars : List Char) :
    encodeChars (c :: chars) = encodeChar c ++ encodeChars chars := rfl

/-- The forms that the bytes of a character take. -/
inductive Encoded (c : Char) : Bytes → Prop where
  | one (high : c.toNat < 0x80) : Encoded c [UInt8.ofNat c.toNat]
  | two (low : 0x80 ≤ c.toNat) (high : c.toNat < 0x800) :
      Encoded c [UInt8.ofNat (0xC0 + c.toNat / 64), continuation c.toNat]
  | three (low : 0x800 ≤ c.toNat) (high : c.toNat < 0x10000) :
      Encoded c [UInt8.ofNat (0xE0 + c.toNat / 4096), continuation (c.toNat / 64),
        continuation c.toNat]
  | four (low : 0x10000 ≤ c.toNat) :
      Encoded c [UInt8.ofNat (0xF0 + c.toNat / 262144), continuation (c.toNat / 4096),
        continuation (c.toNat / 64), continuation c.toNat]

theorem encoded_encodeChar (c : Char) : Encoded c (encodeChar c) := by
  by_cases hone : c.toNat < 0x80
  · simp only [encodeChar, if_pos hone]
    exact .one hone
  by_cases htwo : c.toNat < 0x800
  · simp only [encodeChar, if_neg hone, if_pos htwo]
    exact .two (Nat.not_lt.1 hone) htwo
  by_cases hthree : c.toNat < 0x10000
  · simp only [encodeChar, if_neg hone, if_neg htwo, if_pos hthree]
    exact .three (Nat.not_lt.1 htwo) hthree
  · simp only [encodeChar, if_neg hone, if_neg htwo, if_neg hthree]
    exact .four (Nat.not_lt.1 hthree)

theorem Encoded.eq_encodeChar {c : Char} {bytes : Bytes} (h : Encoded c bytes) :
    encodeChar c = bytes := by
  cases h with
  | one high => exact if_pos high
  | two low high => exact (if_neg (Nat.not_lt.2 low)).trans (if_pos high)
  | three low high =>
    exact (if_neg (by omega)).trans ((if_neg (Nat.not_lt.2 low)).trans (if_pos high))
  | four low =>
    exact (if_neg (by omega)).trans ((if_neg (by omega)).trans (if_neg (Nat.not_lt.2 low)))

/-! ## The library's encoding -/

theorem encodeChar_eq (c : Char) : encodeChar c = String.utf8EncodeChar c := by
  have hmax : c.toNat < 0xD800 ∨ 0xDFFF < c.toNat ∧ c.toNat < 0x110000 := c.valid
  have hval : c.val.toNat = c.toNat := rfl
  by_cases hone : c.toNat < 0x80
  · simp only [encodeChar, String.utf8EncodeChar, hval, if_pos hone,
      if_pos (Nat.le_of_lt_succ hone)]
  by_cases htwo : c.toNat < 0x800
  · have hlead : 0xC0 + c.toNat / 64 = c.toNat / 64 % 0x20 + 0xC0 := by omega
    simp only [encodeChar, String.utf8EncodeChar, hval, if_neg hone, if_pos htwo,
      if_neg (mt Nat.lt_succ_of_le hone), if_pos (Nat.le_of_lt_succ htwo), hlead,
      Nat.add_comm 0x80]
  by_cases hthree : c.toNat < 0x10000
  · have hlead : 0xE0 + c.toNat / 4096 = c.toNat / 4096 % 0x10 + 0xE0 := by omega
    simp only [encodeChar, String.utf8EncodeChar, hval, if_neg hone, if_neg htwo, if_pos hthree,
      if_neg (mt Nat.lt_succ_of_le hone), if_neg (mt Nat.lt_succ_of_le htwo),
      if_pos (Nat.le_of_lt_succ hthree), hlead, Nat.add_comm 0x80]
  · have hlead : 0xF0 + c.toNat / 262144 = c.toNat / 262144 % 0x08 + 0xF0 := by omega
    simp only [encodeChar, String.utf8EncodeChar, hval, if_neg hone, if_neg htwo, if_neg hthree,
      if_neg (mt Nat.lt_succ_of_le hone), if_neg (mt Nat.lt_succ_of_le htwo),
      if_neg (mt Nat.lt_succ_of_le hthree), hlead, Nat.add_comm 0x80]

theorem length_encodeChar (c : Char) : (encodeChar c).length = c.utf8Size := by
  rw [encodeChar_eq, String.length_utf8EncodeChar]

theorem toByteArray_encode (text : String) : (encode text).toByteArray = text.toUTF8 := by
  have hchars : encode text = text.toList.flatMap String.utf8EncodeChar :=
    congrArg text.toList.flatMap (funext encodeChar_eq)
  rw [hchars]
  exact String.utf8Encode_toList

/-! ## First bytes -/

section

variable {n : Nat}

theorem start_one (h : n < 0x80) : start (UInt8.ofNat n) = ([.char (Char.ofNat n)], none) := by
  have all : ∀ k : Fin 0x80,
      start (UInt8.ofNat k.val) = ([.char (Char.ofNat k.val)], none) := by
    decide +kernel
  exact all ⟨n, h⟩

theorem start_two (hlow : 2 ≤ n) (hhigh : n < 0x20) : start (UInt8.ofNat (0xC0 + n))
    = ([], some ⟨[UInt8.ofNat (0xC0 + n)], n, 0x80, 0xBF, 0⟩) := by
  have all : ∀ k : Fin 0x20, 2 ≤ k.val → start (UInt8.ofNat (0xC0 + k.val))
      = ([], some ⟨[UInt8.ofNat (0xC0 + k.val)], k.val, 0x80, 0xBF, 0⟩) := by
    decide +kernel
  exact all ⟨n, hhigh⟩ hlow

theorem start_three (h : n < 0x10) : start (UInt8.ofNat (0xE0 + n))
    = ([], some ⟨[UInt8.ofNat (0xE0 + n)], n, if n = 0 then 0xA0 else 0x80,
        if n = 0xD then 0x9F else 0xBF, 1⟩) := by
  have all : ∀ k : Fin 0x10, start (UInt8.ofNat (0xE0 + k.val))
      = ([], some ⟨[UInt8.ofNat (0xE0 + k.val)], k.val, if k.val = 0 then 0xA0 else 0x80,
          if k.val = 0xD then 0x9F else 0xBF, 1⟩) := by
    decide +kernel
  exact all ⟨n, h⟩

theorem start_four (h : n < 5) : start (UInt8.ofNat (0xF0 + n))
    = ([], some ⟨[UInt8.ofNat (0xF0 + n)], n, if n = 0 then 0x90 else 0x80,
        if n = 4 then 0x8F else 0xBF, 2⟩) := by
  have all : ∀ k : Fin 5, start (UInt8.ofNat (0xF0 + k.val))
      = ([], some ⟨[UInt8.ofNat (0xF0 + k.val)], k.val, if k.val = 0 then 0x90 else 0x80,
          if k.val = 4 then 0x8F else 0xBF, 2⟩) := by
    decide +kernel
  exact all ⟨n, h⟩

end

/-! ## Continuations -/

section

variable {bytes : Bytes} {value k : Nat} {low high : UInt8} (rest : Bytes)

theorem continuation_mem (hlow : low.toNat ≤ 0x80 + k % 64) (hhigh : 0x80 + k % 64 ≤ high.toNat) :
    low ≤ continuation k ∧ continuation k ≤ high := by
  rw [UInt8.le_iff_toNat_le, UInt8.le_iff_toNat_le, toNat_continuation]
  exact ⟨hlow, hhigh⟩

theorem digit_continuation (k : Nat) : (continuation k).toNat - 0x80 = k % 64 := by
  rw [toNat_continuation]
  omega

/-- A byte that is not the last adds one digit. -/
theorem segmentsFrom_next {more : Nat} (hlow : low.toNat ≤ 0x80 + k % 64)
    (hhigh : 0x80 + k % 64 ≤ high.toNat) :
    segmentsFrom (some ⟨bytes, value, low, high, more + 1⟩) (continuation k :: rest)
      = segmentsFrom
          (some ⟨bytes ++ [continuation k], value * 64 + k % 64, 0x80, 0xBF, more⟩) rest := by
  rw [segmentsFrom, feed]
  simp only [if_pos (continuation_mem hlow hhigh), digit_continuation]
  rfl

/-- The last byte completes the character. -/
theorem segmentsFrom_last :
    segmentsFrom (some ⟨bytes, value, 0x80, 0xBF, 0⟩) (continuation k :: rest)
      = .char (Char.ofNat (value * 64 + k % 64)) :: segmentsFrom none rest := by
  have hlow : (0x80 : UInt8).toNat ≤ 0x80 + k % 64 := Nat.le_add_right 0x80 _
  have hhigh : 0x80 + k % 64 ≤ (0xBF : UInt8).toNat := by
    show _ ≤ 0xBF
    omega
  rw [segmentsFrom, feed]
  simp only [if_pos (continuation_mem hlow hhigh), digit_continuation]
  rfl

end

/-! ## One character -/

theorem segmentsFrom_start (byte : UInt8) (rest : Bytes) :
    segmentsFrom none (byte :: rest) = (start byte).1 ++ segmentsFrom (start byte).2 rest := rfl

/-- The bytes of a character are cut off as that character. -/
theorem Encoded.segments {c : Char} {bytes : Bytes} (h : Encoded c bytes) (rest : Bytes) :
    segments (bytes ++ rest) = .char c :: segments rest := by
  have hc : Char.ofNat c.toNat = c := Char.ofNat_toNat c
  have hvalid : c.toNat < 0xD800 ∨ 0xDFFF < c.toNat ∧ c.toNat < 0x110000 := c.valid
  unfold Utf8.segments
  cases h with
  | one high =>
    rw [List.singleton_append, segmentsFrom_start, start_one high, hc]
    rfl
  | two low high =>
    have hvalue : c.toNat / 64 * 64 + c.toNat % 64 = c.toNat := by omega
    rw [List.cons_append, segmentsFrom_start, start_two (by omega) (by omega), List.nil_append,
      List.singleton_append, segmentsFrom_last, hvalue, hc]
  | three low high =>
    have hvalue : (c.toNat / 4096 * 64 + c.toNat / 64 % 64) * 64 + c.toNat % 64 = c.toNat := by omega
    rw [List.cons_append, segmentsFrom_start, start_three (by omega)]
    rw [List.nil_append, List.cons_append, segmentsFrom_next]
    · exact (segmentsFrom_last rest).trans (by rw [hvalue, hc])
    -- the second byte leaves out overlong forms below and surrogates above
    · split
      · show 0xA0 ≤ _
        omega
      · show 0x80 ≤ _
        omega
    · split
      · show _ ≤ 0x9F
        omega
      · show _ ≤ 0xBF
        omega
  | four low =>
    have hvalue : ((c.toNat / 262144 * 64 + c.toNat / 4096 % 64) * 64 + c.toNat / 64 % 64) * 64
        + c.toNat % 64 = c.toNat := by
      omega
    rw [List.cons_append, segmentsFrom_start, start_four (by omega)]
    rw [List.nil_append, List.cons_append, segmentsFrom_next]
    · refine (segmentsFrom_next _ (Nat.le_add_right 0x80 _) ?_).trans ?_
      · show _ ≤ 0xBF
        omega
      · exact (segmentsFrom_last rest).trans (by rw [hvalue, hc])
    · split
      · show 0x90 ≤ _
        omega
      · show 0x80 ≤ _
        omega
    · split
      · show _ ≤ 0x8F
        omega
      · show _ ≤ 0xBF
        omega

theorem Encoded.ne_nil {c : Char} {bytes : Bytes} (h : Encoded c bytes) : bytes ≠ [] := by
  cases h <;> exact List.cons_ne_nil _ _

/-! ## Text -/

theorem encode_append (text text' : String) :
    encode (text ++ text') = encode text ++ encode text' := by
  rw [encode, encode, encode, String.toList_append, encodeChars, encodeChars, encodeChars,
    List.flatMap_append]

/-- A text in front of other bytes is cut into its characters. -/
theorem segments_encode_append (text : String) (rest : Bytes) :
    segments (encode text ++ rest) = text.toList.map .char ++ segments rest := by
  rw [encode]
  induction text.toList with
  | nil => rfl
  | cons c chars ih =>
    rw [encodeChars_cons, List.append_assoc, (encoded_encodeChar c).segments]
    exact congrArg (.char c :: ·) ih

/-- The characters of a text are read, and then what comes after it. -/
theorem charsFrom_chars (index : Nat) (chars : List Char) (rest : List Segment) :
    charsFrom index (chars.map .char ++ rest)
      = (charsFrom (index + (encodeChars chars).length) rest).map (chars ++ ·) := by
  induction chars generalizing index with
  | nil =>
    show charsFrom index rest = (charsFrom index rest).map ([] ++ ·)
    cases charsFrom index rest <;> rfl
  | cons c chars ih =>
    rw [List.map_cons, List.cons_append, charsFrom, ih, encodeChars_cons, List.length_append,
      length_encodeChar, ← Nat.add_assoc]
    cases charsFrom (index + c.utf8Size + (encodeChars chars).length) rest <;> rfl

theorem map_lossyChar_chars (chars : List Char) :
    (chars.map Segment.char).map Segment.lossyChar = chars := by
  rw [List.map_map]
  exact List.map_id chars

theorem segments_encode (text : String) : segments (encode text) = text.toList.map .char := by
  have hnone : segments [] = [] := rfl
  have happend := segments_encode_append text []
  rwa [List.append_nil, hnone, List.append_nil] at happend

theorem decode_encode (text : String) : decode (encode text) = .ok text := by
  have hchars := charsFrom_chars 0 text.toList []
  rw [List.append_nil, charsFrom, Except.map, List.append_nil] at hchars
  rw [decode, segments_encode, hchars, Except.map, String.ofList_toList]

theorem encode_inj {text text' : String} (h : encode text = encode text') : text = text' := by
  have hread := decode_encode text
  rw [h, decode_encode] at hread
  exact (Except.ok.inj hread).symm

theorem decodeLossy_encode (text : String) : decodeLossy (encode text) = text := by
  rw [decodeLossy, segments_encode, map_lossyChar_chars, String.ofList_toList]

end TwoOfThree.Utf8
