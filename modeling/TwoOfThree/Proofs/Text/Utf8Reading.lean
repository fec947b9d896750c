-- SUMMARY: Strict reading reports the first fault of a byte string, and lossy reading shows every one.
import TwoOfThree.Proofs.Text.Utf8Faults

/-!
# Reading bytes that may not be text

Every byte string is a text, or it is a text, a fault and what comes after the
fault. The strict reading accepts the first kind only, and tells how long the
text before the fault is, which is the longest that the bytes begin with. The
lossy reading shows this text, a replacement character for the fault, and goes on
after it.
-/

namespace TwoOfThree.Utf8

/-! ## What bytes are made of -/

/-- What bytes are made of: a text, or a text and a fault after it. -/
inductive Content : Bytes → Prop where
  | text (text : String) : Content (encode text)
  | fault (text : String) {bad rest : Bytes} (subpart : MaximalSubpart bad rest) :
      Content (encode text ++ (bad ++ rest))

theorem Content.cons {bytes : Bytes} (h : Content bytes) (c : Char) :
    Content (encodeChar c ++ bytes) := by
  have hcons (text : String) :
      encodeChar c ++ encode text = encode (.ofList (c :: text.toList)) := by
    rw [encode, encode, String.toList_ofList]
    rfl
  cases h with
  | text text =>
    rw [hcons]
    exact .text _
  | fault text subpart =>
    rw [← List.append_assoc, hcons]
    exact .fault _ subpart

theorem content (bytes : Bytes) : Content bytes := by
  by_cases hnil : bytes = []
  · exact hnil ▸ .text ""
  · have hhead := head hnil
    cases hhead with
    | char c rest => exact (content rest).cons c
    | malformed subpart => exact .fault "" subpart
    | truncated subpart =>
      rw [← List.append_nil bytes]
      exact .fault "" subpart
termination_by bytes.length
decreasing_by
  rw [List.length_append]
  have := List.length_pos_iff.2 (encoded_encodeChar c).ne_nil
  omega

/-! ## The longest text -/

theorem chars_prefix {chars chars' : List Char} {tail more : Bytes}
    (htail : ∀ c, ¬ encodeChar c <+: tail)
    (h : encodeChars chars' ++ more = encodeChars chars ++ tail) : chars' <+: chars := by
  induction chars' generalizing chars with
  | nil => exact List.nil_prefix
  | cons c' chars' ih =>
    rw [encodeChars_cons, List.append_assoc] at h
    cases chars with
    | nil => exact absurd ⟨_, h⟩ (htail c')
    | cons c chars =>
      rw [encodeChars_cons, List.append_assoc] at h
      have hsegments := congrArg segments h
      rw [(encoded_encodeChar c').segments, (encoded_encodeChar c).segments] at hsegments
      obtain rfl : c' = c := Segment.char.inj (List.cons.inj hsegments).1
      exact (List.prefix_cons_inj c').2 (ih (List.append_cancel_left h))

/-- A text that the bytes begin with, and no longer text is one. -/
structure LongestText (text : String) (bytes : Bytes) : Prop where
  begins : encode text <+: bytes
  longest : ∀ text', encode text' <+: bytes → (encode text').length ≤ (encode text).length

theorem MaximalSubpart.longestText {bad rest : Bytes} (h : MaximalSubpart bad rest)
    (text : String) : LongestText text (encode text ++ (bad ++ rest)) where
  begins := List.prefix_append _ _
  longest text' := by
    rintro ⟨more, heq⟩
    obtain ⟨chars, hchars⟩ := chars_prefix h.not_char heq
    rw [encode, encode, ← hchars, encodeChars, encodeChars, List.flatMap_append,
      List.length_append]
    exact Nat.le_add_right _ _

/-! ## Strict reading -/

/-- The fault of bytes that are a text, a stretch at fault, and what comes after it. A fault that
the bytes end in has no length, since the bytes could have gone on. -/
structure Fault.After (fault : Fault) (text : String) (bad rest : Bytes) : Prop where
  subpart : MaximalSubpart bad rest
  validUpTo : fault.validUpTo = (encode text).length
  length : Begins (bad ++ rest) ∧ fault.length? = none ∨
    ¬ Begins (bad ++ rest) ∧ fault.length? = some bad.length

theorem decode_of_subpart {bad rest : Bytes} (h : MaximalSubpart bad rest) (text : String) :
    ∃ fault, decode (encode text ++ (bad ++ rest)) = .error fault ∧
      fault.After text bad rest := by
  rw [decode, segments_encode_append, charsFrom_chars, Nat.zero_add]
  rcases segments_of_subpart h with ⟨hbegins, hcut⟩ | ⟨hbegins, hcut⟩
  · rw [hcut]
    exact ⟨_, rfl, h, rfl, .inl ⟨hbegins, rfl⟩⟩
  · rw [hcut]
    exact ⟨_, rfl, h, rfl, .inr ⟨hbegins, rfl⟩⟩

theorem decode_eq_ok_iff {bytes : Bytes} {text : String} :
    decode bytes = .ok text ↔ bytes = encode text := by
  constructor
  · intro h
    cases content bytes with
    | text text' =>
      rw [decode_encode] at h
      rw [Except.ok.inj h]
    | fault text' subpart =>
      obtain ⟨fault, hfault, _⟩ := decode_of_subpart subpart text'
      rw [hfault] at h
      cases h
  · rintro rfl
    exact decode_encode text

/-- What fails to be read is a text, a stretch at fault and something after it. -/
theorem after_of_decode {bytes : Bytes} {fault : Fault} (h : decode bytes = .error fault) :
    ∃ text bad rest, bytes = encode text ++ (bad ++ rest) ∧ fault.After text bad rest := by
  cases content bytes with
  | text text =>
    rw [decode_encode] at h
    cases h
  | @fault text bad rest subpart =>
    obtain ⟨fault', hfault, hafter⟩ := decode_of_subpart subpart text
    rw [h] at hfault
    cases hfault
    exact ⟨text, bad, rest, rfl, hafter⟩

/-! ## Lossy reading -/

/-- How bytes are shown: text as it is, and a replacement character for every stretch that is found
to be at fault when reading goes on after the one before. -/
inductive Shown : Bytes → String → Prop where
  | text (text : String) : Shown (encode text) text
  | fault (text : String) {bad rest : Bytes} {shown : String} (subpart : MaximalSubpart bad rest)
      (resumed : Shown rest shown) :
      Shown (encode text ++ (bad ++ rest)) (text ++ "\uFFFD" ++ shown)

theorem decodeLossy_of_subpart {bad rest : Bytes} (h : MaximalSubpart bad rest) (text : String) :
    decodeLossy (encode text ++ (bad ++ rest)) = text ++ "\uFFFD" ++ decodeLossy rest := by
  have hfault : (segments (bad ++ rest)).map Segment.lossyChar
      = '\uFFFD' :: (segments rest).map Segment.lossyChar := by
    rcases segments_of_subpart h with ⟨hbegins, hcut⟩ | ⟨_, hcut⟩
    · rw [hcut, h.rest_eq_nil hbegins]
      rfl
    · rw [hcut]
      rfl
  apply String.toList_inj.1
  simp only [decodeLossy, segments_encode_append, List.map_append, hfault, map_lossyChar_chars,
    String.toList_ofList, String.toList_append, List.append_assoc]
  rfl

theorem Shown.eq {bytes : Bytes} {shown : String} (h : Shown bytes shown) :
    decodeLossy bytes = shown := by
  induction h with
  | text text => exact decodeLossy_encode text
  | fault text subpart _ ih => rw [decodeLossy_of_subpart subpart, ih]

theorem shown_decodeLossy (bytes : Bytes) : Shown bytes (decodeLossy bytes) := by
  cases content bytes with
  | text text =>
    rw [decodeLossy_encode]
    exact .text text
  | @fault text bad rest subpart =>
    rw [decodeLossy_of_subpart subpart]
    exact .fault text subpart (shown_decodeLossy rest)
termination_by bytes.length
decreasing_by
  rw [List.length_append, List.length_append]
  have := List.length_pos_iff.2 subpart.nonempty
  omega

/-- There is only one way to show bytes, and it is the lossy reading. -/
theorem shown_iff {bytes : Bytes} {shown : String} :
    Shown bytes shown ↔ decodeLossy bytes = shown :=
  ⟨Shown.eq, fun h => h ▸ shown_decodeLossy bytes⟩

-- two bytes of a character of three are one fault, and a byte that begins none is another
example : decodeLossy [0x61, 0xe2, 0x82, 0x28, 0xff] = "a\uFFFD(\uFFFD" := rfl

end TwoOfThree.Utf8
