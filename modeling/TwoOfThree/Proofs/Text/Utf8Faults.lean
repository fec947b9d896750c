-- SUMMARY: Where bytes stop being text, how far the fault extends, and what both readings make of it.
import TwoOfThree.Proofs.Text.Utf8Encoding

/-!
# Faults in encoded text

Bytes that are not text begin with a text, and after it comes a place where no
character can be read. The fault extends as far as a character could have begun
there, which is at least one byte. The strict reading reports it, and the lossy
reading shows a replacement character for it and resumes after it. That the two
find the same places is a matter of the machine below them: it begins a sequence
only if a character begins with it, and gives it up at the first byte that no
such character goes on with.
-/

namespace TwoOfThree.Utf8

/-! ## Beginnings -/

/-- The bytes are a beginning of a character, and not all of it. -/
def Begins (bytes : Bytes) : Prop := ∃ c more, more ≠ [] ∧ encodeChar c = bytes ++ more

/-- No character can be read from the bytes. They are cut after the longest beginning of a
character, or after one byte if even that is none. -/
structure MaximalSubpart (bad rest : Bytes) : Prop where
  not_char : ∀ c, ¬ encodeChar c <+: bad ++ rest
  nonempty : bad ≠ []
  begins : Begins bad ∨ bad.length = 1
  longest : ∀ longer, longer <+: bad ++ rest → Begins longer → longer.length ≤ bad.length

theorem MaximalSubpart.length_le {bad rest bad' rest' : Bytes} (h : MaximalSubpart bad rest)
    (h' : MaximalSubpart bad' rest') (heq : bad ++ rest = bad' ++ rest') :
    bad.length ≤ bad'.length := by
  rcases h.begins with hbegins | hone
  · exact h'.longest bad (heq ▸ List.prefix_append bad rest) hbegins
  · rw [hone]
    exact List.length_pos_iff.2 h'.nonempty

/-- There is only one place to cut. -/
theorem MaximalSubpart.unique {bad rest bad' rest' : Bytes} (h : MaximalSubpart bad rest)
    (h' : MaximalSubpart bad' rest') (heq : bad ++ rest = bad' ++ rest') :
    bad = bad' ∧ rest = rest' :=
  List.append_inj heq (Nat.le_antisymm (h.length_le h' heq) (h'.length_le h heq.symm))

/-- Input that ends inside a sequence is at fault up to its end. -/
theorem MaximalSubpart.rest_eq_nil {bad rest : Bytes} (h : MaximalSubpart bad rest)
    (hbegins : Begins (bad ++ rest)) : rest = [] := by
  have hle := h.longest _ (List.prefix_refl _) hbegins
  rw [List.length_append] at hle
  exact List.eq_nil_of_length_eq_zero (by omega)

/-! ## The sequences of the machine -/

/-- The sequences that the machine can have begun: from a first byte on, the bytes for the higher
digits of a code point. -/
inductive Awaiting : Pending → Prop where
  | two {n : Nat} (low : 2 ≤ n) (high : n < 0x20) :
      Awaiting ⟨[UInt8.ofNat (0xC0 + n)], n, 0x80, 0xBF, 0⟩
  | three {n : Nat} (high : n < 0x10) :
      Awaiting ⟨[UInt8.ofNat (0xE0 + n)], n, if n = 0 then 0xA0 else 0x80,
        if n = 0xD then 0x9F else 0xBF, 1⟩
  | threeSecond {n : Nat} (low : 0x20 ≤ n) (high : n < 0x400) (gap : n < 0x360 ∨ 0x380 ≤ n) :
      Awaiting ⟨[UInt8.ofNat (0xE0 + n / 64), continuation n], n, 0x80, 0xBF, 0⟩
  | four {n : Nat} (high : n < 5) :
      Awaiting ⟨[UInt8.ofNat (0xF0 + n)], n, if n = 0 then 0x90 else 0x80,
        if n = 4 then 0x8F else 0xBF, 2⟩
  | fourSecond {n : Nat} (low : 0x10 ≤ n) (high : n < 0x110) :
      Awaiting ⟨[UInt8.ofNat (0xF0 + n / 64), continuation n], n, 0x80, 0xBF, 1⟩
  | fourThird {n : Nat} (low : 0x400 ≤ n) (high : n < 0x4400) :
      Awaiting ⟨[UInt8.ofNat (0xF0 + n / 4096), continuation (n / 64), continuation n], n,
        0x80, 0xBF, 0⟩

theorem toNat_ofNat {n : Nat} (h : n < 0xD800 ∨ 0xDFFF < n ∧ n < 0x110000) :
    (Char.ofNat n).toNat = n := by
  rw [Char.ofNat, dif_pos (show n.isValidChar from h)]
  rfl

section

variable {bytes : Bytes} {n more : Nat} {low high : UInt8}

/-- The last byte completes the character whose digits the bytes carry. -/
theorem Awaiting.last (h : Awaiting ⟨bytes, n / 64, low, high, 0⟩) :
    encodeChar (Char.ofNat n) = bytes ++ [continuation n] := by
  have hfirst : n / 4096 = n / 64 / 64 := by omega
  have hsecond : n / 262144 = n / 64 / 4096 := by omega
  cases h with
  | two low high =>
    have hchar : (Char.ofNat n).toNat = n := toNat_ofNat (by omega)
    have hform := Encoded.two (c := Char.ofNat n) (by omega) (by omega)
    rw [hchar] at hform
    exact hform.eq_encodeChar
  | threeSecond low high gap =>
    have hchar : (Char.ofNat n).toNat = n := toNat_ofNat (by omega)
    have hform := Encoded.three (c := Char.ofNat n) (by omega) (by omega)
    rw [hchar, hfirst] at hform
    exact hform.eq_encodeChar
  | fourThird low high =>
    have hchar : (Char.ofNat n).toNat = n := toNat_ofNat (by omega)
    have hform := Encoded.four (c := Char.ofNat n) (by omega)
    rw [hchar, hfirst, hsecond] at hform
    exact hform.eq_encodeChar

/-- A byte that is not the last carries the next digit. -/
theorem Awaiting.next (h : Awaiting ⟨bytes, n / 64, low, high, more + 1⟩)
    (hlow : low.toNat ≤ 0x80 + n % 64) (hhigh : 0x80 + n % 64 ≤ high.toNat) :
    Awaiting ⟨bytes ++ [continuation n], n, 0x80, 0xBF, more⟩ := by
  have hfirst : n / 64 / 64 = n / 4096 := by omega
  -- a first byte with a narrower range keeps out what would be overlong, a surrogate or too great
  cases h with
  | three high =>
    refine .threeSecond ?_ (by omega) ?_
    · split at hlow
      · change 0xA0 ≤ _ at hlow
        omega
      · omega
    · split at hhigh
      · change _ ≤ 0x9F at hhigh
        omega
      · omega
  | four high =>
    refine .fourSecond ?_ ?_
    · split at hlow
      · change 0x90 ≤ _ at hlow
        omega
      · omega
    · split at hhigh
      · change _ ≤ 0x8F at hhigh
        omega
      · omega
  | fourSecond low high =>
    rw [hfirst]
    exact .fourThird (by omega) (by omega)

variable {value : Nat} {byte : UInt8}

/-- Only continuations are awaited, and always some. -/
theorem Awaiting.range (h : Awaiting ⟨bytes, value, low, high, more⟩) :
    0x80 ≤ low.toNat ∧ low.toNat ≤ high.toNat ∧ high.toNat ≤ 0xBF := by
  cases h with
  | two => decide
  | threeSecond => decide
  | fourSecond => decide
  | fourThird => decide
  | three high =>
    have all : ∀ n : Fin 0x10, let low : UInt8 := if n.val = 0 then 0xA0 else 0x80
        let high : UInt8 := if n.val = 0xD then 0x9F else 0xBF
        0x80 ≤ low.toNat ∧ low.toNat ≤ high.toNat ∧ high.toNat ≤ 0xBF := by
      decide
    exact all ⟨value, high⟩
  | four high =>
    have all : ∀ n : Fin 5, let low : UInt8 := if n.val = 0 then 0x90 else 0x80
        let high : UInt8 := if n.val = 4 then 0x8F else 0xBF
        0x80 ≤ low.toNat ∧ low.toNat ≤ high.toNat ∧ high.toNat ≤ 0xBF := by
      decide
    exact all ⟨value, high⟩

theorem Awaiting.ne_nil {p : Pending} (h : Awaiting p) : p.bytes ≠ [] := by
  cases h <;> exact List.cons_ne_nil _ _

/-- A byte that is awaited is the next digit of a number. -/
theorem Awaiting.digit (h : Awaiting ⟨bytes, value, low, high, more⟩)
    (hmem : low ≤ byte ∧ byte ≤ high) :
    ∃ n, value = n / 64 ∧ byte = continuation n ∧
      low.toNat ≤ 0x80 + n % 64 ∧ 0x80 + n % 64 ≤ high.toNat := by
  rw [UInt8.le_iff_toNat_le, UInt8.le_iff_toNat_le] at hmem
  have hrange := h.range
  refine ⟨value * 64 + (byte.toNat - 0x80), by omega, ?_, by omega, by omega⟩
  apply UInt8.toNat_inj.1
  rw [toNat_continuation]
  omega

theorem Begins.of_append {bytes more : Bytes} (h : Begins (bytes ++ more)) : Begins bytes := by
  obtain ⟨c, rest, hrest, heq⟩ := h
  exact ⟨c, more ++ rest, List.append_ne_nil_of_right_ne_nil more hrest,
    heq.trans (List.append_assoc ..)⟩

/-- What the machine has begun is the beginning of a character. -/
theorem Awaiting.begins (h : Awaiting ⟨bytes, value, low, high, more⟩) : Begins bytes := by
  induction more generalizing bytes value low high with
  | zero =>
    obtain ⟨n, rfl, _⟩ := h.digit ⟨UInt8.le_refl low, UInt8.le_iff_toNat_le.2 h.range.2.1⟩
    exact ⟨_, _, List.cons_ne_nil _ _, h.last⟩
  | succ more ih =>
    obtain ⟨n, rfl, _, hlow, hhigh⟩ :=
      h.digit ⟨UInt8.le_refl low, UInt8.le_iff_toNat_le.2 h.range.2.1⟩
    exact .of_append (ih (h.next hlow hhigh))

end

/-! ## Where the machine stops -/

/-- The machine comes to a sequence by reading its bytes. -/
structure Begun (p : Pending) : Prop where
  awaiting : Awaiting p
  reached : ∀ rest, segments (p.bytes ++ rest) = segmentsFrom (some p) rest

/-- How bytes begin: with a character, or else with what is cut off as a fault. -/
inductive Head : Bytes → Prop where
  | char (c : Char) (rest : Bytes) : Head (encodeChar c ++ rest)
  | malformed {bad rest : Bytes} (subpart : MaximalSubpart bad rest)
      (wrong : ¬ Begins (bad ++ rest))
      (cut : segments (bad ++ rest) = .malformed bad :: segments rest) : Head (bad ++ rest)
  | truncated {bad : Bytes} (subpart : MaximalSubpart bad []) (short : Begins bad)
      (cut : segments bad = [.truncated bad]) : Head bad

/-- Bytes that a fault is cut off from do not begin with a character. -/
theorem not_char_of_segments {bytes : Bytes} {segment : Segment} {rest : List Segment}
    (h : segments bytes = segment :: rest) (hfault : ∀ c, segment ≠ .char c) (c : Char) :
    ¬ encodeChar c <+: bytes := by
  rintro ⟨more, rfl⟩
  rw [(encoded_encodeChar c).segments] at h
  exact hfault c (List.cons.inj h).1.symm

/-- A stretch that is cut off whatever comes after the byte that follows it. -/
theorem Head.of_malformed {bad rest : Bytes} (hnonempty : bad ≠ [])
    (hbegins : Begins bad ∨ bad.length = 1)
    (hcut : ∀ more, rest.take 1 <+: more →
      segments (bad ++ more) = .malformed bad :: segments more) : Head (bad ++ rest) := by
  have hnot (more : Bytes) (hmore : rest.take 1 <+: more) : ¬ Begins (bad ++ more) := by
    rintro ⟨c, last, -, heq⟩
    rw [List.append_assoc] at heq
    have hfault := hcut (more ++ last) (hmore.trans (List.prefix_append more last))
    exact not_char_of_segments hfault nofun c (heq ▸ List.prefix_refl _)
  have hrest := List.take_prefix 1 rest
  refine .malformed ⟨?_, hnonempty, hbegins, ?_⟩ (hnot rest hrest) (hcut rest hrest)
  · exact not_char_of_segments (hcut rest hrest) nofun
  · intro longer hlonger hlonger'
    refine Nat.le_of_not_lt fun hlength => ?_
    -- what is longer than the stretch goes on with the byte that follows it
    obtain ⟨more, rfl⟩ : bad <+: longer :=
      List.prefix_of_prefix_length_le (List.prefix_append bad rest) hlonger (by omega)
    refine hnot more ?_ hlonger'
    refine List.prefix_of_prefix_length_le hrest ((List.prefix_append_right_inj bad).1 hlonger) ?_
    rw [List.length_append] at hlength
    rw [List.length_take]
    omega

/-- A byte that is awaited and is not the last leads to a longer sequence. -/
theorem Begun.next {bytes : Bytes} {n more : Nat} {low high : UInt8}
    (h : Begun ⟨bytes, n / 64, low, high, more + 1⟩) (hlow : low.toNat ≤ 0x80 + n % 64)
    (hhigh : 0x80 + n % 64 ≤ high.toNat) :
    Begun ⟨bytes ++ [continuation n], n, 0x80, 0xBF, more⟩ where
  awaiting := h.awaiting.next hlow hhigh
  reached rest := by
    have hvalue : n / 64 * 64 + n % 64 = n := Nat.div_add_mod' n 64
    have hreached := h.reached (continuation n :: rest)
    dsimp only at hreached ⊢
    rw [List.append_assoc, List.singleton_append, hreached, segmentsFrom_next rest hlow hhigh,
      hvalue]

/-- A byte that is not awaited ends the sequence, and reading begins again with it. -/
theorem Begun.stop {p : Pending} (h : Begun p) {byte : UInt8} (rest : Bytes)
    (hmem : ¬ (p.low ≤ byte ∧ byte ≤ p.high)) :
    segments (p.bytes ++ byte :: rest) = .malformed p.bytes :: segments (byte :: rest) := by
  rw [h.reached, segmentsFrom, feed]
  simp only [if_neg hmem]
  rfl

theorem Begun.head {p : Pending} (h : Begun p) (rest : Bytes) : Head (p.bytes ++ rest) := by
  induction rest generalizing p with
  | nil =>
    have hcut : segments p.bytes = [.truncated p.bytes] := by
      have hreached := h.reached []
      rwa [List.append_nil] at hreached
    have hbegins := h.awaiting.begins
    rw [List.append_nil]
    refine .truncated ⟨?_, h.awaiting.ne_nil, .inl hbegins, ?_⟩ hbegins hcut
    · rw [List.append_nil]
      exact not_char_of_segments hcut nofun
    · intro longer hlonger _
      rw [List.append_nil] at hlonger
      exact hlonger.length_le
  | cons byte rest ih =>
    by_cases hmem : p.low ≤ byte ∧ byte ≤ p.high
    · obtain ⟨bytes, value, low, high, more⟩ := p
      obtain ⟨n, rfl, rfl, hlow, hhigh⟩ := h.awaiting.digit hmem
      rw [List.append_cons]
      cases more with
      | zero =>
        dsimp only
        rw [← h.awaiting.last]
        exact .char _ rest
      | succ more => exact ih (h.next hlow hhigh)
    · refine .of_malformed h.awaiting.ne_nil (.inl h.awaiting.begins) ?_
      rintro _ ⟨more, rfl⟩
      exact h.stop more hmem

theorem start_malformed {n : Nat} (hlow : 0x80 ≤ n) (hbad : n < 0xC2 ∨ 0xF5 ≤ n) (h : n < 256) :
    start (UInt8.ofNat n) = ([.malformed [UInt8.ofNat n]], none) := by
  have all : ∀ k : Fin 256, 0x80 ≤ k.val → k.val < 0xC2 ∨ 0xF5 ≤ k.val →
      start (UInt8.ofNat k.val) = ([.malformed [UInt8.ofNat k.val]], none) := by
    decide +kernel
  exact all ⟨n, h⟩ hlow hbad

/-- A first byte is a character, or cannot begin one, or begins a sequence. -/
theorem start_cases (byte : UInt8) :
    (∃ c, encodeChar c = [byte]) ∨ start byte = ([.malformed [byte]], none) ∨
      ∃ p, start byte = ([], some p) ∧ p.bytes = [byte] ∧ Awaiting p := by
  obtain ⟨n, hn, rfl⟩ : ∃ n < 256, byte = UInt8.ofNat n :=
    ⟨byte.toNat, byte.toNat_lt, UInt8.ofNat_toNat.symm⟩
  by_cases hone : n < 0x80
  · have hchar : (Char.ofNat n).toNat = n := toNat_ofNat (by omega)
    have hform := Encoded.one (c := Char.ofNat n) (by omega)
    rw [hchar] at hform
    exact .inl ⟨_, hform.eq_encodeChar⟩
  by_cases hbad : n < 0xC2 ∨ 0xF5 ≤ n
  · exact .inr (.inl (start_malformed (Nat.not_lt.1 hone) hbad hn))
  by_cases htwo : n < 0xE0
  · obtain ⟨k, rfl⟩ := Nat.exists_eq_add_of_le (by omega : 0xC0 ≤ n)
    exact .inr (.inr ⟨_, start_two (by omega) (by omega), rfl, .two (by omega) (by omega)⟩)
  by_cases hthree : n < 0xF0
  · obtain ⟨k, rfl⟩ := Nat.exists_eq_add_of_le (by omega : 0xE0 ≤ n)
    exact .inr (.inr ⟨_, start_three (by omega), rfl, .three (by omega)⟩)
  · obtain ⟨k, rfl⟩ := Nat.exists_eq_add_of_le (by omega : 0xF0 ≤ n)
    exact .inr (.inr ⟨_, start_four (by omega), rfl, .four (by omega)⟩)

theorem head_cons (byte : UInt8) (rest : Bytes) : Head (byte :: rest) := by
  rw [← List.singleton_append]
  rcases start_cases byte with ⟨c, hc⟩ | hmalformed | ⟨p, hstart, hbytes, hawaiting⟩
  · rw [← hc]
    exact .char c rest
  · refine .of_malformed (List.cons_ne_nil _ _) (.inr rfl) fun more _ => ?_
    rw [List.singleton_append, segments, segmentsFrom_start, hmalformed]
    rfl
  · rw [← hbytes]
    refine Begun.head ⟨hawaiting, fun rest => ?_⟩ rest
    rw [hbytes, List.singleton_append, segments, segmentsFrom_start, hstart]
    rfl

theorem head {bytes : Bytes} (h : bytes ≠ []) : Head bytes := by
  cases bytes with
  | nil => exact absurd rfl h
  | cons byte rest => exact head_cons byte rest

/-- What is cut off where no character can be read. -/
theorem segments_of_subpart {bad rest : Bytes} (h : MaximalSubpart bad rest) :
    Begins (bad ++ rest) ∧ segments (bad ++ rest) = [.truncated bad] ∨
    ¬ Begins (bad ++ rest) ∧ segments (bad ++ rest) = .malformed bad :: segments rest := by
  have hhead := head (List.append_ne_nil_of_left_ne_nil h.nonempty rest)
  generalize hbytes : bad ++ rest = bytes at hhead ⊢
  cases hhead with
  | char c more => exact absurd (hbytes ▸ List.prefix_append _ more) (h.not_char c)
  | malformed subpart wrong cut =>
    obtain ⟨rfl, rfl⟩ := h.unique subpart hbytes
    exact .inr ⟨wrong, cut⟩
  | truncated subpart short cut =>
    obtain ⟨rfl, rfl⟩ := h.unique subpart (hbytes.trans (List.append_nil _).symm)
    exact .inl ⟨short, cut⟩

end TwoOfThree.Utf8
