-- SUMMARY: String literals: how a text may be spelled, and that every spelling is read as the text.
import Mathlib.Data.List.Forall2
import TwoOfThree.Json.StringLiteral

/-!
# String literals

A literal may write a character as itself, with a short escape, or by its code
units in hexadecimal digits of either case; a character outside the basic plane
has two units. So a text has many literals. The reader takes each of them for the
text, whatever follows it, and the literal that is written for a text is one of
them. No literal holds a control character, whatever its text holds.
-/

namespace TwoOfThree.JsonString

/-! ## Spellings of a character -/

/-- The letters behind the backslash of a short escape, and the characters that they stand for. -/
def shortEscapes : List (Char × Char) :=
  [('"', '"'), ('\\', '\\'), ('/', '/'), ('b', '\x08'), ('f', '\x0c'), ('n', '\n'), ('r', '\r'),
    ('t', '\t')]

/-- A hexadecimal digit, in either case, and its value. -/
def IsHexDigit (digit : Char) (value : Nat) : Prop :=
  value < 16 ∧ (digit = Nat.digitChar value ∨ digit = (Nat.digitChar value).toUpper)

instance (digit : Char) (value : Nat) : Decidable (IsHexDigit digit value) :=
  inferInstanceAs (Decidable (_ ∧ _))

/-- Four hexadecimal digits, and the number that they write. -/
inductive IsUnit : List Char → Nat → Prop where
  | digits {x y z w : Char} {a b c d : Nat} (first : IsHexDigit x a) (second : IsHexDigit y b)
      (third : IsHexDigit z c) (fourth : IsHexDigit w d) :
      IsUnit [x, y, z, w] (((a * 16 + b) * 16 + c) * 16 + d)

/-- The ways in which a literal may write a character. -/
inductive Spelling (c : Char) : List Char → Prop where
  | plain (quote : c ≠ '"') (backslash : c ≠ '\\') (printable : ¬ c.toNat < 0x20) : Spelling c [c]
  | short {letter : Char} (listed : (letter, c) ∈ shortEscapes) : Spelling c ['\\', letter]
  | unit {digits : List Char} (writes : IsUnit digits c.toNat) : Spelling c ('\\' :: 'u' :: digits)
  | halves {high low : Nat} {digits digits' : List Char} (hhigh : high < 0x400) (hlow : low < 0x400)
      (joined : c.toNat = 0x10000 + high * 0x400 + low)
      (writesHigh : IsUnit digits (0xD800 + high)) (writesLow : IsUnit digits' (0xDC00 + low)) :
      Spelling c (('\\' :: 'u' :: digits) ++ ('\\' :: 'u' :: digits'))

/-- A literal of a text: quotation marks with a spelling of each character between them. -/
def Denotes (literal text : List Char) : Prop :=
  ∃ pieces, List.Forall₂ Spelling text pieces ∧ literal = '"' :: (pieces.flatten ++ ['"'])

/-! ## Escapes and digits -/

theorem shortEscape?_eq_some_iff {letter c : Char} :
    shortEscape? letter = some c ↔ (letter, c) ∈ shortEscapes := by
  simp only [shortEscapes, List.mem_cons, List.not_mem_nil, or_false, Prod.mk.injEq, shortEscape?]
  grind

theorem toNat_lt_of_hexValue? {digit : Char} {value : Nat} (h : hexValue? digit = some value) :
    digit.toNat < 128 := by
  have hlt {last : Char} (hlast : digit ≤ last) (h : last.toNat < 128) : digit.toNat < 128 :=
    Nat.lt_of_le_of_lt (UInt32.le_iff_toNat_le.1 (Char.le_def.1 hlast)) h
  unfold hexValue? at h
  split at h
  · next hdigit => exact hlt hdigit.2 (by decide)
  split at h
  · next hlower => exact hlt hlower.2 (by decide)
  split at h
  · next hupper => exact hlt hupper.2 (by decide)
  · cases h

theorem hexValue?_eq_some_iff {digit : Char} {value : Nat} :
    hexValue? digit = some value ↔ IsHexDigit digit value := by
  have lower : ∀ k : Fin 16, hexValue? (Nat.digitChar k.val) = some k.val := by decide
  have upper : ∀ k : Fin 16, hexValue? (Nat.digitChar k.val).toUpper = some k.val := by decide
  have listed : ∀ k : Fin 128, ∀ n ∈ hexValue? (Char.ofNat k.val),
      IsHexDigit (Char.ofNat k.val) n := by decide
  constructor
  · intro h
    have hdigit := listed ⟨digit.toNat, toNat_lt_of_hexValue? h⟩
    rw [Char.ofNat_toNat] at hdigit
    exact hdigit value h
  · rintro ⟨hlt, rfl | rfl⟩
    · exact lower ⟨value, hlt⟩
    · exact upper ⟨value, hlt⟩

theorem unit?_eq_some_iff {x y z w : Char} {n : Nat} :
    unit? x y z w = some n ↔ IsUnit [x, y, z, w] n := by
  simp only [unit?, Option.bind_eq_bind, Option.bind_eq_some_iff, Option.pure_def,
    Option.some.injEq, hexValue?_eq_some_iff]
  constructor
  · rintro ⟨a, hx, b, hy, c, hz, d, hw, rfl⟩
    exact .digits hx hy hz hw
  · rintro ⟨hx, hy, hz, hw⟩
    exact ⟨_, hx, _, hy, _, hz, _, hw, rfl⟩

/-- A unit has four digits, which are read as its number. -/
theorem IsUnit.exists_unit? {digits : List Char} {n : Nat} (h : IsUnit digits n) :
    ∃ x y z w, digits = [x, y, z, w] ∧ unit? x y z w = some n := by
  cases h with
  | digits hx hy hz hw => exact ⟨_, _, _, _, rfl, unit?_eq_some_iff.2 (.digits hx hy hz hw)⟩

/-! ## Reading a spelling -/

theorem readBody_plain {c : Char} (hquote : c ≠ '"') (hbackslash : c ≠ '\\')
    (h : ¬ c.toNat < 0x20) (rest : List Char) :
    readBody (c :: rest) = cons c (readBody rest) := by
  rw [readBody]
  · exact if_neg (not_or.2 ⟨h, hbackslash⟩)
  all_goals simp_all

theorem readBody_short {letter c : Char} (h : shortEscape? letter = some c) (rest : List Char) :
    readBody ('\\' :: letter :: rest) = cons c (readBody rest) := by
  rw [readBody, h]
  rintro _ _ _ _ _ rfl
  exact absurd h (by simp [shortEscape?])

theorem readBody_unit {x y z w c : Char} (h : unit? x y z w = some c.toNat) (rest : List Char) :
    readBody ('\\' :: 'u' :: x :: y :: z :: w :: rest) = cons c (readBody rest) := by
  -- no character has the number of a half
  have hvalid : c.toNat < 0xD800 ∨ 0xDFFF < c.toNat ∧ c.toNat < 0x110000 := c.valid
  have hlow : isLowHalf c.toNat = false := by
    simp only [isLowHalf, Bool.and_eq_false_iff, decide_eq_false_iff_not]
    omega
  have hhigh : isHighHalf c.toNat = false := by
    simp only [isHighHalf, Bool.and_eq_false_iff, decide_eq_false_iff_not]
    omega
  rw [readBody, h]
  simp only [hlow, hhigh, Bool.false_eq_true, if_false, Char.ofNat_toNat]

section

variable {c : Char} {high low : Nat} (hhigh : high < 0x400) (hlow : low < 0x400)
include hhigh hlow

theorem isHalf_halves :
    isLowHalf (0xD800 + high) = false ∧ isHighHalf (0xD800 + high) = true ∧
      isLowHalf (0xDC00 + low) = true := by
  simp only [isLowHalf, isHighHalf, Bool.and_eq_false_iff, Bool.and_eq_true, decide_eq_true_eq,
    decide_eq_false_iff_not]
  omega

theorem joinHalves_eq (h : c.toNat = 0x10000 + high * 0x400 + low) :
    joinHalves (0xD800 + high) (0xDC00 + low) = c := by
  have hcode : 0x10000 + (0xD800 + high - 0xD800) * 0x400 + (0xDC00 + low - 0xDC00) = c.toNat := by
    omega
  rw [joinHalves, hcode, Char.ofNat_toNat]

theorem readBody_halves {x y z w x' y' z' w' : Char}
    (hunit : unit? x y z w = some (0xD800 + high))
    (hunit' : unit? x' y' z' w' = some (0xDC00 + low))
    (h : c.toNat = 0x10000 + high * 0x400 + low) (rest : List Char) :
    readBody ('\\' :: 'u' :: x :: y :: z :: w :: '\\' :: 'u' :: x' :: y' :: z' :: w' :: rest)
      = cons c (readBody rest) := by
  obtain ⟨hfirst, hfirst', hsecond⟩ := isHalf_halves hhigh hlow
  rw [readBody, hunit]
  simp only [hfirst, hfirst', hunit', hsecond, joinHalves_eq hhigh hlow h, Bool.false_eq_true,
    if_false, if_true]

end

theorem Spelling.readBody {c : Char} {piece : List Char} (h : Spelling c piece)
    (rest : List Char) : readBody (piece ++ rest) = cons c (readBody rest) := by
  cases h with
  | plain quote backslash printable => exact readBody_plain quote backslash printable rest
  | short listed => exact readBody_short (shortEscape?_eq_some_iff.2 listed) rest
  | unit writes =>
    obtain ⟨x, y, z, w, rfl, hunit⟩ := writes.exists_unit?
    exact readBody_unit hunit rest
  | halves hhigh hlow joined writesHigh writesLow =>
    obtain ⟨x, y, z, w, rfl, hunit⟩ := writesHigh.exists_unit?
    obtain ⟨x', y', z', w', rfl, hunit'⟩ := writesLow.exists_unit?
    exact readBody_halves hhigh hlow hunit hunit' joined rest

theorem readBody_spellings {text : List Char} {pieces : List (List Char)}
    (h : List.Forall₂ Spelling text pieces) (rest : List Char) :
    readBody (pieces.flatten ++ '"' :: rest) = some (text, rest) := by
  induction h with
  | nil => rfl
  | cons hpiece _ ih =>
    rw [List.flatten_cons, List.append_assoc, hpiece.readBody, ih]
    rfl

theorem Denotes.read {literal text : List Char} (h : Denotes literal text) (rest : List Char) :
    read (literal ++ rest) = some (text, rest) := by
  obtain ⟨pieces, hpieces, rfl⟩ := h
  have happend : '"' :: (pieces.flatten ++ ['"']) ++ rest
      = '"' :: (pieces.flatten ++ '"' :: rest) := by simp
  rw [happend]
  exact readBody_spellings hpieces rest

/-! ## The written literal -/

theorem isHexDigit_hexDigit {n : Nat} (h : n < 16) : IsHexDigit (hexDigit n) n := ⟨h, .inl rfl⟩

theorem isUnit_hexDigit {n : Nat} (h : n < 0x100) :
    IsUnit ['0', '0', hexDigit (n / 16), hexDigit (n % 16)] n := by
  have hzero : IsHexDigit '0' 0 := isHexDigit_hexDigit (by decide)
  have hhigh : IsHexDigit (hexDigit (n / 16)) (n / 16) := isHexDigit_hexDigit (by omega)
  have hlow : IsHexDigit (hexDigit (n % 16)) (n % 16) := isHexDigit_hexDigit (by omega)
  have hunit := IsUnit.digits hzero hzero hhigh hlow
  have hnumber : ((0 * 16 + 0) * 16 + n / 16) * 16 + n % 16 = n := by omega
  rwa [hnumber] at hunit

theorem spelling_escape (c : Char) : Spelling c (escape c) := by
  unfold escape
  split
  · next h => exact .short (by rw [h]; decide)
  split
  · next h => exact .short (by rw [h]; decide)
  split
  · next h => exact .short (by rw [h]; decide)
  split
  · next h => exact .short (by rw [h]; decide)
  split
  · next h => exact .short (by rw [h]; decide)
  split
  · next h => exact .short (by rw [h]; decide)
  split
  · next h => exact .short (by rw [h]; decide)
  split
  · next h => exact .unit (isUnit_hexDigit (Nat.lt_trans h (by decide)))
  · next hquote hbackslash _ _ _ _ _ h => exact .plain hquote hbackslash h

theorem denotes_encode (text : List Char) : Denotes (encode text) text := by
  refine ⟨text.map escape, ?_, ?_⟩
  · exact List.forall₂_map_right_iff.2 (List.forall₂_same.2 fun c _ => spelling_escape c)
  · rw [encode, List.flatMap_def]
    rfl

theorem read_encode (text rest : List Char) : read (encode text ++ rest) = some (text, rest) :=
  (denotes_encode text).read rest

/-! ## Control characters -/

/-- A character that a literal may hold as itself. -/
def isRaw (c : Char) : Bool := 0x20 ≤ c.toNat

theorem IsHexDigit.isRaw {digit : Char} {value : Nat} (h : IsHexDigit digit value) :
    isRaw digit = true := by
  have lower : ∀ k : Fin 16, JsonString.isRaw (Nat.digitChar k.val) = true := by decide
  have upper : ∀ k : Fin 16, JsonString.isRaw (Nat.digitChar k.val).toUpper = true := by decide
  obtain ⟨hlt, rfl | rfl⟩ := h
  · exact lower ⟨value, hlt⟩
  · exact upper ⟨value, hlt⟩

theorem IsUnit.isRaw_of_mem {digits : List Char} {n : Nat} (h : IsUnit digits n) :
    ∀ digit ∈ digits, isRaw digit = true := by
  cases h with
  | digits hx hy hz hw => simp [hx.isRaw, hy.isRaw, hz.isRaw, hw.isRaw]

theorem isRaw_of_mem_unit {digits : List Char} {n : Nat} (h : IsUnit digits n) :
    ∀ written ∈ '\\' :: 'u' :: digits, isRaw written = true :=
  List.forall_mem_cons.2 ⟨rfl, List.forall_mem_cons.2 ⟨rfl, h.isRaw_of_mem⟩⟩

theorem Spelling.isRaw_of_mem {c : Char} {piece : List Char} (h : Spelling c piece) :
    ∀ written ∈ piece, isRaw written = true := by
  cases h with
  | plain _ _ printable =>
    have hraw : isRaw c = true := decide_eq_true (Nat.not_lt.1 printable)
    simpa using hraw
  | short listed =>
    have hletters : shortEscapes.all (fun entry => isRaw entry.1) = true := by decide
    have hletter := List.all_eq_true.1 hletters _ listed
    have hbackslash : isRaw '\\' = true := rfl
    simp [hbackslash, hletter]
  | unit writes => exact isRaw_of_mem_unit writes
  | halves _ _ _ writesHigh writesLow =>
    exact List.forall_mem_append.2 ⟨isRaw_of_mem_unit writesHigh, isRaw_of_mem_unit writesLow⟩

theorem isRaw_of_mem_flatten {text : List Char} {pieces : List (List Char)}
    (h : List.Forall₂ Spelling text pieces) : ∀ written ∈ pieces.flatten, isRaw written = true := by
  induction h with
  | nil => exact List.forall_mem_nil _
  | cons hpiece _ ih => exact List.forall_mem_append.2 ⟨hpiece.isRaw_of_mem, ih⟩

/-- No literal holds a control character as itself. -/
theorem Denotes.isRaw_of_mem {literal text : List Char} (h : Denotes literal text) :
    ∀ written ∈ literal, isRaw written = true := by
  obtain ⟨pieces, hpieces, rfl⟩ := h
  refine List.forall_mem_cons.2 ⟨rfl, List.forall_mem_append.2 ⟨isRaw_of_mem_flatten hpieces, ?_⟩⟩
  exact List.forall_mem_singleton.2 rfl

theorem isRaw_encode (text : List Char) : ∀ written ∈ encode text, isRaw written = true :=
  (denotes_encode text).isRaw_of_mem

end TwoOfThree.JsonString
