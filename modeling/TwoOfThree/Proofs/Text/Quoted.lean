-- SUMMARY: Quoted text is read back whatever it holds, and every character of it shows as itself.
import TwoOfThree.Text.Quoted

/-!
# Reading quoted text

The reader undoes the escapes of quoted text up to the closing quotation mark. It
gives back the text that was quoted, whatever is written behind it: a quotation
mark, a backslash or an escape within the text is itself written with an escape,
so it ends or hides nothing. What is written holds only characters that show as
themselves, hence no control character and nothing that ends a line.
-/

namespace TwoOfThree.Quoted

/-! ## The reader -/

/-- The character of a short escape. -/
def unescape? (letter : Char) : Option Char :=
  if letter = '0' then some '\x00'
  else if letter = 't' then some '\t'
  else if letter = 'r' then some '\r'
  else if letter = 'n' then some '\n'
  else if letter = '"' then some '"'
  else if letter = '\\' then some '\\'
  else none

mutual

/-- Read quoted text from behind its opening mark: the text, and what follows the closing mark. -/
def readBody : List Char → Option (List Char × List Char)
  | [] => none
  | '"' :: rest => some ([], rest)
  | '\\' :: 'u' :: '{' :: rest => readCodePoint 0 rest
  | '\\' :: letter :: rest =>
    match unescape? letter with
    | none => none
    | some c => (readBody rest).map (Prod.map (c :: ·) id)
  | c :: rest => if c = '\\' then none else (readBody rest).map (Prod.map (c :: ·) id)

/-- Read on within a code point whose digits write `n` so far. -/
def readCodePoint (n : Nat) : List Char → Option (List Char × List Char)
  | [] => none
  | '}' :: rest =>
    if n.isValidChar then (readBody rest).map (Prod.map (Char.ofNat n :: ·) id) else none
  | digit :: rest =>
    match Hex.digitValue? digit with
    | none => none
    | some value => readCodePoint (16 * n + value) rest

end

/-- Read quoted text: what it quotes, and what follows it. -/
def read : List Char → Option (List Char × List Char)
  | '"' :: rest => readBody rest
  | _ => none

/-! ## Escapes -/

/-- The letters behind the backslash of a short escape. -/
def shortLetters : List Char := ['0', 't', 'r', 'n', '"', '\\']

/-- The ways in which a character is written. -/
inductive Written (c : Char) : List Char → Prop where
  | short (letter : Char) (listed : letter ∈ shortLetters) (reads : unescape? letter = some c) :
      Written c ['\\', letter]
  | codePoint : Written c (escapeCodePoint c)
  | plain (quote : c ≠ '"') (backslash : c ≠ '\\') (shown : isHidden c = false) : Written c [c]

theorem written_escape (c : Char) : Written c (escape c) := by
  unfold escape
  split
  · next h => exact .short '0' (by decide) (by rw [h]; rfl)
  split
  · next h => exact .short 't' (by decide) (by rw [h]; rfl)
  split
  · next h => exact .short 'r' (by decide) (by rw [h]; rfl)
  split
  · next h => exact .short 'n' (by decide) (by rw [h]; rfl)
  split
  · next h => exact .short '"' (by decide) (by rw [h]; rfl)
  split
  · next h => exact .short '\\' (by decide) (by rw [h]; rfl)
  split
  · exact .codePoint
  · next hquote hbackslash hshown =>
    exact .plain hquote hbackslash (Bool.eq_false_iff.2 hshown)

/-! ## Reading what was written -/

theorem digitValue?_digitChar {n : Nat} (h : n < 16) :
    Hex.digitValue? (Nat.digitChar n) = some n := by
  have all : ∀ k : Fin 16, Hex.digitValue? (Nat.digitChar k.val) = some k.val := by decide
  exact all ⟨n, h⟩

theorem readCodePoint_digitChar {digit : Nat} (h : digit < 16) (n : Nat) (rest : List Char) :
    readCodePoint n (Nat.digitChar digit :: rest) = readCodePoint (16 * n + digit) rest := by
  rw [readCodePoint, digitValue?_digitChar h]
  intro hbrace
  have hvalue := digitValue?_digitChar h
  rw [hbrace] at hvalue
  exact absurd hvalue (by simp [Hex.digitValue?])

/-- The digits of a number are read as the number. -/
theorem readCodePoint_toDigits (n : Nat) (rest : List Char) :
    readCodePoint 0 (Nat.toDigits 16 n ++ rest) = readCodePoint n rest := by
  induction n using Nat.strongRecOn generalizing rest with
  | ind n ih =>
    rw [Nat.toDigits_eq_if (by decide)]
    split
    · next h =>
      rw [List.singleton_append, readCodePoint_digitChar h, Nat.mul_zero, Nat.zero_add]
    · next h =>
      have hsum : 16 * (n / 16) + n % 16 = n := Nat.div_add_mod n 16
      rw [List.append_assoc, ih (n / 16) (by omega), List.singleton_append,
        readCodePoint_digitChar (Nat.mod_lt n (by decide)), hsum]

theorem readBody_escapeCodePoint (c : Char) (rest : List Char) :
    readBody (escapeCodePoint c ++ rest) = (readBody rest).map (Prod.map (c :: ·) id) := by
  have hbody : escapeCodePoint c ++ rest
      = '\\' :: 'u' :: '{' :: (Nat.toDigits 16 c.toNat ++ '}' :: rest) := by
    simp [escapeCodePoint]
  have hvalid : c.toNat.isValidChar := c.valid
  rw [hbody, readBody, readCodePoint_toDigits, readCodePoint, if_pos hvalid, Char.ofNat_toNat]

theorem readBody_short {letter c : Char} (h : unescape? letter = some c) (rest : List Char) :
    readBody ('\\' :: letter :: rest) = (readBody rest).map (Prod.map (c :: ·) id) := by
  rw [readBody, h]
  rintro _ rfl
  exact absurd h (by simp [unescape?])

theorem readBody_plain {c : Char} (hquote : c ≠ '"') (hbackslash : c ≠ '\\') (rest : List Char) :
    readBody (c :: rest) = (readBody rest).map (Prod.map (c :: ·) id) := by
  rw [readBody]
  · exact if_neg hbackslash
  all_goals simp_all

theorem Written.readBody {c : Char} {text : List Char} (h : Written c text) (rest : List Char) :
    readBody (text ++ rest) = (readBody rest).map (Prod.map (c :: ·) id) := by
  cases h with
  | short letter _ reads => exact readBody_short reads rest
  | codePoint => exact readBody_escapeCodePoint c rest
  | plain quote backslash _ => exact readBody_plain quote backslash rest

theorem readBody_flatMap_escape (text rest : List Char) :
    readBody (text.flatMap escape ++ '"' :: rest) = some (text, rest) := by
  induction text with
  | nil => rw [List.flatMap_nil, List.nil_append, readBody]
  | cons c text ih =>
    rw [List.flatMap_cons, List.append_assoc, (written_escape c).readBody, ih]
    rfl

theorem read_encodeChars (text rest : List Char) :
    read (encodeChars text ++ rest) = some (text, rest) := by
  have happend : encodeChars text ++ rest = '"' :: (text.flatMap escape ++ '"' :: rest) := by
    simp [encodeChars]
  rw [happend]
  exact readBody_flatMap_escape text rest

theorem encode_injective : Function.Injective encode := by
  intro text text' h
  have hchars : encodeChars text.toList = encodeChars text'.toList := String.ofList_inj.1 h
  have hread := read_encodeChars text.toList []
  rw [hchars, read_encodeChars, Option.some.injEq] at hread
  exact String.toList_inj.1 (congrArg Prod.fst hread).symm

/-! ## What shows -/

theorem digitChar_of_mem_toDigits {n : Nat} {c : Char} (h : c ∈ Nat.toDigits 16 n) :
    ∃ digit < 16, c = Nat.digitChar digit := by
  induction n using Nat.strongRecOn with
  | ind n ih =>
    rw [Nat.toDigits_eq_if (by decide)] at h
    split at h
    · next hn => exact ⟨n, hn, List.mem_singleton.1 h⟩
    · next hn =>
      rcases List.mem_append.1 h with h | h
      · exact ih (n / 16) (by omega) h
      · exact ⟨n % 16, Nat.mod_lt n (by decide), List.mem_singleton.1 h⟩

/-- The characters of ASCII that are no control characters. -/
def isAsciiGraphic (c : Char) : Bool := 0x20 ≤ c.toNat && c.toNat < 0x7f

theorem isHidden_of_isAsciiGraphic {c : Char} (h : isAsciiGraphic c = true) :
    isHidden c = false := by
  simp only [isAsciiGraphic, Bool.and_eq_true, decide_eq_true_eq] at h
  have hprinted : Unprintable.contains c = false := Unprintable.contains_eq_false h.1 h.2
  have hfiller : fillers.contains c = false := by
    rw [List.contains_eq_any_beq, List.any_eq_false]
    intro filler hmem hbeq
    have hcode : fillers.all (fun filler => 0x7f ≤ filler.toNat) = true := by decide
    have := of_decide_eq_true (List.all_eq_true.1 hcode filler hmem)
    rw [beq_iff_eq.1 hbeq] at h
    omega
  have hextends : GraphemeExtend.contains c = false :=
    GraphemeExtend.contains_eq_false (Nat.lt_trans h.2 (by decide))
  rw [isHidden, hprinted, hfiller, hextends]
  rfl

theorem isAsciiGraphic_digitChar {digit : Nat} (h : digit < 16) :
    isAsciiGraphic (Nat.digitChar digit) = true := by
  have all : ∀ k : Fin 16, isAsciiGraphic (Nat.digitChar k.val) = true := by decide
  exact all ⟨digit, h⟩

theorem isAsciiGraphic_escapeCodePoint (c : Char) :
    ∀ written ∈ escapeCodePoint c, isAsciiGraphic written = true := by
  have hfront : ['\\', 'u', '{'].all isAsciiGraphic = true := by decide
  intro written hwritten
  rw [escapeCodePoint, List.mem_append, List.mem_append, List.mem_singleton] at hwritten
  rcases hwritten with (hopening | hdigit) | rfl
  · exact List.all_eq_true.1 hfront written hopening
  · obtain ⟨digit, hlt, rfl⟩ := digitChar_of_mem_toDigits hdigit
    exact isAsciiGraphic_digitChar hlt
  · rfl

theorem Written.isHidden_eq_false {c : Char} {text : List Char} (h : Written c text) :
    ∀ written ∈ text, isHidden written = false := by
  cases h with
  | short letter listed _ =>
    have hgraphic : shortLetters.all isAsciiGraphic = true := by decide
    have hletter := isHidden_of_isAsciiGraphic (List.all_eq_true.1 hgraphic letter listed)
    have hbackslash : isHidden '\\' = false := isHidden_of_isAsciiGraphic rfl
    simp [hbackslash, hletter]
  | codePoint =>
    intro written hwritten
    exact isHidden_of_isAsciiGraphic (isAsciiGraphic_escapeCodePoint c written hwritten)
  | plain _ _ shown => simpa using shown

/-- No character of quoted text is one that would not show as itself. -/
theorem isHidden_encodeChars (text : List Char) :
    ∀ written ∈ encodeChars text, isHidden written = false := by
  have hquote : isHidden '"' = false := isHidden_of_isAsciiGraphic rfl
  intro written hwritten
  rw [encodeChars, List.cons_append, List.mem_cons, List.mem_append, List.mem_flatMap] at hwritten
  rcases hwritten with rfl | ⟨c, _, hc⟩ | hlast
  · exact hquote
  · exact (written_escape c).isHidden_eq_false written hc
  · rw [List.mem_singleton.1 hlast]
    exact hquote

/-! ## Control characters and line ends -/

def isControl (c : Char) : Bool := c.toNat < 0x20 || (0x7f ≤ c.toNat && c.toNat < 0xa0)

/-- The characters that end a line. -/
def lineEnds : List Char := ['\n', '\x0b', '\x0c', '\r', '\u0085', '\u2028', '\u2029']

theorem contains_of_isControl {c : Char} (h : isControl c = true) :
    Unprintable.contains c = true := by
  simp only [isControl, Bool.or_eq_true, Bool.and_eq_true, decide_eq_true_eq] at h
  rcases h with hlow | ⟨hfirst, hlast⟩
  · have hrange : (0x0, 0x1f) ∈ Unprintable.ranges := by decide +kernel
    exact Unprintable.contains_of_mem_ranges hrange (Nat.zero_le _) (Nat.le_of_lt_succ hlow)
  · have hrange : (0x7f, 0xa0) ∈ Unprintable.ranges := by decide +kernel
    exact Unprintable.contains_of_mem_ranges hrange hfirst (Nat.le_of_lt hlast)

theorem isHidden_of_isControl {c : Char} (h : isControl c = true) : isHidden c = true := by
  rw [isHidden, contains_of_isControl h]
  rfl

theorem all_isHidden_lineEnds : lineEnds.all isHidden = true := by decide +kernel

/-- What shows as itself neither is a control character nor ends a line. -/
theorem plain_of_isHidden_eq_false {c : Char} (h : isHidden c = false) :
    isControl c = false ∧ c ∉ lineEnds := by
  constructor
  · cases hcontrol : isControl c with
    | false => rfl
    | true => exact absurd (isHidden_of_isControl hcontrol) (by simp [h])
  · intro hmem
    exact absurd (List.all_eq_true.1 all_isHidden_lineEnds c hmem) (by simp [h])

end TwoOfThree.Quoted
