-- SUMMARY: Byte strings written as lower-case hexadecimal text, and read back.
import TwoOfThree.Bytes

/-!
# Hexadecimal text

Two digits for each byte, the high half first. Writing uses lower-case digits;
reading takes both cases and refuses an odd number of digits or any other
character.
-/

namespace TwoOfThree.Hex

/-! ## Digits -/

def digit (n : Nat) : Char :=
  if n < 10 then Char.ofNat ('0'.toNat + n) else Char.ofNat ('a'.toNat + (n - 10))

def digitValue? (c : Char) : Option Nat :=
  if '0' ≤ c ∧ c ≤ '9' then some (c.toNat - '0'.toNat)
  else if 'a' ≤ c ∧ c ≤ 'f' then some (c.toNat - 'a'.toNat + 10)
  else if 'A' ≤ c ∧ c ≤ 'F' then some (c.toNat - 'A'.toNat + 10)
  else none

/-- A number in hexadecimal, without leading zeros. -/
def ofNat (n : Nat) : String := String.ofList (Nat.toDigits 16 n)

/-! ## Byte strings -/

def encodeChars : Bytes → List Char
  | [] => []
  | byte :: rest => digit (byte.toNat / 16) :: digit (byte.toNat % 16) :: encodeChars rest

def decodeChars : List Char → Option Bytes
  | [] => some []
  | [_] => none
  | high :: low :: rest => do
    let h ← digitValue? high
    let l ← digitValue? low
    let bytes ← decodeChars rest
    return UInt8.ofNat (16 * h + l) :: bytes

def encode (bytes : Bytes) : String := String.ofList (encodeChars bytes)

def decode (text : String) : Option Bytes := decodeChars text.toList

/-! ## Reading back what was written -/

theorem digitValue?_digit {n : Nat} (h : n < 16) : digitValue? (digit n) = some n := by
  have all : ∀ k : Fin 16, digitValue? (digit k.val) = some k.val := by decide
  exact all ⟨n, h⟩

theorem decodeChars_encodeChars (bytes : Bytes) : decodeChars (encodeChars bytes) = some bytes := by
  induction bytes with
  | nil => rfl
  | cons byte rest ih =>
    have hbyte := byte.toNat_lt
    have hsum : UInt8.ofNat (16 * (byte.toNat / 16) + byte.toNat % 16) = byte := by
      rw [Nat.div_add_mod, UInt8.ofNat_toNat]
    rw [encodeChars, decodeChars, digitValue?_digit (by omega), digitValue?_digit (by omega), ih]
    show some (UInt8.ofNat _ :: rest) = _
    rw [hsum]

theorem decode_encode (bytes : Bytes) : decode (encode bytes) = some bytes := by
  simp [decode, encode, decodeChars_encodeChars]

@[simp] theorem length_encodeChars (bytes : Bytes) :
    (encodeChars bytes).length = 2 * bytes.length := by
  induction bytes with
  | nil => rfl
  | cons byte rest ih =>
    simp [encodeChars, ih]
    omega

theorem digit_mem {n : Nat} (h : n < 16) : digit n ∈ "0123456789abcdef".toList := by
  have all : ∀ k : Fin 16, digit k.val ∈ "0123456789abcdef".toList := by decide
  exact all ⟨n, h⟩

theorem mem_encodeChars (bytes : Bytes) :
    ∀ c ∈ encodeChars bytes, c ∈ "0123456789abcdef".toList := by
  induction bytes with
  | nil => exact fun _ hc => absurd hc List.not_mem_nil
  | cons byte rest ih =>
    have hbyte := byte.toNat_lt
    intro c hc
    rw [encodeChars, List.mem_cons, List.mem_cons] at hc
    rcases hc with rfl | rfl | hc
    · exact digit_mem (by omega)
    · exact digit_mem (by omega)
    · exact ih c hc

end TwoOfThree.Hex
