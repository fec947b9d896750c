-- SUMMARY: Writing and reading big-endian numbers undo each other.
import Mathlib.Algebra.Group.Nat.Defs
import TwoOfThree.Bytes

/-!
# Laws of big-endian numbers

Reading what was written gives the number, cut to the width that it was written
with; writing what was read gives the bytes. A byte string is thus determined by
its length and its number.
-/

namespace TwoOfThree.BigEndian

theorem decode_append_byte (bytes : Bytes) (byte : UInt8) :
    decode (bytes ++ [byte]) = decode bytes * 256 + byte.toNat := by
  simp [decode, List.foldl_append]

theorem decode_encode (width n : Nat) : decode (encode width n) = n % 256 ^ width := by
  induction width generalizing n with
  | zero => simp [encode, decode, Nat.mod_one]
  | succ width ih =>
    rw [encode, decode_append_byte, ih, Nat.pow_succ']
    rw [Nat.mod_mul, UInt8.toNat_ofNat']
    omega

theorem decode_lt (bytes : Bytes) : decode bytes < 256 ^ bytes.length := by
  suffices h : ∀ reversed : Bytes, decode reversed.reverse < 256 ^ reversed.length by
    simpa using h bytes.reverse
  intro reversed
  induction reversed with
  | nil => simp [decode]
  | cons byte rest ih =>
    rw [List.reverse_cons, decode_append_byte, List.length_cons, Nat.pow_succ]
    have := byte.toNat_lt
    omega

theorem encode_decode (bytes : Bytes) : encode bytes.length (decode bytes) = bytes := by
  suffices h : ∀ reversed : Bytes,
      encode reversed.length (decode reversed.reverse) = reversed.reverse by
    simpa using h bytes.reverse
  intro reversed
  induction reversed with
  | nil => rfl
  | cons byte rest ih =>
    have h := byte.toNat_lt
    rw [List.reverse_cons, decode_append_byte, List.length_cons, encode]
    have hdiv : (decode rest.reverse * 256 + byte.toNat) / 256 = decode rest.reverse := by omega
    have hmod : UInt8.ofNat (decode rest.reverse * 256 + byte.toNat) = byte := by
      apply UInt8.toNat_inj.1
      rw [UInt8.toNat_ofNat']
      omega
    rw [hdiv, hmod, ih]

theorem decode_inj {a b : Bytes} (hlen : a.length = b.length) (h : decode a = decode b) :
    a = b := by
  rw [← encode_decode a, ← encode_decode b, hlen, h]

end TwoOfThree.BigEndian
