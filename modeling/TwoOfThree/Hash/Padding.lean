-- SUMMARY: The padding that makes a message a whole number of blocks, shared by the hash functions.
import TwoOfThree.Bytes

/-!
# Padding to whole blocks

A message is followed by a one bit, by as few zero bits as possible, and by its
length in bits, so that the whole is a multiple of the block size and two
different messages never pad to the same bytes.
-/

namespace TwoOfThree.Padding

/-- The zero bytes between the marker byte and the length field. -/
def zeroCount (blockBytes lengthBytes size : Nat) : Nat :=
  (blockBytes - (size + 1 + lengthBytes) % blockBytes) % blockBytes

/-- The message with its padding. -/
def pad (blockBytes lengthBytes : Nat) (message : Bytes) : Bytes :=
  message ++ 0x80 :: List.replicate (zeroCount blockBytes lengthBytes message.length) 0
    ++ BigEndian.encode lengthBytes (8 * message.length)

/-- The padded message, cut into blocks. -/
def blocks (blockBytes lengthBytes : Nat) (message : Bytes) : List Bytes :=
  let padded := pad blockBytes lengthBytes message
  chunks blockBytes (padded.length / blockBytes) padded

theorem length_pad (blockBytes lengthBytes : Nat) (message : Bytes) :
    (pad blockBytes lengthBytes message).length
      = message.length + 1 + zeroCount blockBytes lengthBytes message.length + lengthBytes := by
  simp [pad]
  omega

/-- A padded message is a whole number of blocks. -/
theorem length_pad_mod (blockBytes lengthBytes : Nat) (message : Bytes) (h : 0 < blockBytes) :
    (pad blockBytes lengthBytes message).length % blockBytes = 0 := by
  rw [length_pad, zeroCount]
  generalize message.length + 1 = n
  have hr := Nat.mod_lt (n + lengthBytes) h
  rw [show n + (blockBytes - (n + lengthBytes) % blockBytes) % blockBytes + lengthBytes
      = (n + lengthBytes) + (blockBytes - (n + lengthBytes) % blockBytes) % blockBytes by omega]
  rw [Nat.add_mod, Nat.mod_mod]
  generalize (n + lengthBytes) % blockBytes = r at hr
  by_cases hz : r = 0
  · simp [hz]
  · rw [Nat.mod_eq_of_lt (by omega : blockBytes - r < blockBytes)]
    rw [show r + (blockBytes - r) = blockBytes by omega, Nat.mod_self]

end TwoOfThree.Padding
