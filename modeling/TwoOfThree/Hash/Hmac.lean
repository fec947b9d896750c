-- SUMMARY: HMAC over SHA-512, the keyed digest that derives child keys.
import TwoOfThree.Hash.Sha512

/-!
# HMAC-SHA-512

A key of at most one block is filled up with zeros and mixed with two fixed
bytes, once for the inner digest of the message and once for the outer digest of
that. Chain codes are the only keys used here, and they are 32 bytes long.
-/

namespace TwoOfThree.HmacSha512

def blockBytes : Nat := 128

/-- The key as one block: a longer key is replaced by its digest first. -/
def keyBlock (key : Bytes) : Bytes :=
  let key := if key.length > blockBytes then Sha512.digest key else key
  key ++ List.replicate (blockBytes - key.length) 0

def mac (key message : Bytes) : Bytes :=
  let block := keyBlock key
  let inner := Sha512.digest (block.map (· ^^^ 0x36) ++ message)
  Sha512.digest (block.map (· ^^^ 0x5c) ++ inner)

@[simp] theorem length_mac (key message : Bytes) : (mac key message).length = 64 := by
  simp [mac]

end TwoOfThree.HmacSha512
