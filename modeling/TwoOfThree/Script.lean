-- SUMMARY: The witness script of a multisignature, as instructions and as bytes.
import TwoOfThree.PublicKey

/-!
# Witness scripts

A multisignature script is written with three kinds of instruction: a small
number, a push of a few bytes, and the check of the signatures. The script says
how many signatures are needed, lists the keys, and says how many they are.
-/

namespace TwoOfThree.Script

inductive Instruction where
  /-- A number from 1 to 16. -/
  | number (n : Nat)
  /-- A string of at most 75 bytes, written behind its length. -/
  | push (data : Bytes)
  | checkMultisig
deriving DecidableEq, Repr

def Instruction.encode : Instruction → Bytes
  | .number n => [UInt8.ofNat (0x50 + n)]
  | .push data => UInt8.ofNat data.length :: data
  | .checkMultisig => [0xae]

def encode (instructions : List Instruction) : Bytes := instructions.flatMap Instruction.encode

/-- Any `required` of the keys can sign; the keys stand in the given order. -/
def multisig (required : Nat) (keys : List PublicKey) : List Instruction :=
  .number required :: keys.map (fun key => .push key.bytes) ++
    [.number keys.length, .checkMultisig]

end TwoOfThree.Script
