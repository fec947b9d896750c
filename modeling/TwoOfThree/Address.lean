-- SUMMARY: Deposit addresses and their text.
import TwoOfThree.Encoding.Bech32
import TwoOfThree.Network

/-!
# Addresses

An address is a 32-byte witness program on one of the two networks. Its text is
the Bech32 form of the program under the human-readable part of the chain that
the network is.
-/

namespace TwoOfThree

structure Address where
  network : Network
  program : FixedBytes 32
deriving DecidableEq

namespace Address

def chars (address : Address) : List Char :=
  Bech32.encodeWitness address.network.chain.humanPart.toList address.program.val

def render (address : Address) : String := String.ofList address.chars

end Address

end TwoOfThree
