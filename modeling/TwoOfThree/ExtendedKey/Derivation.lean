-- SUMMARY: Walking a path from an extended key to the public key of a descendant.
import TwoOfThree.ExtendedKey.Basic
import TwoOfThree.Hash.Hmac

/-!
# Public derivation

A child is derived from the part of an extended key that `Node` holds: its public
key, its chain code and its depth. The keyed digest of the public key and the
child number gives a multiple of the generator to add to the public key, and the
chain code of the child. Network, fingerprint and child number of the key that
the walk starts from play no part.
-/

namespace TwoOfThree

/-- What a walk needs to know of the key it stands at. -/
structure Node where
  publicKey : Curve.Point
  chainCode : FixedBytes 32
  depth : UInt8
deriving DecidableEq

namespace Node

/-- The greatest depth that a key can have. -/
def maxDepth : UInt8 := 255

/-- The keyed digest that a normal child is derived with. -/
def childMac (node : Node) (index : Fin hardenedBit) : Bytes :=
  HmacSha512.mac node.chainCode.val (node.publicKey.short ++ BigEndian.encode 4 index.val)

/-- The public key of a normal child: the first half of the keyed digest, as a multiple of the
generator, is added to the public key. -/
def childPublicKey (node : Node) (index : Fin hardenedBit) : Except CurveError Curve.Point :=
  let tweak := BigEndian.decode ((node.childMac index).take 32)
  if tweak = 0 ∨ Curve.order ≤ tweak then .error .tweakOutOfRange
  else
    match node.publicKey.addMultiple? tweak with
    | none => .error .sumIsNeutral
    | some publicKey => .ok publicKey

/-- The chain code of a normal child: the second half of the keyed digest. -/
def childChainCode (node : Node) (index : Fin hardenedBit) : FixedBytes 32 :=
  ⟨(node.childMac index).drop 32, by simp [childMac]⟩

/-- One step of a walk. -/
def child (node : Node) : ChildNumber → Except ExtendedKey.Error Node
  | .hardened _ => .error .hardenedChild
  | .normal index =>
    match node.childPublicKey index with
    | .error error => .error (.curve error)
    | .ok publicKey =>
      if node.depth = maxDepth then .error .depthExhausted
      else .ok ⟨publicKey, node.childChainCode index, node.depth + 1⟩

/-- Walk a path, one child after another. -/
def walk (node : Node) : Path → Except ExtendedKey.Error Node
  | [] => .ok node
  | step :: rest =>
    match node.child step with
    | .error error => .error error
    | .ok next => next.walk rest

end Node

namespace ExtendedKey

def node (key : ExtendedKey) : Node := ⟨key.publicKey, key.chainCode, key.depth⟩

/-- The public key at the end of a path. -/
def descendant (key : ExtendedKey) (path : Path) : Except Error Curve.Point :=
  (key.node.walk path).map Node.publicKey

end ExtendedKey

end TwoOfThree
