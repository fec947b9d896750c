-- SUMMARY: The two networks that addresses are written for, and their selectors.

/-!
# Networks

The network decides the first characters of an address and nothing else about
it. A network is chosen by the selector text `main` or `test`, which is also how
it is printed. Each network is one chain, and an address begins as the addresses
of its chain do.
-/

namespace TwoOfThree

/-! ## Chains -/

inductive Chain where
  | bitcoin
  | testnet
deriving DecidableEq, Repr

namespace Chain

def name : Chain → String
  | .bitcoin => "bitcoin"
  | .testnet => "testnet"

/-- The human-readable part that addresses of the chain are written with. -/
def humanPart : Chain → String
  | .bitcoin => "bc"
  | .testnet => "tb"

end Chain

/-! ## Networks -/

inductive Network where
  | main
  | test
deriving DecidableEq, Repr

namespace Network

/-- The selector of a network. -/
def selector : Network → String
  | .main => "main"
  | .test => "test"

def ofSelector? (text : String) : Option Network :=
  if text = "main" then some .main
  else if text = "test" then some .test
  else none

/-- The human-readable part that is given for its addresses. -/
def humanPart : Network → String
  | .main => "bc"
  | .test => "tb"

/-- The chain that an address of this network belongs to. -/
def chain : Network → Chain
  | .main => .bitcoin
  | .test => .testnet

def chainName (network : Network) : String := network.chain.name

theorem ofSelector?_selector (network : Network) : ofSelector? network.selector = some network := by
  cases network <;> rfl

theorem ofSelector?_eq_some_iff {text : String} {network : Network} :
    ofSelector? text = some network ↔ text = network.selector := by
  constructor
  · intro h
    unfold ofSelector? at h
    split at h
    · next ht => cases h; exact ht
    · split at h
      · next ht => cases h; exact ht
      · cases h
  · intro h
    rw [h, ofSelector?_selector]

theorem ofSelector?_eq_none_iff {text : String} :
    ofSelector? text = none ↔ text ≠ "main" ∧ text ≠ "test" := by
  unfold ofSelector?
  split
  · next hmain => simp [hmain]
  · next hmain =>
    split
    · next htest => simp [htest]
    · next htest => simp [hmain, htest]

end Network

end TwoOfThree
