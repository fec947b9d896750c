-- SUMMARY: The text of a deposit's address is one that a reader decodes to its network and script hash.
import TwoOfThree.Proofs.Bech32.RoundTrip
import TwoOfThree.Proofs.Deposit.Basic

/-!
# The text of an address

The address of a deposit is written under the human-readable part of its chain,
which is the one that its network names. A reader accepts the text and finds the
digest of the witness script in it, so two deposits with the same address text
are on one network and pay to one script hash.
-/

namespace TwoOfThree

/-! ## Networks -/

namespace Network

/-- The addresses of the chain begin as the network says. -/
theorem humanPart_chain (network : Network) : network.chain.humanPart = network.humanPart := by
  cases network <;> rfl

theorem isHumanPart_humanPart (network : Network) :
    Bech32.IsHumanPart network.humanPart.toList := by
  cases network <;> decide

theorem length_humanPart (network : Network) : network.humanPart.toList.length = 2 := by
  cases network <;> rfl

theorem humanPart_inj {network network' : Network}
    (h : network.humanPart.toList = network'.humanPart.toList) : network = network' := by
  cases network <;> cases network' <;> first | rfl | exact absurd h (by decide)

theorem humanPart_class (network : Network) :
    ∀ c ∈ network.humanPart.toList, (c.isLower || c.isDigit) = true :=
  List.all_eq_true.1 (by cases network <;> decide)

end Network

/-! ## Addresses -/

namespace Address

variable (address : Address)

theorem toList_render : address.render.toList
    = Bech32.encodeWitness address.network.humanPart.toList address.program.val := by
  rw [render, String.toList_ofList, chars, Network.humanPart_chain]

/-- A reader finds the human-readable part of the network, version 0 and the program. -/
theorem decodeWitness_render : Bech32.decodeWitness address.render.toList
    = some ⟨address.network.humanPart.toList, 0, address.program.val⟩ := by
  have hhuman : address.network.humanPart.toList.length ≤ 30 := by
    rw [Network.length_humanPart]
    decide
  rw [toList_render]
  exact Bech32.decodeWitness_encodeWitness (Network.isHumanPart_humanPart _) hhuman
    address.program.property

theorem render_class : ∀ c ∈ address.render.toList, (c.isLower || c.isDigit) = true := by
  rw [toList_render]
  exact Bech32.encode_class _ (Network.humanPart_class _) rfl fun group =>
    (Bech32.symbol_class group).1

theorem length_render : address.render.length = 62 := by
  rw [← String.length_toList, toList_render, Bech32.encodeWitness, Bech32.length_encode,
    List.length_cons, Bech32.length_regroup, address.program.property, Network.length_humanPart]

/-- The version group stands right behind the separator, and the symbol of zero is `q`. -/
theorem prefix_render :
    (address.network.humanPart ++ "1q").toList <+: address.render.toList := by
  have hzero : Bech32.symbol 0 = 'q' := by decide
  rw [toList_render, String.toList_append, Bech32.encodeWitness, Bech32.encode, List.cons_append,
    List.map_cons, hzero]
  exact ⟨_, by rw [List.append_assoc]; rfl⟩

end Address

/-! ## Deposits -/

namespace Deposit

theorem address_of_derive {keys : List ExtendedKey} {passphrase : String} {network : Network}
    {deposit : Deposit} (h : derive keys passphrase network = .ok deposit) :
    deposit.address = Address.ofScript deposit.witnessScript network := by
  obtain ⟨publicKeys, _, rfl⟩ := derive_eq_ok_iff.1 h
  rfl

/-- The public key that the empty passphrase leads to from a key on the generator, as text. -/
def hexOnGenerator (chainByte : UInt8) : Option String :=
  (Cosigners.publicKeyAt (Path.ofPassphrase "")
    (ExtendedKey.onGenerator 0 chainByte)).toOption.map PublicKey.hex

theorem exists_publicKeyAt_onGenerator {chainByte : UInt8} {text : String}
    (h : hexOnGenerator chainByte = some text) :
    ∃ publicKey, Cosigners.publicKeyAt (Path.ofPassphrase "")
      (ExtendedKey.onGenerator 0 chainByte) = .ok publicKey ∧ publicKey.hex = text := by
  unfold hexOnGenerator at h
  cases hkey : Cosigners.publicKeyAt (Path.ofPassphrase "")
      (ExtendedKey.onGenerator 0 chainByte) with
  | error error =>
    rw [hkey] at h
    cases h
  | ok publicKey =>
    rw [hkey] at h
    exact ⟨publicKey, rfl, Option.some.inj h⟩

theorem hexOnGenerator_zero : hexOnGenerator 0
    = some "02990734ac54b1251e104980d9ea5f5721184a0aa81453ccc7db1198b525f2dd64" := by
  decide +kernel

/-- Some derivation succeeds. -/
theorem derive_onGenerator :
    let key := ExtendedKey.onGenerator 0 0
    ∃ deposit, derive [key, key, key] "" .main = .ok deposit := by
  intro key
  obtain ⟨publicKey, hkey, _⟩ := exists_publicKeyAt_onGenerator hexOnGenerator_zero
  refine ⟨_, derive_eq_ok_iff.2 ⟨[publicKey, publicKey, publicKey], ?_, rfl⟩⟩
  refine Cosigners.publicKeysAt_eq_ok_iff.2 ⟨rfl, ?_⟩
  simp only [key, List.map_cons, List.map_nil, hkey]

/-- What the text of an address on a network says of a witness script, and what it looks like. -/
structure PaysTo (text : String) (network : Network) (script : Bytes) : Prop where
  decoded : Bech32.decodeWitness text.toList
    = some ⟨network.humanPart.toList, 0, Sha256.digest script⟩
  lowerCase : ∀ c ∈ text.toList, (c.isLower || c.isDigit) = true
  length : text.length = 62
  beginning : (network.humanPart ++ "1q").toList <+: text.toList
  chain : network.chain.humanPart = network.humanPart

theorem PaysTo.ofScript (script : Bytes) (network : Network) :
    PaysTo (Address.ofScript script network).render network script where
  decoded := Address.decodeWitness_render _
  lowerCase := Address.render_class _
  length := Address.length_render _
  beginning := Address.prefix_render (Address.ofScript script network)
  chain := network.humanPart_chain

/-- A text pays to one script hash on one network. -/
theorem PaysTo.unique {text : String} {network network' : Network} {script script' : Bytes}
    (h : PaysTo text network script) (h' : PaysTo text network' script') :
    network = network' ∧ Sha256.digest script = Sha256.digest script' := by
  have heq := h.decoded.symm.trans h'.decoded
  rw [Option.some.injEq, Bech32.WitnessAddress.mk.injEq] at heq
  exact ⟨Network.humanPart_inj heq.1, heq.2.2⟩

/-- The address of a derived deposit pays to its script, and an equal text of another deposit to the
same. -/
theorem derive_paysTo {keys : List ExtendedKey} {passphrase : String} {network : Network}
    {deposit : Deposit} (h : derive keys passphrase network = .ok deposit) :
    PaysTo deposit.address.render network deposit.witnessScript ∧
      ∀ keys' passphrase' network' deposit', derive keys' passphrase' network' = .ok deposit' →
        deposit'.address.render = deposit.address.render →
        network' = network ∧
          Sha256.digest deposit'.witnessScript = Sha256.digest deposit.witnessScript := by
  have hpays : PaysTo deposit.address.render network deposit.witnessScript := by
    rw [address_of_derive h]
    exact PaysTo.ofScript _ _
  refine ⟨hpays, ?_⟩
  intro keys' passphrase' network' deposit' h' htext
  have hpays' : PaysTo deposit.address.render network' deposit'.witnessScript := by
    rw [← htext, address_of_derive h']
    exact PaysTo.ofScript _ _
  exact hpays'.unique hpays

theorem derive_paysTo_onGenerator :
    let key := ExtendedKey.onGenerator 0 0
    ∃ deposit, derive [key, key, key] "" .main = .ok deposit ∧
      PaysTo deposit.address.render .main deposit.witnessScript := by
  intro key
  obtain ⟨deposit, h⟩ := derive_onGenerator
  exact ⟨deposit, h, (derive_paysTo h).1⟩

end Deposit

end TwoOfThree
