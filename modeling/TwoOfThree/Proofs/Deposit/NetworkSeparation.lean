-- SUMMARY: What the choice of the network can change: the ends of the address text and nothing else.
import TwoOfThree.Proofs.Deposit.AddressText

/-!
# Separation of the networks

The network plays no part before the address is written. So for the same cosigners
and passphrase the two networks have the same path, keys and script, and their
address texts differ in the human-readable part and in the checksum, which depends
on it. No text is an address on both networks.
-/

namespace TwoOfThree

/-! ## Addresses -/

namespace Address

/-- An address can be told from its text. -/
theorem render_inj {address address' : Address} (h : address.render = address'.render) :
    address = address' := by
  have hread := decodeWitness_render address
  rw [h, decodeWitness_render address', Option.some.injEq, Bech32.WitnessAddress.mk.injEq] at hread
  obtain ⟨network, program⟩ := address
  obtain ⟨network', program'⟩ := address'
  obtain rfl : network' = network := Network.humanPart_inj hread.1
  obtain rfl : program' = program := Subtype.ext hread.2.2
  rfl

/-- The text has this body between the separator and a checksum of six characters. The separator is
the last one that stands in the text. -/
def HasBody (address : Address) (body : List Char) : Prop :=
  ∃ checksum, checksum.length = 6 ∧ '1' ∉ body ++ checksum ∧
    address.render.toList = address.network.humanPart.toList ++ '1' :: (body ++ checksum)

/-- What the body of a text spells: the version and the program. -/
def body (program : FixedBytes 32) : List Char :=
  (0 :: Bech32.regroup program.val).map Bech32.symbol

theorem length_body (program : FixedBytes 32) : (body program).length = 53 := by
  rw [body, List.length_map, List.length_cons, Bech32.length_regroup, program.property]

theorem hasBody (address : Address) : address.HasBody (body address.program) := by
  refine ⟨(Bech32.checksum address.network.humanPart.toList
    (0 :: Bech32.regroup address.program.val)).map Bech32.symbol, ?_, ?_, ?_⟩
  · rw [List.length_map, Bech32.length_checksum]
  · rw [body, ← List.map_append]
    intro hmem
    obtain ⟨group, _, hgroup⟩ := List.mem_map.1 hmem
    exact (Bech32.symbol_class group).2.1 hgroup
  · rw [toList_render, Bech32.encodeWitness, Bech32.encode, List.map_append]
    rfl

end Address

/-! ## Derivations -/

namespace Deposit

/-- What the derivations on the two networks have in common: all of the deposit but the ends of the
address text if both succeed, and the error if both fail. -/
inductive AgreeAcrossNetworks : Except Error Deposit → Except Error Deposit → Prop where
  | deposits {main test : Deposit} {body : List Char}
      (networks : main.network = .main ∧ test.network = .test)
      (path : main.path = test.path)
      (publicKeys : main.publicKeys = test.publicKeys)
      (witnessScript : main.witnessScript = test.witnessScript)
      (descriptor : main.descriptor = test.descriptor)
      (address_networks : main.address.network = .main ∧ test.address.network = .test)
      (body_length : body.length = 53)
      (main_body : main.address.HasBody body)
      (test_body : test.address.HasBody body)
      (texts : main.address.render ≠ test.address.render) :
      AgreeAcrossNetworks (.ok main) (.ok test)
  | failures {error : Error} : AgreeAcrossNetworks (.error error) (.error error)

theorem network_of_derive {keys : List ExtendedKey} {passphrase : String} {network : Network}
    {deposit : Deposit} (h : derive keys passphrase network = .ok deposit) :
    deposit.address.network = network := by
  rw [address_of_derive h]
  rfl

/-- Addresses on different networks have different texts. -/
theorem render_ne_of_network_ne {keys keys' : List ExtendedKey} {passphrase passphrase' : String}
    {network network' : Network} {deposit deposit' : Deposit}
    (h : derive keys passphrase network = .ok deposit)
    (h' : derive keys' passphrase' network' = .ok deposit') (hne : network ≠ network') :
    deposit.address.render ≠ deposit'.address.render := by
  intro htext
  apply hne
  rw [← network_of_derive h, ← network_of_derive h', Address.render_inj htext]

theorem agreeAcrossNetworks (keys : List ExtendedKey) (passphrase : String) :
    AgreeAcrossNetworks (derive keys passphrase .main) (derive keys passphrase .test) := by
  cases hkeys : Cosigners.publicKeysAt keys (Path.ofPassphrase passphrase) with
  | error error =>
    rw [derive_eq_error_iff.2 hkeys, derive_eq_error_iff.2 hkeys]
    exact .failures
  | ok publicKeys =>
    have hmain : derive keys passphrase .main = _ := derive_eq_ok_iff.2 ⟨publicKeys, hkeys, rfl⟩
    have htest : derive keys passphrase .test = _ := derive_eq_ok_iff.2 ⟨publicKeys, hkeys, rfl⟩
    have htexts := render_ne_of_network_ne hmain htest (by decide)
    rw [hmain, htest]
    exact .deposits ⟨rfl, rfl⟩ rfl rfl rfl rfl ⟨rfl, rfl⟩ (Address.length_body _)
      (Address.hasBody _) (Address.hasBody _) htexts

/-- The network does not change whether or how a derivation fails, and of a deposit it changes the
ends of the address text only. No deposit on the one network has the address text of a deposit on
the other. -/
theorem derive_networks (keys : List ExtendedKey) (passphrase : String) :
    AgreeAcrossNetworks (derive keys passphrase .main) (derive keys passphrase .test) ∧
      ∀ keys' passphrase' deposit deposit', derive keys passphrase .main = .ok deposit →
        derive keys' passphrase' .test = .ok deposit' →
        deposit.address.render ≠ deposit'.address.render := by
  refine ⟨agreeAcrossNetworks keys passphrase, ?_⟩
  intro keys' passphrase' deposit deposit' h h'
  exact render_ne_of_network_ne h h' (by decide)

theorem derive_networks_onGenerator :
    let key := ExtendedKey.onGenerator 0 0
    ∃ main test, derive [key, key, key] "" .main = .ok main ∧
      derive [key, key, key] "" .test = .ok test ∧ main.address.render ≠ test.address.render := by
  intro key
  obtain ⟨main, hmain⟩ := derive_onGenerator
  obtain ⟨hagree, hseparate⟩ := derive_networks [key, key, key] ""
  rw [hmain] at hagree
  cases htest : derive [key, key, key] "" .test with
  | error error =>
    rw [htest] at hagree
    cases hagree
  | ok test => exact ⟨main, test, hmain, rfl, hseparate _ _ _ _ hmain htest⟩

end Deposit

end TwoOfThree
