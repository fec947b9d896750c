-- SUMMARY: The order in which the cosigners are given shows in the position of a failure and nowhere else.
import TwoOfThree.Proofs.Deposit.Basic

/-!
# Independence of the order of the cosigners

The keys at the end of the path come in the order of the cosigners, and sorting
them forgets it: two lists of cosigners that differ in their order only have the
same deposit, even where keys coincide. If a derivation fails, it does so in
both orders and in the same way, each naming the first key in its own order
whose walk fails.
-/

namespace TwoOfThree

namespace Cosigners

theorem publicKeysAt_perm {keys keys' : List ExtendedKey} (h : keys.Perm keys') {path : Path}
    {publicKeys : List PublicKey} (hok : publicKeysAt keys path = .ok publicKeys) :
    ∃ publicKeys', publicKeysAt keys' path = .ok publicKeys' ∧ publicKeys.Perm publicKeys' := by
  obtain ⟨hlen, hmap⟩ := publicKeysAt_eq_ok_iff.1 hok
  obtain ⟨publicKeys', hmap', hperm⟩ := map_eq_ok_of_perm h hmap
  exact ⟨publicKeys', publicKeysAt_eq_ok_iff.2 ⟨h.length_eq ▸ hlen, hmap'⟩, hperm⟩

end Cosigners

namespace PublicKey

/-- Keys in their short form, sorted, are written the same whatever order they came in. -/
theorem map_bytes_sort_of_perm {keys keys' : List PublicKey} (h : keys.Perm keys')
    (hcompressed : ∀ key ∈ keys, key.compressed = true) :
    (sort keys).map bytes = (sort keys').map bytes := by
  have hcompressed' : ∀ key ∈ keys', key.compressed = true := fun key hkey =>
    hcompressed key (h.mem_iff.2 hkey)
  rw [map_bytes_of_compressed (forall_mem_sort hcompressed),
    map_bytes_of_compressed (forall_mem_sort hcompressed'), sort_sortKeys_of_perm h]

end PublicKey

namespace Deposit

theorem derive_perm_isOk {keys keys' : List ExtendedKey} (h : keys.Perm keys')
    {passphrase : String} {network : Network} {deposit : Deposit}
    (hok : derive keys passphrase network = .ok deposit) :
    ∃ deposit', derive keys' passphrase network = .ok deposit' := by
  obtain ⟨publicKeys, hkeys, _⟩ := derive_eq_ok_iff.1 hok
  obtain ⟨publicKeys', hkeys', _⟩ := Cosigners.publicKeysAt_perm h hkeys
  exact ⟨_, derive_eq_ok_iff.2 ⟨publicKeys', hkeys', rfl⟩⟩

/-- What the derivations for two orders of the cosigners have in common: all that can be seen of the
deposit if both succeed, and the way in which they fail if both fail. -/
inductive AgreeUpToOrder (keys keys' : List ExtendedKey) (passphrase : String) :
    Except Error Deposit → Except Error Deposit → Prop where
  | deposits {deposit deposit' : Deposit}
      (path : deposit.path = deposit'.path)
      (publicKeys :
        deposit.publicKeys.map PublicKey.bytes = deposit'.publicKeys.map PublicKey.bytes)
      (witnessScript : deposit.witnessScript = deposit'.witnessScript)
      (descriptor : deposit.descriptor = deposit'.descriptor)
      (address : deposit.address = deposit'.address) :
      AgreeUpToOrder keys keys' passphrase (.ok deposit) (.ok deposit')
  | failures {error error' : Error}
      (kind : error.kind = error'.kind)
      (count : keys.length ≠ Cosigners.count → error = error')
      (fails : FailsWith keys passphrase error)
      (fails' : FailsWith keys' passphrase error') :
      AgreeUpToOrder keys keys' passphrase (.error error) (.error error')

/-- Cosigners in another order have the same deposit, or their derivations fail in the same way. -/
theorem derive_perm {keys keys' : List ExtendedKey} (h : keys.Perm keys') (passphrase : String)
    (network : Network) :
    AgreeUpToOrder keys keys' passphrase (derive keys passphrase network)
      (derive keys' passphrase network) := by
  cases hok : derive keys passphrase network with
  | ok deposit =>
    obtain ⟨publicKeys, hkeys, rfl⟩ := derive_eq_ok_iff.1 hok
    obtain ⟨publicKeys', hkeys', hperm⟩ := Cosigners.publicKeysAt_perm h hkeys
    rw [derive_eq_ok_iff.2 ⟨publicKeys', hkeys', rfl⟩]
    have hbytes := PublicKey.map_bytes_sort_of_perm hperm
      (Cosigners.compressed_of_publicKeysAt hkeys)
    have hscript : sortedMultisigScript publicKeys = sortedMultisigScript publicKeys' :=
      multisigScript_congr hbytes
    refine .deposits rfl hbytes hscript (descriptor_congr hbytes) ?_
    simp only [ofPublicKeys, hscript]
  | error error =>
    cases hok' : derive keys' passphrase network with
    | ok deposit' =>
      obtain ⟨deposit, hderive⟩ := derive_perm_isOk h.symm hok'
      rw [hok] at hderive
      cases hderive
    | error error' =>
      have hfails := failsWith_of_derive hok
      have hfails' := failsWith_of_derive hok'
      by_cases hlen : keys.length = Cosigners.count
      · refine .failures ?_ (fun hne => absurd hlen hne) hfails hfails'
        rw [FailsWith, if_pos hlen] at hfails
        rw [FailsWith, if_pos (h.length_eq ▸ hlen)] at hfails'
        obtain ⟨position, cause, rfl, _⟩ := hfails
        obtain ⟨position', cause', rfl, _⟩ := hfails'
        rfl
      · have herror : error = error' := by
          rw [FailsWith, if_neg hlen] at hfails
          rw [FailsWith, if_neg (h.length_eq ▸ hlen), ← h.length_eq] at hfails'
          rw [hfails, hfails']
        exact .failures (by rw [herror]) (fun _ => herror) hfails hfails'

/-- Two of the three cosigners may be the same key. -/
theorem derive_perm_repeated_key :
    let a := ExtendedKey.onGenerator 0 0
    let b := ExtendedKey.onGenerator 250 1
    [a, a, b].Perm [b, a, a] ∧
      AgreeUpToOrder [a, a, b] [b, a, a] "" (derive [a, a, b] "" .main)
        (derive [b, a, a] "" .main) := by
  have h (a b : ExtendedKey) : [a, a, b].Perm [b, a, a] :=
    List.perm_append_comm.trans (.refl ([b] ++ [a, a]))
  intro a b
  exact ⟨h a b, derive_perm (h a b) "" .main⟩

end Deposit

end TwoOfThree
