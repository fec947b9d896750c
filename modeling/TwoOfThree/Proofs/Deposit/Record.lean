-- SUMMARY: A deposit is one with the keys, the path, the script and the address that can be asked for by themselves.
import TwoOfThree.Proofs.Deposit.OrderIndependence
import TwoOfThree.Proofs.PublicKey.Stability

/-!
# Deposits and what can be asked for by itself

The keys of the cosigners for a passphrase, its path, the script of keys in any
order and the address can each be asked for without a deposit. A deposit holds all
of them, worked out in one go: its keys are sorted first, and its script is built
from the sorted keys. The two ways never part. They fail together, with one error,
and since sorting keys in their short form forgets their order and changes nothing
the second time, each order of the keys gives the script of the deposit.
-/

namespace TwoOfThree

/-! ## Sorting again -/

namespace PublicKey

theorem sort_sort (keys : List PublicKey) : sort (sort keys) = sort keys :=
  sort_eq_iff.2 fun point => atPoint_sort point keys

theorem oneFormEach_of_compressed {keys : List PublicKey}
    (h : ∀ key ∈ keys, key.compressed = true) : OneFormEach keys :=
  fun a ha b hb _ => (h a ha).trans (h b hb).symm

end PublicKey

theorem sortedMultisigScript_of_perm {keys keys' : List PublicKey} (h : keys'.Perm keys)
    (hcompressed : ∀ key ∈ keys, key.compressed = true) :
    sortedMultisigScript keys' = sortedMultisigScript keys := by
  have hforms := PublicKey.oneFormEach_of_compressed hcompressed
  exact congrArg multisigScript (PublicKey.oneFormEach_iff_sort_eq.1 hforms keys' h)

namespace Deposit

/-! ## Deposits as records -/

/-- What a deposit has in common with what can be asked for by itself: the keys at the end of the
walks, in ascending order; the path of the passphrase; and the script of these keys, whether they are
given in some order or as the deposit has them. -/
structure IsRecordOf (passphrase : String) (network : Network) (publicKeys : List PublicKey)
    (deposit : Deposit) : Prop extends deposit.IsCoherent where
  path : deposit.path = Path.ofPassphrase passphrase
  network : deposit.network = network
  permuted : deposit.publicKeys.Perm publicKeys
  sorted : PublicKey.sort deposit.publicKeys = deposit.publicKeys
  anyOrder : ∀ keys, keys.Perm publicKeys → sortedMultisigScript keys = deposit.witnessScript
  ownOrder : sortedMultisigScript deposit.publicKeys = deposit.witnessScript

/-- What comes of asking for the keys, for the deposit and for its address. -/
inductive Accord (passphrase : String) (network : Network) :
    Except Error (List PublicKey) → Except Error Deposit → Except Error Address → Prop where
  | derived {publicKeys : List PublicKey} {deposit : Deposit}
      (record : deposit.IsRecordOf passphrase network publicKeys) :
      Accord passphrase network (.ok publicKeys) (.ok deposit) (.ok deposit.address)
  | failed {error : Error} :
      Accord passphrase network (.error error) (.error error) (.error error)

variable {cosigners : List ExtendedKey} {passphrase : String} {publicKeys : List PublicKey}

theorem isRecordOf_ofPublicKeys (network : Network)
    (h : Cosigners.publicKeys cosigners passphrase = .ok publicKeys) :
    (ofPublicKeys (Path.ofPassphrase passphrase) network publicKeys).IsRecordOf passphrase network
      publicKeys where
  toIsCoherent := isCoherent_of_derive (derive_eq_ok_iff.2 ⟨publicKeys, h, rfl⟩)
  path := rfl
  network := rfl
  permuted := PublicKey.sort_perm publicKeys
  sorted := PublicKey.sort_sort publicKeys
  anyOrder := fun _ hperm =>
    sortedMultisigScript_of_perm hperm (Cosigners.compressed_of_publicKeysAt h)
  ownOrder := congrArg multisigScript (PublicKey.sort_sort publicKeys)

/-- The keys of the cosigners, their deposit and its address are derived or fail together, and the
deposit is a record of the others. -/
theorem derive_accord (cosigners : List ExtendedKey) (passphrase : String) (network : Network) :
    Accord passphrase network (Cosigners.publicKeys cosigners passphrase)
      (derive cosigners passphrase network) (deriveAddress cosigners passphrase network) := by
  cases hkeys : Cosigners.publicKeys cosigners passphrase with
  | error error =>
    rw [derive_eq_error_iff.2 hkeys, deriveAddress_eq_error_iff.2 hkeys]
    exact .failed
  | ok publicKeys =>
    rw [derive_eq_ok_iff.2 ⟨publicKeys, hkeys, rfl⟩,
      deriveAddress_eq_ok_iff.2 ⟨publicKeys, hkeys, rfl⟩]
    exact .derived (isRecordOf_ofPublicKeys network hkeys)

end Deposit

end TwoOfThree
