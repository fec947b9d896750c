-- SUMMARY: A deposit depends on each cosigner's public key and chain code, and on nothing else that is noted of it.
import Mathlib.Data.List.Forall2
import TwoOfThree.Proofs.Cosigners.Walks
import TwoOfThree.Proofs.Deposit.AddressText

/-!
# Deposits and the origin of their keys

Cosigners may hand over one account with different notes: for either network, at
another depth, under another parent. As long as there is room below each of them for
the levels of a passphrase, the deposit is the same, and so is the error if a walk
fails.
-/

namespace TwoOfThree

/-- Two extended keys with one public key and one chain code, and with room below them for the
levels of a passphrase. All else that is noted of them may differ. -/
structure ExtendedKey.SameAccount (key key' : ExtendedKey) : Prop where
  publicKey : key.publicKey = key'.publicKey
  chainCode : key.chainCode = key'.chainCode
  depth : key.depth ≤ 245
  depth' : key'.depth ≤ 245

theorem ExtendedKey.SameAccount.walk_origin {key key' : ExtendedKey} (h : key.SameAccount key')
    (fingerprint : Curve.Point → UInt32) (passphrase : String) :
    (key.walk fingerprint (Path.ofPassphrase passphrase)).map origin
      = (key'.walk fingerprint (Path.ofPassphrase passphrase)).map origin := by
  have hroom {depth : UInt8} (hdepth : depth ≤ 245) :
      depth.toNat + (Path.ofPassphrase passphrase).length ≤ 255 := by
    rw [Path.length_ofPassphrase]
    exact Nat.add_le_add_right (UInt8.le_iff_toNat_le.1 hdepth) 10
  exact ExtendedKey.walk_origin fingerprint (Prod.ext h.publicKey h.chainCode) (hroom h.depth)
    (hroom h.depth')

namespace Cosigners

theorem publicKeyAt_congr {path : Path} {key key' : ExtendedKey}
    {fingerprint : Curve.Point → UInt32}
    (h : (key.walk fingerprint path).map ExtendedKey.origin
      = (key'.walk fingerprint path).map ExtendedKey.origin) :
    publicKeyAt path key = publicKeyAt path key' := by
  have hpoint (result : Except ExtendedKey.Error ExtendedKey) :
      result.map (fun last => PublicKey.ofPoint last.publicKey)
        = (result.map ExtendedKey.origin).map fun origin => PublicKey.ofPoint origin.1 := by
    cases result <;> rfl
  rw [publicKeyAt_eq_walk fingerprint, publicKeyAt_eq_walk fingerprint, hpoint, hpoint, h]

/-- A traversal depends only on what comes of each item. -/
theorem eachFrom_congr {f : α → Except ExtendedKey.Error β} {items items' : List α}
    (h : List.Forall₂ (fun item item' => f item = f item') items items') (position : Nat) :
    eachFrom f position items = eachFrom f position items' := by
  induction h generalizing position with
  | nil => rfl
  | cons hitem _ ih => simp only [eachFrom, hitem, ih]

theorem publicKeysAt_congr {path : Path} {keys keys' : List ExtendedKey}
    (h : List.Forall₂ (fun key key' => publicKeyAt path key = publicKeyAt path key') keys keys') :
    publicKeysAt keys path = publicKeysAt keys' path := by
  by_cases hlen : keys.length = count
  · rw [publicKeysAt_of_length hlen, publicKeysAt_of_length (h.length_eq ▸ hlen),
      eachFrom_congr h]
  · rw [publicKeysAt_eq_error_of_length hlen,
      publicKeysAt_eq_error_of_length (h.length_eq ▸ hlen), h.length_eq]

end Cosigners

namespace Deposit

/-- Cosigners that hand over the same accounts, whatever is noted of these, have the same deposit, or
its derivation fails with the same error. The notes differ all along the walks, and what is taken
from the end of a walk is the public key. -/
theorem derive_sameAccounts {cosigners cosigners' : List ExtendedKey}
    (h : List.Forall₂ ExtendedKey.SameAccount cosigners cosigners') (passphrase : String)
    (network : Network) :
    derive cosigners passphrase network = derive cosigners' passphrase network ∧
      ∀ fingerprint,
        List.Forall₂ (fun key key' =>
          (key.walk fingerprint (Path.ofPassphrase passphrase)).map ExtendedKey.origin
            = (key'.walk fingerprint (Path.ofPassphrase passphrase)).map ExtendedKey.origin)
          cosigners cosigners' ∧
        ∀ key, Cosigners.publicKeyAt (Path.ofPassphrase passphrase) key
          = (key.walk fingerprint (Path.ofPassphrase passphrase)).map
            fun last => PublicKey.ofPoint last.publicKey := by
  have hwalks (fingerprint : Curve.Point → UInt32) :=
    h.imp fun _ _ hsame => hsame.walk_origin fingerprint passphrase
  constructor
  · have hkeys := (hwalks fun _ => 0).imp fun _ _ => Cosigners.publicKeyAt_congr
    rw [derive, derive, Cosigners.publicKeysAt_congr hkeys]
  · intro fingerprint
    exact ⟨hwalks fingerprint, Cosigners.publicKeyAt_eq_walk fingerprint _⟩

/-- A key at the root of one network, and the same key noted for the other one at the greatest
depth. -/
theorem derive_sameAccounts_tpub :
    let key := ExtendedKey.onGenerator 0 0
    let other := { key with
      network := .test, depth := 245, parentFingerprint := 7, childNumber := .hardened ⟨2, by decide⟩ }
    List.Forall₂ ExtendedKey.SameAccount [key, key, key] [other, other, other] ∧
      ∃ deposit, derive [key, key, key] "" .main = .ok deposit ∧
        derive [other, other, other] "" .main = .ok deposit := by
  intro key other
  have hsame : key.SameAccount other := ⟨rfl, rfl, by decide, by decide⟩
  have hall : List.Forall₂ ExtendedKey.SameAccount [key, key, key] [other, other, other] :=
    .cons hsame (.cons hsame (.cons hsame .nil))
  obtain ⟨deposit, h⟩ := derive_onGenerator
  exact ⟨hall, deposit, h, (derive_sameAccounts hall "" .main).1 ▸ h⟩

end Deposit

end TwoOfThree
