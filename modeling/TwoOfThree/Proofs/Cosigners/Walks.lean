-- SUMMARY: Why the walks of three cosigners fail, and which of them is reported.
import TwoOfThree.Proofs.Deposit.Basic
import TwoOfThree.Proofs.ExtendedKey.Descent
import TwoOfThree.Proofs.Path.Segments

/-!
# The walks of the cosigners

The path of a passphrase has ten levels and a normal child at each of them. So a
walk is never stopped by a hardened child, and it is stopped by the depth only from
a key at depth 246 or below it; such a key has no descendants ten levels down at
all. Whatever stops a walk, the first one that is stopped is reported, and the
walks behind it play no part.
-/

namespace TwoOfThree

namespace Cosigners

theorem publicKeyAt_eq_walk (fingerprint : Curve.Point → UInt32) (path : Path)
    (key : ExtendedKey) :
    publicKeyAt path key
      = (key.walk fingerprint path).map fun last => PublicKey.ofPoint last.publicKey := by
  rw [publicKeyAt, key.descendant_eq fingerprint path]
  cases key.walk fingerprint path <;> rfl

theorem publicKeyAt_eq_error_iff (fingerprint : Curve.Point → UInt32) {path : Path}
    {key : ExtendedKey} {cause : ExtendedKey.Error} :
    publicKeyAt path key = .error cause ↔ key.walk fingerprint path = .error cause := by
  rw [publicKeyAt_eq_walk fingerprint]
  cases key.walk fingerprint path <;> simp [Except.map]

theorem publicKeyAt_eq_ok_iff (fingerprint : Curve.Point → UInt32) {path : Path}
    {key : ExtendedKey} {publicKey : PublicKey} :
    publicKeyAt path key = .ok publicKey ↔
      ∃ last, key.walk fingerprint path = .ok last ∧
        PublicKey.ofPoint last.publicKey = publicKey := by
  rw [publicKeyAt_eq_walk fingerprint]
  cases key.walk fingerprint path <;> simp [Except.map]

/-! ## One cosigner -/

/-- Why a walk of ten levels from a key can fail. -/
inductive CanFail (key : ExtendedKey) : ExtendedKey.Error → Prop where
  | tweak : CanFail key (.curve .tweakOutOfRange)
  | sum : CanFail key (.curve .sumIsNeutral)
  | depth (deep : 246 ≤ key.depth) : CanFail key .depthExhausted

variable {passphrase : String} {key : ExtendedKey}

-- What the fingerprint of a key is does not matter below, so any one will do.

theorem canFail_of_publicKeyAt {cause : ExtendedKey.Error}
    (h : publicKeyAt (Path.ofPassphrase passphrase) key = .error cause) : CanFail key cause := by
  have hwalk := (publicKeyAt_eq_error_iff fun _ => 0).1 h
  cases ExtendedKey.walk_stops _ hwalk with
  | hardened mem => exact absurd mem (Path.hardened_notMem_ofPassphrase passphrase _)
  | tweak => exact .tweak
  | sum => exact .sum
  | depth deep =>
    rw [Path.length_ofPassphrase, Path.levels] at deep
    have hdepth : 246 ≤ key.depth.toNat := by omega
    exact .depth (UInt8.le_iff_toNat_le.2 hdepth)

theorem depth_le_of_publicKeyAt {publicKey : PublicKey}
    (h : publicKeyAt (Path.ofPassphrase passphrase) key = .ok publicKey) : key.depth ≤ 245 := by
  obtain ⟨last, hwalk, _⟩ := (publicKeyAt_eq_ok_iff fun _ => 0).1 h
  have hlast := ExtendedKey.depth_walk _ hwalk
  have hlt := last.depth.toNat_lt
  rw [Path.length_ofPassphrase, Path.levels] at hlast
  have hdepth : key.depth.toNat ≤ 245 := by omega
  exact UInt8.le_iff_toNat_le.2 hdepth

/-! ## All three -/

variable {keys : List ExtendedKey}

/-- How the walks of the cosigners come out: at a key for each, or at the first walk that fails. -/
inductive Walks (keys : List ExtendedKey) (passphrase : String) :
    Except Error (List PublicKey) → Prop where
  | reached {publicKeys : List PublicKey} (room : ∀ key ∈ keys, key.depth ≤ 245)
      (ends : keys.map (publicKeyAt (Path.ofPassphrase passphrase)) = publicKeys.map .ok) :
      Walks keys passphrase (.ok publicKeys)
  | stopped {position : Nat} {key : ExtendedKey} {cause : ExtendedKey.Error}
      (found : keys[position]? = some key)
      (first : FirstFailure (publicKeyAt (Path.ofPassphrase passphrase)) keys position cause)
      (reason : CanFail key cause)
      (others : ∀ keys', keys'.length = count →
        keys'.take (position + 1) = keys.take (position + 1) →
        publicKeys keys' passphrase = .error (.keyDerivation position cause)) :
      Walks keys passphrase (.error (.keyDerivation position cause))

theorem publicKeys_error_of_take_eq {position : Nat} {cause : ExtendedKey.Error}
    (h : FirstFailure (publicKeyAt (Path.ofPassphrase passphrase)) keys position cause)
    {keys' : List ExtendedKey} (hcount : keys'.length = count)
    (htake : keys'.take (position + 1) = keys.take (position + 1)) :
    publicKeys keys' passphrase = .error (.keyDerivation position cause) :=
  publicKeysAt_of_firstFailure hcount (h.of_take_eq htake)

theorem walks_publicKeys (hcount : keys.length = count) (passphrase : String) :
    Walks keys passphrase (publicKeys keys passphrase) := by
  cases hkeys : publicKeys keys passphrase with
  | ok publicKeys =>
    obtain ⟨_, hends⟩ := publicKeysAt_eq_ok_iff.1 hkeys
    refine .reached ?_ hends
    intro key hmem
    obtain ⟨publicKey, hend⟩ := exists_map_eq_ok_iff.1 ⟨publicKeys, hends⟩ key hmem
    exact depth_le_of_publicKeyAt hend
  | error error =>
    obtain ⟨position, cause, rfl, hfirst⟩ := firstFailure_of_publicKeysAt hcount hkeys
    obtain ⟨key, hfound, hstop⟩ := Option.map_eq_some_iff.1 hfirst.1
    refine .stopped hfound hfirst (canFail_of_publicKeyAt hstop) ?_
    intro keys' hcount' htake
    exact publicKeys_error_of_take_eq hfirst hcount' htake

/-- Three cosigners have a key each, and then none of them is at a depth above 245, or the first walk
that fails is reported with its own error. No walk fails on a hardened child, and on the depth only
one from a depth of at least 246. On the way the depth of a key is that of the cosigner and the
steps so far, and is never cut to fit a byte. -/
theorem publicKeys_walks (hcount : keys.length = count) (passphrase : String) :
    Walks keys passphrase (publicKeys keys passphrase) ∧
    ∀ key ∈ keys, ∀ fingerprint,
      publicKeyAt (Path.ofPassphrase passphrase) key
        = (key.walk fingerprint (Path.ofPassphrase passphrase)).map
          (fun last => PublicKey.ofPoint last.publicKey) ∧
      ∀ steps last, steps <+: Path.ofPassphrase passphrase →
        key.walk fingerprint steps = .ok last →
        last.depth.toNat = key.depth.toNat + steps.length := by
  refine ⟨walks_publicKeys hcount passphrase, ?_⟩
  intro key _ fingerprint
  refine ⟨publicKeyAt_eq_walk fingerprint _ key, ?_⟩
  intro steps last _ hwalk
  exact ExtendedKey.depth_walk fingerprint hwalk

/-- One cosigner is at the last depth that leaves room, and one right below it. -/
theorem publicKeys_walks_no_room :
    let keys := [ExtendedKey.onGenerator 245 0, ExtendedKey.onGenerator 246 1,
      ExtendedKey.onGenerator 0 2]
    keys.length = count ∧ Walks keys "" (publicKeys keys "") ∧
      ∀ found, publicKeys keys "" ≠ .ok found := by
  intro keys
  have hcount : keys.length = count := rfl
  have hwalks := (publicKeys_walks hcount "").1
  refine ⟨hcount, hwalks, ?_⟩
  intro found hfound
  rw [hfound] at hwalks
  cases hwalks with
  | reached room _ =>
    have hdeep := room (ExtendedKey.onGenerator 246 1) (List.mem_cons_of_mem _ List.mem_cons_self)
    exact absurd hdeep (by decide)

end Cosigners

end TwoOfThree
