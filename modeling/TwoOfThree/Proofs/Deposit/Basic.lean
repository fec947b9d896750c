-- SUMMARY: A derivation in terms of the keys at the end of the path, and what script and descriptor depend on.
import TwoOfThree.Deposit
import TwoOfThree.Proofs.Cosigners.FirstFailure
import TwoOfThree.Proofs.PublicKey.Order

/-!
# Deposits and their keys

A derivation succeeds with the deposit of the keys at the end of the path, or
fails as the walk does. All these keys are written in their short form, and the
script and the descriptor see no more of them than their bytes.
-/

namespace TwoOfThree

/-- The key on the generator with a chain code that repeats one byte. -/
def ExtendedKey.onGenerator (depth chainByte : UInt8) : ExtendedKey where
  network := .main
  depth := depth
  parentFingerprint := 0
  childNumber := .normal ⟨0, by decide⟩
  chainCode := ⟨List.replicate 32 chainByte, rfl⟩
  publicKey := Curve.generator

/-! ## Keys at the end of a path -/

namespace Cosigners

theorem compressed_of_publicKeysAt {keys : List ExtendedKey} {path : Path}
    {publicKeys : List PublicKey} (h : publicKeysAt keys path = .ok publicKeys) :
    ∀ key ∈ publicKeys, key.compressed = true := by
  intro key hkey
  have hmem : Except.ok key ∈ keys.map (publicKeyAt path) :=
    (publicKeysAt_eq_ok_iff.1 h).2 ▸ List.mem_map_of_mem hkey
  obtain ⟨source, _, hsource⟩ := List.mem_map.1 hmem
  unfold publicKeyAt at hsource
  cases hwalk : source.descendant path with
  | error error =>
    rw [hwalk] at hsource
    cases hsource
  | ok point =>
    rw [hwalk] at hsource
    cases hsource
    rfl

theorem length_of_publicKeysAt {keys : List ExtendedKey} {path : Path}
    {publicKeys : List PublicKey} (h : publicKeysAt keys path = .ok publicKeys) :
    publicKeys.length = count := by
  obtain ⟨hlen, hmap⟩ := publicKeysAt_eq_ok_iff.1 h
  rw [← hlen, ← List.length_map (publicKeyAt path), hmap, List.length_map]

end Cosigners

/-! ## Bytes of keys -/

theorem PublicKey.bytes_of_compressed {key : PublicKey} (h : key.compressed = true) :
    key.bytes = key.sortKey := by
  rw [bytes, if_pos h]
  rfl

theorem PublicKey.length_bytes_eq (key : PublicKey) :
    key.bytes.length = 33 + if key.compressed then 0 else 32 := by
  unfold bytes
  split
  · exact key.point.length_short
  · exact key.point.length_long

theorem PublicKey.length_bytes (key : PublicKey) :
    key.bytes.length = 65 ∨ key.bytes.length = 33 := by
  rw [length_bytes_eq]
  cases key.compressed with
  | true => exact .inr rfl
  | false => exact .inl rfl

theorem PublicKey.map_bytes_of_compressed {keys : List PublicKey}
    (h : ∀ key ∈ keys, key.compressed = true) : keys.map bytes = keys.map sortKey :=
  List.map_congr_left fun key hkey => bytes_of_compressed (h key hkey)

/-- The script of keys in script order, in terms of their bytes. -/
theorem multisigScript_eq (keys : List PublicKey) :
    multisigScript keys = Script.encode (.number requiredSignatures ::
      (keys.map PublicKey.bytes).map .push ++
        [.number (keys.map PublicKey.bytes).length, .checkMultisig]) := by
  simp [multisigScript, Script.multisig, Function.comp_def]

theorem multisigScript_congr {keys keys' : List PublicKey}
    (h : keys.map PublicKey.bytes = keys'.map PublicKey.bytes) :
    multisigScript keys = multisigScript keys' := by
  rw [multisigScript_eq, multisigScript_eq, h]

namespace Deposit

theorem descriptor_congr {deposit deposit' : Deposit}
    (h : deposit.publicKeys.map PublicKey.bytes = deposit'.publicKeys.map PublicKey.bytes) :
    deposit.descriptor = deposit'.descriptor := by
  have hhex : deposit.publicKeys.map PublicKey.hex = deposit'.publicKeys.map PublicKey.hex := by
    have hmap := congrArg (List.map Hex.encode) h
    rw [List.map_map, List.map_map] at hmap
    exact hmap
  unfold descriptor
  rw [hhex]

/-! ## Derivations -/

theorem derive_eq_ok_iff {keys : List ExtendedKey} {passphrase : String} {network : Network}
    {deposit : Deposit} :
    derive keys passphrase network = .ok deposit ↔
      ∃ publicKeys, Cosigners.publicKeysAt keys (Path.ofPassphrase passphrase) = .ok publicKeys ∧
        deposit = ofPublicKeys (Path.ofPassphrase passphrase) network publicKeys := by
  rw [derive]
  cases Cosigners.publicKeysAt keys (Path.ofPassphrase passphrase) <;>
    simp [Except.map, eq_comm]

theorem derive_eq_error_iff {keys : List ExtendedKey} {passphrase : String} {network : Network}
    {error : Error} :
    derive keys passphrase network = .error error ↔
      Cosigners.publicKeysAt keys (Path.ofPassphrase passphrase) = .error error := by
  rw [derive]
  cases Cosigners.publicKeysAt keys (Path.ofPassphrase passphrase) <;> simp [Except.map]

theorem deriveAddress_eq_ok_iff {keys : List ExtendedKey} {passphrase : String}
    {network : Network} {address : Address} :
    deriveAddress keys passphrase network = .ok address ↔
      ∃ publicKeys, Cosigners.publicKeysAt keys (Path.ofPassphrase passphrase) = .ok publicKeys ∧
        address = Address.ofScript (sortedMultisigScript publicKeys) network := by
  rw [deriveAddress, derive]
  cases Cosigners.publicKeysAt keys (Path.ofPassphrase passphrase) <;>
    simp [Except.map, ofPublicKeys, eq_comm]

theorem deriveAddress_eq_error_iff {keys : List ExtendedKey} {passphrase : String}
    {network : Network} {error : Error} :
    deriveAddress keys passphrase network = .error error ↔
      Cosigners.publicKeysAt keys (Path.ofPassphrase passphrase) = .error error := by
  rw [deriveAddress, derive]
  cases Cosigners.publicKeysAt keys (Path.ofPassphrase passphrase) <;> simp [Except.map]

/-- How a derivation fails: on the number of the keys, or else at the first key whose walk fails. -/
def FailsWith (keys : List ExtendedKey) (passphrase : String) (error : Error) : Prop :=
  if keys.length = Cosigners.count then
    ∃ position cause, error = .keyDerivation position cause ∧
      Cosigners.FirstFailure (Cosigners.publicKeyAt (Path.ofPassphrase passphrase)) keys
        position cause
  else error = .invalidInput (.keyCount keys.length)

theorem failsWith_of_derive {keys : List ExtendedKey} {passphrase : String} {network : Network}
    {error : Error} (h : derive keys passphrase network = .error error) :
    FailsWith keys passphrase error := by
  rw [derive_eq_error_iff] at h
  unfold FailsWith
  by_cases hlen : keys.length = Cosigners.count
  · rw [if_pos hlen]
    exact Cosigners.firstFailure_of_publicKeysAt hlen h
  · rw [Cosigners.publicKeysAt_eq_error_of_length hlen] at h
    rw [if_neg hlen]
    exact (Except.error.inj h).symm

/-! ## The parts of a deposit -/

/-- How the parts of a derived deposit belong together. -/
structure IsCoherent (deposit : Deposit) : Prop where
  count : deposit.publicKeys.length = 3
  compressed : ∀ key ∈ deposit.publicKeys, key.compressed = true
  ascending : (deposit.publicKeys.map PublicKey.bytes).Pairwise (· ≤ ·)
  witnessScript : deposit.witnessScript = multisigScript deposit.publicKeys
  address : deposit.address = Address.ofScript deposit.witnessScript deposit.network

theorem isCoherent_of_derive {keys : List ExtendedKey} {passphrase : String} {network : Network}
    {deposit : Deposit} (h : derive keys passphrase network = .ok deposit) :
    deposit.IsCoherent := by
  obtain ⟨publicKeys, hkeys, rfl⟩ := derive_eq_ok_iff.1 h
  have hcompressed := PublicKey.forall_mem_sort (Cosigners.compressed_of_publicKeysAt hkeys)
  refine ⟨?_, hcompressed, ?_, rfl, rfl⟩
  · simp only [ofPublicKeys, PublicKey.length_sort]
    exact Cosigners.length_of_publicKeysAt hkeys
  · simp only [ofPublicKeys, PublicKey.map_bytes_of_compressed hcompressed]
    exact PublicKey.sort_sortKeys_pairwise publicKeys

theorem IsCoherent.length_bytes {deposit : Deposit} (h : deposit.IsCoherent) :
    ∀ key ∈ deposit.publicKeys.map PublicKey.bytes, key.length = 33 := by
  rw [PublicKey.map_bytes_of_compressed h.compressed]
  intro key hkey
  obtain ⟨publicKey, _, rfl⟩ := List.mem_map.1 hkey
  exact publicKey.length_sortKey

end Deposit

end TwoOfThree
