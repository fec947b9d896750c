-- SUMMARY: The keys in a witness script ascend, and strictly only if no two cosigners end at one key.
import TwoOfThree.Proofs.Deposit.AddressText
import TwoOfThree.Proofs.ExtendedKey.Descent
import TwoOfThree.Proofs.Report.Deposit
import TwoOfThree.Proofs.Settings.Accepted

/-!
# The keys in a witness script

A witness script pushes the keys at the end of the cosigners' walks in ascending
order. Nothing on the way there compares the cosigners with each other, so what is
derived can push one key more than once. The keys are then not strictly ascending,
and whoever holds the repeated key fills two of the three places.
-/

namespace TwoOfThree

/-! ## Sorted byte strings -/

theorem Bytes.pairwise_lt_iff_nodup {keys : List Bytes} (h : keys.Pairwise (· ≤ ·)) :
    keys.Pairwise (· < ·) ↔ keys.Nodup := by
  rw [List.nodup_iff_pairwise_ne, List.Pairwise.iff (S := fun a b => a ≤ b ∧ a ≠ b)
    (fun _ _ => Std.lt_iff_le_and_ne), List.pairwise_and_iff]
  exact and_iff_right h

/-! ## Keys of a deposit -/

namespace Deposit

/-- The bytes of the key at the end of a cosigner's walk. -/
def walkedBytes (passphrase : String) (cosigner : ExtendedKey) : Except ExtendedKey.Error Bytes :=
  (Cosigners.publicKeyAt (Path.ofPassphrase passphrase) cosigner).map PublicKey.bytes

/-- The script asks for two signatures and pushes these keys, which are those that the walks of the
cosigners end at, each as often as walks end there, in ascending order. -/
structure PushesAscending (passphrase : String) (cosigners : List ExtendedKey) (script : Bytes)
    (keys : List Bytes) : Prop where
  read : Script.read script = some (.number 2 :: keys.map .push ++ [.number 3, .checkMultisig])
  walks : (keys.map Except.ok).Perm (cosigners.map (walkedBytes passphrase))
  ascending : keys.Pairwise (· ≤ ·)

variable {passphrase : String} {cosigners : List ExtendedKey} {script : Bytes} {keys : List Bytes}

theorem map_walkedBytes {publicKeys : List PublicKey}
    (h : cosigners.map (Cosigners.publicKeyAt (Path.ofPassphrase passphrase))
      = publicKeys.map .ok) :
    cosigners.map (walkedBytes passphrase) = (publicKeys.map PublicKey.bytes).map .ok := by
  have hmap := congrArg (List.map (Except.map PublicKey.bytes)) h
  rw [List.map_map, List.map_map] at hmap
  rw [List.map_map]
  exact hmap

theorem PushesAscending.strict_iff (h : PushesAscending passphrase cosigners script keys) :
    keys.Pairwise (· < ·) ↔ (cosigners.map (walkedBytes passphrase)).Nodup := by
  rw [Bytes.pairwise_lt_iff_nodup h.ascending, ← h.walks.nodup_iff, List.nodup_iff_pairwise_ne,
    List.nodup_iff_pairwise_ne, List.pairwise_map]
  simp only [ne_eq, Except.ok.injEq]

theorem walkedBytes_congr {cosigner cosigner' : ExtendedKey} {key key' : Bytes}
    (hpublic : cosigner.publicKey = cosigner'.publicKey)
    (hcode : cosigner.chainCode = cosigner'.chainCode)
    (h : walkedBytes passphrase cosigner = .ok key)
    (h' : walkedBytes passphrase cosigner' = .ok key') : key = key' := by
  -- what the fingerprint of a key is does not matter, so any one will do
  have horigin : cosigner.origin = cosigner'.origin := Prod.ext hpublic hcode
  have hend := ExtendedKey.walk_agreeUpToDepth (fun _ => 0) horigin (Path.ofPassphrase passphrase)
  simp only [walkedBytes, Cosigners.publicKeyAt, ExtendedKey.descendant_eq fun _ => 0] at h h'
  generalize cosigner.walk (fun _ => 0) (Path.ofPassphrase passphrase) = result at hend h
  generalize cosigner'.walk (fun _ => 0) (Path.ofPassphrase passphrase) = result' at hend h'
  cases hend with
  | exhausted => cases h
  | exhausted' => cases h'
  | failed => cases h
  | reached hlast =>
    cases h
    cases h'
    exact congrArg (fun point => (PublicKey.ofPoint point).bytes) (Prod.mk.inj hlast).1

/-- Keys ascend strictly only if no two cosigners have the same public key and chain code. -/
theorem PushesAscending.nodup_of_strict (h : PushesAscending passphrase cosigners script keys)
    (hstrict : keys.Pairwise (· < ·)) :
    (cosigners.map fun cosigner => (cosigner.publicKey, cosigner.chainCode)).Nodup := by
  have hends : ∀ cosigner ∈ cosigners, ∃ key, walkedBytes passphrase cosigner = .ok key := by
    intro cosigner hmem
    have hwalk := h.walks.mem_iff.2 (List.mem_map_of_mem hmem)
    obtain ⟨key, _, hkey⟩ := List.mem_map.1 hwalk
    exact ⟨key, hkey.symm⟩
  have hwalks := h.strict_iff.1 hstrict
  rw [List.nodup_iff_pairwise_ne, List.pairwise_map] at hwalks ⊢
  -- Equal origins alone do not give equal walks: the depth might stop only one of them.
  refine hwalks.imp_of_mem ?_
  intro a b ha hb hne heq
  obtain ⟨key, hkey⟩ := hends a ha
  obtain ⟨key', hkey'⟩ := hends b hb
  rw [Prod.mk.injEq] at heq
  rw [hkey, hkey', walkedBytes_congr heq.1 heq.2 hkey hkey'] at hne
  exact hne rfl

/-- A repeated cosigner has a repeated key. -/
theorem PushesAscending.eq_replicate {n : Nat} {cosigner : ExtendedKey} {key : Bytes}
    (h : PushesAscending passphrase (List.replicate n cosigner) script keys)
    (hwalk : walkedBytes passphrase cosigner = .ok key) : keys = List.replicate n key := by
  have hwalks := h.walks
  rw [List.map_replicate, hwalk, List.perm_replicate, List.eq_replicate_iff, List.length_map]
    at hwalks
  rw [List.eq_replicate_iff]
  refine ⟨hwalks.1, ?_⟩
  intro key' hmem
  exact Except.ok.inj (hwalks.2 _ (List.mem_map_of_mem hmem))

theorem pushesAscending_of_derive {network : Network} {deposit : Deposit}
    (h : derive cosigners passphrase network = .ok deposit) :
    ∃ keys, PushesAscending passphrase cosigners deposit.witnessScript keys := by
  have hcoherent := isCoherent_of_derive h
  refine ⟨_, hcoherent.read_witnessScript, ?_, hcoherent.ascending⟩
  obtain ⟨publicKeys, hkeys, rfl⟩ := derive_eq_ok_iff.1 h
  have hperm := ((PublicKey.sort_perm publicKeys).map PublicKey.bytes).map
    (Except.ok (ε := ExtendedKey.Error))
  rw [map_walkedBytes (Cosigners.publicKeysAt_eq_ok_iff.1 hkeys).2]
  exact hperm

/-! ## What is accepted -/

/-- A derivation succeeds if there are three cosigners and each walk succeeds by itself. -/
theorem exists_derive_iff {network : Network} :
    (∃ deposit, derive cosigners passphrase network = .ok deposit) ↔
      cosigners.length = Cosigners.count ∧
      ∀ cosigner ∈ cosigners, ∃ key, walkedBytes passphrase cosigner = .ok key := by
  have hwalk : ∀ cosigner, (∃ key, walkedBytes passphrase cosigner = .ok key) ↔
      ∃ publicKey, Cosigners.publicKeyAt (Path.ofPassphrase passphrase) cosigner
        = .ok publicKey := by
    intro cosigner
    unfold walkedBytes
    cases Cosigners.publicKeyAt (Path.ofPassphrase passphrase) cosigner <;> simp [Except.map]
  simp only [hwalk, ← Cosigners.exists_map_eq_ok_iff, derive_eq_ok_iff,
    Cosigners.publicKeysAt_eq_ok_iff]
  constructor
  · rintro ⟨_, publicKeys, ⟨hlen, hmap⟩, _⟩
    exact ⟨hlen, publicKeys, hmap⟩
  · rintro ⟨hlen, publicKeys, hmap⟩
    exact ⟨_, publicKeys, ⟨hlen, hmap⟩, rfl⟩

/-- The keys in the witness script of a deposit are those at the end of the walks, in ascending
order. They ascend strictly if and only if no two walks end at one key, and then no two cosigners
have the same public key and chain code. Nothing else that is asked of the cosigners, when they are
read or when their keys are derived, concerns more than one of them. -/
theorem derive_ascends (cosigners : List ExtendedKey) (passphrase : String) (network : Network) :
    (∀ deposit, derive cosigners passphrase network = .ok deposit →
      ∃ keys, PushesAscending passphrase cosigners deposit.witnessScript keys ∧
        (keys.Pairwise (· < ·) ↔ (cosigners.map (walkedBytes passphrase)).Nodup) ∧
        (keys.Pairwise (· < ·) →
          (cosigners.map fun cosigner => (cosigner.publicKey, cosigner.chainCode)).Nodup)) ∧
    ((∃ deposit, derive cosigners passphrase network = .ok deposit) ↔
      cosigners.length = Cosigners.count ∧
      ∀ cosigner ∈ cosigners, ∃ key, walkedBytes passphrase cosigner = .ok key) ∧
    ∀ file overrides, (∃ settings, Settings.resolve file overrides = .ok settings) ↔
      (∃ network, Network.ofSelector? (Settings.selector file overrides) = some network) ∧
      (Settings.keyTexts file overrides).length = Cosigners.count ∧
      ∀ text ∈ Settings.keyTexts file overrides, ∃ key, ExtendedKey.parse text = .ok key := by
  refine ⟨?_, exists_derive_iff, fun _ _ => Settings.exists_resolve_iff⟩
  intro deposit h
  obtain ⟨keys, hkeys⟩ := pushesAscending_of_derive h
  exact ⟨keys, hkeys, hkeys.strict_iff, hkeys.nodup_of_strict⟩

/-- The text of the key on the generator. -/
def generatorText : String :=
  "xpub661MyMwAqRbcEYS8w7XLSVeEsBXy79zSzH1J8vCdxAZningWLdN3zgtU6"
    ++ "QzvJsNBNF5QPBBBg1yVF2LKrcfGdJq86PeLWDMUCYatZPzQu8R"

theorem parse_generatorText :
    ExtendedKey.parse generatorText = .ok (ExtendedKey.onGenerator 0 0) := by
  have hread : (ExtendedKey.parse generatorText).toOption = some (ExtendedKey.onGenerator 0 0) := by
    decide +kernel
  revert hread
  cases ExtendedKey.parse generatorText with
  | error error => exact nofun
  | ok key => exact fun hread => congrArg Except.ok (Option.some.inj hread)

/-- One cosigner given three times is accepted, and its key fills all three places. -/
theorem derive_repeated_cosigner :
    let key := ExtendedKey.onGenerator 0 0
    Settings.resolve SettingsFile.empty ⟨none, [generatorText, generatorText, generatorText]⟩
        = .ok ⟨.main, [key, key, key], defaultConcurrency⟩ ∧
      ∃ deposit bytes, derive [key, key, key] "" .main = .ok deposit ∧
        Script.read deposit.witnessScript = some [.number 2, .push bytes, .push bytes, .push bytes,
          .number 3, .checkMultisig] ∧
        ¬ [bytes, bytes, bytes].Pairwise (· < ·) := by
  intro key
  constructor
  · refine Settings.resolve_eq_ok_iff.2 ⟨by decide, ?_, rfl⟩
    refine Cosigners.parse_eq_ok_iff.2 ⟨rfl, ?_⟩
    simp only [Settings.keyTexts, List.isEmpty_cons, Bool.false_eq_true, if_false, List.map_cons,
      List.map_nil, parse_generatorText, key]
  · obtain ⟨deposit, hderive⟩ := derive_onGenerator
    obtain ⟨keys, hkeys⟩ := pushesAscending_of_derive hderive
    obtain ⟨bytes, hwalk⟩ := (exists_derive_iff.1 ⟨deposit, hderive⟩).2 key List.mem_cons_self
    obtain rfl : keys = [bytes, bytes, bytes] := hkeys.eq_replicate (n := 3) hwalk
    exact ⟨deposit, bytes, hderive, hkeys.read, by simp⟩

end Deposit

end TwoOfThree
