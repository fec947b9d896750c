-- SUMMARY: Passphrases that are no text: what is reported of them, by themselves and in a batch.
import TwoOfThree.Proofs.Batch.Result
import TwoOfThree.Proofs.Text.Utf8Reading

/-!
# Passphrases given as bytes

A passphrase given as bytes has to be text. A path is derived from bytes if and
only if they are, and otherwise the fault in them is reported. An entry of a
batch reports the same fault: no derivation that gets as far as the cosigners
fails on the encoding. What the entry shows of such a passphrase comes from the
lossy reading, which finds the fault in the same place.
-/

namespace TwoOfThree

/-! ## Paths of bytes -/

namespace Path

variable {bytes : Bytes}

theorem deriveFromBytes_eq_ok_iff {path : Path} :
    deriveFromBytes bytes = .ok path ↔
      ∃ text, bytes = Utf8.encode text ∧ path = ofPassphrase text := by
  simp only [← Utf8.decode_eq_ok_iff]
  rw [deriveFromBytes, ofBytes]
  cases Utf8.decode bytes <;> simp [Except.map, Except.mapError, eq_comm]

theorem deriveFromBytes_eq_error_iff {error : Error} :
    deriveFromBytes bytes = .error error ↔
      ∃ fault, Utf8.decode bytes = .error fault ∧
        error = .invalidInput (.passphraseEncoding fault) := by
  rw [deriveFromBytes, ofBytes]
  cases Utf8.decode bytes <;> simp [Except.map, Except.mapError, eq_comm]

/-- A path is derived from the encoding of a text, and is the path that the text names. For other
bytes it is reported how far the longest text extends that they begin with. -/
structure ReadFrom (bytes : Bytes) : Prop where
  ok (path : Path) : deriveFromBytes bytes = .ok path ↔
    ∃ text : String, bytes.toByteArray = text.toUTF8 ∧ path = ofPassphrase text
  error {error : Error} : deriveFromBytes bytes = .error error →
    ∃ fault text, error = .invalidInput (.passphraseEncoding fault) ∧
      Utf8.LongestText text bytes ∧ fault.validUpTo = (Utf8.encode text).length

theorem readFrom (bytes : Bytes) : ReadFrom bytes where
  ok path := by
    simp only [deriveFromBytes_eq_ok_iff, ← Utf8.toByteArray_encode, List.toByteArray_inj]
  error h := by
    obtain ⟨fault, hdecode, rfl⟩ := deriveFromBytes_eq_error_iff.1 h
    obtain ⟨text, bad, rest, rfl, hafter⟩ := Utf8.after_of_decode hdecode
    exact ⟨fault, text, rfl, hafter.subpart.longestText text, hafter.validUpTo⟩

end Path

/-! ## Entries of bytes -/

/-- A derivation from text does not fail on the encoding of the passphrase. -/
theorem Deposit.deriveAddress_ne_encoding {keys : List ExtendedKey} {passphrase : String}
    {network : Network} (fault : Utf8.Fault) :
    deriveAddress keys passphrase network ≠ .error (.invalidInput (.passphraseEncoding fault)) := by
  intro h
  have hderive : derive keys passphrase network = .error _ :=
    derive_eq_error_iff.2 (deriveAddress_eq_error_iff.1 h)
  have hfails := failsWith_of_derive hderive
  unfold FailsWith at hfails
  split at hfails
  · obtain ⟨position, cause, heq, _⟩ := hfails
    cases heq
  · cases hfails

namespace Batch

theorem entry_eq_encoding_iff {keys : List ExtendedKey} {network : Network} {bytes : Bytes}
    {fault : Utf8.Fault} :
    (entry keys network bytes).result = .error (.invalidInput (.passphraseEncoding fault)) ↔
      Utf8.decode bytes = .error fault := by
  rw [(entry_isOf bytes).outcome]
  cases Utf8.decode bytes with
  | error fault' => simp
  | ok text => simp [Deposit.deriveAddress_ne_encoding]

/-- The entry reports the fault that is reported when a path is derived from the bytes. It shows
a text as it is. Otherwise it shows the text before the fault, a replacement character, and in the
same way what comes after the stretch at fault. -/
structure Entry.ReadFrom (bytes : Bytes) (entry : Entry) : Prop where
  fault (fault : Utf8.Fault) :
    entry.result = .error (.invalidInput (.passphraseEncoding fault)) ↔
      Path.deriveFromBytes bytes = .error (.invalidInput (.passphraseEncoding fault))
  text {text : String} : bytes = Utf8.encode text → entry.passphrase = text
  shown {fault : Utf8.Fault} :
    Path.deriveFromBytes bytes = .error (.invalidInput (.passphraseEncoding fault)) →
    ∃ text bad rest shown, bytes = Utf8.encode text ++ (bad ++ rest) ∧
      fault.After text bad rest ∧ Utf8.Shown rest shown ∧
      entry.passphrase = text ++ "\uFFFD" ++ shown

theorem entry_readFrom (keys : List ExtendedKey) (network : Network) (bytes : Bytes) :
    (entry keys network bytes).ReadFrom bytes where
  fault fault := by
    rw [entry_eq_encoding_iff, Path.deriveFromBytes_eq_error_iff]
    simp
  text := by
    rintro text rfl
    exact Utf8.decodeLossy_encode text
  shown h := by
    obtain ⟨fault, hdecode, heq⟩ := Path.deriveFromBytes_eq_error_iff.1 h
    cases heq
    obtain ⟨text, bad, rest, rfl, hafter⟩ := Utf8.after_of_decode hdecode
    exact ⟨text, bad, rest, _, rfl, hafter, Utf8.shown_iff.2 rfl,
      Utf8.decodeLossy_of_subpart hafter.subpart text⟩

/-- Bytes are read as UTF-8 wherever a passphrase is given as bytes, with the same fault for a path
and for an entry of a batch. -/
theorem passphrases_read (keys : List ExtendedKey) (network : Network)
    (passphrases : List Bytes) :
    (∀ bytes, Path.ReadFrom bytes) ∧
    (keys.length = Cosigners.count →
      ∃ entries, List.Forall₂ Entry.ReadFrom passphrases entries ∧
        ∀ concurrency ≤ permitLimit,
          AlwaysReturns keys network passphrases concurrency entries) := by
  refine ⟨Path.readFrom, fun hkeys => ?_⟩
  refine ⟨passphrases.map (entry keys network), ?_, fun _ => alwaysReturns_entries hkeys⟩
  rw [List.forall₂_map_right_iff]
  exact List.forall₂_same.2 fun bytes _ => entry_readFrom keys network bytes

/-- A passphrase with two faults, and one that ends inside a sequence. -/
theorem passphrases_read_two_faults :
    let keys := List.replicate 3 (ExtendedKey.onGenerator 0 0)
    let passphrases : List Bytes := [[0x61], [0x61, 0xc3, 0x28, 0xff], [0x61, 0xe2, 0x82]]
    (∃ path, Path.deriveFromBytes [0x61] = .ok path) ∧
    Path.deriveFromBytes [0x61, 0xc3, 0x28, 0xff]
      = .error (.invalidInput (.passphraseEncoding ⟨1, some 1⟩)) ∧
    Path.deriveFromBytes [0x61, 0xe2, 0x82]
      = .error (.invalidInput (.passphraseEncoding ⟨1, none⟩)) ∧
    ∃ entries, List.Forall₂ Entry.ReadFrom passphrases entries ∧
      ∀ concurrency ≤ permitLimit,
        AlwaysReturns keys .test passphrases concurrency entries := by
  intro keys passphrases
  have hread := passphrases_read keys .test passphrases
  refine ⟨⟨_, ((hread.1 [0x61]).ok _).2 ⟨"a", ?_, rfl⟩⟩, rfl, rfl, hread.2 rfl⟩
  exact Utf8.toByteArray_encode "a"

end Batch

end TwoOfThree
