-- SUMMARY: What a reader of JSON finds in the output of a batch, line by line.
import TwoOfThree.Proofs.Batch.Lines
import TwoOfThree.Proofs.Batch.Result
import TwoOfThree.Proofs.Report.Reading
import TwoOfThree.Proofs.Text.Utf8Reading

/-!
# What the output of a batch tells

The output of a batch has one line for each filled line of the passphrase file. A
reader finds an object of two members in it: the passphrase, and either its
address or why it has none. A passphrase that is no text shows with replacement
characters, so it could be taken for another one; it has no address, though, and
where there is an address, what is read is the passphrase itself.
-/

namespace TwoOfThree.Batch

variable {keys : List ExtendedKey} {network : Network} {passphrase : Bytes}

/-! ## Lines -/

/-- What the second member of an object tells of a passphrase. -/
inductive Tells (keys : List ExtendedKey) (network : Network) (passphrase : Bytes) :
    String × String → Prop where
  /-- What is shown of the passphrase is the passphrase, and has this address. -/
  | address {address : Address}
      (isText : (Utf8.decodeLossy passphrase).toUTF8 = passphrase.toByteArray)
      (derives : Deposit.deriveAddress keys (Utf8.decodeLossy passphrase) network = .ok address) :
      Tells keys network passphrase ("address", address.render)
  | notDerived {error : Error}
      (isText : (Utf8.decodeLossy passphrase).toUTF8 = passphrase.toByteArray)
      (fails : Deposit.deriveAddress keys (Utf8.decodeLossy passphrase) network = .error error) :
      Tells keys network passphrase ("error", error.message)
  | notText {fault : Utf8.Fault} (faulty : Utf8.decode passphrase = .error fault) :
      Tells keys network passphrase
        ("error", (Error.invalidInput (.passphraseEncoding fault)).message)

/-- A line that holds no control character, and an object of two members: what is shown of the
passphrase, and what it tells of it. -/
structure IsLineOf (keys : List ExtendedKey) (network : Network) (passphrase : Bytes)
    (line : List Char) : Prop where
  printable : ∀ c ∈ line, JsonString.isRaw c = true
  object : ∃ member, Tells keys network passphrase member ∧
    JsonObject.read line = some [("passphrase", Utf8.decodeLossy passphrase), member]

/-- Cut at its line feeds, the output has a line for each filled line of the file, in the order of
the file, and nothing behind the last line feed. -/
def TellsFile (keys : List ExtendedKey) (network : Network) (content : Bytes) (output : String) :
    Prop :=
  ∃ lines, output.toList.splitOn '\n' = lines ++ [[]] ∧
    List.Forall₂ (fun line => IsLineOf keys network (stripReturn line))
      ((fileLines content).filter isFilled) lines

/-- The line of a passphrase that is no text tells where the passphrase goes wrong. -/
theorem IsLineOf.read_of_fault {line : List Char} {fault : Utf8.Fault}
    (h : IsLineOf keys network passphrase line) (hfault : Utf8.decode passphrase = .error fault) :
    JsonObject.read line = some [("passphrase", Utf8.decodeLossy passphrase),
      ("error", (Error.invalidInput (.passphraseEncoding fault)).message)] := by
  obtain ⟨member, htells, hread⟩ := h.object
  have hnotText : (Utf8.decodeLossy passphrase).toUTF8 ≠ passphrase.toByteArray := by
    intro hshown
    rw [← Utf8.toByteArray_encode] at hshown
    have hdata := congrArg ByteArray.data hshown
    rw [List.data_toByteArray, List.data_toByteArray] at hdata
    rw [Utf8.decode_eq_ok_iff.2 (List.toArray_inj hdata).symm] at hfault
    cases hfault
  cases htells with
  | address isText => exact absurd isText hnotText
  | notDerived isText => exact absurd isText hnotText
  | notText faulty =>
    rw [hfault] at faulty
    cases faulty
    exact hread

/-! ## Objects -/

theorem tells_entryObject (keys : List ExtendedKey) (network : Network) (passphrase : Bytes) :
    ∃ member, Tells keys network passphrase member ∧
      Report.entryObject (entry keys network passphrase)
        = [("passphrase", Utf8.decodeLossy passphrase), member] := by
  have houtcome : (entry keys network passphrase).result = _ := (entry_isOf passphrase).outcome
  unfold Report.entryObject
  rw [houtcome]
  cases hdecode : Utf8.decode passphrase with
  | error fault => exact ⟨_, .notText hdecode, rfl⟩
  | ok text =>
    obtain rfl := Utf8.decode_eq_ok_iff.1 hdecode
    have hshown := Utf8.decodeLossy_encode text
    have htext : (Utf8.decodeLossy (Utf8.encode text)).toUTF8 = (Utf8.encode text).toByteArray := by
      rw [hshown, Utf8.toByteArray_encode]
    dsimp only
    cases hderive : Deposit.deriveAddress keys text network with
    | error error =>
      rw [← hshown] at hderive
      exact ⟨_, .notDerived htext hderive, rfl⟩
    | ok address =>
      rw [← hshown] at hderive
      exact ⟨_, .address htext hderive, rfl⟩

theorem isLineOf_compact (keys : List ExtendedKey) (network : Network) (passphrase : Bytes) :
    IsLineOf keys network passphrase
      (Report.entryObject (entry keys network passphrase)).compact.toList := by
  obtain ⟨member, htells, hobject⟩ := tells_entryObject keys network passphrase
  constructor
  · rw [JsonObject.compact, String.toList_ofList]
    exact JsonObject.isRaw_compactChars _
  · refine ⟨member, htells, ?_⟩
    rw [JsonObject.read_compact, hobject]

/-- The report of the entries of a file tells of the file. -/
theorem tellsFile_text (keys : List ExtendedKey) (network : Network) (content : Bytes) :
    TellsFile keys network content (Report.text
      ((((splitPassphrases content).map (entry keys network)).map Report.entryObject).map
        JsonObject.compact)) := by
  refine ⟨_, Report.splitOn_text_compact _, ?_⟩
  rw [splitPassphrases_eq]
  simp only [List.map_map]
  rw [List.forall₂_map_right_iff]
  exact List.forall₂_same.2 fun line _ => isLineOf_compact keys network (stripReturn line)

end TwoOfThree.Batch
