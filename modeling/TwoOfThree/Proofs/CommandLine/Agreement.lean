-- SUMMARY: The commands agree: whatever two of them tell of a passphrase, they tell the same.
import TwoOfThree.Proofs.Batch.Lines
import TwoOfThree.Proofs.CommandLine.Console
import TwoOfThree.Proofs.Report.Deposit
import TwoOfThree.Proofs.Report.Reading

/-!
# Agreement of the commands

The commands reach the facts about a deposit by different ways: one prints the
path without any settings, one walks it for each cosigner and prints the keys, one
derives the deposit, and a batch does so for the raw lines of a file. With one set
of accepted settings, all of them rest on the keys at the end of one path, and so
they show the same deposit or fail with the same error.
-/

namespace TwoOfThree.CommandLine

/-! ## Agreement -/

/-- What the commands tell of a passphrase: all of the same deposit, with this address, or all of the
same error. The path is printed in any case. -/
inductive Agree (console : Console) (passphrase : String) : Except Error String → Prop where
  | deposit {path address text : String} {object : JsonObject} {keys sorted : List Bytes}
      (pathLine : console.answer ["path", "--", passphrase] = prints [path])
      (addressLine : console.answer ["address", "--", passphrase] = prints [address])
      (objectLines : console.answer ["address", "--json", "--", passphrase] = prints [text])
      (keyLines : console.answer ["pubkeys", "--", passphrase]
        = prints (keys.mapIdx fun position key => s!"{position} {Hex.encode key}"))
      (object_read : JsonObject.read text.toList = some object)
      (path_shown : object.lookup "path" = some path)
      (address_shown : object.lookup "address" = some address)
      (keys_shown : Report.ShowsKeys object sorted)
      (keys_sorted : sorted.Perm keys ∧ sorted.Pairwise (· ≤ ·) ∧ keys.length = 3) :
      Agree console passphrase (.ok address)
  | failure {path : String} {error : Error}
      (pathLine : console.answer ["path", "--", passphrase] = prints [path])
      (address : console.answer ["address", "--", passphrase] = fails (.address error))
      (object : console.answer ["address", "--json", "--", passphrase] = fails (.address error))
      (pubkeys : console.answer ["pubkeys", "--", passphrase] = fails (.pubkeys error)) :
      Agree console passphrase (.error error)

/-- The member that a batch adds to a passphrase. -/
def resultMember : Except Error String → String × String
  | .ok address => ("address", address)
  | .error error => ("error", error.message)

/-- Every batch tells this of a passphrase, wherever it stands in a file. -/
def BatchTells (console : Console) (settings : Settings) (passphrase : String)
    (result : Except Error String) : Prop :=
  ∀ (file : String) (concurrency : Option Nat) (content : Bytes) (line : Nat),
    file ≠ "" → console.files file = .file content →
    concurrency.getD settings.concurrency ≤ Batch.permitLimit →
    Batch.HasLine content line (Utf8.encode passphrase) →
    ∃ output text, console.answer (batchWords file concurrency) = .ok ⟨output, .success⟩ ∧
      (output.toList.splitOn '\n')[Batch.entryIndex content line]? = some text ∧
      JsonObject.read text = some [("passphrase", passphrase), resultMember result]

/-- A fresh passphrase spells out the random bytes, and comes with what its address would be. -/
structure FreshAgrees (console : Console) (passphrase : String) : Prop where
  length : passphrase.length = 64
  digits : ∀ c ∈ passphrase.toList, c ∈ "0123456789abcdef".toList
  decoded : Hex.decode passphrase = some console.random.val
  line : (∃ address, console.answer ["address", "--", passphrase] = prints [address] ∧
      console.answer ["new"] = prints [passphrase ++ " " ++ address]) ∨
    ∃ failure, console.answer ["address", "--", passphrase] = fails failure ∧
      console.answer ["new"] = fails failure
  object : console.answer ["new", "--json"]
    = console.answer ["address", "--json", "--", passphrase]

/-! ## The commands agree -/

section

variable {console : Console} {settings : Settings} (h : console.Accepts settings)
include h

theorem agree_of_error {passphrase : String} {error : Error}
    (hkeys : Cosigners.publicKeysAt settings.keys (Path.ofPassphrase passphrase) = .error error) :
    Agree console passphrase (.error error) := by
  have hderive : Deposit.derive settings.keys passphrase settings.network = .error error :=
    Deposit.derive_eq_error_iff.2 hkeys
  have haddress := answer_address h passphrase false
  have hobject := answer_address h passphrase true
  have hpubkeys := answer_pubkeys h passphrase
  rw [hderive] at haddress hobject
  rw [hkeys] at hpubkeys
  exact .failure (answer_path h passphrase) haddress hobject hpubkeys

theorem agree_of_ok {passphrase : String} {publicKeys : List PublicKey} {deposit : Deposit}
    (hkeys : Cosigners.publicKeysAt settings.keys (Path.ofPassphrase passphrase) = .ok publicKeys)
    (hdeposit : deposit
      = .ofPublicKeys (Path.ofPassphrase passphrase) settings.network publicKeys) :
    Agree console passphrase (.ok deposit.address.render) := by
  have hderive : Deposit.derive settings.keys passphrase settings.network = .ok deposit :=
    Deposit.derive_eq_ok_iff.2 ⟨publicKeys, hkeys, hdeposit⟩
  have hcompressed := Cosigners.compressed_of_publicKeysAt hkeys
  have hcount : publicKeys.length = 3 := Cosigners.length_of_publicKeysAt hkeys
  have haddress := answer_address h passphrase false
  have hobject := answer_address h passphrase true
  have hpubkeys := answer_pubkeys h passphrase
  have hpath : some (Path.render (Path.ofPassphrase passphrase))
      = some (Path.format (Path.indices passphrase)) :=
    congrArg some (Path.render_ofPassphrase passphrase)
  rw [hderive] at haddress hobject
  simp only [hkeys, Report.keyLines_eq] at hpubkeys
  subst hdeposit
  refine .deposit (answer_path h passphrase) haddress hobject hpubkeys (JsonObject.read_pretty _)
    hpath rfl (Report.showsKeys_depositObject passphrase _ _ hcount) ⟨?_, ?_, ?_⟩
  · exact (PublicKey.sort_perm publicKeys).map PublicKey.bytes
  · rw [PublicKey.map_bytes_of_compressed (PublicKey.forall_mem_sort hcompressed)]
    exact PublicKey.sort_sortKeys_pairwise publicKeys
  · rw [List.length_map, hcount]

theorem agree (passphrase : String) :
    Agree console passphrase ((Deposit.deriveAddress settings.keys passphrase settings.network).map
      Address.render) := by
  cases hkeys : Cosigners.publicKeysAt settings.keys (Path.ofPassphrase passphrase) with
  | error error =>
    rw [Deposit.deriveAddress, Deposit.derive_eq_error_iff.2 hkeys]
    exact agree_of_error h hkeys
  | ok publicKeys =>
    rw [Deposit.deriveAddress, Deposit.derive_eq_ok_iff.2 ⟨publicKeys, hkeys, rfl⟩]
    exact agree_of_ok h hkeys rfl

theorem batchTells {passphrase : String} (hne : passphrase ≠ "")
    (hend : passphrase.toList.getLast? ≠ some '\r') :
    BatchTells console settings passphrase
      ((Deposit.deriveAddress settings.keys passphrase settings.network).map Address.render) := by
  intro file concurrency content line hfile hcontent hlimit hline
  have hentry := Batch.getElem?_splitPassphrases hline (Batch.encode_ne_nil hne)
    (Batch.getLast?_encode hend)
  have hobject : (((Batch.splitPassphrases content).map
      (Batch.entry settings.keys settings.network)).map Report.entryObject)[
        Batch.entryIndex content line]? = some [("passphrase", passphrase), resultMember
          ((Deposit.deriveAddress settings.keys passphrase settings.network).map Address.render)] := by
    rw [List.getElem?_map, List.getElem?_map, hentry, Option.map_some, Option.map_some,
      Batch.entry_encode]
    unfold Report.entryObject
    cases Deposit.deriveAddress settings.keys passphrase settings.network <;> rfl
  obtain ⟨text, htext, hread⟩ := Report.read_line hobject
  exact ⟨_, text, answer_batch h hfile hcontent hlimit, htext, hread⟩

theorem freshAgrees : FreshAgrees console (Passphrase.ofRandom console.random) := by
  have hnew := answer_new h false
  have hnewObject := answer_new h true
  have haddress := answer_address h (Passphrase.ofRandom console.random) false
  have hobject := answer_address h (Passphrase.ofRandom console.random) true
  refine ⟨?_, ?_, Hex.decode_encode _, ?_, hnewObject.trans hobject.symm⟩
  · rw [Passphrase.ofRandom, Hex.encode, String.length_ofList, Hex.length_encodeChars,
      console.random.property]
    rfl
  · rw [Passphrase.ofRandom, Hex.encode, String.toList_ofList]
    exact Hex.mem_encodeChars console.random.val
  · cases hderive : Deposit.derive settings.keys (Passphrase.ofRandom console.random)
        settings.network with
    | error error =>
      rw [hderive] at hnew haddress
      exact .inr ⟨_, haddress, hnew⟩
    | ok deposit =>
      rw [hderive] at hnew haddress
      exact .inl ⟨_, haddress, hnew⟩

/-- With accepted settings, all commands tell the same of every passphrase, and `new` tells of a
fresh passphrase what is told of it when it is given. -/
theorem commands_agree :
    (∀ passphrase, ∃ result, Agree console passphrase result ∧
      (passphrase ≠ "" → passphrase.toList.getLast? ≠ some '\r' →
        BatchTells console settings passphrase result)) ∧
      FreshAgrees console (Passphrase.ofRandom console.random) := by
  refine ⟨?_, freshAgrees h⟩
  intro passphrase
  exact ⟨_, agree h passphrase, batchTells h⟩

end

theorem commands_agree_one_key :
    ∃ settings, (Console.ofKey sampleKey).Accepts settings ∧
      (∃ result, Agree (Console.ofKey sampleKey) "a" result ∧
        BatchTells (Console.ofKey sampleKey) settings "a" result) ∧
      FreshAgrees (Console.ofKey sampleKey)
        (Passphrase.ofRandom (Console.ofKey sampleKey).random) := by
  obtain ⟨settings, h⟩ := exists_accepts
  obtain ⟨hagree, hfresh⟩ := commands_agree h
  obtain ⟨result, hresult, hbatch⟩ := hagree "a"
  exact ⟨settings, h, ⟨result, hresult, hbatch (by decide) (by decide)⟩, hfresh⟩

end TwoOfThree.CommandLine
