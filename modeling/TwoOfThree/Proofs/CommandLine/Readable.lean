-- SUMMARY: The output of a batch, and a deposit printed as an object, can be read by a machine.
import TwoOfThree.Proofs.CommandLine.Failures
import TwoOfThree.Proofs.Report.Deposit
import TwoOfThree.Proofs.Report.Telling
import TwoOfThree.Proofs.Settings.Source

/-!
# Output for machines

What a batch prints is told line by line, whatever the bytes of its passphrase file.
A deposit that is printed as an object is read as what was worked out, with the
passphrase as it was given.
-/

namespace TwoOfThree.CommandLine

/-- With three keys as options and without a settings file, a batch is understood and its settings
are accepted, whatever else is on file. -/
theorem exists_loaded_batch {files : FileSystem} (habsent : files defaultSettingsPath = .absent)
    {concurrency : Nat} (hconcurrency : concurrency < wordLimit) :
    let overrides : Overrides := ⟨none, [sampleKey, sampleKey, sampleKey]⟩
    let command := Command.batch "list" (some concurrency)
    let invocation : Invocation := ⟨none, overrides, command⟩
    parse none (optionWords none overrides ++ command.words) = .ok invocation ∧
      ∃ settings, invocation.loaded files = .ok settings := by
  intro overrides command invocation
  have hnone : (none : Option String) ≠ some "" := nofun
  have hwritable : command.IsWritable := Command.isWritable_batch (by decide) hconcurrency
  obtain ⟨settings, hsettings⟩ := exists_accepts
  have hload : Settings.load files none overrides
      = Settings.load (Console.ofKey sampleKey).files none overrides :=
    Settings.load_congr overrides habsent
  exact ⟨parse_words hnone hnone overrides hwritable, settings,
    (congrArg Logged.value hload).trans hsettings.loaded⟩

/-- With accepted settings, the output of a batch tells of its whole file. The object printed for one
passphrase holds the passphrase and all that was worked out for it. -/
theorem run_readable {environment : Option String} {words : List String} {invocation : Invocation}
    {files : FileSystem} {settings : Settings} (random : FixedBytes Passphrase.randomBytes)
    (hparse : parse environment words = .ok invocation)
    (hloaded : invocation.loaded files = .ok settings) :
    ∃ result, run environment words files random = .ok result ∧
      (∀ file concurrency content, invocation.command = .batch file concurrency →
        (files file).readBytes = .ok content →
        concurrency.getD settings.concurrency ≤ Batch.permitLimit →
        result.value.ending = .success ∧
          Batch.TellsFile settings.keys settings.network content result.value.output) ∧
      ∀ passphrase, invocation.command = .address passphrase true →
        match Deposit.derive settings.keys passphrase settings.network with
        | .error error => result.value = .failed (.address error)
        | .ok deposit => result.value.ending = .success ∧
          JsonObject.read result.value.output.toList = some [
            ("passphrase", passphrase),
            ("path", Path.format (Path.indices passphrase)),
            ("address", deposit.address.render),
            ("script_type", "wsh_sortedmulti(2,3)"),
            ("witness_script", deposit.witnessScriptHex),
            ("descriptor", deposit.descriptor),
            ("network", settings.network.selector)] := by
  refine ⟨invocation.run files random, ?_, ?_, ?_⟩
  · rw [run, hparse]
    rfl
  · intro file concurrency content hcommand hcontent hlimit
    rw [value_run_of_loaded hloaded, hcommand, Command.outcome,
      value_runBatch (length_keys_of_loaded hloaded) hlimit, hcontent]
    exact ⟨rfl, Batch.tellsFile_text _ _ _⟩
  · intro passphrase hcommand
    rw [value_run_of_loaded hloaded, hcommand, Command.outcome, value_runAddress]
    cases hderive : Deposit.derive settings.keys passphrase settings.network with
    | error error => rfl
    | ok deposit =>
      obtain ⟨publicKeys, _, rfl⟩ := Deposit.derive_eq_ok_iff.1 hderive
      rw [← Path.render_ofPassphrase]
      exact ⟨rfl, Report.read_text_pretty (Report.depositObject passphrase _)⟩

/-- A passphrase that needs escapes, a line that is blank but for its carriage return, and a last
line that is no text. -/
theorem run_readable_three_lines :
    let content : Bytes := [0x22, 0x09, 0x0a, 0x0d, 0x0a, 0xff]
    let files : FileSystem := fun path => if path = "list" then .file content else .absent
    let overrides : Overrides := ⟨none, [sampleKey, sampleKey, sampleKey]⟩
    let words := optionWords none overrides ++ (Command.batch "list" (some 1)).words
    ∀ random, ∃ (settings : Settings) (result : Logged Outcome) (first last : List Char),
      run none words files random = .ok result ∧
      result.value.ending = .success ∧
      Batch.TellsFile settings.keys settings.network content result.value.output ∧
      result.value.output.toList.splitOn '\n' = [first, last, []] ∧
      Batch.IsLineOf settings.keys settings.network [0x22, 0x09] first ∧
      JsonObject.read last = some [("passphrase", "\ufffd"),
        ("error", "invalid input: passphrase is not valid UTF-8: " ++
          "invalid utf-8 sequence of 1 bytes from index 0")] := by
  intro content files overrides words random
  have habsent : files defaultSettingsPath = .absent := rfl
  obtain ⟨hparse, settings, hloaded⟩ := exists_loaded_batch habsent (by decide : 1 < wordLimit)
  obtain ⟨result, hrun, hbatch, _⟩ := run_readable random hparse hloaded
  have hlimit : 1 ≤ Batch.permitLimit := by decide
  obtain ⟨hending, htells⟩ := hbatch "list" (some 1) content rfl rfl hlimit
  obtain ⟨lines, hlines, htold⟩ := id htells
  have hfilled : (Batch.fileLines content).filter Batch.isFilled = [[0x22, 0x09], [0xff]] := by
    decide
  rw [hfilled] at htold
  cases htold with
  | cons hfirst hrest =>
    cases hrest with
    | cons hlast hend =>
      cases hend
      have hshown : Utf8.decodeLossy (Batch.stripReturn [0xff]) = "\ufffd" := by decide
      have hfault : Utf8.decode (Batch.stripReturn [0xff]) = .error ⟨0, some 1⟩ := rfl
      have hread := hlast.read_of_fault hfault
      rw [hshown] at hread
      exact ⟨settings, result, _, _, hrun, hending, htells, hlines, hfirst, hread⟩

end TwoOfThree.CommandLine
