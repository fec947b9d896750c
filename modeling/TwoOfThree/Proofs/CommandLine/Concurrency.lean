-- SUMMARY: The concurrency of a batch shows in no result, unless it is beyond the permit limit.
import TwoOfThree.Proofs.Batch.Result
import TwoOfThree.Proofs.CommandLine.Failures

/-!
# The concurrency of a batch

The concurrency comes from the command line or from the settings, and is passed on
as it is. Nothing of it shows in the entries or in what is printed, as long as
there can be as many permits. A greater one is accepted too, but then a batch that
has its settings and its file is given up before any entry is worked out.
-/

namespace TwoOfThree

/-! ## Batches -/

namespace Batch

/-- Whatever the schedule, the batch is given up before its first step. -/
structure GivesUp (keys : List ExtendedKey) (network : Network) (passphrases : List Bytes)
    (concurrency : Nat) : Prop where
  sequential : (derive keys passphrases network concurrency).value = .error .tooManyPermits
  stops {actions state} :
    Run keys network (start keys passphrases network concurrency) actions state →
    actions = [] ∧ state = .abandoned []

variable {keys : List ExtendedKey}

theorem givesUp_of_lt (hkeys : keys.length = Cosigners.count) (network : Network)
    (passphrases : List Bytes) {concurrency : Nat} (hlimit : permitLimit < concurrency) :
    GivesUp keys network passphrases concurrency where
  sequential := by simp only [derive, Cosigners.checkCount_eq_ok hkeys, if_pos hlimit]
  stops hrun := by
    have hstart : start keys passphrases network concurrency = .abandoned [] := by
      simp only [start, Cosigners.checkCount_eq_ok hkeys, if_pos hlimit]
    rw [hstart] at hrun
    exact hrun.of_abandoned

end Batch

/-! ## Runs -/

namespace CommandLine

/-- The settings and the file of a batch can be read, and more permits are asked for than there can
be. -/
inductive Invocation.AsksTooMuch (invocation : Invocation) (files : FileSystem) : Prop where
  | intro {file concurrency settings content}
      (command : invocation.command = .batch file concurrency)
      (loads : invocation.loaded files = .ok settings)
      (reads : (files file).readBytes = .ok content)
      (exceeds : Batch.permitLimit < concurrency.getD settings.concurrency)

theorem value_runBatch_of_lt {settings : Settings}
    (hkeys : settings.keys.length = Cosigners.count) {path : String} {state : FileState}
    {content : Bytes} (hcontent : state.readBytes = .ok content) {concurrency : Option Nat}
    (hlimit : Batch.permitLimit < concurrency.getD settings.concurrency) :
    (runBatch settings path state concurrency).value = .abandoned := by
  have hderive := Batch.givesUp_of_lt hkeys settings.network (Batch.splitPassphrases content) hlimit
  rw [runBatch, hcontent]
  simp only [Logged.value_bind, hderive.sequential]
  rfl

theorem one_le_permitLimit (default : Nat) :
    (some 1).getD default ≤ Batch.permitLimit :=
  (by decide : 1 ≤ Batch.permitLimit)

section

variable {config : Option String} {overrides : Overrides} {file : String}
  {concurrency : Option Nat} {files : FileSystem} {random : FixedBytes Passphrase.randomBytes}

theorem value_run_of_asksTooMuch
    (h : Invocation.AsksTooMuch ⟨config, overrides, .batch file concurrency⟩ files) :
    (Invocation.run ⟨config, overrides, .batch file concurrency⟩ files random).value = .abandoned ∧
      ∃ lines, (Invocation.run ⟨config, overrides, .batch file (some 1)⟩ files random).value
        = .printed lines := by
  obtain @⟨_, _, settings, content, ⟨⟩, hloaded, hcontent, hlimit⟩ := h
  have hkeys := length_keys_of_loaded hloaded
  constructor
  · rw [value_run_of_loaded hloaded]
    exact value_runBatch_of_lt hkeys hcontent hlimit
  · have hone : Invocation.loaded ⟨config, overrides, .batch file (some 1)⟩ files = .ok settings :=
      hloaded
    rw [value_run_of_loaded hone, Command.outcome, value_runBatch hkeys (one_le_permitLimit _),
      hcontent]
    exact ⟨_, rfl⟩

/-- Otherwise the concurrency is not seen. -/
theorem value_run_of_not_asksTooMuch
    (h : ¬ Invocation.AsksTooMuch ⟨config, overrides, .batch file concurrency⟩ files) :
    (Invocation.run ⟨config, overrides, .batch file concurrency⟩ files random).value
      = (Invocation.run ⟨config, overrides, .batch file (some 1)⟩ files random).value := by
  cases hloaded : Invocation.loaded ⟨config, overrides, .batch file concurrency⟩ files with
  | error error =>
    have hone : Invocation.loaded ⟨config, overrides, .batch file (some 1)⟩ files = .error error :=
      hloaded
    rw [value_run_of_not_loaded hloaded nofun, value_run_of_not_loaded hone nofun]
  | ok settings =>
    have hone : Invocation.loaded ⟨config, overrides, .batch file (some 1)⟩ files = .ok settings :=
      hloaded
    rw [value_run_of_loaded hloaded, value_run_of_loaded hone, Command.outcome, Command.outcome]
    cases hcontent : (files file).readBytes with
    | error error => simp only [runBatch, hcontent]
    | ok content =>
      have hkeys := length_keys_of_loaded hloaded
      have hlimit : concurrency.getD settings.concurrency ≤ Batch.permitLimit :=
        Nat.le_of_not_lt fun hlt => h ⟨rfl, hloaded, hcontent, hlt⟩
      rw [value_runBatch hkeys hlimit, value_runBatch hkeys (one_le_permitLimit _)]

end

/-- Up to the limit, a batch of three cosigners returns the same entries for every concurrency, and
beyond it is given up. So a command line for a batch comes to the same as with a concurrency of one,
unless its settings and its file can be read and more permits are asked for than there can be. -/
theorem batch_concurrency (keys : List ExtendedKey) (network : Network) (passphrases : List Bytes)
    (environment : Option String) (words words' : List String) (files : FileSystem)
    (random : FixedBytes Passphrase.randomBytes) :
    (keys.length = Cosigners.count →
      ∃ entries, ∀ concurrency,
        (concurrency ≤ Batch.permitLimit →
          Batch.AlwaysReturns keys network passphrases concurrency entries) ∧
        (Batch.permitLimit < concurrency →
          Batch.GivesUp keys network passphrases concurrency)) ∧
    ∀ config overrides file concurrency,
      parse environment words = .ok ⟨config, overrides, .batch file concurrency⟩ →
      parse environment words' = .ok ⟨config, overrides, .batch file (some 1)⟩ →
      ∃ result result', run environment words files random = .ok result ∧
        run environment words' files random = .ok result' ∧
        (Invocation.AsksTooMuch ⟨config, overrides, .batch file concurrency⟩ files →
          result.value = .abandoned ∧ ∃ lines, result'.value = .printed lines) ∧
        (¬ Invocation.AsksTooMuch ⟨config, overrides, .batch file concurrency⟩ files →
          result.value = result'.value) := by
  constructor
  · intro hkeys
    refine ⟨passphrases.map (Batch.entry keys network), fun concurrency => ⟨?_, ?_⟩⟩
    · exact Batch.alwaysReturns_entries hkeys
    · exact Batch.givesUp_of_lt hkeys network passphrases
  · intro config overrides file concurrency hparse hparse'
    have hrun : run environment words files random = .ok _ := congrArg (Except.map _) hparse
    have hrun' : run environment words' files random = .ok _ := congrArg (Except.map _) hparse'
    exact ⟨_, _, hrun, hrun', value_run_of_asksTooMuch, value_run_of_not_asksTooMuch⟩

/-- A batch with one failing entry, with two concurrencies. -/
theorem batch_concurrency_five :
    let keys := List.replicate 3 (ExtendedKey.onGenerator 0 0)
    let console := Console.ofKey sampleKey
    let words n := optionWords none console.overrides ++ (Command.batch "list" (some n)).words
    (∃ entries, Batch.AlwaysReturns keys .test [[0x61], [0xff]] 5 entries) ∧
      Batch.GivesUp keys .test [[0x61], [0xff]] (Batch.permitLimit + 1) ∧
      ∃ result result', run none (words 5) console.files console.random = .ok result ∧
        run none (words 1) console.files console.random = .ok result' ∧
        result.value = result'.value := by
  intro keys console words
  obtain ⟨settings, hsettings⟩ := exists_accepts
  have hparse (n : Nat) (hn : n < wordLimit) :
      parse none (words n) = .ok ⟨none <|> none, console.overrides, .batch "list" (some n)⟩ :=
    parse_words hsettings.environment hsettings.config console.overrides
      (Command.isWritable_batch (by decide) hn)
  obtain ⟨hbatch, hruns⟩ := batch_concurrency keys .test [[0x61], [0xff]] none (words 5) (words 1)
    console.files console.random
  obtain ⟨entries, hentries⟩ := hbatch rfl
  obtain ⟨result, result', hrun, hrun', _, hsame⟩ :=
    hruns _ _ _ _ (hparse 5 (by decide)) (hparse 1 (by decide))
  refine ⟨⟨entries, (hentries 5).1 (by decide)⟩, (hentries _).2 (by decide), result, result', hrun,
    hrun', hsame ?_⟩
  rintro ⟨⟨⟩, _, _, hexceeds⟩
  exact absurd hexceeds (by decide : ¬ Batch.permitLimit < 5)

/-! ## Beyond the limit -/

theorem answer_batch_of_lt {console : Console} {settings : Settings} (h : console.Accepts settings)
    {file : String} {concurrency : Option Nat} {content : Bytes}
    (hwritable : (Command.batch file concurrency).IsWritable)
    (hcontent : console.files file = .file content)
    (hlimit : Batch.permitLimit < concurrency.getD settings.concurrency) :
    console.answer (Command.batch file concurrency).words = .ok .abandoned := by
  have hread : (console.files file).readBytes = .ok content := by rw [hcontent, FileState.readBytes]
  rw [answer_words h _ hwritable, Command.outcome,
    value_runBatch_of_lt (Settings.length_keys_of_load h.loaded) hread hlimit]

/-- A console with a settings file that asks for one permit more than there can be. -/
def Console.greedy : Console where
  environment := none
  config := none
  overrides := (Console.ofKey sampleKey).overrides
  files path :=
    if path = defaultSettingsPath then
      .file (Utf8.encode "[batch]\nconcurrency = 2305843009213693952\n")
    else (Console.ofKey sampleKey).files path
  random := (Console.ofKey sampleKey).random

theorem Console.exists_accepts_greedy :
    ∃ settings, Console.greedy.Accepts settings ∧
      settings.concurrency = Batch.permitLimit + 1 := by
  have hload : ((Settings.load greedy.files none greedy.overrides).value.map
      Settings.concurrency).toOption = some (Batch.permitLimit + 1) := by
    decide +kernel
  have hsome (result : Except Settings.LoadError Settings)
      (h : (result.map Settings.concurrency).toOption = some (Batch.permitLimit + 1)) :
      ∃ settings, result = .ok settings ∧ settings.concurrency = Batch.permitLimit + 1 := by
    cases result with
    | error error => cases h
    | ok settings => exact ⟨settings, rfl, Option.some.inj h⟩
  obtain ⟨settings, hsettings, hconcurrency⟩ := hsome _ hload
  exact ⟨settings, ⟨nofun, nofun, hsettings⟩, hconcurrency⟩

/-- A concurrency beyond the limit is accepted from the command line and from a settings file, and
then nothing is printed where a concurrency of one has the batch printed. -/
theorem batch_given_up :
    let beyond := Batch.permitLimit + 1
    let console := Console.ofKey sampleKey
    console.answer (Command.batch "list" (some beyond)).words = .ok .abandoned ∧
      Console.greedy.answer (Command.batch "list" none).words = .ok .abandoned ∧
      (∃ lines, console.answer (Command.batch "list" (some 1)).words = prints lines) ∧
      ∃ lines, Console.greedy.answer (Command.batch "list" (some 1)).words = prints lines := by
  intro beyond console
  obtain ⟨settings, hsettings⟩ := exists_accepts
  obtain ⟨settings', hsettings', hconcurrency⟩ := Console.exists_accepts_greedy
  have hwritable : (Command.batch "list" (some beyond)).IsWritable :=
    Command.isWritable_batch (by decide) (by decide)
  have hwritable' : (Command.batch "list" none).IsWritable := ⟨by decide, nofun⟩
  have hbeyond : Batch.permitLimit < none.getD settings'.concurrency :=
    hconcurrency ▸ Nat.lt_succ_self _
  refine ⟨?_, ?_, ?_, ?_⟩
  · exact answer_batch_of_lt hsettings hwritable rfl (Nat.lt_succ_self _)
  · exact answer_batch_of_lt hsettings' hwritable' rfl hbeyond
  · exact ⟨_, answer_batch hsettings (by decide) rfl (one_le_permitLimit _)⟩
  · exact ⟨_, answer_batch hsettings' (by decide) rfl (one_le_permitLimit _)⟩

end CommandLine

end TwoOfThree
