-- SUMMARY: The ways in which a run can fail, and that a run that fails has printed nothing.
import TwoOfThree.Proofs.CommandLine.Console
import TwoOfThree.Proofs.CommandLine.Printing
import TwoOfThree.Proofs.Deposit.Basic

/-!
# Failing runs

Once the settings are loaded there are three cosigners and a network, so the only
thing that is left to fail in a derivation is a walk, and in a batch the reading of its
file. Everything is worked out before anything is printed. Passphrases that cannot be
derived are told of in the output of a batch and do not make it fail.
-/

namespace TwoOfThree.CommandLine

/-- Why a command fails, given what comes of loading the settings. The path of a passphrase needs no
settings and never fails. A command that has its settings can fail in one way only: at the first
cosigner whose walk fails, or, if it is a batch, on a file that cannot be read. -/
inductive Command.FailsWith (files : FileSystem) (random : FixedBytes Passphrase.randomBytes) :
    Except Settings.LoadError Settings → Command → Failure → Prop where
  | settings {error command} (loads : ∀ passphrase, command ≠ .path passphrase) :
      FailsWith files random (.error error) command (.settings error)
  | address {settings passphrase json position cause}
      (walk : Cosigners.FirstFailure (Cosigners.publicKeyAt (Path.ofPassphrase passphrase))
        settings.keys position cause) :
      FailsWith files random (.ok settings) (.address passphrase json)
        (.address (.keyDerivation position cause))
  | pubkeys {settings passphrase position cause}
      (walk : Cosigners.FirstFailure (Cosigners.publicKeyAt (Path.ofPassphrase passphrase))
        settings.keys position cause) :
      FailsWith files random (.ok settings) (.pubkeys passphrase)
        (.pubkeys (.keyDerivation position cause))
  | new {settings json position cause}
      (walk : Cosigners.FirstFailure
        (Cosigners.publicKeyAt (Path.ofPassphrase (Passphrase.ofRandom random))) settings.keys
        position cause) :
      FailsWith files random (.ok settings) (.new json) (.address (.keyDerivation position cause))
  | batch {settings file concurrency error} (unreadable : (files file).readBytes = .error error) :
      FailsWith files random (.ok settings) (.batch file concurrency) (.passphrases file error)

/-- The concurrency of a batch, wherever it comes from, is within the limit. -/
def Invocation.WithinLimit (invocation : Invocation) (files : FileSystem) : Prop :=
  ∀ file concurrency settings, invocation.command = .batch file concurrency →
    invocation.loaded files = .ok settings →
    concurrency.getD settings.concurrency ≤ Batch.permitLimit

/-! ## Commands with three cosigners -/

section

variable {settings : Settings} (hkeys : settings.keys.length = Cosigners.count)
  {files : FileSystem} {random : FixedBytes Passphrase.randomBytes}
include hkeys

/-- A reason to fail makes the command fail, and nothing is printed. -/
theorem Command.FailsWith.outcome_eq {command : Command} {failure : Failure}
    (h : command.FailsWith files random (.ok settings) failure) :
    command.outcome settings files random = .failed failure := by
  have hderive {passphrase : String} {position : Nat} {cause : ExtendedKey.Error}
      (walk : Cosigners.FirstFailure (Cosigners.publicKeyAt (Path.ofPassphrase passphrase))
        settings.keys position cause) :
      Deposit.derive settings.keys passphrase settings.network
        = .error (.keyDerivation position cause) :=
    Deposit.derive_eq_error_iff.2 (Cosigners.publicKeysAt_of_firstFailure hkeys walk)
  cases h with
  | address walk => rw [Command.outcome, value_runAddress, hderive walk]
  | pubkeys walk =>
    rw [Command.outcome, runPubkeys_eq, Cosigners.publicKeysAt_of_firstFailure hkeys walk]
  | new walk => rw [Command.outcome, value_runNew, hderive walk]
  | batch unreadable =>
    simp only [Command.outcome, runBatch, unreadable]
    rfl

/-- A command without a reason to fail prints its lines. -/
theorem Command.outcome_of_not_failsWith {command : Command}
    (hlimit : ∀ file concurrency, command = .batch file concurrency →
      concurrency.getD settings.concurrency ≤ Batch.permitLimit)
    (h : ∀ failure, ¬ command.FailsWith files random (.ok settings) failure) :
    ∃ lines, command.outcome settings files random = .printed lines := by
  have hderive (passphrase : String)
      (h : ∀ position cause, ¬ Cosigners.FirstFailure
        (Cosigners.publicKeyAt (Path.ofPassphrase passphrase)) settings.keys position cause) :
      ∃ publicKeys, Cosigners.publicKeysAt settings.keys (Path.ofPassphrase passphrase)
        = .ok publicKeys := by
    rcases Cosigners.exists_publicKeysAt_or_firstFailure hkeys (Path.ofPassphrase passphrase) with
      hok | ⟨position, cause, hfirst⟩
    · exact hok
    · exact absurd hfirst (h position cause)
  cases command with
  | path passphrase => exact ⟨_, rfl⟩
  | address passphrase json =>
    obtain ⟨publicKeys, hok⟩ := hderive passphrase fun _ _ walk => h _ (.address walk)
    rw [Command.outcome, value_runAddress, Deposit.derive_eq_ok_iff.2 ⟨_, hok, rfl⟩]
    exact ⟨_, rfl⟩
  | pubkeys passphrase =>
    obtain ⟨publicKeys, hok⟩ := hderive passphrase fun _ _ walk => h _ (.pubkeys walk)
    rw [Command.outcome, runPubkeys_eq, hok]
    exact ⟨_, rfl⟩
  | new json =>
    obtain ⟨publicKeys, hok⟩ := hderive _ fun _ _ walk => h _ (.new walk)
    rw [Command.outcome, value_runNew, Deposit.derive_eq_ok_iff.2 ⟨_, hok, rfl⟩]
    exact ⟨_, rfl⟩
  | batch file concurrency =>
    rw [Command.outcome, value_runBatch hkeys (hlimit file concurrency rfl)]
    cases hread : (files file).readBytes with
    | ok content => exact ⟨_, rfl⟩
    | error error => exact absurd (.batch hread) (h _)

end

/-! ## Runs -/

section

variable {invocation : Invocation} {files : FileSystem}
  {random : FixedBytes Passphrase.randomBytes}

theorem length_keys_of_loaded {settings : Settings} (h : invocation.loaded files = .ok settings) :
    settings.keys.length = Cosigners.count :=
  Settings.length_keys_of_load h

theorem value_run_of_failsWith {failure : Failure}
    (h : invocation.command.FailsWith files random (invocation.loaded files) failure) :
    (invocation.run files random).value = .failed failure := by
  cases hloaded : invocation.loaded files with
  | error error =>
    rw [hloaded] at h
    cases h with
    | settings loads => exact value_run_of_not_loaded hloaded loads
  | ok settings =>
    rw [hloaded] at h
    rw [value_run_of_loaded hloaded]
    exact h.outcome_eq (length_keys_of_loaded hloaded)

theorem value_run_of_not_failsWith (hlimit : invocation.WithinLimit files)
    (h : ∀ failure,
      ¬ invocation.command.FailsWith files random (invocation.loaded files) failure) :
    ∃ lines, (invocation.run files random).value = .printed lines := by
  cases hloaded : invocation.loaded files with
  | error error =>
    rw [hloaded] at h
    by_cases hpath : ∃ passphrase, invocation.command = .path passphrase
    · obtain ⟨passphrase, hpath⟩ := hpath
      rw [value_run_path hpath]
      exact ⟨_, rfl⟩
    · exact absurd (.settings fun passphrase hcommand => hpath ⟨passphrase, hcommand⟩) (h _)
  | ok settings =>
    rw [hloaded] at h
    rw [value_run_of_loaded hloaded]
    refine Command.outcome_of_not_failsWith (length_keys_of_loaded hloaded) ?_ h
    intro file concurrency hcommand
    exact hlimit file concurrency settings hcommand hloaded

variable (random) in
/-- A run that was understood prints its lines, or it has a reason to fail. -/
theorem value_run_cases (hlimit : invocation.WithinLimit files) :
    (∃ lines, (invocation.run files random).value = .printed lines) ∨
      ∃ failure, invocation.command.FailsWith files random (invocation.loaded files) failure ∧
        (invocation.run files random).value = .failed failure := by
  by_cases hreason : ∃ failure,
    invocation.command.FailsWith files random (invocation.loaded files) failure
  · obtain ⟨failure, hfails⟩ := hreason
    exact .inr ⟨failure, hfails, value_run_of_failsWith hfails⟩
  · exact .inl (value_run_of_not_failsWith hlimit (not_exists.1 hreason))

theorem ending_eq_failure_iff (hlimit : invocation.WithinLimit files) {failure : Failure} :
    (invocation.run files random).value.ending = .failure failure ↔
      invocation.command.FailsWith files random (invocation.loaded files) failure := by
  constructor
  · intro hending
    rcases value_run_cases random hlimit with ⟨lines, hvalue⟩ | ⟨other, hfails, hvalue⟩
    · rw [hvalue] at hending
      cases hending
    · rw [hvalue] at hending
      cases hending
      exact hfails
  · intro hfails
    rw [value_run_of_failsWith hfails]
    rfl

end

/-- A run fails exactly where its command has a reason to; otherwise it succeeds. Told one statement
after another, it is a program that has printed no line yet when it stops. The path of a passphrase
is printed whatever comes of loading settings. -/
theorem run_fails_iff {environment : Option String} {words : List String} {invocation : Invocation}
    {files : FileSystem} (random : FixedBytes Passphrase.randomBytes)
    (hparse : parse environment words = .ok invocation) (hlimit : invocation.WithinLimit files) :
    ∃ result, run environment words files random = .ok result ∧
      (∀ failure, result.value.ending = .failure failure ↔
        invocation.command.FailsWith files random (invocation.loaded files) failure) ∧
      (result.value.ending = .success ∨ ∃ failure, result.value.ending = .failure failure) ∧
      (invocation.program files random).seen = result ∧
      (result.value.ending ≠ .success →
        (invocation.program files random).lines = [] ∧ result.value.output = "") ∧
      ∀ passphrase, invocation.command = .path passphrase →
        result.value = .printed [Path.format (Path.indices passphrase)] := by
  have hseen := invocation.seen_program files random
  refine ⟨invocation.run files random, ?_, fun _ => ending_eq_failure_iff hlimit, ?_, hseen, ?_,
    fun _ => value_run_path⟩
  · rw [run, hparse]
    rfl
  · rcases value_run_cases random hlimit with ⟨lines, hvalue⟩ | ⟨failure, _, hvalue⟩
    · exact .inl (congrArg Outcome.ending hvalue)
    · exact .inr ⟨failure, congrArg Outcome.ending hvalue⟩
  · rw [← hseen]
    intro hending
    have hlines := (invocation.printsLast_program files random).lines_eq_nil hending
    exact ⟨hlines, congrArg Report.text hlines⟩

/-- A batch whose file is missing. -/
theorem run_fails_iff_missing_file :
    let console := Console.ofKey sampleKey
    let words := optionWords none console.overrides ++ (Command.batch "missing" (some 1)).words
    ∃ result, run none words console.files console.random = .ok result ∧
      result.value.ending = .failure (.passphrases "missing" .absent) ∧
      result.value.output = "" := by
  intro console words
  obtain ⟨settings, hsettings⟩ := exists_accepts
  have hwritable : (Command.batch "missing" (some 1)).IsWritable := by
    refine ⟨by decide, ?_⟩
    rintro n ⟨⟩
    decide
  have hparse : parse none words = .ok ⟨none <|> none, console.overrides, _⟩ :=
    parse_words hsettings.environment hsettings.config console.overrides hwritable
  have hlimit : Invocation.WithinLimit
      ⟨none <|> none, console.overrides, .batch "missing" (some 1)⟩ console.files := by
    rintro _ _ _ ⟨⟩ _
    exact (by decide : 1 ≤ Batch.permitLimit)
  obtain ⟨result, hrun, hfails, _, _, hsilent, _⟩ := run_fails_iff console.random hparse hlimit
  have hreason : Command.FailsWith console.files console.random (.ok settings)
      (.batch "missing" (some 1)) (.passphrases "missing" .absent) := .batch rfl
  have hending := (hfails _).2 (hsettings.loaded ▸ hreason)
  refine ⟨result, hrun, hending, (hsilent ?_).2⟩
  rw [hending]
  exact nofun

end TwoOfThree.CommandLine
