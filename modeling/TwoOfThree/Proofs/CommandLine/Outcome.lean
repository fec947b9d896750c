-- SUMMARY: What a run comes to, in terms of the settings that it loads and of the command by itself.
import TwoOfThree.CommandLine.Run
import TwoOfThree.Proofs.Cosigners.FirstFailure

/-!
# Outcomes

A run first loads its settings, unless it needs none, and then does what its command
does with them. What a command prints is read off the derivation that it makes.
-/

namespace TwoOfThree.CommandLine

/-- The settings that a run loads, or why it has none. -/
def Invocation.loaded (invocation : Invocation) (files : FileSystem) :
    Except Settings.LoadError Settings :=
  (Settings.load files invocation.config invocation.overrides).value

/-- What a command comes to with these settings. -/
def Command.outcome (settings : Settings) (files : FileSystem)
    (random : FixedBytes Passphrase.randomBytes) : Command → Outcome
  | .path passphrase => runPath passphrase
  | .address passphrase json => (runAddress settings passphrase json).value
  | .pubkeys passphrase => runPubkeys settings passphrase
  | .new json => (runNew settings random json).value
  | .batch file concurrency => (runBatch settings file (files file) concurrency).value

/-! ## Runs -/

section

variable {invocation : Invocation} {files : FileSystem}
  {random : FixedBytes Passphrase.randomBytes}

theorem value_withSettings (body : Settings → Logged Outcome) :
    (withSettings files invocation body).value =
      match invocation.loaded files with
      | .error error => .failed (.settings error)
      | .ok settings => (body settings).value := by
  rw [withSettings, Logged.value_bind, Invocation.loaded]
  cases (Settings.load files invocation.config invocation.overrides).value <;> rfl

/-- With accepted settings, only their loading is reported before what is done with them. -/
theorem withSettings_of_loaded {settings : Settings} (h : invocation.loaded files = .ok settings)
    (body : Settings → Logged Outcome) :
    withSettings files invocation body =
      ⟨(body settings).value,
        (Settings.load files invocation.config invocation.overrides).events ++
          (body settings).events⟩ := by
  have hvalue : (Settings.load files invocation.config invocation.overrides).value = .ok settings :=
    h
  simp only [withSettings, bind, hvalue]

/-- A run with accepted settings comes to what its command does with them. -/
theorem value_run_of_loaded {settings : Settings} (h : invocation.loaded files = .ok settings) :
    (invocation.run files random).value = invocation.command.outcome settings files random := by
  have hwith (body : Settings → Logged Outcome) :
      (withSettings files invocation body).value = (body settings).value := by
    rw [withSettings_of_loaded h]
  unfold Invocation.run
  cases invocation.command with
  | path passphrase => rfl
  | address passphrase json => exact hwith _
  | pubkeys passphrase => exact hwith _
  | new json => exact hwith _
  | batch file concurrency => exact hwith _

/-- A run that needs settings and has none fails. -/
theorem value_run_of_not_loaded {error : Settings.LoadError}
    (h : invocation.loaded files = .error error)
    (hcommand : ∀ passphrase, invocation.command ≠ .path passphrase) :
    (invocation.run files random).value = .failed (.settings error) := by
  have hwith (body : Settings → Logged Outcome) :
      (withSettings files invocation body).value = .failed (.settings error) := by
    simp only [value_withSettings, h]
  unfold Invocation.run
  cases hname : invocation.command with
  | path passphrase => exact absurd hname (hcommand passphrase)
  | address passphrase json => exact hwith _
  | pubkeys passphrase => exact hwith _
  | new json => exact hwith _
  | batch file concurrency => exact hwith _

theorem value_run_path {passphrase : String} (h : invocation.command = .path passphrase) :
    (invocation.run files random).value = runPath passphrase := by
  simp only [Invocation.run, h]
  rfl

end

/-! ## Commands -/

theorem value_runAddress (settings : Settings) (passphrase : String) (json : Bool) :
    (runAddress settings passphrase json).value =
      match Deposit.derive settings.keys passphrase settings.network with
      | .error error => .failed (.address error)
      | .ok deposit => .printed [depositLine passphrase json deposit] := by
  rw [runAddress]
  simp only [Logged.value_bind, Deposit.value_deriveLogged]
  cases Deposit.derive settings.keys passphrase settings.network <;> rfl

theorem value_runNew (settings : Settings) (random : FixedBytes Passphrase.randomBytes)
    (json : Bool) :
    (runNew settings random json).value =
      match Deposit.derive settings.keys (Passphrase.ofRandom random) settings.network with
      | .error error => .failed (.address error)
      | .ok deposit => .printed [freshLine (Passphrase.ofRandom random) json deposit] := by
  rw [runNew]
  simp only [Logged.value_bind, Deposit.value_deriveLogged]
  cases Deposit.derive settings.keys (Passphrase.ofRandom random) settings.network <;> rfl

theorem runPubkeys_eq (settings : Settings) (passphrase : String) :
    runPubkeys settings passphrase =
      match Cosigners.publicKeysAt settings.keys (Path.ofPassphrase passphrase) with
      | .error error => .failed (.pubkeys error)
      | .ok keys => .printed (Report.keyLines keys) := rfl

theorem value_runBatch {settings : Settings} (hkeys : settings.keys.length = Cosigners.count)
    {path : String} {state : FileState} {concurrency : Option Nat}
    (hlimit : concurrency.getD settings.concurrency ≤ Batch.permitLimit) :
    (runBatch settings path state concurrency).value =
      match state.readBytes with
      | .error error => .failed (.passphrases path error)
      | .ok content => .printed ((((Batch.splitPassphrases content).map
          (Batch.entry settings.keys settings.network)).map Report.entryObject).map
            JsonObject.compact) := by
  rw [runBatch]
  cases state.readBytes with
  | error error => rfl
  | ok content =>
    simp only [Logged.value_bind, Batch.derive, Cosigners.checkCount_eq_ok hkeys,
      if_neg (Nat.not_lt.2 hlimit), Logged.value_pure, List.map_map]
    rfl

end TwoOfThree.CommandLine
