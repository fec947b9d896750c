-- SUMMARY: The log of a command depends on its passphrases only through what comes of them.
import TwoOfThree.Proofs.Batch.Secrecy
import TwoOfThree.Proofs.CommandLine.Console
import TwoOfThree.Proofs.Settings.Source

/-!
# What the log of a command tells of passphrases

Two runs of a command are compared that differ only in the passphrases: the one
that is its argument, or those that are the lines of a file. Beside the events of
the derivations themselves, the log tells which settings were loaded, how many
passphrases there are and how many of them failed. If what comes of the
passphrases is the same, so is all of this.
-/

namespace TwoOfThree.CommandLine

/-! ## Runs that differ in passphrases -/

/-- The commands are the same but for their passphrases, and what comes of these is the same with
the settings that are loaded, if any are. Passphrases that are lines stand in the same file. -/
inductive Command.Alike (files files' : FileSystem) (loaded : Except Settings.LoadError Settings) :
    Command → Command → Prop where
  | path (passphrase passphrase' : String) :
      Alike files files' loaded (.path passphrase) (.path passphrase')
  | address {passphrase passphrase' : String} {json : Bool}
      (outcome : ∀ settings, loaded = .ok settings →
        (Deposit.deriveAddress settings.keys passphrase settings.network).toOption
          = (Deposit.deriveAddress settings.keys passphrase' settings.network).toOption) :
      Alike files files' loaded (.address passphrase json) (.address passphrase' json)
  | pubkeys (passphrase passphrase' : String) :
      Alike files files' loaded (.pubkeys passphrase) (.pubkeys passphrase')
  | batch {file : String} {concurrency : Option Nat} {content content' : Bytes}
      (lines : files file = .file content) (lines' : files' file = .file content')
      (outcomes : ∀ settings, loaded = .ok settings →
        Batch.SameOutcomes settings.keys settings.network (Batch.splitPassphrases content)
          (Batch.splitPassphrases content')) :
      Alike files files' loaded (.batch file concurrency) (.batch file concurrency)

/-- The runs differ only in the passphrases: the same settings are loaded in the same way, and the
commands are alike. -/
structure Invocation.Alike (files files' : FileSystem) (invocation invocation' : Invocation) :
    Prop where
  config : invocation.config = invocation'.config
  overrides : invocation.overrides = invocation'.overrides
  loaded : Settings.load files invocation.config invocation.overrides
    = Settings.load files' invocation.config invocation.overrides
  command : Command.Alike files files'
    (Settings.load files invocation.config invocation.overrides).value
    invocation.command invocation'.command

/-! ## Events of the commands -/

theorem events_withSettings (files : FileSystem) (invocation : Invocation)
    (command : Settings → Logged Outcome) :
    (withSettings files invocation command).events
      = (Settings.load files invocation.config invocation.overrides).events ++
        match (Settings.load files invocation.config invocation.overrides).value with
        | .error _ => []
        | .ok settings => (command settings).events := by
  rw [withSettings, Logged.events_bind]
  cases (Settings.load files invocation.config invocation.overrides).value <;> rfl

theorem events_runAddress (settings : Settings) (passphrase : String) (json : Bool) :
    (runAddress settings passphrase json).events
      = Deposit.events (Deposit.derive settings.keys passphrase settings.network) := by
  rw [runAddress, Logged.events_bind, Deposit.value_deriveLogged]
  cases h : Deposit.derive settings.keys passphrase settings.network <;>
    exact (List.append_nil _).trans (congrArg Deposit.events h)

theorem events_runBatch (settings : Settings) (path : String) (content : Bytes)
    (concurrency : Option Nat) :
    (runBatch settings path (.file content) concurrency).events =
      let passphrases := Batch.splitPassphrases content
      let concurrency := concurrency.getD settings.concurrency
      let batch := Batch.derive settings.keys passphrases settings.network concurrency
      .batchAnnounced passphrases.length concurrency :: (batch.events ++
        match batch.value with
        | .error _ => []
        | .ok entries => (reportFailures entries).events) := by
  rw [runBatch, FileState.readBytes]
  simp only [Logged.events_bind]
  cases (Batch.derive settings.keys (Batch.splitPassphrases content) settings.network
    (concurrency.getD settings.concurrency)).value with
  | error failure => cases failure <;> rfl
  | ok entries =>
    simp only [Logged.events_bind, Logged.events_pure, List.append_nil]
    rfl

theorem reportFailures_congr {entries entries' : List Batch.Entry}
    (h : List.Forall₂ Batch.Entry.SameOutcome entries entries') :
    reportFailures entries = reportFailures entries' := by
  have hcount (failed : Int32) :
      entries.foldl countFailure failed = entries'.foldl countFailure failed := by
    induction h generalizing failed with
    | nil => rfl
    | cons hentry _ ih =>
      rw [List.foldl_cons, List.foldl_cons, countFailure, hentry.isOk_eq]
      exact ih _
  unfold reportFailures
  rw [hcount]

theorem runBatch_sameEvents {settings : Settings} {content content' : Bytes} (path : String)
    (concurrency : Option Nat)
    (h : Batch.SameOutcomes settings.keys settings.network (Batch.splitPassphrases content)
      (Batch.splitPassphrases content')) :
    SameEvents (runBatch settings path (.file content) concurrency).events
      (runBatch settings path (.file content') concurrency).events := by
  have hbatch (n : Nat) : SameEvents
      (Batch.derive settings.keys (Batch.splitPassphrases content) settings.network n).events
      (Batch.derive settings.keys (Batch.splitPassphrases content') settings.network n).events := by
    rw [SameEvents, h.emissions_derive]
  rw [events_runBatch, events_runBatch]
  dsimp only
  rw [h.length_eq]
  refine (SameEvents.refl [_]).append ((hbatch _).append ?_)
  rcases Batch.value_derive settings.keys settings.network
      (concurrency.getD settings.concurrency) with ⟨failure, hvalue⟩ | hvalue
  · rw [hvalue, hvalue]
    exact .refl []
  · rw [hvalue, hvalue]
    dsimp only
    rw [reportFailures_congr h]
    exact .refl _

/-- The same events are seen in the logs of runs that differ only in the passphrases. -/
theorem Invocation.Alike.sameEvents {files files' : FileSystem}
    {invocation invocation' : Invocation} (h : Invocation.Alike files files' invocation invocation')
    (random random' : FixedBytes Passphrase.randomBytes) :
    SameEvents (invocation.run files random).events (invocation'.run files' random').events := by
  obtain ⟨config, overrides, command⟩ := invocation
  obtain ⟨config', overrides', command'⟩ := invocation'
  obtain ⟨rfl, rfl, hloaded, hcommand⟩ := h
  dsimp only at hloaded hcommand
  -- the events of loading come first, and are the same
  have hwith {command command' : Command} {body body' : Settings → Logged Outcome}
      (hbody : ∀ settings, (Settings.load files config overrides).value = .ok settings →
        SameEvents (body settings).events (body' settings).events) :
      SameEvents (withSettings files ⟨config, overrides, command⟩ body).events
        (withSettings files' ⟨config, overrides, command'⟩ body').events := by
    rw [events_withSettings, events_withSettings]
    dsimp only
    rw [← hloaded]
    refine (SameEvents.refl _).append ?_
    cases hvalue : (Settings.load files config overrides).value with
    | error error => exact .refl []
    | ok settings => exact hbody settings hvalue
  cases hcommand with
  | path passphrase passphrase' => exact .refl []
  | address outcome =>
    refine hwith fun settings hsettings => ?_
    rw [events_runAddress, events_runAddress,
      Deposit.events_derive_congr (outcome settings hsettings)]
    exact .refl _
  | pubkeys passphrase passphrase' => exact hwith fun settings _ => .refl []
  | batch lines lines' outcomes =>
    refine hwith fun settings hsettings => ?_
    rw [lines, lines']
    exact runBatch_sameEvents _ _ (outcomes settings hsettings)

/-! ## All events -/

/-- Whatever is reported, by a batch under any schedule, of a deposit or by a command, depends on
passphrases only through the addresses that they lead to and the messages of the errors. Other calls
about a passphrase are not reported at all. -/
theorem events_tell_outcomes_only :
    (∀ keys network passphrases passphrases' concurrency,
      Batch.SameOutcomes keys network passphrases passphrases' →
      concurrency ≤ Batch.permitLimit → ∀ actions state actions' state',
        Batch.Run keys network (Batch.start keys passphrases network concurrency) actions state →
        Batch.Stuck keys network state →
        Batch.Run keys network (Batch.start keys passphrases' network concurrency) actions' state' →
        Batch.Stuck keys network state' → SameEvents state.log state'.log) ∧
    (∀ keys network passphrase passphrase',
      (Deposit.deriveAddress keys passphrase network).toOption
        = (Deposit.deriveAddress keys passphrase' network).toOption →
      (Call.deposit keys passphrase network).answer.events
        = (Call.deposit keys passphrase' network).answer.events) ∧
    (∀ call : Call, (∀ keys passphrase network, call ≠ .deposit keys passphrase network) →
      call.answer.events = []) ∧
    ∀ environment words words' files files' random invocation invocation',
      parse environment words = .ok invocation → parse environment words' = .ok invocation' →
      Invocation.Alike files files' invocation invocation' →
      ∃ result result', run environment words files random = .ok result ∧
        run environment words' files' random = .ok result' ∧
        SameEvents result.events result'.events := by
  refine ⟨?_, ?_, fun call => Call.events_eq_nil, ?_⟩
  · intro keys network passphrases passphrases' concurrency h hlimit _ _ _ _ hrun hstuck hrun'
      hstuck'
    exact h.sameEvents hlimit hrun hstuck hrun' hstuck'
  · intro keys network passphrase passphrase' h
    exact Deposit.events_derive_congr h
  · intro environment words words' files files' random invocation invocation' hparse hparse' h
    refine ⟨_, _, ?_, ?_, h.sameEvents random random⟩
    · rw [run, hparse]
      rfl
    · rw [run, hparse']
      rfl

/-- Passphrases with a fault of the same kind, one of them in either batch. -/
theorem sameOutcomes_faults (keys : List ExtendedKey) (network : Network) :
    Batch.SameOutcomes keys network [[0xff], [0x61]] [[0xfe], [0x61]] := by
  have hfault : (Batch.entry keys network [0xff]).SameOutcome (Batch.entry keys network [0xfe]) :=
    rfl
  exact .cons hfault (.cons rfl .nil)

theorem events_tell_outcomes_only_faults :
    let keys := List.replicate 3 (ExtendedKey.onGenerator 0 0)
    let files (content : Bytes) : FileSystem := fun path =>
      if path = "list" then .file content else .absent
    let words := optionWords none ⟨none, [sampleKey, sampleKey, sampleKey]⟩ ++
      (Command.batch "list" none).words
    (∃ actions state actions' state',
      Batch.Run keys .test (Batch.start keys [[0xff], [0x61]] .test 2) actions state ∧
      Batch.Run keys .test (Batch.start keys [[0xfe], [0x61]] .test 2) actions' state' ∧
      SameEvents state.log state'.log) ∧
    ∀ random, ∃ result result',
      run none words (files [0xff, 0x0a, 0x61]) random = .ok result ∧
      run none words (files [0xfe, 0x0a, 0x61]) random = .ok result' ∧
      SameEvents result.events result'.events := by
  intro keys files words
  have hstuck (result : Except Error (List Batch.Entry)) (log : List LogEvent) :
      Batch.Stuck keys .test (.returned result log) := nofun
  constructor
  · have hreturns (passphrases : List Bytes) :
        ∃ actions log, Batch.Run keys .test (Batch.start keys passphrases .test 2) actions
          (.returned (.ok (passphrases.map (Batch.entry keys .test))) log) :=
      (Batch.sound_start rfl (by decide)).completes
    obtain ⟨actions, log, hrun⟩ := hreturns [[0xff], [0x61]]
    obtain ⟨actions', log', hrun'⟩ := hreturns [[0xfe], [0x61]]
    exact ⟨_, _, _, _, hrun, hrun', events_tell_outcomes_only.1 _ _ _ _ _
      (sameOutcomes_faults keys .test) (by decide) _ _ _ _ hrun (hstuck _ _) hrun' (hstuck _ _)⟩
  · intro random
    have hnone : (none : Option String) ≠ some "" := nofun
    have hwritable : (Command.batch "list" none).IsWritable := ⟨by decide, nofun⟩
    have hparse : parse none words = .ok ⟨none <|> none, _, _⟩ :=
      parse_words hnone hnone ⟨none, [sampleKey, sampleKey, sampleKey]⟩ hwritable
    refine events_tell_outcomes_only.2.2.2 _ _ _ _ _ random _ _ hparse hparse ⟨rfl, rfl, ?_, ?_⟩
    · exact Settings.load_congr _ rfl
    · exact .batch rfl rfl fun settings _ => sameOutcomes_faults settings.keys settings.network

end TwoOfThree.CommandLine
