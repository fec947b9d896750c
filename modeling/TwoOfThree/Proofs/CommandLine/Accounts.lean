-- SUMMARY: The output of a batch command and the events that it reports agree on what failed.
import TwoOfThree.Proofs.Batch.Accounts
import TwoOfThree.Proofs.CommandLine.Readable
import TwoOfThree.Proofs.CommandLine.Secrecy

/-!
# Accounts of a batch

What became of the passphrases of a batch is told three times: in the objects that
are printed, in the warnings about single entries, and in the number of failures at
the end. The warnings come in the order in which tasks are joined, the lines in the
order of the file, and both counts agree with the lines under every schedule. The
number at the end has 32 bits, so it is right as long as 31 of them are enough.
-/

namespace TwoOfThree

/-! ## Events of settings -/

/-- The events of loading settings. None of them is about a batch. -/
inductive LogEvent.OfSettings : LogEvent → Prop where
  | configurationLoading (path : String) : OfSettings (.configurationLoading path)
  | cosignersLoaded (count : Nat) (network : Network) : OfSettings (.cosignersLoaded count network)

namespace Settings

theorem ofSettings_resolveLogged (file : SettingsFile) (overrides : Overrides) :
    ∀ event ∈ (resolveLogged file overrides).events, event.OfSettings := by
  unfold resolveLogged events
  cases resolve file overrides with
  | error invalid => simp
  | ok settings => simpa using .cosignersLoaded _ _

theorem ofSettings_loadFile (path : String) (state : FileState) (overrides : Overrides) :
    ∀ event ∈ (loadFile path state overrides).events, event.OfSettings := by
  rw [loadFile, Logged.events_bind]
  refine List.forall_mem_cons.2 ⟨.configurationLoading path, ?_⟩
  cases readFile path state with
  | error error => simp
  | ok file => simpa using ofSettings_resolveLogged file overrides

theorem ofSettings_load (files : FileSystem) (path : Option String) (overrides : Overrides) :
    ∀ event ∈ (load files path overrides).events, event.OfSettings := by
  cases path with
  | some path => exact ofSettings_loadFile path _ overrides
  | none =>
    rw [load]
    split
    · exact ofSettings_loadFile _ _ overrides
    · simpa using ofSettings_resolveLogged _ overrides

end Settings

namespace CommandLine

/-! ## Lines -/

/-- The text of a member of the object on a line. -/
def memberOn (name : String) (line : List Char) : Option String :=
  (JsonObject.read line).bind (List.lookup name)

/-- The texts of a member on the lines that have it. -/
def membersOn (name : String) (lines : List (List Char)) : List String :=
  lines.filterMap (memberOn name)

/-- The line of an entry. -/
def entryLine (entry : Batch.Entry) : List Char := (Report.entryObject entry).compact.toList

theorem memberOn_entryLine (name : String) (entry : Batch.Entry) :
    memberOn name (entryLine entry) = List.lookup name (Report.entryObject entry) := by
  rw [memberOn, entryLine, JsonObject.read_compact, Option.bind_some]

theorem memberOn_error (entry : Batch.Entry) :
    memberOn "error" (entryLine entry) = entry.error? := by
  rw [memberOn_entryLine]
  unfold Report.entryObject Batch.Entry.error?
  cases entry.result <;> rfl

theorem memberOn_address (entry : Batch.Entry) :
    memberOn "address" (entryLine entry) = entry.address? := by
  rw [memberOn_entryLine]
  unfold Report.entryObject Batch.Entry.address?
  cases entry.result <;> rfl

theorem membersOn_map {name : String} {told : Batch.Entry → Option String}
    (h : ∀ entry, memberOn name (entryLine entry) = told entry) (entries : List Batch.Entry) :
    membersOn name (entries.map entryLine) = entries.filterMap told := by
  rw [membersOn, List.filterMap_map]
  exact congrArg (List.filterMap · entries) (funext h)

/-! ## Accounts -/

/-- The lines that a batch prints and the events that it reports agree. -/
structure AccountsAgree (lines : List (List Char)) (log : List LogEvent) : Prop where
  /-- An error on a line is warned of with its position, once, and nothing else is. -/
  warnings (position : Nat) : log.filterMap (LogEvent.failureAt? position)
    = (lines[position]?.bind (memberOn "error")).toList
  /-- The errors are counted just if there are any, unless they are too many for the count. -/
  summary (hfew : (membersOn "error" lines).length < 2 ^ 31) : log.filterMap LogEvent.failures?
    = if membersOn "error" lines = [] then [] else [((membersOn "error" lines).length : Int)]
  summary_last (count : Int32) : .entriesFailed count ∈ log →
    log.getLast? = some (.entriesFailed count)
  /-- The addresses that are reported are those on the lines, in some order. -/
  derived : (log.filterMap LogEvent.derived?).Perm (membersOn "address" lines)
  /-- A line has an error or an address. -/
  outcomes : (membersOn "error" lines).length + (membersOn "address" lines).length = lines.length
  /-- The batch is announced twice, each time with the number of errors and addresses. -/
  totals : log.filterMap LogEvent.total? =
    List.replicate 2 ((membersOn "error" lines).length + (membersOn "address" lines).length)

/-! ## The number of failures -/

/-- The errors are counted on from `failed`, in 32 bits. -/
theorem foldl_countFailure (failed : Int32) (entries : List Batch.Entry) :
    entries.foldl countFailure failed
      = failed + Int32.ofNat (entries.filterMap Batch.Entry.error?).length := by
  induction entries generalizing failed with
  | nil => exact (Int32.add_zero failed).symm
  | cons entry entries ih =>
    rw [List.foldl_cons, ih, List.filterMap_cons]
    unfold countFailure Batch.Entry.error?
    cases entry.result with
    | ok address => rfl
    | error error =>
      have hone : Int32.ofNat 1 = 1 := rfl
      show failed + 1 + _ = failed + Int32.ofNat (_ + 1)
      rw [Nat.add_comm, Int32.ofNat_add, Int32.add_assoc, hone]

theorem pos_ofNat_iff {n : Nat} (h : n < 2 ^ 31) : 0 < Int32.ofNat n ↔ 0 < n := by
  rw [Int32.lt_iff_toInt_lt, Int32.toInt_ofNat_of_lt h, Int32.toInt_zero, Int.natCast_pos]

theorem events_reportFailures (entries : List Batch.Entry) :
    (reportFailures entries).events =
      let failed := Int32.ofNat (entries.filterMap Batch.Entry.error?).length
      if 0 < failed then [.entriesFailed failed] else [] := by
  unfold reportFailures
  rw [foldl_countFailure, Int32.zero_add]
  dsimp only
  split <;> rfl

/-- As long as the errors are not too many for the count, it is right. -/
theorem failures_reportFailures {entries : List Batch.Entry}
    (hfew : (entries.filterMap Batch.Entry.error?).length < 2 ^ 31) :
    (reportFailures entries).events.filterMap LogEvent.failures? =
      if entries.filterMap Batch.Entry.error? = [] then []
      else [((entries.filterMap Batch.Entry.error?).length : Int)] := by
  rw [events_reportFailures]
  simp only [pos_ofNat_iff hfew, List.length_pos_iff]
  by_cases hnone : entries.filterMap Batch.Entry.error? = []
  · rw [if_neg (not_not.2 hnone), if_pos hnone]
    rfl
  · rw [if_pos hnone, if_neg hnone, ← Int32.toInt_ofNat_of_lt hfew]
    rfl

/-! ## The events of a batch command -/

theorem filterMap_reportFailures {α : Type} {read : LogEvent → Option α}
    (h : ∀ count, read (.entriesFailed count) = none) (entries : List Batch.Entry) :
    (reportFailures entries).events.filterMap read = [] := by
  rw [events_reportFailures]
  dsimp only
  split
  · exact List.filterMap_cons_none (h _)
  · rfl

/-- The events of a batch command: those of loading settings, and then those of its batch, between
an announcement and the number of failures. -/
def batchEvents (loading : List LogEvent) (entries : List Batch.Entry) (concurrency : Nat)
    (log : List LogEvent) : List LogEvent :=
  loading ++ .batchAnnounced entries.length concurrency ::
    (log ++ (reportFailures entries).events)

section

variable {loading log : List LogEvent} {entries : List Batch.Entry} {concurrency : Nat}
  (hloading : ∀ event ∈ loading, event.OfSettings)
include hloading

/-- Loading settings adds nothing to what is read off the events of its batch. -/
theorem filterMap_batchEvents {α : Type} {read : LogEvent → Option α}
    (hconfiguration : ∀ path, read (.configurationLoading path) = none)
    (hcosigners : ∀ count network, read (.cosignersLoaded count network) = none) :
    (batchEvents loading entries concurrency log).filterMap read
      = (read (.batchAnnounced entries.length concurrency)).toList ++ (log.filterMap read ++
        (reportFailures entries).events.filterMap read) := by
  have hnone : loading.filterMap read = [] := by
    rw [List.filterMap_eq_nil_iff]
    intro event hevent
    cases hloading event hevent with
    | configurationLoading path => exact hconfiguration path
    | cosignersLoaded count network => exact hcosigners count network
  rw [batchEvents, List.filterMap_append, hnone, List.nil_append, List.filterMap_cons,
    List.filterMap_append]
  cases read (.batchAnnounced entries.length concurrency) <;> rfl

theorem filterMap_failures_batchEvents (htells : Batch.TellsEntries entries log) :
    (batchEvents loading entries concurrency log).filterMap LogEvent.failures?
      = (reportFailures entries).events.filterMap LogEvent.failures? := by
  rw [filterMap_batchEvents hloading (fun _ => rfl) fun _ _ => rfl, htells.failures]
  rfl

theorem getLast?_batchEvents (htells : Batch.TellsEntries entries log) {count : Int32}
    (h : .entriesFailed count ∈ batchEvents loading entries concurrency log) :
    (batchEvents loading entries concurrency log).getLast? = some (.entriesFailed count) := by
  have hcount : count.toInt ∈ (batchEvents loading entries concurrency log).filterMap
      LogEvent.failures? := List.mem_filterMap.2 ⟨_, h, rfl⟩
  rw [filterMap_failures_batchEvents hloading htells, events_reportFailures] at hcount
  dsimp only at hcount
  split at hcount
  next hfailed =>
    obtain rfl := Int32.toInt_inj.1 (List.mem_singleton.1 hcount)
    rw [batchEvents, events_reportFailures, if_pos hfailed, ← List.cons_append,
      ← List.append_assoc, List.getLast?_concat]
  · cases hcount

/-- If the log of the batch tells of its entries, the events agree with their lines. -/
theorem accountsAgree_batchEvents (htells : Batch.TellsEntries entries log) :
    AccountsAgree (entries.map entryLine) (batchEvents loading entries concurrency log) where
  warnings position := by
    have hline : memberOn "error" ∘ entryLine = Batch.Entry.error? :=
      funext memberOn_error
    rw [filterMap_batchEvents hloading (fun _ => rfl) fun _ _ => rfl, htells.failureAt,
      filterMap_reportFailures fun _ => rfl, List.getElem?_map, Option.bind_map, hline]
    exact List.append_nil _
  summary := by
    rw [membersOn_map memberOn_error]
    intro hfew
    rw [filterMap_failures_batchEvents hloading htells, failures_reportFailures hfew]
  summary_last _ := getLast?_batchEvents hloading htells
  derived := by
    rw [filterMap_batchEvents hloading (fun _ => rfl) fun _ _ => rfl,
      filterMap_reportFailures fun _ => rfl, List.append_nil, membersOn_map memberOn_address]
    exact htells.derived
  outcomes := by
    rw [membersOn_map memberOn_error, membersOn_map memberOn_address,
      Batch.length_errors_add_length_addresses, List.length_map]
  totals := by
    rw [filterMap_batchEvents hloading (fun _ => rfl) fun _ _ => rfl, htells.total,
      filterMap_reportFailures fun _ => rfl, membersOn_map memberOn_error,
      membersOn_map memberOn_address, Batch.length_errors_add_length_addresses]
    rfl

end

/-! ## Runs -/

/-- A batch command around its batch, whatever the schedule of the batch has been. -/
def reportBatch (total concurrency : Nat)
    (batch : Logged (Except Batch.Failure (List Batch.Entry))) : Logged Outcome := do
  Logged.report (.batchAnnounced total concurrency)
  match ← batch with
  | .error (.refused error) => return .failed (.batch error)
  | .error .tooManyPermits => return .abandoned
  | .ok entries =>
    reportFailures entries
    return .printed (entries.map fun entry => (Report.entryObject entry).compact)

theorem runBatch_eq {settings : Settings} {path : String} {state : FileState} {content : Bytes}
    (concurrency : Option Nat) (h : state.readBytes = .ok content) :
    runBatch settings path state concurrency =
      let passphrases := Batch.splitPassphrases content
      let limit := concurrency.getD settings.concurrency
      reportBatch passphrases.length limit
        (Batch.derive settings.keys passphrases settings.network limit) := by
  cases state with
  | file bytes =>
    cases h
    rfl
  | absent => cases h
  | directory => cases h
  | unreachable reason => cases h
  | unreadable reason => cases h

theorem reportBatch_ok (total concurrency : Nat) (entries : List Batch.Entry)
    (log : List LogEvent) :
    reportBatch total concurrency ⟨.ok entries, log⟩ =
      ⟨.printed (entries.map fun entry => (Report.entryObject entry).compact),
        .batchAnnounced total concurrency :: (log ++ (reportFailures entries).events)⟩ := by
  have hevents := List.append_nil (reportFailures entries).events
  rw [← hevents]
  rfl

/-- Cut at its line feeds, the output of a batch has a line for each entry. -/
theorem splitOn_text_entries (entries : List Batch.Entry) :
    (Report.text (entries.map fun entry => (Report.entryObject entry).compact)).toList.splitOn '\n'
      = entries.map entryLine ++ [[]] := by
  have hlines := Report.splitOn_text_compact (entries.map Report.entryObject)
  rwa [List.map_map, List.map_map] at hlines

section

variable {invocation : Invocation} {files : FileSystem} {settings : Settings}
  (hloaded : invocation.loaded files = .ok settings)
include hloaded

/-- The run of a batch command works the passphrases out one after another. -/
theorem run_eq_reportBatch {file : String} {concurrency : Option Nat} {content : Bytes}
    (random : FixedBytes Passphrase.randomBytes)
    (hcommand : invocation.command = .batch file concurrency)
    (hcontent : (files file).readBytes = .ok content) :
    invocation.run files random =
      let passphrases := Batch.splitPassphrases content
      let limit := concurrency.getD settings.concurrency
      withSettings files invocation fun _ => reportBatch passphrases.length limit
        (Batch.derive settings.keys passphrases settings.network limit) := by
  simp only [Invocation.run, hcommand]
  rw [withSettings_of_loaded hloaded, withSettings_of_loaded hloaded, runBatch_eq _ hcontent]

/-- Whatever the schedule of the batch has been, the command prints its entries and the accounts of
them agree. -/
theorem reportBatch_accountsAgree {entries : List Batch.Entry} {log : List LogEvent}
    (htells : Batch.TellsEntries entries log) (concurrency : Nat) :
    let result := withSettings files invocation fun _ =>
      reportBatch entries.length concurrency ⟨.ok entries, log⟩
    result.value = .printed (entries.map fun entry => (Report.entryObject entry).compact) ∧
      AccountsAgree (entries.map entryLine) result.events := by
  rw [withSettings_of_loaded hloaded, reportBatch_ok]
  exact ⟨rfl, accountsAgree_batchEvents (Settings.ofSettings_load _ _ _) htells⟩

end

/-- With a file that can be read and accepted settings, a batch within the limit prints a line for
each passphrase, and what it reports agrees with the lines. Whatever the schedule of the batch, once
it is over the command prints the same, and what it reports agrees with the lines as well. -/
theorem batch_accounts_agree {environment : Option String} {words : List String}
    {invocation : Invocation} {files : FileSystem} {settings : Settings} {file : String}
    {concurrency : Option Nat} {content : Bytes} (random : FixedBytes Passphrase.randomBytes)
    (hparse : parse environment words = .ok invocation)
    (hcommand : invocation.command = .batch file concurrency)
    (hloaded : invocation.loaded files = .ok settings)
    (hcontent : (files file).readBytes = .ok content)
    (hlimit : concurrency.getD settings.concurrency ≤ Batch.permitLimit) :
    let passphrases := Batch.splitPassphrases content
    let limit := concurrency.getD settings.concurrency
    ∃ result lines, run environment words files random = .ok result ∧
      result.value.output.toList.splitOn '\n' = lines ++ [[]] ∧
      lines.length = passphrases.length ∧ AccountsAgree lines result.events ∧
      ∀ actions state,
        Batch.Run settings.keys settings.network
          (Batch.start settings.keys passphrases settings.network limit) actions state →
        Batch.Stuck settings.keys settings.network state →
        ∃ batch, state.outcome? = some batch ∧
          let scheduled := withSettings files invocation fun _ =>
            reportBatch passphrases.length limit batch
          scheduled.value = result.value ∧ AccountsAgree lines scheduled.events := by
  intro passphrases limit
  have hkeys := length_keys_of_loaded hloaded
  let entries := passphrases.map (Batch.entry settings.keys settings.network)
  have hlength : entries.length = passphrases.length := List.length_map _
  have hlines : (entries.map entryLine).length = passphrases.length :=
    (List.length_map _).trans hlength
  have hagree {log : List LogEvent} (htells : Batch.TellsEntries entries log) :=
    reportBatch_accountsAgree hloaded htells limit
  rw [hlength] at hagree
  have hrun := run_eq_reportBatch hloaded random hcommand hcontent
  dsimp only at hrun
  have hsequential : Batch.TellsEntries entries
      (Batch.derive settings.keys passphrases settings.network limit).events :=
    Batch.tellsEntries_derive hkeys hlimit
  rw [Batch.derive_eq hkeys hlimit] at hrun hsequential
  obtain ⟨hvalue, haccounts⟩ := hagree hsequential
  rw [← hrun] at hvalue haccounts
  refine ⟨invocation.run files random, entries.map entryLine, ?_, ?_, hlines, haccounts, ?_⟩
  · rw [run, hparse]
    rfl
  · rw [hvalue]
    exact splitOn_text_entries entries
  · intro actions state hsteps hstuck
    obtain ⟨log, hover, htells⟩ := hsteps.tellsEntries hkeys hlimit hstuck
    obtain ⟨hscheduled, hscheduledAccounts⟩ := hagree htells
    exact ⟨_, hover, hscheduled.trans hvalue.symm, hscheduledAccounts⟩

/-- A batch with a passphrase that is no text, and a complete schedule of it. -/
theorem batch_accounts_agree_not_text :
    let files : FileSystem := fun path =>
      if path = "list" then .file [0x61, 0x0a, 0xff] else .absent
    let overrides : Overrides := ⟨none, [sampleKey, sampleKey, sampleKey]⟩
    let command := Command.batch "list" (some 2)
    let invocation : Invocation := ⟨none, overrides, command⟩
    ∀ random, ∃ (settings : Settings) (result : Logged Outcome) (lines : List (List Char))
        (actions : List Batch.Action) (state : Batch.State)
        (batch : Logged (Except Batch.Failure (List Batch.Entry))),
      run none (optionWords none overrides ++ command.words) files random = .ok result ∧
      result.value.output.toList.splitOn '\n' = lines ++ [[]] ∧
      lines.length = 2 ∧ AccountsAgree lines result.events ∧
      (membersOn "error" lines).length < 2 ^ 31 ∧
      (result.events.filterMap LogEvent.failures? = if membersOn "error" lines = [] then []
        else [((membersOn "error" lines).length : Int)]) ∧
      Batch.Run settings.keys settings.network
        (Batch.start settings.keys [[0x61], [0xff]] settings.network 2) actions state ∧
      state.outcome? = some batch ∧
      AccountsAgree lines
        (withSettings files invocation fun _ => reportBatch 2 2 batch).events := by
  intro files overrides command invocation random
  have habsent : files defaultSettingsPath = .absent := rfl
  obtain ⟨hparse, settings, hloaded⟩ := exists_loaded_batch habsent (by decide : 2 < wordLimit)
  have hlimit : 2 ≤ Batch.permitLimit := by decide
  obtain ⟨result, lines, hrun, hlines, hlength, haccounts, hscheduled⟩ :=
    batch_accounts_agree random hparse rfl hloaded rfl hlimit
  have hsound : Batch.Sound settings.keys settings.network [[0x61], [0xff]] 2
      (Batch.start settings.keys [[0x61], [0xff]] settings.network 2) :=
    Batch.sound_start (length_keys_of_loaded hloaded) hlimit
  obtain ⟨actions, log, hsteps⟩ := hsound.completes
  obtain ⟨batch, hover, _, hscheduledAccounts⟩ := hscheduled _ _ hsteps nofun
  have hfew : (membersOn "error" lines).length < 2 ^ 31 := by
    have hlengths : _ = 2 := haccounts.outcomes.trans hlength
    omega
  exact ⟨settings, result, lines, actions, _, batch, hrun, hlines, hlength, haccounts, hfew,
    haccounts.summary hfew, hsteps, hover, hscheduledAccounts⟩

end CommandLine

end TwoOfThree
