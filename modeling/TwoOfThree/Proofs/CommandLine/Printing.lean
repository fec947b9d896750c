-- SUMMARY: A run told one statement after another, in which what was printed stays printed when it stops.
import TwoOfThree.CommandLine.Run

/-!
# Printing

Output is written while a run goes on, a line at a time, and a line that has been
written stays written even if the run then fails. `Invocation.program` tells a run in
this way. What can be seen of it is what `Invocation.run` says, and it only ever stops
before its first line.
-/

namespace TwoOfThree.CommandLine

/-! ## Programs -/

/-- Something that can be seen of a run. -/
inductive Effect where
  | line (text : String)
  | logged (event : LogEvent)

def Effect.line? : Effect → Option String
  | .line text => some text
  | .logged _ => none

def Effect.event? : Effect → Option LogEvent
  | .line _ => none
  | .logged event => some event

/-- A program has effects one after another until it comes to a value or stops. Its effects remain
when it stops. -/
structure Program (α : Type) where
  effects : List Effect
  result : Except Ending α

namespace Program

instance : Monad Program where
  pure a := ⟨[], .ok a⟩
  bind program next :=
    match program.result with
    | .error ending => ⟨program.effects, .error ending⟩
    | .ok a => ⟨program.effects ++ (next a).effects, (next a).result⟩

def print (text : String) : Program Unit := ⟨[.line text], .ok ()⟩

def report (event : LogEvent) : Program Unit := ⟨[.logged event], .ok ()⟩

/-- Do what may fail, and stop if it does. -/
def attempt (stop : ε → Ending) (step : Logged (Except ε α)) : Program α :=
  ⟨step.events.map .logged, step.value.mapError stop⟩

def printAll : List String → Program Unit
  | [] => pure ()
  | line :: rest => do
    print line
    printAll rest

def lines (program : Program α) : List String := program.effects.filterMap Effect.line?

def events (program : Program α) : List LogEvent := program.effects.filterMap Effect.event?

def ending (program : Program α) : Ending :=
  match program.result with
  | .error ending => ending
  | .ok _ => .success

/-- What has been printed and reported when a program is over, and how it is over. -/
def seen (program : Program Unit) : Logged Outcome :=
  ⟨⟨Report.text program.lines, program.ending⟩, program.events⟩

end Program

open Program

/-! ## Commands -/

def printAddress (settings : Settings) (passphrase : String) (json : Bool) : Program Unit := do
  let deposit ← attempt (fun error => .failure (.address error))
    (Deposit.deriveLogged settings.keys passphrase settings.network)
  print (depositLine passphrase json deposit)

def printPubkeys (settings : Settings) (passphrase : String) : Program Unit := do
  let keys ← attempt (fun error => .failure (.pubkeys error))
    (pure (Cosigners.publicKeys settings.keys passphrase))
  printAll (Report.keyLines keys)

def printNew (settings : Settings) (random : FixedBytes Passphrase.randomBytes) (json : Bool) :
    Program Unit := do
  let passphrase := Passphrase.ofRandom random
  let deposit ← attempt (fun error => .failure (.address error))
    (Deposit.deriveLogged settings.keys passphrase settings.network)
  print (freshLine passphrase json deposit)

/-- Print the entries one by one and count on from `failed` those that have failed. -/
def printEntries (failed : Int32) : List Batch.Entry → Program Int32
  | [] => pure failed
  | entry :: rest => do
    print (Report.entryObject entry).compact
    printEntries (countFailure failed entry) rest

def batchEnding : Batch.Failure → Ending
  | .refused error => .failure (.batch error)
  | .tooManyPermits => .abandoned

def printBatch (settings : Settings) (path : String) (state : FileState)
    (concurrency : Option Nat) : Program Unit := do
  let content ← attempt (fun error => .failure (.passphrases path error)) (pure state.readBytes)
  let passphrases := Batch.splitPassphrases content
  let concurrency := concurrency.getD settings.concurrency
  report (.batchAnnounced passphrases.length concurrency)
  let entries ← attempt batchEnding
    (Batch.derive settings.keys passphrases settings.network concurrency)
  let failed ← printEntries 0 entries
  if 0 < failed then report (.entriesFailed failed)

/-- A run, one statement after another. -/
def Invocation.program (invocation : Invocation) (files : FileSystem)
    (random : FixedBytes Passphrase.randomBytes) : Program Unit :=
  let settings := attempt (fun error => .failure (.settings error))
    (Settings.load files invocation.config invocation.overrides)
  match invocation.command with
  | .path passphrase => print (Path.format (Path.indices passphrase))
  | .address passphrase json => do printAddress (← settings) passphrase json
  | .pubkeys passphrase => do printPubkeys (← settings) passphrase
  | .new json => do printNew (← settings) random json
  | .batch file concurrency => do printBatch (← settings) file (files file) concurrency

/-! ## Effects of programs -/

namespace Program

theorem bind_of_ok {program : Program α} {a : α} (h : program.result = .ok a)
    (next : α → Program β) :
    program >>= next = ⟨program.effects ++ (next a).effects, (next a).result⟩ := by
  obtain ⟨effects, result⟩ := program
  cases h
  rfl

theorem bind_of_error {program : Program α} {ending : Ending} (h : program.result = .error ending)
    (next : α → Program β) : program >>= next = ⟨program.effects, .error ending⟩ := by
  obtain ⟨effects, result⟩ := program
  cases h
  rfl

@[simp] theorem lines_report (event : LogEvent) : (report event).lines = [] := rfl

@[simp] theorem lines_attempt (stop : ε → Ending) (step : Logged (Except ε α)) :
    (attempt stop step).lines = [] := by
  simp [attempt, lines, Effect.line?]

@[simp] theorem events_attempt (stop : ε → Ending) (step : Logged (Except ε α)) :
    (attempt stop step).events = step.events := by
  simp [attempt, events, Function.comp_def, Effect.event?]

theorem printAll_eq (lines : List String) : printAll lines = ⟨lines.map .line, .ok ()⟩ := by
  induction lines with
  | nil => rfl
  | cons line rest ih =>
    unfold printAll
    rw [ih]
    rfl

end Program

theorem printEntries_eq (failed : Int32) (entries : List Batch.Entry) :
    printEntries failed entries =
      ⟨entries.map fun entry => .line (Report.entryObject entry).compact,
        .ok (entries.foldl countFailure failed)⟩ := by
  induction entries generalizing failed with
  | nil => rfl
  | cons entry rest ih =>
    unfold printEntries
    rw [ih, bind_of_ok rfl]
    rfl

/-! ## What is seen of a run -/

namespace Program

theorem seen_print (text : String) : (print text).seen = pure (.printed [text]) := rfl

theorem seen_printAll (texts : List String) : (printAll texts).seen = pure (.printed texts) := by
  simp only [printAll_eq, seen, lines, events]
  simp [Function.comp_def, Effect.line?, Effect.event?, ending, Outcome.printed, Pure.pure]

theorem seen_bind_of_ok {program : Program α} {a : α} (h : program.result = .ok a)
    (next : α → Program Unit) :
    (program >>= next).seen = ⟨⟨Report.text (program.lines ++ (next a).lines), (next a).ending⟩,
      program.events ++ (next a).events⟩ := by
  simp [bind_of_ok h, seen, lines, events, ending]

theorem seen_bind_of_error {program : Program α} {ending : Ending}
    (h : program.result = .error ending) (next : α → Program Unit) :
    (program >>= next).seen = ⟨⟨Report.text program.lines, ending⟩, program.events⟩ := by
  rw [bind_of_error h]
  rfl

/-- What follows an attempt is seen behind its events, if it does not fail. -/
theorem seen_attempt_bind (stop : ε → Ending) (step : Logged (Except ε α))
    (next : α → Program Unit) :
    (attempt stop step >>= next).seen = (step >>= fun
      | .error error => pure ⟨"", stop error⟩
      | .ok a => (next a).seen) := by
  obtain ⟨value, events⟩ := step
  cases value with
  | error error =>
    rw [seen_bind_of_error rfl, lines_attempt, events_attempt]
    exact congrArg (Logged.mk _) (List.append_nil events).symm
  | ok a =>
    rw [seen_bind_of_ok rfl, lines_attempt, events_attempt]
    rfl

theorem seen_attempt_pure_bind (stop : ε → Ending) (step : Except ε α)
    (next : α → Program Unit) :
    (attempt stop (pure step) >>= next).seen =
      match step with
      | .error error => pure ⟨"", stop error⟩
      | .ok a => (next a).seen := by
  rw [seen_attempt_bind]
  cases step <;> rfl

theorem seen_report_bind (event : LogEvent) (next : Unit → Program Unit) :
    (report event >>= next).seen = (Logged.report event >>= fun _ => (next ()).seen) := rfl

end Program

theorem seen_printAddress (settings : Settings) (passphrase : String) (json : Bool) :
    (printAddress settings passphrase json).seen = runAddress settings passphrase json := by
  rw [printAddress, seen_attempt_bind, runAddress]
  apply bind_congr
  rintro (error | deposit) <;> rfl

theorem seen_printPubkeys (settings : Settings) (passphrase : String) :
    (printPubkeys settings passphrase).seen = pure (runPubkeys settings passphrase) := by
  simp only [printPubkeys, seen_attempt_pure_bind, seen_printAll, runPubkeys]
  cases Cosigners.publicKeys settings.keys passphrase <;> rfl

theorem seen_printNew (settings : Settings) (random : FixedBytes Passphrase.randomBytes)
    (json : Bool) : (printNew settings random json).seen = runNew settings random json := by
  simp only [printNew, seen_attempt_bind, runNew]
  apply bind_congr
  rintro (error | deposit) <;> rfl

/-- The entries are printed one by one, and how many of them failed is reported at the end. -/
theorem seen_printEntries (entries : List Batch.Entry) :
    (printEntries 0 entries >>= fun failed =>
        if 0 < failed then report (.entriesFailed failed) else pure ()).seen
      = (reportFailures entries >>= fun _ =>
        pure (.printed (entries.map fun entry => (Report.entryObject entry).compact))) := by
  have hresult := congrArg result (printEntries_eq 0 entries)
  have hlines : (printEntries 0 entries).lines
      = entries.map fun entry => (Report.entryObject entry).compact := by
    simp [printEntries_eq, lines, Function.comp_def, Effect.line?]
  have hevents : (printEntries 0 entries).events = [] := by
    simp [printEntries_eq, events, Effect.event?]
  rw [seen_bind_of_ok hresult, hlines, hevents]
  unfold reportFailures
  by_cases hfailed : 0 < entries.foldl countFailure 0
  · simp only [if_pos hfailed, lines_report, List.append_nil]
    rfl
  · simp only [if_neg hfailed]
    simp [lines, ending, events, Bind.bind, Pure.pure, Outcome.printed]

theorem seen_printBatch (settings : Settings) (path : String) (state : FileState)
    (concurrency : Option Nat) :
    (printBatch settings path state concurrency).seen
      = runBatch settings path state concurrency := by
  rw [printBatch, seen_attempt_pure_bind, runBatch]
  cases state.readBytes with
  | error error => rfl
  | ok content =>
    simp only [seen_report_bind, seen_attempt_bind]
    refine bind_congr fun _ => bind_congr ?_
    rintro ((error | _) | entries)
    · rfl
    · rfl
    · exact seen_printEntries entries

/-- What is seen of a run that prints as it goes is what the run comes to. -/
theorem Invocation.seen_program (invocation : Invocation) (files : FileSystem)
    (random : FixedBytes Passphrase.randomBytes) :
    (invocation.program files random).seen = invocation.run files random := by
  have hwith (body : Settings → Program Unit) :
      (attempt (fun error => .failure (.settings error))
          (Settings.load files invocation.config invocation.overrides) >>= body).seen
        = withSettings files invocation fun settings => (body settings).seen := by
    rw [seen_attempt_bind, withSettings]
    apply bind_congr
    rintro (error | settings) <;> rfl
  unfold Invocation.program Invocation.run
  cases invocation.command with
  | path passphrase => exact seen_print _
  | address passphrase json => simp only [hwith, seen_printAddress]
  | pubkeys passphrase => simp only [hwith, seen_printPubkeys]
  | new json => simp only [hwith, seen_printNew]
  | batch file concurrency => simp only [hwith, seen_printBatch]

/-! ## Where a run can stop -/

namespace Program

/-- If the program stops, it does so before its first line. -/
def PrintsLast (program : Program α) : Prop :=
  ∀ ending, program.result = .error ending → program.lines = []

theorem PrintsLast.of_ok {program : Program α} {a : α} (h : program.result = .ok a) :
    program.PrintsLast := by
  intro ending hstop
  rw [h] at hstop
  cases hstop

theorem PrintsLast.lines_eq_nil {program : Program α} (h : program.PrintsLast)
    (hending : program.ending ≠ .success) : program.lines = [] := by
  unfold ending at hending
  cases hresult : program.result with
  | error ending => exact h ending hresult
  | ok a => simp [hresult] at hending

/-- As long as nothing is printed, what comes next may still stop. -/
theorem PrintsLast.bind {program : Program α} {next : α → Program β} (hsilent : program.lines = [])
    (hnext : ∀ a, (next a).PrintsLast) : (program >>= next).PrintsLast := by
  intro ending hstop
  cases hresult : program.result with
  | error error =>
    rw [bind_of_error hresult]
    exact hsilent
  | ok a =>
    rw [bind_of_ok hresult] at hstop ⊢
    rw [lines, List.filterMap_append]
    exact List.append_eq_nil_iff.2 ⟨hsilent, hnext a ending hstop⟩

end Program

theorem printsLast_printBatch (settings : Settings) (path : String) (state : FileState)
    (concurrency : Option Nat) : (printBatch settings path state concurrency).PrintsLast := by
  refine .bind (lines_attempt _ _) fun content => .bind rfl fun _ => ?_
  refine .bind (lines_attempt _ _) fun entries => ?_
  -- the entries are being printed, but from here on nothing can fail
  have hresult := congrArg result (printEntries_eq 0 entries)
  rw [PrintsLast, bind_of_ok hresult]
  intro ending hstop
  split at hstop <;> cases hstop

theorem Invocation.printsLast_program (invocation : Invocation) (files : FileSystem)
    (random : FixedBytes Passphrase.randomBytes) :
    (invocation.program files random).PrintsLast := by
  unfold Invocation.program
  cases invocation.command with
  | path passphrase => exact .of_ok rfl
  | address passphrase json =>
    refine .bind (lines_attempt _ _) fun settings => .bind (lines_attempt _ _) fun deposit => ?_
    exact .of_ok rfl
  | pubkeys passphrase =>
    refine .bind (lines_attempt _ _) fun settings => .bind (lines_attempt _ _) fun keys => ?_
    exact .of_ok (congrArg result (printAll_eq _))
  | new json =>
    refine .bind (lines_attempt _ _) fun settings => .bind (lines_attempt _ _) fun deposit => ?_
    exact .of_ok rfl
  | batch file concurrency =>
    exact .bind (lines_attempt _ _) fun settings => printsLast_printBatch _ _ _ _

end TwoOfThree.CommandLine
