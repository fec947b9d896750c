-- SUMMARY: Running a command: its output, its log events, and how it ends.
import TwoOfThree.CommandLine.Arguments
import TwoOfThree.Passphrase
import TwoOfThree.Report

/-!
# Running a command

A run is a function of the command line, the environment, the file system and
random bytes. Only commands that need the cosigners load the settings; a batch
loads them before it reads its passphrases. Output is printed when everything
has been worked out, and failing passphrases do not make a batch fail.
-/

namespace TwoOfThree.CommandLine

/-! ## How a run ends -/

/-- Why a command fails. -/
inductive Failure where
  | settings (error : Settings.LoadError)
  | address (error : Error)
  | pubkeys (error : Error)
  | passphrases (path : String) (error : FileError)
  | batch (error : Error)
deriving DecidableEq, Repr

namespace Failure

def message : Failure → String
  | .settings (.unreadable path _) => s!"Failed to read config file: {path}"
  | .settings .malformed => "Failed to parse config file"
  | .settings (.invalid invalid) => invalid.message
  | .address _ => "Failed to derive address"
  | .pubkeys _ => "Failed to derive pubkeys"
  | .passphrases path _ => s!"Failed to read passphrase file: {path}"
  | .batch _ => "Batch derivation failed"

/-- The error of a derivation that is the cause, if one is. -/
def error? : Failure → Option Error
  | .settings (.invalid invalid) => some invalid.error
  | .settings _ => none
  | .address error => some error
  | .pubkeys error => some error
  | .passphrases _ _ => none
  | .batch error => some error

/-- The causes below the message, outermost first. Where a settings file is malformed is not told.
-/
def causes (failure : Failure) : List String :=
  match failure with
  | .settings (.unreadable _ error) => [error.message]
  | .passphrases _ error => [error.message]
  | failure =>
    match failure.error? with
    | some error => error.message :: error.causes
    | none => []

end Failure

inductive Ending where
  | success
  | failure (failure : Failure)
  /-- The run was given up without an error of its own. -/
  | abandoned
deriving DecidableEq, Repr

/-- What a run prints and how it ends. -/
structure Outcome where
  output : String
  ending : Ending
deriving DecidableEq, Repr

namespace Outcome

def printed (lines : List String) : Outcome := ⟨Report.text lines, .success⟩

def failed (failure : Failure) : Outcome := ⟨"", .failure failure⟩

def abandoned : Outcome := ⟨"", .abandoned⟩

def exitCode (outcome : Outcome) : Nat :=
  match outcome.ending with
  | .success => 0
  | .failure _ => 1
  | .abandoned => 101

end Outcome

/-! ## Commands -/

def runPath (passphrase : String) : Outcome :=
  .printed [Path.format (Path.indices passphrase)]

/-- The line or lines that report a deposit on its own. -/
def depositLine (passphrase : String) (json : Bool) (deposit : Deposit) : String :=
  if json then (Report.depositObject passphrase deposit).pretty else deposit.address.render

def runAddress (settings : Settings) (passphrase : String) (json : Bool) : Logged Outcome := do
  match ← Deposit.deriveLogged settings.keys passphrase settings.network with
  | .error error => return .failed (.address error)
  | .ok deposit => return .printed [depositLine passphrase json deposit]

def runPubkeys (settings : Settings) (passphrase : String) : Outcome :=
  match Cosigners.publicKeys settings.keys passphrase with
  | .error error => .failed (.pubkeys error)
  | .ok keys => .printed (Report.keyLines keys)

/-- The line or lines that report a deposit with a fresh passphrase. -/
def freshLine (passphrase : String) (json : Bool) (deposit : Deposit) : String :=
  if json then (Report.depositObject passphrase deposit).pretty
  else s!"{passphrase} {deposit.address.render}"

def runNew (settings : Settings) (random : FixedBytes Passphrase.randomBytes) (json : Bool) :
    Logged Outcome := do
  let passphrase := Passphrase.ofRandom random
  match ← Deposit.deriveLogged settings.keys passphrase settings.network with
  | .error error => return .failed (.address error)
  | .ok deposit => return .printed [freshLine passphrase json deposit]

/-- Count an entry if it failed. The count has 32 bits, and its least value follows its greatest. -/
def countFailure (failed : Int32) (entry : Batch.Entry) : Int32 :=
  if entry.result.isOk then failed else failed + 1

/-- Report how many entries failed, if the count says that any did. -/
def reportFailures (entries : List Batch.Entry) : Logged Unit :=
  let failed := entries.foldl countFailure 0
  if 0 < failed then Logged.report (.entriesFailed failed) else pure ()

def runBatch (settings : Settings) (path : String) (state : FileState)
    (concurrency : Option Nat) : Logged Outcome := do
  match state.readBytes with
  | .error error => return .failed (.passphrases path error)
  | .ok content =>
    let passphrases := Batch.splitPassphrases content
    let concurrency := concurrency.getD settings.concurrency
    Logged.report (.batchAnnounced passphrases.length concurrency)
    match ← Batch.derive settings.keys passphrases settings.network concurrency with
    | .error (.refused error) => return .failed (.batch error)
    | .error .tooManyPermits => return .abandoned
    | .ok entries =>
      reportFailures entries
      return .printed (entries.map fun entry => (Report.entryObject entry).compact)

/-! ## Runs -/

/-- Run a command that needs the settings. -/
def withSettings (files : FileSystem) (invocation : Invocation)
    (command : Settings → Logged Outcome) : Logged Outcome := do
  match ← Settings.load files invocation.config invocation.overrides with
  | .error error => return .failed (.settings error)
  | .ok settings => command settings

/-- Run a command line that was understood. -/
def Invocation.run (invocation : Invocation) (files : FileSystem)
    (random : FixedBytes Passphrase.randomBytes) : Logged Outcome :=
  match invocation.command with
  | .path passphrase => pure (runPath passphrase)
  | .address passphrase json =>
    withSettings files invocation fun settings => runAddress settings passphrase json
  | .pubkeys passphrase =>
    withSettings files invocation fun settings => pure (runPubkeys settings passphrase)
  | .new json => withSettings files invocation fun settings => runNew settings random json
  | .batch file concurrency =>
    withSettings files invocation fun settings =>
      runBatch settings file (files file) concurrency

/-- The paths whose state can matter to a run. -/
def Invocation.paths (invocation : Invocation) : List String :=
  let settings := invocation.config.getD defaultSettingsPath
  match invocation.command with
  | .path _ => []
  | .batch file _ => [settings, file]
  | _ => [settings]

/-- Read a command line and run it. -/
def run (environment : Option String) (words : List String) (files : FileSystem)
    (random : FixedBytes Passphrase.randomBytes) : Except Usage (Logged Outcome) :=
  (parse environment words).map fun invocation => invocation.run files random

end TwoOfThree.CommandLine
