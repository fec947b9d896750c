-- SUMMARY: The program: reads the command line, the environment and the files that matter, and prints.
import TwoOfThree.CommandLine.Run

/-!
# The program

Everything is decided by `CommandLine.Invocation.run`. Here the state of the
paths that matter to it is read beforehand, output goes to standard output, and
log events and errors go to standard error.
-/

namespace TwoOfThree.Main

open CommandLine

/-- Whether a path can be followed to something that is there. -/
def leadsSomewhere (path : String) : IO Bool := do
  try
    discard (IO.FS.realPath path)
    return true
  catch _ => return false

/-- What a path leads to at this moment. -/
def readState (path : String) : IO FileState := do
  let present ← leadsSomewhere path
  try return .file (← IO.FS.readBinFile path).toList
  catch error =>
    match error, present with
    | .noFileOrDirectory .., _ => return .absent
    | _, false => return .unreachable (toString error)
    | .inappropriateType .., true => return .directory
    | _, true => return .unreadable (toString error)

/-- The file system, as far as the given paths go. -/
def readFiles (paths : List String) : IO FileSystem := do
  let states ← paths.mapM fun path => return (path, ← readState path)
  return fun path => (states.lookup path).getD .absent

def randomBytes : IO (FixedBytes Passphrase.randomBytes) := do
  let bytes := (← IO.getRandomBytes (USize.ofNat Passphrase.randomBytes)).toList
  if h : bytes.length = Passphrase.randomBytes then return ⟨bytes, h⟩
  else throw (IO.userError "no random bytes")

def usageText : String :=
  "usage: [--config FILE] [--network NAME] [--xpub KEY]... COMMAND\n" ++
  "commands: path P, address P [--json], pubkeys P, new [--json], batch FILE [-c N]"

def printLines (stream : IO.FS.Stream) (lines : List String) : IO Unit :=
  stream.putStr (Report.text lines)

def runInvocation (invocation : Invocation) : IO UInt32 := do
  let files ← readFiles invocation.paths
  let result := invocation.run files (← randomBytes)
  printLines (← IO.getStderr) (result.events.map LogEvent.render)
  (← IO.getStdout).putStr result.value.output
  match result.value.ending with
  | .failure failure =>
    printLines (← IO.getStderr) (s!"Error: {failure.message}" :: failure.causes)
  | _ => pure ()
  return UInt32.ofNat result.value.exitCode

end TwoOfThree.Main

open TwoOfThree in
def main (words : List String) : IO UInt32 := do
  match CommandLine.parse (← IO.getEnv "CONFIG_PATH") words with
  | .ok invocation => Main.runInvocation invocation
  | .error usage =>
    Main.printLines (← IO.getStderr) [Main.usageText]
    return UInt32.ofNat usage.exitCode
