-- SUMMARY: Reading a command line: options before and after the command, its argument, and usage errors.
import TwoOfThree.Settings

/-!
# Command lines

    [OPTIONS] path P | address P [--json] | pubkeys P | new [--json] | batch FILE [-c N]

Options stand before the command and after it, and each of the two places is read
by itself, with its own usage errors; the place after the command is finished
first. An option is settled when the next thing begins, so the error in its value
is found only then. For an option given in both places the one after the command
counts, and for a repeated option all of those. Where neither place names a
settings file, the environment may.
-/

namespace TwoOfThree.CommandLine

/-! ## Usage errors -/

/-- Why a command line is not run. -/
inductive Usage where
  | help
  | helpOnNothing
  | missingCommand
  | unknownCommand
  | unknownArgument
  | missingArgument
  | repeatedOption
  | missingValue
  | malformedValue
  | unexpectedValue
deriving DecidableEq, Repr

/-- Asking for help is no failure. -/
def Usage.exitCode : Usage → Nat
  | .help => 0
  | _ => 2

/-! ## Commands and options -/

inductive CommandName where
  | path
  | address
  | pubkeys
  | new
  | batch
deriving DecidableEq, Repr

def CommandName.ofText? (text : String) : Option CommandName :=
  if text = "path" then some .path
  else if text = "address" then some .address
  else if text = "pubkeys" then some .pubkeys
  else if text = "new" then some .new
  else if text = "batch" then some .batch
  else none

/-- The command that shows the help of the others. -/
def helpCommand : String := "help"

/-- An option that takes a value. -/
inductive Opt where
  | config
  | network
  | key
  | concurrency
deriving DecidableEq, Repr

/-- An option without a value. -/
inductive Flag where
  | json
  | help
deriving DecidableEq, Repr

/-- Where on a command line: before any command, or after this one. -/
abbrev Place := Option CommandName

namespace Place

/-- The option that a long name means at a place. -/
def option? (place : Place) (name : String) : Option Opt :=
  if name = "config" then some .config
  else if name = "network" then some .network
  else if name = "xpub" then some .key
  else if name = "concurrency" ∧ place = some .batch then some .concurrency
  else none

def flag? (place : Place) (name : String) : Option Flag :=
  if name = "help" then some .help
  else if name = "json" ∧ (place = some .address ∨ place = some .new) then some .json
  else none

/-- The command at a place takes an argument. -/
def takesArgument (place : Place) : Bool :=
  match place with
  | none => false
  | some .new => false
  | some _ => true

/-- The argument at a place is the path of a file. -/
def takesFile (place : Place) : Bool := place = some .batch

end Place

/-! ## Values -/

/-- What one place of a command line gives. -/
structure Given where
  config : Option String
  network : Option String
  keys : List String
  concurrency : Option Nat
  json : Bool
  argument : Option String
deriving DecidableEq, Repr

def Given.nothing : Given := ⟨none, none, [], none, false, none⟩

def digitValue? (c : Char) : Option Nat :=
  if '0' ≤ c ∧ c ≤ '9' then some (c.toNat - '0'.toNat) else none

/-- The number that decimal digits write; there must be one. -/
def readDigits (cs : List Char) : Option Nat :=
  if cs.isEmpty then none
  else cs.foldlM (fun n c => return n * 10 + (← digitValue? c)) 0

/-- Numbers of 64 bits are below this one. -/
def wordLimit : Nat := 18446744073709551616

/-- A number of 64 bits, with or without a plus. -/
def readConcurrency (text : String) : Option Nat := do
  let n ← readDigits (match text.toList with
    | '+' :: rest => rest
    | cs => cs)
  if n < wordLimit then some n else none

/-- A path is not empty. -/
def readPath (text : String) : Except Usage String :=
  if text = "" then .error .missingValue else .ok text

/-- Give an option its value. Only keys can be given more than once. -/
def Given.setOption (given : Given) (option : Opt) (value : String) : Except Usage Given :=
  match option with
  | .config =>
    if given.config.isSome then .error .repeatedOption
    else do return { given with config := some (← readPath value) }
  | .network =>
    if given.network.isSome then .error .repeatedOption
    else .ok { given with network := some value }
  | .key => .ok { given with keys := given.keys ++ [value] }
  | .concurrency =>
    if given.concurrency.isSome then .error .repeatedOption
    else
      match readConcurrency value with
      | none => .error .malformedValue
      | some n => .ok { given with concurrency := some n }

def Given.setFlag (given : Given) : Flag → Except Usage Given
  | .help => .error .help
  | .json => if given.json then .error .repeatedOption else .ok { given with json := true }

/-- Something that was begun and is not settled yet. -/
inductive Pending where
  | nothing
  /-- An option that waits for its value. -/
  | awaiting (option : Opt)
  | option (option : Opt) (value : String)
  | argument (text : String)
deriving DecidableEq, Repr

/-- How far the reading of one place has come. -/
structure Scan where
  given : Given
  pending : Pending
  /-- The argument of the command has been met. -/
  argumentMet : Bool
  /-- Behind `--`, where nothing is an option. -/
  trailing : Bool
deriving DecidableEq, Repr

def Scan.initial : Scan := ⟨Given.nothing, .nothing, false, false⟩

/-- Settle what is pending. -/
def Scan.settle (place : Place) (scan : Scan) : Except Usage Given :=
  match scan.pending with
  | .nothing => .ok scan.given
  | .awaiting _ => .error .missingValue
  | .option option value => scan.given.setOption option value
  | .argument text => do
    let text ← if place.takesFile then readPath text else pure text
    return { scan.given with argument := some text }

/-- Go on from settled values. -/
def Scan.resume (scan : Scan) (given : Given) : Scan := { scan with given, pending := .nothing }

/-! ## Reading one place -/

/-- What a word of the command line looks like. -/
inductive Word where
  | escape
  | long (name : String) (value : Option String)
  | short (letters : List Char)
  | plain (text : String)
deriving DecidableEq, Repr

def Word.ofText (text : String) : Word :=
  match text.toList with
  | ['-', '-'] => .escape
  | '-' :: '-' :: rest =>
    let name := rest.takeWhile (· ≠ '=')
    let value := match rest.dropWhile (· ≠ '=') with
      | [] => none
      | _ :: value => some (String.ofList value)
    .long (String.ofList name) value
  | '-' :: c :: rest => .short (c :: rest)
  | _ => .plain text

/-- Read an option that stands for itself or waits for its value. -/
def Scan.beginOption (place : Place) (scan : Scan) (option : Opt) (value : Option String) :
    Except Usage Scan := do
  let given ← scan.settle place
  match value with
  | some value => return scan.resume (← given.setOption option value)
  | none => return { scan.resume given with pending := .awaiting option }

def Scan.readLong (place : Place) (scan : Scan) (name : String) (value : Option String) :
    Except Usage Scan :=
  match place.option? name with
  | some option => scan.beginOption place option value
  | none =>
    match place.flag? name with
    | none => .error .unknownArgument
    | some flag =>
      match value with
      | some _ => .error .unexpectedValue
      | none => do return scan.resume (← (← scan.settle place).setFlag flag)

/-- The value attached to a letter: what follows it, less an equals sign. -/
def attachedValue : List Char → Option String
  | [] => none
  | '=' :: rest => some (String.ofList rest)
  | cs => some (String.ofList cs)

def Scan.readShort (place : Place) (scan : Scan) : List Char → Except Usage Scan
  | 'h' :: _ => do return scan.resume (← (← scan.settle place).setFlag .help)
  | 'c' :: rest =>
    if place = some .batch then scan.beginOption place .concurrency (attachedValue rest)
    else .error .unknownArgument
  | _ => .error .unknownArgument

/-- A word that is neither an option nor the value of one, and no command either. -/
def Scan.readArgument (place : Place) (scan : Scan) (text : String) : Except Usage Scan :=
  if place.takesArgument && !scan.argumentMet then do
    let given ← scan.settle place
    return { scan.resume given with pending := .argument text, argumentMet := true }
  else if place.isSome then .error .unknownArgument
  else if scan.trailing && (text = helpCommand || (CommandName.ofText? text).isSome) then
    .error .unknownArgument
  else .error .unknownCommand

/-- Read a word that does not name a command. -/
def Scan.readWord (place : Place) (scan : Scan) (text : String) : Except Usage Scan :=
  if scan.trailing then scan.readArgument place text
  else
    match Word.ofText text with
    | .escape => .ok { scan with trailing := true }
    | .long name value => scan.readLong place name value
    | .short letters => scan.readShort place letters
    | .plain text =>
      match scan.pending with
      | .awaiting option => .ok { scan with pending := .option option text }
      | _ => scan.readArgument place text

/-- A command may begin here. -/
def Scan.admitsCommand (scan : Scan) : Bool :=
  !scan.trailing &&
    match scan.pending with
    | .awaiting _ => false
    | _ => true

/-- Read the words after a command. -/
def Scan.readWords (place : Place) (scan : Scan) (words : List String) : Except Usage Scan :=
  words.foldlM (Scan.readWord place) scan

/-- The help of a command, or of all: every word must name a command within the one before, and the
commands have none within them. -/
def helpUsage : List String → Usage
  | [] => .help
  | [text] => if text = helpCommand ∨ (CommandName.ofText? text).isSome then .help else .unknownCommand
  | _ => .unknownCommand

/-- Read the words before a command, up to the command. -/
def Scan.readToCommand (scan : Scan) :
    List String → Except Usage (Scan × Option (CommandName × List String))
  | [] => .ok (scan, none)
  | word :: rest =>
    if scan.admitsCommand && word = helpCommand then .error (helpUsage rest)
    else
      match if scan.admitsCommand then CommandName.ofText? word else none with
      | some command => .ok (scan, some (command, rest))
      | none => do (← scan.readWord none word).readToCommand rest

/-! ## Putting the places together -/

inductive Command where
  | path (passphrase : String)
  | address (passphrase : String) (json : Bool)
  | pubkeys (passphrase : String)
  | new (json : Bool)
  | batch (file : String) (concurrency : Option Nat)
deriving DecidableEq, Repr

/-- A command line that can be run. -/
structure Invocation where
  config : Option String
  overrides : Overrides
  command : Command
deriving DecidableEq, Repr

/-- Finish one place: settle what is pending, and take the settings file that the environment names
if the place names none. -/
def Scan.finish (place : Place) (environment : Option String) (scan : Scan) :
    Except Usage Given := do
  let given ← scan.settle place
  match given.config, environment with
  | none, some path =>
    let _ ← readPath path
    return given
  | _, _ => return given

/-- The command that a place gives. -/
def Given.command (given : Given) : CommandName → Except Usage Command
  | .new => .ok (.new given.json)
  | name =>
    match given.argument with
    | none => .error .missingArgument
    | some argument =>
      match name with
      | .path => .ok (.path argument)
      | .address => .ok (.address argument given.json)
      | .pubkeys => .ok (.pubkeys argument)
      | .new => .ok (.new given.json)
      | .batch => .ok (.batch argument given.concurrency)

/-- The options in effect, of those before the command and those after it. -/
def combine (environment : Option String) (before after : Given) (command : Command) :
    Invocation where
  config := (after.config <|> before.config) <|> environment
  overrides := {
    network := after.network <|> before.network
    keys := if after.keys.isEmpty then before.keys else after.keys }
  command := command

/-- What is wrong with a command line that has no command: help is shown if it has nothing at all. -/
def usageWithoutCommand (environment : Option String) (given : Given) : Usage :=
  if given = Given.nothing ∧ environment = none then .helpOnNothing else .missingCommand

/-- Read a command line. The environment may name a settings file. -/
def parse (environment : Option String) (words : List String) : Except Usage Invocation := do
  match ← Scan.initial.readToCommand words with
  | (scan, none) => throw (usageWithoutCommand environment (← scan.finish none environment))
  | (scan, some (name, rest)) =>
    let after ← (← Scan.initial.readWords (some name) rest).finish (some name) environment
    let command ← after.command name
    let before ← scan.finish none environment
    return combine environment before after command

end TwoOfThree.CommandLine
