-- SUMMARY: The settings of a run: the settings file, the overrides, and what they amount to.
import TwoOfThree.Deposit
import TwoOfThree.FileSystem
import TwoOfThree.Toml.Document

/-!
# Settings

A settings file may name a network, list the keys of the cosigners and bound the
concurrency of batches. Overrides replace the network or the keys, never mixing
the two lists. `resolve` checks what is then in effect, the network first;
`load` finds the file, which is the one that was asked for or else the default
one if there is one, and never looks further when that file is bad.
-/

namespace TwoOfThree

/-- The file that is read when no other is asked for. -/
def defaultSettingsPath : String := "config.toml"

/-- The concurrency of batches when the file does not set it. -/
def defaultConcurrency : Nat := 8

/-! ## The settings file -/

structure BatchSection where
  concurrency : Option Nat
deriving DecidableEq, Repr

/-- What a settings file says; nothing of it is checked yet. -/
structure SettingsFile where
  network : Option String
  keys : Option (List String)
  batch : Option BatchSection
deriving DecidableEq, Repr

namespace SettingsFile

/-- A file that says nothing. -/
def empty : SettingsFile := ⟨none, none, none⟩

/-- The value of the only entry that a section has, which is nothing if the section is a table
without it. A section may also be a list that begins with the value; a date is a section without
entries. -/
def sectionEntry (name : String) : Toml.Value → Option (Option Toml.Value)
  | .table _ entries => some (entries.lookup name)
  | .dateTime => some none
  | .array (item :: _) => some (some item)
  | .tableArray (table :: _) => some (some (.table .header table))
  | _ => none

def readNetwork (value : Toml.Value) : Option String :=
  match sectionEntry "type" value with
  | some (some (.string text)) => some text
  | _ => none

def readKey : Toml.Value → Option String
  | .string text => some text
  | _ => none

def readKeys (value : Toml.Value) : Option (List String) :=
  match sectionEntry "xpubs" value with
  | some (some (.array items)) => items.mapM readKey
  | _ => none

def readBatch (value : Toml.Value) : Option BatchSection :=
  match sectionEntry "concurrency" value with
  | some none => some ⟨none⟩
  | some (some (.integer n)) => if 0 ≤ n then some ⟨some n.toNat⟩ else none
  | _ => none

/-- Read a section that need not be there. -/
def readSection (table : Toml.Table) (name : String) (read : Toml.Value → Option α) :
    Option (Option α) :=
  match table.get? name with
  | none => some none
  | some value => (read value).map some

def ofTable (table : Toml.Table) : Option SettingsFile := do
  return {
    network := ← readSection table "network" readNetwork
    keys := ← readSection table "signer" readKeys
    batch := ← readSection table "batch" readBatch }

/-- The settings file with this text. -/
def parse? (text : String) : Option SettingsFile := do
  ofTable (← Toml.parse? text)

end SettingsFile

/-! ## Settings in effect -/

/-- What takes precedence over the settings file: the network if it is given, and the keys if there
are any. -/
structure Overrides where
  network : Option String
  keys : List String
deriving DecidableEq, Repr

/-- Checked settings. -/
structure Settings where
  network : Network
  keys : List ExtendedKey
  concurrency : Nat
deriving DecidableEq

namespace Settings

/-- Which setting is wrong, and how. -/
inductive Invalid where
  | network (error : Error)
  | cosigners (error : Error)
deriving DecidableEq, Repr

namespace Invalid

def message : Invalid → String
  | .network _ => "Invalid network"
  | .cosigners _ => "Invalid cosigner xpubs (config [signer].xpubs or --xpub)"

def error : Invalid → Error
  | .network error => error
  | .cosigners error => error

end Invalid

/-- The selector in effect. -/
def selector (file : SettingsFile) (overrides : Overrides) : String :=
  overrides.network.getD (file.network.getD Network.main.selector)

/-- The texts of the keys in effect. -/
def keyTexts (file : SettingsFile) (overrides : Overrides) : List String :=
  if overrides.keys.isEmpty then file.keys.getD [] else overrides.keys

/-- The concurrency in effect. -/
def concurrencyOf (file : SettingsFile) : Nat :=
  (file.batch.bind BatchSection.concurrency).getD defaultConcurrency

/-- Check the settings in effect, the network before the keys. -/
def resolve (file : SettingsFile) (overrides : Overrides) : Except Invalid Settings :=
  match Network.ofSelector? (selector file overrides) with
  | none => .error (.network (.unsupportedNetwork (selector file overrides)))
  | some network =>
    match Cosigners.parse (keyTexts file overrides) with
    | .error error => .error (.cosigners error)
    | .ok keys => .ok ⟨network, keys, concurrencyOf file⟩

/-- What is reported of settings: that they are in effect, if they are. -/
def events : Except Invalid Settings → List LogEvent
  | .ok settings => [.cosignersLoaded settings.keys.length settings.network]
  | .error _ => []

/-- Check the settings in effect and report it. -/
def resolveLogged (file : SettingsFile) (overrides : Overrides) :
    Logged (Except Invalid Settings) :=
  let result := resolve file overrides
  ⟨result, events result⟩

/-! ## Loading -/

/-- Why there are no settings. -/
inductive LoadError where
  | unreadable (path : String) (error : FileError)
  | malformed
  | invalid (invalid : Invalid)
deriving DecidableEq, Repr

/-- Read the settings file at a path that leads to `state`. -/
def readFile (path : String) (state : FileState) : Except LoadError SettingsFile :=
  match state.readText with
  | .error error => .error (.unreadable path error)
  | .ok text =>
    match SettingsFile.parse? text with
    | none => .error .malformed
    | some file => .ok file

/-- Resolve the settings that the file at a path gives. -/
def loadFile (path : String) (state : FileState) (overrides : Overrides) :
    Logged (Except LoadError Settings) := do
  Logged.report (.configurationLoading path)
  match readFile path state with
  | .error error => return .error error
  | .ok file => return (← resolveLogged file overrides).mapError .invalid

/-- The settings of a run. -/
def load (files : FileSystem) (path : Option String) (overrides : Overrides) :
    Logged (Except LoadError Settings) :=
  match path with
  | some path => loadFile path (files path) overrides
  | none =>
    if (files defaultSettingsPath).isPresent then
      loadFile defaultSettingsPath (files defaultSettingsPath) overrides
    else do return (← resolveLogged SettingsFile.empty overrides).mapError .invalid

end Settings

end TwoOfThree
