-- SUMMARY: What the commands answer, in terms of the settings and of the keys at the end of the path.
import TwoOfThree.Proofs.CommandLine.Outcome
import TwoOfThree.Proofs.CommandLine.Words
import TwoOfThree.Proofs.Settings.Accepted

/-!
# What the commands answer

With options that lead to accepted settings, every command runs with just these
settings, and what it answers can be read off the derivation that it makes.
-/

namespace TwoOfThree.CommandLine

/-! ## Consoles -/

/-- All that a command is run with: the environment, the options in front of it, the files, and the
random bytes that a fresh passphrase would take. -/
structure Console where
  environment : Option String
  config : Option String
  overrides : Overrides
  files : FileSystem
  random : FixedBytes Passphrase.randomBytes

namespace Console

/-- What the words of a command answer. -/
def answer (console : Console) (words : List String) : Except Usage Outcome :=
  (run console.environment (optionWords console.config console.overrides ++ words) console.files
    console.random).map Logged.value

/-- The options can be read, and the settings that they lead to are accepted. -/
structure Accepts (console : Console) (settings : Settings) : Prop where
  environment : console.environment ≠ some ""
  config : console.config ≠ some ""
  loaded : (Settings.load console.files (console.config <|> console.environment)
    console.overrides).value = .ok settings

end Console

/-- A run that prints these lines. -/
def prints (lines : List String) : Except Usage Outcome := .ok (.printed lines)

/-- A run that fails. -/
def fails (failure : Failure) : Except Usage Outcome := .ok (.failed failure)

/-! ## Answers -/

/-- The words of a batch. -/
def batchWords (file : String) (concurrency : Option Nat) : List String :=
  "batch" :: ((concurrency.map fun n => optionWord "concurrency" (toString n)).toList ++
    ["--", file])

section

variable {console : Console} {settings : Settings} (h : console.Accepts settings)
include h

theorem answer_words (command : Command) (hwritable : command.IsWritable) :
    console.answer command.words = .ok (command.outcome settings console.files console.random) := by
  have hloaded : Invocation.loaded ⟨console.config <|> console.environment, console.overrides,
      command⟩ console.files = .ok settings := h.loaded
  rw [Console.answer, run, parse_words h.environment h.config console.overrides hwritable]
  exact congrArg Except.ok (value_run_of_loaded hloaded)

theorem answer_path (passphrase : String) :
    console.answer ["path", "--", passphrase]
      = prints [Path.format (Path.indices passphrase)] :=
  answer_words h (.path passphrase) trivial

theorem answer_address (passphrase : String) (json : Bool) :
    console.answer (Command.address passphrase json).words =
      match Deposit.derive settings.keys passphrase settings.network with
      | .error error => fails (.address error)
      | .ok deposit => prints [depositLine passphrase json deposit] := by
  rw [answer_words h (.address passphrase json) trivial, Command.outcome, value_runAddress]
  cases Deposit.derive settings.keys passphrase settings.network <;> rfl

theorem answer_pubkeys (passphrase : String) :
    console.answer ["pubkeys", "--", passphrase] =
      match Cosigners.publicKeysAt settings.keys (Path.ofPassphrase passphrase) with
      | .error error => fails (.pubkeys error)
      | .ok keys => prints (Report.keyLines keys) := by
  have hwords := answer_words h (.pubkeys passphrase) trivial
  rw [Command.outcome, runPubkeys_eq] at hwords
  refine hwords.trans ?_
  cases Cosigners.publicKeysAt settings.keys (Path.ofPassphrase passphrase) <;> rfl

theorem answer_new (json : Bool) :
    console.answer (Command.new json).words =
      match Deposit.derive settings.keys (Passphrase.ofRandom console.random) settings.network with
      | .error error => fails (.address error)
      | .ok deposit => prints [freshLine (Passphrase.ofRandom console.random) json deposit] := by
  rw [answer_words h (.new json) trivial, Command.outcome, value_runNew]
  cases Deposit.derive settings.keys (Passphrase.ofRandom console.random) settings.network <;> rfl

theorem answer_batch {file : String} {concurrency : Option Nat} {content : Bytes}
    (hfile : file ≠ "") (hcontent : console.files file = .file content)
    (hlimit : concurrency.getD settings.concurrency ≤ Batch.permitLimit) :
    console.answer (batchWords file concurrency) = prints
      ((((Batch.splitPassphrases content).map (Batch.entry settings.keys settings.network)).map
        Report.entryObject).map JsonObject.compact) := by
  have hwritable : (Command.batch file concurrency).IsWritable := by
    refine ⟨hfile, ?_⟩
    rintro n rfl
    exact Nat.lt_of_le_of_lt hlimit (by decide)
  refine (answer_words h _ hwritable).trans ?_
  rw [Command.outcome, value_runBatch (Settings.length_keys_of_load h.loaded) hlimit, hcontent]
  rfl

end

/-! ## A console -/

/-- A console with one key for all cosigners, and with a file that holds one passphrase. -/
def Console.ofKey (key : String) : Console where
  environment := none
  config := none
  overrides := ⟨none, [key, key, key]⟩
  files path := if path = "list" then .file (Utf8.encode "a") else .absent
  random := ⟨List.replicate 32 0, rfl⟩

def sampleKey : String :=
  "xpub6EkTGi8Kh6bqYpZzFeoANKQh7nH1GiChpb1StmTSoUG3QA1u6yf6dYprGjWiMBKcTEQ1KFDBNDL4sxDh45AiD7EkFC3yeD23Vkf3yzYSwEb"

/-- Some settings are accepted. -/
theorem exists_accepts : ∃ settings, (Console.ofKey sampleKey).Accepts settings := by
  have hok : (Settings.load (Console.ofKey sampleKey).files none
      (Console.ofKey sampleKey).overrides).value.isOk = true := by
    decide +kernel
  have hload (result : Except Settings.LoadError Settings) (h : result.isOk = true) :
      ∃ settings, result = .ok settings := by
    cases result with
    | error error => exact absurd h Bool.false_ne_true
    | ok settings => exact ⟨settings, rfl⟩
  obtain ⟨settings, hsettings⟩ := hload _ hok
  exact ⟨settings, nofun, nofun, hsettings⟩

end TwoOfThree.CommandLine
