-- SUMMARY: A settings file named by an option leaves nothing of the environment to be seen, unless that is empty.
import TwoOfThree.CommandLine.Run
import TwoOfThree.Proofs.CommandLine.Lines
import TwoOfThree.Proofs.CommandLine.NamedFiles

/-!
# Settings files that shadow others

A command line that names one settings file is run with that file, on whichever side
of the command it is named, and neither the file that the environment names nor the
default one has any part in the run. The environment is looked at, though, in the
place that names no file: if it names one by the empty path, the line is refused.
-/

namespace TwoOfThree.CommandLine

/-! ## Reading -/

section

variable {place : Place} {scan : Scan} {given : Given}

theorem finish_of_settle_error {usage : Usage} (h : scan.settle place = .error usage)
    (environment : Option String) : scan.finish place environment = .error usage := by
  rw [Scan.finish, h]
  rfl

theorem finish_of_ne {environment : Option String} (h : scan.settle place = .ok given)
    (henvironment : environment ≠ some "") : scan.finish place environment = .ok given := by
  rw [finish_of_settle h, if_neg fun hempty => henvironment hempty.2]

theorem finish_of_config (h : scan.settle place = .ok given) (hconfig : given.config ≠ none)
    (environment : Option String) : scan.finish place environment = .ok given := by
  rw [finish_of_settle h, if_neg fun hnone => hconfig hnone.1]

theorem finish_of_empty (h : scan.settle place = .ok given) (hconfig : given.config = none) :
    scan.finish place (some "") = .error .missingValue := by
  rw [finish_of_settle h, if_pos ⟨hconfig, rfl⟩]

end

section

variable {words rest : List String} {scan : Scan} {name : CommandName}

theorem parse_of_error {usage : Usage} (h : Scan.initial.readToCommand words = .error usage)
    (environment : Option String) : parse environment words = .error usage := by
  rw [parse, h]
  rfl

theorem parse_without_command (h : Scan.initial.readToCommand words = .ok (scan, none))
    (environment : Option String) :
    parse environment words =
      scan.finish none environment >>= fun given =>
        .error (usageWithoutCommand environment given) := by
  rw [parse, h]
  rfl

theorem parse_with_command
    (h : Scan.initial.readToCommand words = .ok (scan, some (name, rest)))
    (environment : Option String) :
    parse environment words =
      Scan.initial.readWords (some name) rest >>= fun next =>
      next.finish (some name) environment >>= fun after =>
      after.command name >>= fun command =>
      scan.finish none environment >>= fun before =>
        .ok (combine environment before after command) := by
  rw [parse, h]
  rfl

end

/-- How words are read that name a settings file, whatever file the environment names. -/
inductive Shadowing (words : List String) (path : String) : Prop where
  | refused {usage : Usage}
      (named : ∀ environment, environment ≠ some "" → parse environment words = .error usage)
      (empty : parse (some "") words = .error usage ∨ parse (some "") words = .error .missingValue)
  | accepted {overrides : Overrides} {command : Command}
      (named : ∀ environment, environment ≠ some "" →
        parse environment words = .ok ⟨some path, overrides, command⟩)
      (empty : parse (some "") words = .error .missingValue)

theorem shadowing_of_error {words : List String} {path : String} {usage : Usage}
    (h : ∀ environment, parse environment words = .error usage) : Shadowing words path :=
  .refused (fun environment _ => h environment) (.inl (h _))

/-- Without a command a line is refused, and a named file keeps help from being shown. -/
theorem shadowing_without_command {words : List String} {path : String} {scan : Scan}
    (hread : Scan.initial.readToCommand words = .ok (scan, none))
    (hnamed : scan.given.config.toList ++ scan.pending.named = [path]) :
    Shadowing words path := by
  have hparse := parse_without_command hread
  cases hsettle : scan.settle none with
  | error usage =>
    apply shadowing_of_error
    intro environment
    rw [hparse, finish_of_settle_error hsettle]
    rfl
  | ok given =>
    have hconfig : given.config.toList = [path] := (config_of_settle hsettle).trans hnamed
    have hsome : given.config ≠ none := by
      intro hnone
      rw [hnone] at hconfig
      cases hconfig
    have hgiven : given ≠ Given.nothing := by
      rintro rfl
      exact hsome rfl
    apply shadowing_of_error
    intro environment
    rw [hparse, finish_of_config hsettle hsome]
    show Except.error (usageWithoutCommand environment given) = _
    rw [usageWithoutCommand, if_neg fun hnothing => hgiven hnothing.1]

theorem orElse_of_toList_append {a b : Option String} {path : String}
    (h : a.toList ++ b.toList = [path]) : (b <|> a) = some path ∧ (a = none ∨ b = none) := by
  cases a with
  | none =>
    cases b with
    | none => cases h
    | some b => exact ⟨congrArg some (List.cons.inj h).1, .inl rfl⟩
  | some a =>
    cases b with
    | none => exact ⟨congrArg some (List.cons.inj h).1, .inr rfl⟩
    | some b => cases h

section

variable {words rest : List String} {path : String} {scan next : Scan} {name : CommandName}
  {after : Given}

section

variable (hparse : ∀ environment, parse environment words =
    next.finish (some name) environment >>= fun after =>
    after.command name >>= fun command =>
    scan.finish none environment >>= fun before =>
      .ok (combine environment before after command))
  (hafter : next.settle (some name) = .ok after)
include hparse hafter

/-- The place after the command is passed with a path that is not empty, or with none looked at. -/
theorem parse_after {environment : Option String}
    (h : environment ≠ some "" ∨ after.config ≠ none) :
    parse environment words =
      after.command name >>= fun command =>
      scan.finish none environment >>= fun before =>
        .ok (combine environment before after command) := by
  have hfinish : next.finish (some name) environment = .ok after :=
    h.elim (finish_of_ne hafter) fun hconfig => finish_of_config hafter hconfig environment
  rw [hparse, hfinish]
  rfl

theorem parse_after_empty (hnone : after.config = none) :
    parse (some "") words = .error .missingValue := by
  rw [hparse, finish_of_empty hafter hnone]
  rfl

/-- What is refused behind the place after the command is refused for the empty path, unless that is
looked at before. -/
theorem shadowing_of_error_after {usage : Usage}
    (h : ∀ environment, environment ≠ some "" ∨ after.config ≠ none →
      parse environment words = .error usage) : Shadowing words path := by
  refine .refused (fun environment henvironment => h environment (.inl henvironment)) ?_
  by_cases hnone : after.config = none
  · exact .inr (parse_after_empty hparse hafter hnone)
  · exact .inl (h _ (.inr hnone))

/-- Of the two places one names the file, and the other one looks at the environment. -/
theorem shadowing_of_both {before : Given} {command : Command}
    (hcommand : after.command name = .ok command) (hbefore : scan.settle none = .ok before)
    (hnamed : before.config.toList ++ after.config.toList = [path]) : Shadowing words path := by
  obtain ⟨hone, hother⟩ := orElse_of_toList_append hnamed
  refine @Shadowing.accepted _ _ (combine none before after command).overrides command ?_ ?_
  · intro environment henvironment
    rw [parse_after hparse hafter (.inl henvironment), hcommand]
    show (scan.finish none environment >>= _) = _
    rw [finish_of_ne hbefore henvironment]
    show Except.ok (combine environment before after command) = _
    rw [combine, hone]
    rfl
  · rcases hother with hnone | hnone
    · by_cases hafterNone : after.config = none
      · exact parse_after_empty hparse hafter hafterNone
      · rw [parse_after hparse hafter (.inr hafterNone), hcommand]
        show (scan.finish none (some "") >>= _) = _
        rw [finish_of_empty hbefore hnone]
        rfl
    · exact parse_after_empty hparse hafter hnone

theorem shadowing_of_after
    (hnamed : scan.given.config.toList ++ (scan.pending.named ++ after.config.toList) = [path]) :
    Shadowing words path := by
  cases hcommand : after.command name with
  | error usage =>
    apply shadowing_of_error_after hparse hafter
    intro environment h
    rw [parse_after hparse hafter h, hcommand]
    rfl
  | ok command =>
    cases hbefore : scan.settle none with
    | error usage =>
      apply shadowing_of_error_after hparse hafter
      intro environment h
      rw [parse_after hparse hafter h, hcommand]
      show (scan.finish none environment >>= _) = _
      rw [finish_of_settle_error hbefore]
      rfl
    | ok before =>
      rw [← List.append_assoc, ← config_of_settle hbefore] at hnamed
      exact shadowing_of_both hparse hafter hcommand hbefore hnamed

end

/-- With a command, the place that names no file looks at the environment. -/
theorem shadowing_with_command
    (hread : Scan.initial.readToCommand words = .ok (scan, some (name, rest)))
    (hnamed : scan.given.config.toList ++ (scan.pending.named ++ namedFiles rest) = [path]) :
    Shadowing words path := by
  have hparse := parse_with_command hread
  cases hwords : Scan.initial.readWords (some name) rest with
  | error usage =>
    apply shadowing_of_error
    intro environment
    rw [hparse, hwords]
    rfl
  | ok next =>
    have hrest : namedFiles rest = next.given.config.toList ++ next.pending.named :=
      named_of_readWords hwords
    rw [hwords] at hparse
    cases hafter : next.settle (some name) with
    | error usage =>
      apply shadowing_of_error
      intro environment
      rw [hparse]
      show (next.finish (some name) environment >>= _) = _
      rw [finish_of_settle_error hafter]
      rfl
    | ok after =>
      rw [hrest, ← config_of_settle hafter] at hnamed
      exact shadowing_of_after hparse hafter hnamed

end

theorem shadowing_of_namedFiles {words : List String} {path : String}
    (hwords : namedFiles words = [path]) : Shadowing words path := by
  cases hread : Scan.initial.readToCommand words with
  | error usage => exact shadowing_of_error (parse_of_error hread)
  | ok result =>
    obtain ⟨scan, command⟩ := result
    have hnamed := (named_of_readToCommand hread).symm.trans hwords
    cases command with
    | none => exact shadowing_without_command hread (by simpa [namedFiles, namedFrom] using hnamed)
    | some command => exact shadowing_with_command hread hnamed

section

variable {words : List String} {path : String} {environment : Option String}

/-- Whichever file the environment names, the words are read in one way. -/
theorem Shadowing.parse_eq (h : Shadowing words path) (henvironment : environment ≠ some "") :
    parse environment words = parse none words := by
  cases h with
  | refused named => exact (named environment henvironment).trans (named none nofun).symm
  | accepted named => exact (named environment henvironment).trans (named none nofun).symm

theorem Shadowing.not_ok_empty (h : Shadowing words path) (invocation : Invocation) :
    parse (some "") words ≠ .ok invocation := by
  intro hparse
  cases h with
  | refused _ empty =>
    rcases empty with hempty | hempty
    · cases hempty.symm.trans hparse
    · cases hempty.symm.trans hparse
  | accepted _ empty => cases empty.symm.trans hparse

theorem Shadowing.config_eq (h : Shadowing words path) {invocation : Invocation}
    (hparse : parse environment words = .ok invocation) : invocation.config = some path := by
  have henvironment : environment ≠ some "" := by
    rintro rfl
    exact h.not_ok_empty invocation hparse
  cases h with
  | refused named => cases (named environment henvironment).symm.trans hparse
  | accepted named =>
    cases (named environment henvironment).symm.trans hparse
    rfl

end

/-! ## Running -/

/-- A run with a settings file reads that file, and that of a batch, and no other. -/
theorem run_congr {invocation : Invocation} {path : String} {files files' : FileSystem}
    (random : FixedBytes Passphrase.randomBytes) (hconfig : invocation.config = some path)
    (hpath : files path = files' path)
    (hbatch : ∀ file concurrency, invocation.command = .batch file concurrency →
      files file = files' file) :
    invocation.run files random = invocation.run files' random := by
  have hsettings (body : Settings → Logged Outcome) :
      withSettings files invocation body = withSettings files' invocation body := by
    simp only [withSettings, Settings.load, hconfig, hpath]
  unfold Invocation.run
  cases hcommand : invocation.command with
  | path passphrase => rfl
  | address passphrase json => exact hsettings _
  | pubkeys passphrase => exact hsettings _
  | new json => exact hsettings _
  | batch file concurrency =>
    dsimp only
    rw [hbatch file concurrency hcommand]
    exact hsettings _

/-- Where the words name one settings file, a run depends on no other settings file and not on which
one the environment names. That the environment names one by the empty path makes no line be run: it
is refused as it would be otherwise, or because of the empty path. -/
theorem run_shadowing {words : List String} {path : String} (hwords : namedFiles words = [path]) :
    (∀ environment environment' files files' random,
      environment ≠ some "" → environment' ≠ some "" → files path = files' path →
      (∀ overrides file concurrency,
        parse none words = .ok ⟨some path, overrides, .batch file concurrency⟩ →
        files file = files' file) →
      run environment words files random = run environment' words files' random) ∧
    (∀ environment invocation, parse environment words = .ok invocation →
      invocation.config = some path) ∧
    ∀ files random,
      match run none words files random with
      | .ok _ => run (some "") words files random = .error .missingValue
      | .error usage => run (some "") words files random = .error usage ∨
        run (some "") words files random = .error .missingValue := by
  have hshadowing := shadowing_of_namedFiles hwords
  refine ⟨?_, fun environment invocation => hshadowing.config_eq, ?_⟩
  · intro environment environment' files files' random henvironment henvironment' hpath hbatch
    rw [run, run, hshadowing.parse_eq henvironment, hshadowing.parse_eq henvironment']
    cases hparse : parse none words with
    | error usage => rfl
    | ok invocation =>
      obtain ⟨config, overrides, command⟩ := invocation
      obtain rfl : config = some path := hshadowing.config_eq hparse
      apply congrArg Except.ok
      apply run_congr random rfl hpath
      rintro file concurrency rfl
      exact hbatch overrides file concurrency hparse
  · intro files random
    cases hshadowing with
    | @refused usage named empty =>
      have hnone : run none words files random = .error usage :=
        congrArg (Except.map _) (named none nofun)
      rw [hnone]
      exact empty.imp (congrArg (Except.map _)) (congrArg (Except.map _))
    | accepted named empty =>
      have hnone : run none words files random = .ok _ :=
        congrArg (Except.map _) (named none nofun)
      rw [hnone]
      exact congrArg (Except.map _) empty

/-- A file that is named behind the command, with a settings file of the environment and a default
one there or not. -/
theorem run_shadowing_behind_command :
    let words := ["address", "x", "--config=settings.toml"]
    let files : FileSystem := fun path =>
      if path = "settings.toml" then .file [] else .absent
    let files' : FileSystem := fun path =>
      if path = "settings.toml" then .file [] else .file [0x78]
    let random : FixedBytes Passphrase.randomBytes := ⟨List.replicate 32 0, rfl⟩
    namedFiles words = ["settings.toml"] ∧
      run none words files random = run (some "other.toml") words files' random := by
  intro words files files' random
  have hwords : namedFiles words = ["settings.toml"] := by decide
  refine ⟨hwords, (run_shadowing hwords).1 _ _ _ _ random (by decide) (by decide) rfl ?_⟩
  intro overrides file concurrency hparse
  have haddress : parse none words
      = .ok ⟨some "settings.toml", ⟨none, []⟩, .address "x" false⟩ := by rfl
  cases haddress.symm.trans hparse

/-- A file that is named in front of the command does not keep the empty path of the environment
from being looked at behind it. -/
theorem run_empty_environment :
    let words := ["--config", "settings.toml", "path", "x"]
    let files : FileSystem := fun _ => .absent
    let random : FixedBytes Passphrase.randomBytes := ⟨List.replicate 32 0, rfl⟩
    namedFiles words = ["settings.toml"] ∧
      run none words files random = .ok (pure (runPath "x")) ∧
      run (some "") words files random = .error .missingValue ∧
      run (some "") words files random ≠ run none words files random := by
  intro words files random
  have hnone : run none words files random = .ok (pure (runPath "x")) := by rfl
  have hempty : run (some "") words files random = .error .missingValue := by rfl
  refine ⟨by decide, hnone, hempty, ?_⟩
  rw [hnone, hempty]
  exact nofun

end TwoOfThree.CommandLine
