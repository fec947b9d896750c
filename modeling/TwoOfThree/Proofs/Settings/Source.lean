-- SUMMARY: The one file that settings are loaded from, and what loading comes to in every state of it.
import TwoOfThree.CommandLine.Run
import TwoOfThree.Proofs.Deposit.KeyOrder
import TwoOfThree.Proofs.Settings.Accepted
import TwoOfThree.Proofs.Text.Utf8Reading

/-!
# The source of settings

Settings are loaded from one file: the one that was asked for, or else the default
one. Nothing else is looked at, and there is nothing to fall back on. The default
path may lead to nothing, which is as good as a file that says nothing; apart from
that, a file that cannot be read or that is no settings file makes loading fail, even
where the overrides leave nothing for it to say.
-/

namespace TwoOfThree.Settings

/-- The path of the file that settings are loaded from. -/
def source (path : Option String) : String := path.getD defaultSettingsPath

/-! ## The state of the source -/

/-- The file is at fault: it was asked for and its path leads to nothing, or it is there and cannot
be read, or it is not text, or the text is no settings file. Overrides play no part in this. -/
inductive SourceFails (path : Option String) : FileState → LoadError → Prop where
  | missing {explicit} (asked : path = some explicit) :
      SourceFails path .absent (.unreadable explicit .absent)
  | unreachable {explicit reason} (asked : path = some explicit) :
      SourceFails path (.unreachable reason) (.unreadable explicit (.unreadable reason))
  | directory : SourceFails path .directory (.unreadable (source path) .directory)
  | unreadable {reason} :
      SourceFails path (.unreadable reason) (.unreadable (source path) (.unreadable reason))
  | notText {content} (faulty : ∀ text, content ≠ Utf8.encode text) :
      SourceFails path (.file content) (.unreadable (source path) .notText)
  | malformed {text} (unparsable : SettingsFile.parse? text = none) :
      SourceFails path (.file (Utf8.encode text)) .malformed

/-- What the file says. Its path may lead to nothing only if it was not asked for, and then it says
nothing. -/
inductive SourceSays (path : Option String) : FileState → SettingsFile → Prop where
  | nothing (not_asked : path = none) : SourceSays path .absent SettingsFile.empty
  | unreachable {reason} (not_asked : path = none) :
      SourceSays path (.unreachable reason) SettingsFile.empty
  | parsed {text file} (parses : SettingsFile.parse? text = some file) :
      SourceSays path (.file (Utf8.encode text)) file

theorem sourceFails_or_sourceSays (path : Option String) (state : FileState) :
    (∃ error, SourceFails path state error) ∨ ∃ file, SourceSays path state file := by
  cases state with
  | absent =>
    cases path with
    | some explicit => exact .inl ⟨_, .missing rfl⟩
    | none => exact .inr ⟨_, .nothing rfl⟩
  | unreachable reason =>
    cases path with
    | some explicit => exact .inl ⟨_, .unreachable rfl⟩
    | none => exact .inr ⟨_, .unreachable rfl⟩
  | directory => exact .inl ⟨_, .directory⟩
  | unreadable reason => exact .inl ⟨_, .unreadable⟩
  | file content =>
    by_cases htext : ∃ text, content = Utf8.encode text
    · obtain ⟨text, rfl⟩ := htext
      cases hparse : SettingsFile.parse? text with
      | none => exact .inl ⟨_, .malformed hparse⟩
      | some file => exact .inr ⟨_, .parsed hparse⟩
    · exact .inl ⟨_, .notText (not_exists.1 htext)⟩

/-- The file is told of by its path unless it was read and is no settings file. -/
theorem SourceFails.message_eq {path : Option String} {state : FileState} {error : LoadError}
    (h : SourceFails path state error) :
    (CommandLine.Failure.settings error).message =
      if error = .malformed then "Failed to parse config file"
      else s!"Failed to read config file: {source path}" := by
  cases h with
  | missing asked =>
    subst asked
    rfl
  | unreachable asked =>
    subst asked
    rfl
  | directory => rfl
  | unreadable => rfl
  | notText faulty => rfl
  | malformed unparsable => rfl

/-! ## Reading the source -/

theorem readText_file (content : Bytes) :
    (FileState.file content).readText =
      match Utf8.decode content with
      | .ok text => .ok text
      | .error _ => .error .notText := by
  show (match Utf8.decode content with
    | .ok text => pure text
    | .error _ => throw FileError.notText) = _
  cases Utf8.decode content <;> rfl

theorem readFile_encode (path text : String) :
    readFile path (.file (Utf8.encode text)) =
      match SettingsFile.parse? text with
      | none => .error .malformed
      | some file => .ok file := by
  cases hparse : SettingsFile.parse? text <;>
    simp only [readFile, readText_file, Utf8.decode_encode, hparse]

variable {path : Option String} {state : FileState}

theorem SourceFails.readFile_eq {error : LoadError} (h : SourceFails path state error) :
    readFile (source path) state = .error error := by
  cases h with
  | missing asked =>
    subst asked
    rfl
  | unreachable asked =>
    subst asked
    rfl
  | directory => rfl
  | unreadable => rfl
  | @notText content faulty =>
    cases hdecode : Utf8.decode content with
    | ok text => exact absurd (Utf8.decode_eq_ok_iff.1 hdecode) (faulty text)
    | error fault => simp only [readFile, readText_file, hdecode]
  | malformed unparsable => rw [readFile_encode, unparsable]

/-! ## Loading -/

/-- Load the settings from a source in this state. -/
def loadFrom (path : Option String) (state : FileState) (overrides : Overrides) :
    Logged (Except LoadError Settings) :=
  if path = none ∧ state.isPresent = false then do
    return (← resolveLogged SettingsFile.empty overrides).mapError .invalid
  else loadFile (source path) state overrides

/-- Of a file system only the state of the source matters. -/
theorem load_eq (files : FileSystem) (path : Option String) (overrides : Overrides) :
    load files path overrides = loadFrom path (files (source path)) overrides := by
  cases path with
  | some path => exact (if_neg nofun).symm
  | none =>
    rw [load, loadFrom, source, Option.getD_none]
    cases files defaultSettingsPath <;> simp [FileState.isPresent]

variable (overrides : Overrides)

theorem load_congr {files files' : FileSystem} (h : files (source path) = files' (source path)) :
    load files path overrides = load files' path overrides := by
  rw [load_eq, load_eq, h]

theorem SourceFails.value_loadFrom {error : LoadError} (h : SourceFails path state error) :
    (loadFrom path state overrides).value = .error error := by
  have htolerated : ¬ (path = none ∧ state.isPresent = false) := by
    rintro ⟨rfl, hpresent⟩
    cases h with
    | missing asked => cases asked
    | unreachable asked => cases asked
    | _ => cases hpresent
  rw [loadFrom, if_neg htolerated, value_loadFile, h.readFile_eq]

theorem SourceSays.value_loadFrom {file : SettingsFile} (h : SourceSays path state file) :
    (loadFrom path state overrides).value = (resolve file overrides).mapError .invalid := by
  cases h with
  | nothing not_asked =>
    rw [loadFrom, if_pos ⟨not_asked, rfl⟩]
    rfl
  | unreachable not_asked =>
    rw [loadFrom, if_pos ⟨not_asked, rfl⟩]
    rfl
  | @parsed text _ parses =>
    have htolerated :
        ¬ (path = none ∧ (FileState.file (Utf8.encode text)).isPresent = false) :=
      fun htolerated => nomatch htolerated.2
    rw [loadFrom, if_neg htolerated, value_loadFile, readFile_encode, parses]

/-- Settings are loaded from one file, whatever the other files are. If that file is at fault,
loading fails because of it, whatever the overrides are, and otherwise what the file says is
resolved. -/
theorem load_from_source (files : FileSystem) (path : Option String) (overrides : Overrides) :
    (∀ files', files (source path) = files' (source path) →
      load files path overrides = load files' path overrides) ∧
    ((∃ error, SourceFails path (files (source path)) error) ∨
      ∃ file, SourceSays path (files (source path)) file) ∧
    (∀ error, SourceFails path (files (source path)) error →
      (load files path overrides).value = .error error ∧
      (CommandLine.Failure.settings error).message =
        if error = .malformed then "Failed to parse config file"
        else s!"Failed to read config file: {source path}") ∧
    ∀ file, SourceSays path (files (source path)) file →
      (load files path overrides).value = (resolve file overrides).mapError .invalid := by
  refine ⟨fun files' => load_congr overrides, sourceFails_or_sourceSays path _, ?_, ?_⟩
  · intro error hfails
    rw [load_eq]
    exact ⟨hfails.value_loadFrom overrides, hfails.message_eq⟩
  · intro file hsays
    rw [load_eq]
    exact hsays.value_loadFrom overrides

/-- Overrides with which the settings are complete do not help against a file that is missing or no
text, but the default file need not be there. -/
theorem load_from_source_missing :
    let overrides : Overrides := ⟨none, List.replicate 3 Deposit.generatorText⟩
    let absent : FileSystem := fun _ => .absent
    let garbled : FileSystem := fun _ => .file [0xff]
    (load absent (some "settings.toml") overrides).value
        = .error (.unreadable "settings.toml" .absent) ∧
      (load garbled none overrides).value = .error (.unreadable "config.toml" .notText) ∧
      (load absent none overrides).value
        = .ok ⟨.main, List.replicate 3 (ExtendedKey.onGenerator 0 0), 8⟩ := by
  intro overrides absent garbled
  have hgarbled : ∀ text, ([0xff] : Bytes) ≠ Utf8.encode text := by
    intro text htext
    cases (Utf8.decode_eq_ok_iff.2 htext : Utf8.decode [0xff] = .ok text)
  have hresolve : resolve SettingsFile.empty overrides
      = .ok ⟨.main, List.replicate 3 (ExtendedKey.onGenerator 0 0), 8⟩ := by
    refine resolve_eq_ok_iff.2 ⟨rfl, Cosigners.parse_eq_ok_iff.2 ⟨rfl, ?_⟩, rfl⟩
    exact (List.map_replicate).trans (congrArg (List.replicate 3) Deposit.parse_generatorText)
  refine ⟨?_, ?_, ?_⟩
  · exact ((load_from_source absent (some "settings.toml") overrides).2.2.1 _ (.missing rfl)).1
  · exact ((load_from_source garbled none overrides).2.2.1 _ (.notText hgarbled)).1
  · rw [(load_from_source absent none overrides).2.2.2 _ (.nothing rfl), hresolve]
    rfl

end TwoOfThree.Settings
