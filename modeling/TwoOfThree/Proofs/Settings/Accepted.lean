-- SUMMARY: What is known of settings that were accepted.
import TwoOfThree.Proofs.Cosigners.FirstFailure
import TwoOfThree.Settings

/-!
# Accepted settings

Settings that were loaded are the resolution of one settings file with the
overrides, and their keys are the three that could be read.
-/

namespace TwoOfThree

namespace Settings

theorem resolve_eq_ok_iff {file : SettingsFile} {overrides : Overrides} {settings : Settings} :
    resolve file overrides = .ok settings ↔
      Network.ofSelector? (selector file overrides) = some settings.network ∧
      Cosigners.parse (keyTexts file overrides) = .ok settings.keys ∧
      settings.concurrency = concurrencyOf file := by
  obtain ⟨network, keys, concurrency⟩ := settings
  unfold resolve
  cases Network.ofSelector? (selector file overrides) with
  | none => simp
  | some network' => cases Cosigners.parse (keyTexts file overrides) <;> simp [eq_comm]

/-- Settings are accepted if the network is supported, there are three keys, and each of them can be
read by itself. -/
theorem exists_resolve_iff {file : SettingsFile} {overrides : Overrides} :
    (∃ settings, resolve file overrides = .ok settings) ↔
      (∃ network, Network.ofSelector? (selector file overrides) = some network) ∧
      (keyTexts file overrides).length = Cosigners.count ∧
      ∀ text ∈ keyTexts file overrides, ∃ key, ExtendedKey.parse text = .ok key := by
  simp only [resolve_eq_ok_iff, Cosigners.parse_eq_ok_iff, ← Cosigners.exists_map_eq_ok_iff]
  constructor
  · rintro ⟨settings, hnetwork, ⟨hlen, hkeys⟩, _⟩
    exact ⟨⟨_, hnetwork⟩, hlen, _, hkeys⟩
  · rintro ⟨⟨network, hnetwork⟩, hlen, keys, hkeys⟩
    exact ⟨⟨network, keys, concurrencyOf file⟩, hnetwork, ⟨hlen, hkeys⟩, rfl⟩

theorem value_loadFile (path : String) (state : FileState) (overrides : Overrides) :
    (loadFile path state overrides).value =
      match readFile path state with
      | .error error => .error error
      | .ok file => (resolve file overrides).mapError .invalid := by
  rw [loadFile]
  cases readFile path state <;> rfl

/-- Loaded settings are the resolution of one file. -/
theorem exists_resolve_of_load {files : FileSystem} {path : Option String} {overrides : Overrides}
    {settings : Settings} (h : (load files path overrides).value = .ok settings) :
    ∃ file, resolve file overrides = .ok settings := by
  have hfile (file : SettingsFile)
      (h : (resolve file overrides).mapError LoadError.invalid = .ok settings) :
      ∃ file, resolve file overrides = .ok settings := by
    cases hresolve : resolve file overrides with
    | error invalid =>
      rw [hresolve] at h
      cases h
    | ok settings' =>
      rw [hresolve] at h
      cases h
      exact ⟨file, hresolve⟩
  have hload (path : String) (state : FileState)
      (h : (loadFile path state overrides).value = .ok settings) :
      ∃ file, resolve file overrides = .ok settings := by
    rw [value_loadFile] at h
    cases hread : readFile path state with
    | error error =>
      rw [hread] at h
      cases h
    | ok file =>
      rw [hread] at h
      exact hfile file h
  cases path with
  | some path => exact hload path _ h
  | none =>
    rw [load] at h
    split at h
    · exact hload _ _ h
    · exact hfile SettingsFile.empty h

theorem length_keys_of_load {files : FileSystem} {path : Option String} {overrides : Overrides}
    {settings : Settings} (h : (load files path overrides).value = .ok settings) :
    settings.keys.length = Cosigners.count := by
  obtain ⟨file, hresolve⟩ := exists_resolve_of_load h
  exact Cosigners.length_of_parse (resolve_eq_ok_iff.1 hresolve).2.1

end Settings

end TwoOfThree
