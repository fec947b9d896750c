-- SUMMARY: Deriving an address from texts and printing the address of resolved settings come to the same.
import TwoOfThree.Proofs.CommandLine.Console
import TwoOfThree.Proofs.Deposit.KeyOrder
import TwoOfThree.Proofs.Deposit.Precedence
import TwoOfThree.Proofs.Report.Reading

/-!
# Texts and settings

The network and the keys can be given as texts to a derivation, or they can stand in a
settings file and in the overrides, from which the settings are resolved first. Both
ways read the same texts, so they come to the same address or fail with the same
error. Only where the number of the keys and the network are both wrong do they
differ: a derivation from texts counts the keys first, while the network is what is
resolved first.
-/

namespace TwoOfThree

namespace Settings

/-- The selector and the texts of the keys stand in the settings file or in the overrides, each of
them in one of the two. -/
structure Gives (file : SettingsFile) (overrides : Overrides) (selector : String)
    (texts : List String) : Prop where
  selector : overrides.network = some selector ∧ file.network = none ∨
    overrides.network = none ∧ file.network = some selector
  keys : overrides.keys = texts ∧ file.keys = none ∨
    overrides.keys = [] ∧ file.keys = some texts

/-- Resolve the settings and derive the deposit of their keys. -/
def deriveResolved (file : SettingsFile) (overrides : Overrides) (passphrase : String) :
    Except Error Deposit :=
  match resolve file overrides with
  | .error invalid => .error invalid.error
  | .ok settings => Deposit.derive settings.keys passphrase settings.network

variable {file : SettingsFile} {overrides : Overrides} {selector : String} {texts : List String}

/-! ## The texts in effect -/

theorem Gives.selector_eq (h : Gives file overrides selector texts) :
    Settings.selector file overrides = selector := by
  rw [Settings.selector]
  rcases h.selector with ⟨hoverrides, _⟩ | ⟨hoverrides, hfile⟩
  · rw [hoverrides, Option.getD_some]
  · rw [hoverrides, hfile, Option.getD_none, Option.getD_some]

/-- No keys among the overrides are as good as keys that are not given. -/
theorem Gives.keyTexts_eq (h : Gives file overrides selector texts) :
    keyTexts file overrides = texts := by
  rw [keyTexts]
  rcases h.keys with ⟨hoverrides, hfile⟩ | ⟨hoverrides, hfile⟩
  · rw [hoverrides, hfile]
    cases texts <;> rfl
  · rw [hoverrides, hfile]
    rfl

/-! ## One derivation after the other -/

section

variable (h : Gives file overrides selector texts)
include h

theorem Gives.deriveResolved_of_unsupported (hnetwork : Network.ofSelector? selector = none)
    (passphrase : String) :
    deriveResolved file overrides passphrase = .error (.unsupportedNetwork selector) := by
  rw [deriveResolved, resolve, h.selector_eq, hnetwork]
  rfl

variable {network : Network} (hnetwork : Network.ofSelector? selector = some network)
include hnetwork

theorem Gives.deriveResolved_of_unreadable {error : Error}
    (hparse : Cosigners.parse texts = .error error) (passphrase : String) :
    deriveResolved file overrides passphrase = .error error := by
  simp only [deriveResolved, resolve, h.selector_eq, h.keyTexts_eq, hnetwork, hparse]
  rfl

theorem Gives.deriveResolved_of_read {keys : List ExtendedKey}
    (hparse : Cosigners.parse texts = .ok keys) (passphrase : String) :
    deriveResolved file overrides passphrase = Deposit.derive keys passphrase network := by
  simp only [deriveResolved, resolve, h.selector_eq, h.keyTexts_eq, hnetwork, hparse]

end

/-- Unless both the number of the keys and the network are wrong, the two derivations agree. -/
theorem Gives.deriveAddressText_eq (h : Gives file overrides selector texts)
    (passphrase : String)
    (hone : ¬ (texts.length ≠ Cosigners.count ∧ Network.ofSelector? selector = none)) :
    Deposit.deriveAddressText texts passphrase selector
      = (deriveResolved file overrides passphrase).map fun deposit => deposit.address.render := by
  cases hnetwork : Network.ofSelector? selector with
  | none =>
    have hcount : texts.length = Cosigners.count :=
      Decidable.not_not.1 fun hne => hone ⟨hne, hnetwork⟩
    rw [h.deriveResolved_of_unsupported hnetwork,
      Deposit.deriveAddressText_of_unsupported hcount hnetwork]
    rfl
  | some network =>
    by_cases hcount : texts.length = Cosigners.count
    · cases hparse : Cosigners.parse texts with
      | error error =>
        rw [h.deriveResolved_of_unreadable hnetwork hparse,
          Deposit.deriveAddressText_of_unreadable hcount hnetwork hparse]
        rfl
      | ok keys =>
        rw [h.deriveResolved_of_read hnetwork hparse,
          Deposit.deriveAddressText_of_read hcount hnetwork hparse, Deposit.deriveAddress]
        cases Deposit.derive keys passphrase network <;> rfl
    · have hparse : Cosigners.parse texts = .error (.invalidInput (.keyCount texts.length)) := by
        rw [Cosigners.parse, Cosigners.checkCount_eq_error hcount]
        rfl
      rw [h.deriveResolved_of_unreadable hnetwork hparse,
        Deposit.deriveAddressText_of_length hcount]
      rfl

end Settings

/-! ## Printing -/

namespace CommandLine

/-- What is printed with some settings is the address that is derived with them. -/
theorem runAddress_prints_iff {settings : Settings} {passphrase address : String} :
    (runAddress settings passphrase false).value = .printed [address] ↔
      ∃ deposit, Deposit.derive settings.keys passphrase settings.network = .ok deposit ∧
        deposit.address.render = address := by
  rw [value_runAddress]
  cases Deposit.derive settings.keys passphrase settings.network with
  | error error =>
    refine ⟨fun h => ?_, ?_⟩
    · cases congrArg Outcome.ending h
    · rintro ⟨_, h, _⟩
      cases h
  | ok deposit =>
    constructor
    · intro h
      exact ⟨deposit, rfl, Report.text_singleton_inj (congrArg Outcome.output h)⟩
    · rintro ⟨_, h, rfl⟩
      cases h
      rfl

theorem deriveResolved_prints_iff {file : SettingsFile} {overrides : Overrides}
    {passphrase address : String} :
    (Settings.deriveResolved file overrides passphrase).map
        (fun deposit => deposit.address.render) = .ok address ↔
      ∃ settings, Settings.resolve file overrides = .ok settings ∧
        (runAddress settings passphrase false).value = .printed [address] := by
  rw [Settings.deriveResolved]
  cases Settings.resolve file overrides with
  | error invalid =>
    refine ⟨nofun, ?_⟩
    rintro ⟨_, h, _⟩
    cases h
  | ok settings =>
    simp only [Except.ok.injEq, exists_eq_left', runAddress_prints_iff]
    cases Deposit.derive settings.keys passphrase settings.network <;> simp [Except.map]

/-- Texts from which an address is derived are those that settings are resolved from and print this
address. Where there is none, both ways fail, and with one error unless the number of the keys and
the network are both wrong. -/
theorem texts_and_settings_agree {file : SettingsFile} {overrides : Overrides}
    {selector : String} {texts : List String}
    (h : Settings.Gives file overrides selector texts) (passphrase : String) :
    (∀ address, Deposit.deriveAddressText texts passphrase selector = .ok address ↔
      ∃ settings, Settings.resolve file overrides = .ok settings ∧
        (runAddress settings passphrase false).value = .printed [address]) ∧
    ∀ error, Deposit.deriveAddressText texts passphrase selector = .error error →
      ∃ error', Settings.deriveResolved file overrides passphrase = .error error' ∧
        if texts.length ≠ 3 ∧ selector ≠ "main" ∧ selector ≠ "test" then
          error = .invalidInput (.keyCount texts.length) ∧ error' = .unsupportedNetwork selector
        else error' = error := by
  by_cases hboth : texts.length ≠ 3 ∧ selector ≠ "main" ∧ selector ≠ "test"
  · have hnetwork := Network.ofSelector?_eq_none_iff.2 hboth.2
    have htexts : Deposit.deriveAddressText texts passphrase selector = _ :=
      Deposit.deriveAddressText_of_length hboth.1
    have hresolved := h.deriveResolved_of_unsupported hnetwork passphrase
    constructor
    · intro address
      rw [← deriveResolved_prints_iff, htexts, hresolved]
      exact ⟨nofun, nofun⟩
    · intro error herror
      rw [htexts] at herror
      exact ⟨_, hresolved, if_pos hboth ▸ ⟨(Except.error.inj herror).symm, rfl⟩⟩
  · have heq := h.deriveAddressText_eq passphrase fun hone =>
      hboth ⟨hone.1, Network.ofSelector?_eq_none_iff.1 hone.2⟩
    constructor
    · intro address
      rw [heq, deriveResolved_prints_iff]
    · intro error herror
      rw [heq] at herror
      cases hresolved : Settings.deriveResolved file overrides passphrase with
      | error error' =>
        rw [hresolved] at herror
        cases herror
        exact ⟨_, rfl, if_neg hboth ▸ rfl⟩
      | ok deposit =>
        rw [hresolved] at herror
        cases herror

/-- One cosigner three times among the overrides, with the network in the file, and no cosigner at
all with a network that is not supported. -/
theorem texts_and_settings_agree_onGenerator :
    let texts := [Deposit.generatorText, Deposit.generatorText, Deposit.generatorText]
    (∃ address settings, Deposit.deriveAddressText texts "" "main" = .ok address ∧
      Settings.resolve ⟨some "main", none, none⟩ ⟨none, texts⟩ = .ok settings ∧
      (runAddress settings "" false).value = .printed [address]) ∧
    Deposit.deriveAddressText [] "" "regtest" = .error (.invalidInput (.keyCount 0)) ∧
    Settings.deriveResolved ⟨none, some [], none⟩ ⟨some "regtest", []⟩ ""
      = .error (.unsupportedNetwork "regtest") := by
  intro texts
  constructor
  · have hgives : Settings.Gives ⟨some "main", none, none⟩ ⟨none, texts⟩ "main" texts :=
      ⟨.inr ⟨rfl, rfl⟩, .inl ⟨rfl, rfl⟩⟩
    have hparse : Cosigners.parse texts = .ok (List.replicate 3 (ExtendedKey.onGenerator 0 0)) := by
      refine Cosigners.parse_eq_ok_iff.2 ⟨rfl, ?_⟩
      simp only [texts, List.map_cons, List.map_nil, Deposit.parse_generatorText]
      rfl
    obtain ⟨deposit, hderive⟩ := Deposit.derive_onGenerator
    have htext : Deposit.deriveAddressText texts "" "main" = .ok deposit.address.render := by
      have hnetwork : Network.ofSelector? "main" = some .main := rfl
      rw [Deposit.deriveAddressText_of_read rfl hnetwork hparse]
      exact congrArg (Except.map Address.render)
        (congrArg (Except.map Deposit.address) hderive)
    obtain ⟨settings, hresolve, hprinted⟩ :=
      ((texts_and_settings_agree hgives "").1 _).1 htext
    exact ⟨_, settings, htext, hresolve, hprinted⟩
  · have hgives : Settings.Gives ⟨none, some [], none⟩ ⟨some "regtest", []⟩ "regtest" [] :=
      ⟨.inl ⟨rfl, rfl⟩, .inr ⟨rfl, rfl⟩⟩
    have htext : Deposit.deriveAddressText [] "" "regtest"
        = .error (.invalidInput (.keyCount 0)) :=
      Deposit.deriveAddressText_of_length (by decide)
    obtain ⟨error, hresolved, herror⟩ := (texts_and_settings_agree hgives "").2 _ htext
    rw [if_pos (by decide)] at herror
    exact ⟨htext, herror.2 ▸ hresolved⟩

end CommandLine

end TwoOfThree
