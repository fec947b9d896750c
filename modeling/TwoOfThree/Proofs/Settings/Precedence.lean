-- SUMMARY: Which settings are in effect, what they amount to, and that settings behind an override do not matter.
import TwoOfThree.Proofs.Deposit.KeyOrder
import TwoOfThree.Proofs.Settings.Accepted

/-!
# Settings in effect

A setting is the one among the overrides, or else the one in the settings file, or
else its default. Lists of keys are taken whole from one of these places and never
mixed. The network is judged first, whatever the keys are, and the concurrency is
not judged at all. So a settings file matters only where the overrides leave
something open, and behind an override it may say anything, or nothing.
-/

namespace TwoOfThree

/-- The keys among the overrides; no keys are as good as keys that are not given. -/
def Overrides.keys? (overrides : Overrides) : Option (List String) :=
  if overrides.keys = [] then none else some overrides.keys

/-- The files say the same about all that the overrides leave open, except for the concurrency. -/
structure SettingsFile.AgreeBeside (overrides : Overrides) (file file' : SettingsFile) : Prop where
  network : overrides.network = none → file.network = file'.network
  keys : overrides.keys = [] → file.keys = file'.keys

namespace Settings

/-! ## Values in effect -/

/-- The value in effect of a setting that may be overridden and may stand in the file. -/
inductive InEffect (overriding filed : Option α) (fallback : α) : α → Prop where
  | overriding {value} (given : overriding = some value) :
      InEffect overriding filed fallback value
  | filed {value} (not_overridden : overriding = none) (given : filed = some value) :
      InEffect overriding filed fallback value
  | fallback (not_overridden : overriding = none) (absent : filed = none) :
      InEffect overriding filed fallback fallback

theorem inEffect_iff {overriding filed : Option α} {fallback value : α} :
    InEffect overriding filed fallback value ↔
      overriding.getD (filed.getD fallback) = value := by
  constructor
  · intro h
    cases h with
    | overriding given => rw [given, Option.getD_some]
    | filed not_overridden given => rw [not_overridden, given, Option.getD_none, Option.getD_some]
    | fallback not_overridden absent => rw [not_overridden, absent, Option.getD_none, Option.getD_none]
  · rintro rfl
    cases overriding with
    | some value => exact .overriding rfl
    | none =>
      cases filed with
      | some value => exact .filed rfl rfl
      | none => exact .fallback rfl rfl

variable {file file' : SettingsFile} {overrides : Overrides}

theorem selector_eq_iff {text : String} :
    selector file overrides = text ↔ InEffect overrides.network file.network "main" text :=
  inEffect_iff.symm

theorem keyTexts_eq_iff {texts : List String} :
    keyTexts file overrides = texts ↔ InEffect overrides.keys? file.keys [] texts := by
  have hkeys : keyTexts file overrides = overrides.keys?.getD (file.keys.getD []) := by
    rw [keyTexts, Overrides.keys?]
    cases overrides.keys <;> rfl
  rw [inEffect_iff, hkeys]

/-- Nothing takes precedence over the concurrency in the file. -/
theorem concurrencyOf_eq_iff {n : Nat} :
    concurrencyOf file = n ↔ InEffect none (file.batch.bind BatchSection.concurrency) 8 n := by
  rw [inEffect_iff, Option.getD_none]
  rfl

/-! ## The result -/

/-- What the settings in effect amount to. A network that is not supported is reported whatever the
keys are, and the concurrency is taken as it is. -/
inductive ResolvesTo (file : SettingsFile) (overrides : Overrides) :
    Except Invalid Settings → Prop where
  | unsupported {selector : String}
      (selected : InEffect overrides.network file.network "main" selector)
      (not_main : selector ≠ "main") (not_test : selector ≠ "test") :
      ResolvesTo file overrides (.error (.network (.unsupportedNetwork selector)))
  | refused {network : Network} {texts : List String} {error : Error}
      (selected : InEffect overrides.network file.network "main" network.selector)
      (listed : InEffect overrides.keys? file.keys [] texts)
      (unreadable : Cosigners.parse texts = .error error) :
      ResolvesTo file overrides (.error (.cosigners error))
  | accepted {network : Network} {texts : List String} {keys : List ExtendedKey}
      {concurrency : Nat}
      (selected : InEffect overrides.network file.network "main" network.selector)
      (listed : InEffect overrides.keys? file.keys [] texts)
      (three : texts.length = 3) (read : texts.map ExtendedKey.parse = keys.map .ok)
      (bounded : InEffect none (file.batch.bind BatchSection.concurrency) 8 concurrency) :
      ResolvesTo file overrides (.ok ⟨network, keys, concurrency⟩)

variable (file overrides) in
theorem resolvesTo_resolve : ResolvesTo file overrides (resolve file overrides) := by
  have hselected := selector_eq_iff.1 (Eq.refl (selector file overrides))
  have hlisted := keyTexts_eq_iff.1 (Eq.refl (keyTexts file overrides))
  unfold resolve
  cases hnetwork : Network.ofSelector? (selector file overrides) with
  | none =>
    obtain ⟨not_main, not_test⟩ := Network.ofSelector?_eq_none_iff.1 hnetwork
    exact .unsupported hselected not_main not_test
  | some network =>
    rw [Network.ofSelector?_eq_some_iff.1 hnetwork] at hselected
    dsimp only
    cases hparse : Cosigners.parse (keyTexts file overrides) with
    | error error => exact .refused hselected hlisted hparse
    | ok keys =>
      obtain ⟨three, read⟩ := Cosigners.parse_eq_ok_iff.1 hparse
      exact .accepted hselected hlisted three read (concurrencyOf_eq_iff.1 rfl)

theorem ResolvesTo.resolve_eq {result : Except Invalid Settings}
    (h : ResolvesTo file overrides result) : resolve file overrides = result := by
  cases h with
  | unsupported selected not_main not_test =>
    have hnetwork := Network.ofSelector?_eq_none_iff.2 ⟨not_main, not_test⟩
    simp only [resolve, selector_eq_iff.2 selected, hnetwork]
  | refused selected listed unreadable =>
    simp only [resolve, selector_eq_iff.2 selected, keyTexts_eq_iff.2 listed,
      Network.ofSelector?_selector, unreadable]
  | accepted selected listed three read bounded =>
    have hparse := Cosigners.parse_eq_ok_iff.2 ⟨three, read⟩
    simp only [resolve, selector_eq_iff.2 selected, keyTexts_eq_iff.2 listed,
      Network.ofSelector?_selector, hparse, concurrencyOf_eq_iff.2 bounded]

/-! ## Settings behind an override -/

section

variable (h : SettingsFile.AgreeBeside overrides file file')
include h

theorem selector_congr : selector file overrides = selector file' overrides := by
  unfold selector
  cases hnetwork : overrides.network with
  | none => rw [h.network hnetwork]
  | some network => rfl

theorem keyTexts_congr : keyTexts file overrides = keyTexts file' overrides := by
  unfold keyTexts
  cases hkeys : overrides.keys with
  | nil => rw [h.keys hkeys]
  | cons key rest => rfl

theorem resolve_congr :
    resolve file' overrides = (resolve file overrides).map fun settings =>
      { settings with concurrency := concurrencyOf file' } := by
  unfold resolve
  rw [selector_congr h, keyTexts_congr h]
  cases Network.ofSelector? (selector file' overrides) with
  | none => rfl
  | some network => cases Cosigners.parse (keyTexts file' overrides) <;> rfl

theorem resolveLogged_congr (hbatch : file.batch = file'.batch) :
    resolveLogged file overrides = resolveLogged file' overrides := by
  have hresolve : resolve file overrides = resolve file' overrides := by
    have hconcurrency : concurrencyOf file = concurrencyOf file' := by
      rw [concurrencyOf, concurrencyOf, hbatch]
    unfold resolve
    rw [selector_congr h, keyTexts_congr h, hconcurrency]
  rw [resolveLogged, resolveLogged, hresolve]

end

/-- The settings in effect decide what is resolved. Whatever two files say behind the overrides, the
same is resolved and reported from both, and a difference in the concurrency shows only in the
concurrency of accepted settings. -/
theorem resolve_in_effect (file : SettingsFile) (overrides : Overrides) :
    (∀ result, resolve file overrides = result ↔ ResolvesTo file overrides result) ∧
    ∀ file', SettingsFile.AgreeBeside overrides file file' →
      (file.batch = file'.batch → resolveLogged file overrides = resolveLogged file' overrides) ∧
      resolve file' overrides = (resolve file overrides).map fun settings =>
        { settings with concurrency := concurrencyOf file' } := by
  constructor
  · intro result
    constructor
    · rintro rfl
      exact resolvesTo_resolve file overrides
    · exact ResolvesTo.resolve_eq
  · intro file' h
    exact ⟨resolveLogged_congr h, resolve_congr h⟩

/-- Behind a network and keys that are given, a file with a network that is not supported and with
keys that are none does not matter. -/
theorem resolve_in_effect_malformed :
    let texts := List.replicate 3 Deposit.generatorText
    let overrides : Overrides := ⟨some "test", texts⟩
    let keys := List.replicate 3 (ExtendedKey.onGenerator 0 0)
    let malformed : SettingsFile := ⟨some "signet", some ["", ""], some ⟨some 5⟩⟩
    resolve malformed overrides = .ok ⟨.test, keys, 5⟩ ∧
      resolveLogged malformed overrides
        = resolveLogged ⟨none, none, some ⟨some 5⟩⟩ overrides ∧
      resolve SettingsFile.empty overrides = .ok ⟨.test, keys, 8⟩ := by
  intro texts overrides keys malformed
  obtain ⟨hresult, hcongr⟩ := resolve_in_effect malformed overrides
  have hread : texts.map ExtendedKey.parse = keys.map .ok := by
    simp only [texts, keys, List.map_replicate, Deposit.parse_generatorText]
  have haccepted : resolve malformed overrides = .ok ⟨.test, keys, 5⟩ :=
    (hresult _).2 (.accepted (.overriding rfl) (.overriding rfl) rfl hread (.filed rfl rfl))
  refine ⟨haccepted, (hcongr _ ⟨nofun, nofun⟩).1 rfl, ?_⟩
  rw [(hcongr SettingsFile.empty ⟨nofun, nofun⟩).2, haccepted]
  rfl

end Settings

end TwoOfThree
