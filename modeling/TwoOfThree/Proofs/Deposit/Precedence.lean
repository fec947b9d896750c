-- SUMMARY: Which of several errors wins when the keys and the network are given as text.
import TwoOfThree.Proofs.Deposit.Basic

/-!
# Precedence of errors

A derivation from texts passes four checks: the number of the keys, the network,
the reading of every key, and the walk from every key. The first check that fails
decides, whatever the later ones would say. No path is walked before all keys are
read, so a key that cannot be read is reported even if the walk from a key in
front of it would fail.
-/

namespace TwoOfThree.Deposit

/-! ## The cases -/

/-- The checks of a derivation from texts, in their order, and its success. -/
inductive Stage where
  | count
  | network
  | reading
  | walking
  | success
deriving DecidableEq, Repr

/-- The cases of a derivation from texts: what decides, and the result. -/
inductive Decides (texts : List String) (passphrase selector : String) :
    Stage → Except Error String → Prop where
  | count (wrong : texts.length ≠ 3) :
      Decides texts passphrase selector .count (.error (.invalidInput (.keyCount texts.length)))
  | network (three : texts.length = 3) (not_main : selector ≠ "main")
      (not_test : selector ≠ "test") :
      Decides texts passphrase selector .network (.error (.unsupportedNetwork selector))
  | reading {network : Network} {position : Nat} {cause : ExtendedKey.Error}
      (three : texts.length = 3) (supported : selector = network.selector)
      (unreadable : Cosigners.FirstFailure ExtendedKey.parse texts position cause) :
      Decides texts passphrase selector .reading (.error (.keyDerivation position cause))
  | walking {network : Network} {keys : List ExtendedKey} {position : Nat}
      {cause : ExtendedKey.Error} (three : texts.length = 3)
      (supported : selector = network.selector)
      (read : texts.map ExtendedKey.parse = keys.map .ok)
      (unwalkable : Cosigners.FirstFailure
        (Cosigners.publicKeyAt (Path.ofPassphrase passphrase)) keys position cause) :
      Decides texts passphrase selector .walking (.error (.keyDerivation position cause))
  | success {network : Network} {keys : List ExtendedKey} {address : Address}
      (three : texts.length = 3) (supported : selector = network.selector)
      (read : texts.map ExtendedKey.parse = keys.map .ok)
      (derived : deriveAddress keys passphrase network = .ok address) :
      Decides texts passphrase selector .success (.ok address.render)

/-- The first check that fails. -/
def stageOf (texts : List String) (passphrase selector : String) : Stage :=
  if texts.length ≠ Cosigners.count then .count
  else if Network.ofSelector? selector = none then .network
  else
    match Cosigners.parse texts with
    | .error _ => .reading
    | .ok keys =>
      match Cosigners.publicKeysAt keys (Path.ofPassphrase passphrase) with
      | .error _ => .walking
      | .ok _ => .success

/-! ## One check after another -/

section

variable {texts : List String} {passphrase selector : String} {network : Network}
  {keys : List ExtendedKey}

theorem deriveAddressText_of_length (h : texts.length ≠ Cosigners.count) :
    deriveAddressText texts passphrase selector
      = .error (.invalidInput (.keyCount texts.length)) := by
  rw [deriveAddressText, readTexts, Cosigners.checkCount_eq_error h]

variable (hcount : texts.length = Cosigners.count)
include hcount

theorem deriveAddressText_of_unsupported (h : Network.ofSelector? selector = none) :
    deriveAddressText texts passphrase selector = .error (.unsupportedNetwork selector) := by
  rw [deriveAddressText, readTexts, Cosigners.checkCount_eq_ok hcount, h]

variable (hnetwork : Network.ofSelector? selector = some network)
include hnetwork

theorem deriveAddressText_of_unreadable {error : Error}
    (h : Cosigners.parse texts = .error error) :
    deriveAddressText texts passphrase selector = .error error := by
  simp only [deriveAddressText, readTexts, Cosigners.checkCount_eq_ok hcount, hnetwork, h]
  rfl

theorem deriveAddressText_of_read (h : Cosigners.parse texts = .ok keys) :
    deriveAddressText texts passphrase selector
      = (deriveAddress keys passphrase network).map Address.render := by
  simp only [deriveAddressText, readTexts, Cosigners.checkCount_eq_ok hcount, hnetwork, h]
  rfl

end

/-! ## The check that decides -/

section

variable {texts : List String} {passphrase selector : String} {stage : Stage}
  {result : Except Error String}

theorem Decides.result_eq (h : Decides texts passphrase selector stage result) :
    result = deriveAddressText texts passphrase selector := by
  cases h with
  | count wrong => rw [deriveAddressText_of_length wrong]
  | network three not_main not_test =>
    have hnetwork := Network.ofSelector?_eq_none_iff.2 ⟨not_main, not_test⟩
    rw [deriveAddressText_of_unsupported three hnetwork]
  | reading three supported unreadable =>
    have hnetwork := Network.ofSelector?_eq_some_iff.2 supported
    have hparse := Cosigners.parse_of_firstFailure three unreadable
    rw [deriveAddressText_of_unreadable three hnetwork hparse]
  | walking three supported read unwalkable =>
    have hnetwork := Network.ofSelector?_eq_some_iff.2 supported
    have hparse := Cosigners.parse_eq_ok_iff.2 ⟨three, read⟩
    have hwalk := Cosigners.publicKeysAt_of_firstFailure (Cosigners.length_of_parse hparse)
      unwalkable
    rw [deriveAddressText_of_read three hnetwork hparse, deriveAddress_eq_error_iff.2 hwalk]
    rfl
  | success three supported read derived =>
    have hnetwork := Network.ofSelector?_eq_some_iff.2 supported
    have hparse := Cosigners.parse_eq_ok_iff.2 ⟨three, read⟩
    rw [deriveAddressText_of_read three hnetwork hparse, derived]
    rfl

theorem Decides.stage_eq (h : Decides texts passphrase selector stage result) :
    stage = stageOf texts passphrase selector := by
  have hthree (three : texts.length = 3) : ¬ texts.length ≠ Cosigners.count :=
    fun hne => hne three
  have hsome {network : Network} (supported : selector = network.selector) :
      ¬ Network.ofSelector? selector = none := by
    rw [Network.ofSelector?_eq_some_iff.2 supported]
    exact Option.some_ne_none network
  unfold stageOf
  cases h with
  | count wrong => exact (if_pos wrong).symm
  | network three not_main not_test =>
    rw [if_neg (hthree three), if_pos (Network.ofSelector?_eq_none_iff.2 ⟨not_main, not_test⟩)]
  | reading three supported unreadable =>
    have hparse := Cosigners.parse_of_firstFailure three unreadable
    rw [if_neg (hthree three), if_neg (hsome supported), hparse]
  | walking three supported read unwalkable =>
    have hparse := Cosigners.parse_eq_ok_iff.2 ⟨three, read⟩
    have hwalk := Cosigners.publicKeysAt_of_firstFailure (Cosigners.length_of_parse hparse)
      unwalkable
    rw [if_neg (hthree three), if_neg (hsome supported), hparse]
    simp only [hwalk]
  | success three supported read derived =>
    have hparse := Cosigners.parse_eq_ok_iff.2 ⟨three, read⟩
    obtain ⟨publicKeys, hwalk, _⟩ := deriveAddress_eq_ok_iff.1 derived
    rw [if_neg (hthree three), if_neg (hsome supported), hparse]
    simp only [hwalk]

/-- Some check decides, or there is an address. -/
theorem exists_decides (texts : List String) (passphrase selector : String) :
    ∃ stage result, Decides texts passphrase selector stage result := by
  by_cases hcount : texts.length = Cosigners.count
  · cases hnetwork : Network.ofSelector? selector with
    | none =>
      obtain ⟨not_main, not_test⟩ := Network.ofSelector?_eq_none_iff.1 hnetwork
      exact ⟨_, _, .network hcount not_main not_test⟩
    | some network =>
      have hsupported := Network.ofSelector?_eq_some_iff.1 hnetwork
      cases hparse : Cosigners.parse texts with
      | error error =>
        obtain ⟨position, cause, _, hfirst⟩ := Cosigners.firstFailure_of_parse hcount hparse
        exact ⟨_, _, .reading hcount hsupported hfirst⟩
      | ok keys =>
        have hread := (Cosigners.parse_eq_ok_iff.1 hparse).2
        cases hwalk : Cosigners.publicKeysAt keys (Path.ofPassphrase passphrase) with
        | error error =>
          obtain ⟨position, cause, _, hfirst⟩ :=
            Cosigners.firstFailure_of_publicKeysAt (Cosigners.length_of_parse hparse) hwalk
          exact ⟨_, _, .walking hcount hsupported hread hfirst⟩
        | ok publicKeys =>
          have hderive : deriveAddress keys passphrase network = _ :=
            deriveAddress_eq_ok_iff.2 ⟨publicKeys, hwalk, rfl⟩
          exact ⟨_, _, .success hcount hsupported hread hderive⟩
  · exact ⟨_, _, .count hcount⟩

/-- No case is about an entry of a batch. -/
theorem Decides.error_kind {error : Error}
    (h : Decides texts passphrase selector stage (.error error)) :
    (∀ fault, error ≠ .invalidInput (.passphraseEncoding fault)) ∧
      ∀ reason, error ≠ .worker reason := by
  cases h with
  | count _ => exact ⟨nofun, nofun⟩
  | network _ _ _ => exact ⟨nofun, nofun⟩
  | reading _ _ _ => exact ⟨nofun, nofun⟩
  | walking _ _ _ _ => exact ⟨nofun, nofun⟩

end

/-- A derivation from texts falls in exactly one of the cases, and its result is the one of this
case. The errors of batch entries are not among them. -/
theorem deriveAddressText_decided (texts : List String) (passphrase selector : String) :
    (∃ stage, ∀ stage' result, Decides texts passphrase selector stage' result ↔
      stage' = stage ∧ result = deriveAddressText texts passphrase selector) ∧
    ∀ error, deriveAddressText texts passphrase selector = .error error →
      (∀ fault, error ≠ .invalidInput (.passphraseEncoding fault)) ∧
        ∀ reason, error ≠ .worker reason := by
  obtain ⟨stage, result, hdecides⟩ := exists_decides texts passphrase selector
  have hresult := hdecides.result_eq
  refine ⟨⟨stage, ?_⟩, ?_⟩
  · intro stage' result'
    constructor
    · intro hdecides'
      exact ⟨hdecides'.stage_eq.trans hdecides.stage_eq.symm, hdecides'.result_eq⟩
    · rintro ⟨rfl, rfl⟩
      rw [← hresult]
      exact hdecides
  · intro error herror
    rw [herror] at hresult
    subst hresult
    exact hdecides.error_kind

example (passphrase : String) : deriveAddressText ["", ""] passphrase "regtest"
    = .error (.invalidInput (.keyCount 2)) := rfl

end TwoOfThree.Deposit
