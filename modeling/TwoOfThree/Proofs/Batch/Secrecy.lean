-- SUMMARY: The log of a batch or of a deposit depends on the passphrases only through what comes of them.
import TwoOfThree.Call
import TwoOfThree.Proofs.Batch.Result
import TwoOfThree.Proofs.Log.Emission

/-!
# What a log tells of passphrases

Two batches may be about different passphrases. If what comes of them is the same
at every position, then the same events are seen in the logs of both, whatever
their schedules: an event tells of a passphrase only the address or the message
of the error that it leads to. The same goes for single deposits, and nothing
else that is asked about a passphrase is reported at all.
-/

namespace TwoOfThree

/-! ## Single passphrases -/

/-- A call that is not about a deposit is not reported. -/
theorem Call.events_eq_nil {call : Call}
    (h : ∀ keys passphrase network, call ≠ .deposit keys passphrase network) :
    call.answer.events = [] := by
  cases call with
  | indices passphrase => rfl
  | path passphrase => rfl
  | pathFromBytes passphrase => rfl
  | publicKeys keys passphrase => rfl
  | deposit keys passphrase network => exact absurd rfl (h keys passphrase network)

namespace Deposit

variable {keys : List ExtendedKey} {network : Network}

/-- What is reported is decided by the address, or by there being none. -/
theorem events_derive (passphrase : String) :
    events (derive keys passphrase network) =
      match (deriveAddress keys passphrase network).toOption with
      | some address => [.depositDerived address network]
      | none => [] := by
  rw [deriveAddress]
  cases h : derive keys passphrase network with
  | error error => rfl
  | ok deposit =>
    obtain ⟨publicKeys, _, rfl⟩ := derive_eq_ok_iff.1 h
    rfl

theorem events_derive_congr {passphrase passphrase' : String}
    (h : (deriveAddress keys passphrase network).toOption
      = (deriveAddress keys passphrase' network).toOption) :
    events (derive keys passphrase network) = events (derive keys passphrase' network) := by
  rw [events_derive, events_derive, h]

end Deposit

/-! ## Batches -/

namespace Batch

/-- The entries hold the same address, or errors with the same message. -/
def Entry.SameOutcome (entry entry' : Entry) : Prop :=
  entry.result.mapError Error.message = entry'.result.mapError Error.message

section

variable {entry entry' : Entry} (h : entry.SameOutcome entry')
include h

theorem Entry.SameOutcome.isOk_eq : entry.result.isOk = entry'.result.isOk := by
  have hisOk (result : Except Error Address) :
      result.isOk = (result.mapError Error.message).isOk := by
    cases result <;> rfl
  rw [hisOk, hisOk, h]

/-- Of an event nothing is seen but the outcome and the position. -/
theorem Entry.SameOutcome.emission_eq (position : Nat) :
    (entry.event position).emission = (entry'.event position).emission := by
  unfold SameOutcome at h
  unfold Entry.event
  cases hresult : entry.result with
  | ok address =>
    cases hresult' : entry'.result with
    | ok address' =>
      rw [hresult, hresult'] at h
      cases h
      rfl
    | error error' =>
      rw [hresult, hresult'] at h
      cases h
  | error error =>
    cases hresult' : entry'.result with
    | ok address' =>
      rw [hresult, hresult'] at h
      cases h
    | error error' =>
      rw [hresult, hresult'] at h
      have hmessage : error.message = error'.message := Except.error.inj h
      simp only [LogEvent.emission, hmessage]

end

/-- What comes of the passphrases is the same at every position. -/
def SameOutcomes (keys : List ExtendedKey) (network : Network)
    (passphrases passphrases' : List Bytes) : Prop :=
  List.Forall₂ Entry.SameOutcome (passphrases.map (entry keys network))
    (passphrases'.map (entry keys network))

/-- Entries with the same outcomes are reported with the same events. -/
theorem emissions_eq {entries entries' : List Entry}
    (h : List.Forall₂ Entry.SameOutcome entries entries') (position : Nat) :
    (entries.mapIdx fun i entry => entry.event (position + i)).map LogEvent.emission
      = (entries'.mapIdx fun i entry => entry.event (position + i)).map LogEvent.emission := by
  induction h generalizing position with
  | nil => rfl
  | cons hentry _ ih =>
    have htail := ih (position + 1)
    simp only [Nat.add_right_comm position 1, Nat.add_assoc] at htail
    rw [List.mapIdx_cons, List.mapIdx_cons, List.map_cons, List.map_cons, hentry.emission_eq,
      htail]

/-- Whether there are entries does not depend on the passphrases. -/
theorem value_derive (keys : List ExtendedKey) (network : Network) (concurrency : Nat) :
    (∃ failure, ∀ passphrases,
      (derive keys passphrases network concurrency).value = .error failure) ∨
    ∀ passphrases, (derive keys passphrases network concurrency).value
      = .ok (passphrases.map (entry keys network)) := by
  by_cases hkeys : keys.length = Cosigners.count
  · by_cases hlimit : concurrency ≤ permitLimit
    · exact .inr fun passphrases => by rw [derive_eq hkeys hlimit]
    · refine .inl ⟨.tooManyPermits, fun passphrases => ?_⟩
      simp only [derive, Cosigners.checkCount_eq_ok hkeys, if_pos (Nat.lt_of_not_le hlimit)]
  · refine .inl ⟨.refused (.invalidInput (.keyCount keys.length)), fun passphrases => ?_⟩
    rw [derive, Cosigners.checkCount_eq_error hkeys]

/-- The log of a state. -/
def State.log : State → List LogEvent
  | .working work => work.log
  | .returned _ log => log
  | .abandoned log => log

section

variable {keys : List ExtendedKey} {network : Network} {passphrases passphrases' : List Bytes}
  (h : SameOutcomes keys network passphrases passphrases') (concurrency : Nat)
include h

theorem SameOutcomes.length_eq : passphrases.length = passphrases'.length := by
  have hlength := List.Forall₂.length_eq h
  rwa [List.length_map, List.length_map] at hlength

/-- One passphrase after another, the same events come in the same order. -/
theorem SameOutcomes.emissions_derive :
    (derive keys passphrases network concurrency).events.map LogEvent.emission
      = (derive keys passphrases' network concurrency).events.map LogEvent.emission := by
  by_cases hkeys : keys.length = Cosigners.count
  · by_cases hlimit : concurrency ≤ permitLimit
    · have hentries := emissions_eq h 0
      simp only [Nat.zero_add] at hentries
      rw [derive_eq hkeys hlimit, derive_eq hkeys hlimit, h.length_eq, List.map_cons,
        List.map_cons, hentries]
    · simp only [derive, Cosigners.checkCount_eq_ok hkeys, if_pos (Nat.lt_of_not_le hlimit)]
  · rw [derive, derive, Cosigners.checkCount_eq_error hkeys]

end

theorem Run.sameEvents_derive {keys : List ExtendedKey} {network : Network}
    {passphrases : List Bytes} {concurrency : Nat} {actions : List Action} {state : State}
    (hlimit : concurrency ≤ permitLimit)
    (hrun : Run keys network (start keys passphrases network concurrency) actions state)
    (hstuck : Stuck keys network state) :
    SameEvents state.log (derive keys passphrases network concurrency).events := by
  by_cases hkeys : keys.length = Cosigners.count
  · obtain ⟨log, rfl, hlog⟩ := (alwaysReturns_entries hkeys hlimit).complete hrun hstuck
    exact .of_perm hlog
  · rw [start, Cosigners.checkCount_eq_error hkeys] at hrun
    rw [hrun.of_returned.2, derive, Cosigners.checkCount_eq_error hkeys]
    exact .refl []

/-- The same events are seen when two batches with the same outcomes are complete. -/
theorem SameOutcomes.sameEvents {keys : List ExtendedKey} {network : Network}
    {passphrases passphrases' : List Bytes} {concurrency : Nat} {actions actions' : List Action}
    {state state' : State} (h : SameOutcomes keys network passphrases passphrases')
    (hlimit : concurrency ≤ permitLimit)
    (hrun : Run keys network (start keys passphrases network concurrency) actions state)
    (hstuck : Stuck keys network state)
    (hrun' : Run keys network (start keys passphrases' network concurrency) actions' state')
    (hstuck' : Stuck keys network state') : SameEvents state.log state'.log := by
  have hderive : SameEvents (derive keys passphrases network concurrency).events
      (derive keys passphrases' network concurrency).events := by
    rw [SameEvents, h.emissions_derive]
  exact ((hrun.sameEvents_derive hlimit hstuck).trans hderive).trans
    (hrun'.sameEvents_derive hlimit hstuck').symm

end Batch

end TwoOfThree
