-- SUMMARY: What the log of a batch tells of its entries, whatever the order of its events.
import Mathlib
import TwoOfThree.Proofs.Batch.Result
import TwoOfThree.Proofs.Log.Emission

/-!
# What the log of a batch tells

An address is reported by the task that derives it, and an error by the dispatcher
when it joins the task, so the events of a batch can stand in many orders. What is
read off them here does not depend on it: how many passphrases there are, the error
that is told for a position, and all the addresses taken together.
-/

namespace TwoOfThree

/-! ## Reading events -/

namespace LogEvent

/-- The error that the event warns of, if it is about the entry at this position. -/
def failureAt? (position : Nat) : LogEvent → Option String
  | .entryFailed failed error => if failed = position then some error.message else none
  | _ => none

/-- The address that the event tells to be derived. -/
def derived? : LogEvent → Option String
  | .depositDerived address _ => some address.render
  | _ => none

/-- How many passphrases there are, if the event tells that a batch begins. -/
def total? : LogEvent → Option Nat
  | .batchAnnounced total _ => some total
  | .batchStarted total _ _ => some total
  | _ => none

/-- How many passphrases failed, if the event tells that some did. -/
def failures? : LogEvent → Option Int
  | .entriesFailed count => some count.toInt
  | _ => none

section

variable {event : LogEvent}

/-- What is read off an event is what whoever sees the log can read there. -/
theorem failureAt?_eq_some_iff {position : Nat} {error : String} :
    event.failureAt? position = some error ↔
      event.emission = ⟨"WARN", "Batch derivation failed for entry",
        [("error", error), ("position", toString position)]⟩ := by
  cases event with
  | entryFailed failed cause =>
    simp only [failureAt?, emission, Option.ite_none_right_eq_some, Option.some.injEq,
      Emission.mk.injEq, List.cons.injEq, Prod.mk.injEq, Nat.toString_eq_repr, Nat.repr_inj,
      true_and, and_comm]
  | _ => simp [failureAt?, emission]

theorem derived?_eq_some_iff {address : String} :
    event.derived? = some address ↔ ∃ network, event.emission =
      ⟨"DEBUG", "Derived multisig address", [("address", address), ("network", network)]⟩ := by
  cases event <;> simp [derived?, emission]

theorem failures?_eq_some_iff {count : Int} :
    event.failures? = some count ↔
      event.emission = ⟨"WARN", s!"{count} passphrases failed", []⟩ := by
  cases event with
  | entriesFailed told =>
    have htold : toString told = toString told.toInt := rfl
    simp only [failures?, emission, htold, Option.some.injEq, Emission.mk.injEq, true_and,
      and_true, String.append_left_inj, Int.toString_eq_repr, Int.repr_inj]
  | _ => simp [failures?, emission]

end

end LogEvent

namespace Batch

/-- The message of the error of an entry. -/
def Entry.error? (entry : Entry) : Option String :=
  match entry.result with
  | .ok _ => none
  | .error error => some error.message

/-- The text of the address of an entry. -/
def Entry.address? (entry : Entry) : Option String :=
  match entry.result with
  | .ok address => some address.render
  | .error _ => none

/-! ## The event of an entry -/

section

variable (entry : Entry) (position : Nat)

theorem failureAt?_event (asked : Nat) :
    (entry.event position).failureAt? asked = if position = asked then entry.error? else none := by
  unfold Entry.event Entry.error?
  cases entry.result with
  | ok address => exact (ite_self none).symm
  | error error => rfl

theorem derived?_event : (entry.event position).derived? = entry.address? := by
  unfold Entry.event Entry.address?
  cases entry.result <;> rfl

theorem total?_event : (entry.event position).total? = none := by
  unfold Entry.event
  cases entry.result <;> rfl

theorem failures?_event : (entry.event position).failures? = none := by
  unfold Entry.event
  cases entry.result <;> rfl

end

/-! ## Counting entries -/

/-- An entry has an error or an address, and not both. -/
theorem length_errors_add_length_addresses (entries : List Entry) :
    (entries.filterMap Entry.error?).length + (entries.filterMap Entry.address?).length
      = entries.length := by
  have hneither (entry : Entry) : ¬ entry.error?.isSome = true ↔ entry.address?.isSome = true := by
    unfold Entry.error? Entry.address?
    cases entry.result <;> simp
  rw [List.length_filterMap_eq_countP, List.length_filterMap_eq_countP,
    List.length_eq_countP_add_countP fun entry => entry.error?.isSome]
  simp only [hneither, Bool.decide_eq_true]

/-! ## The log of a batch -/

/-- What is told of each item on its own is told of the list. -/
theorem filterMap_mapIdx {α β γ : Type} {event : Nat → α → β} {read : β → Option γ}
    {told : α → Option γ} (h : ∀ i item, read (event i item) = told item) (items : List α) :
    (items.mapIdx event).filterMap read = items.filterMap told := by
  induction items generalizing event with
  | nil => rfl
  | cons item items ih =>
    rw [List.mapIdx_cons, List.filterMap_cons, List.filterMap_cons, h 0 item,
      ih fun i => h (i + 1)]

/-- What is told of one position only is what is told of the item there. -/
theorem filterMap_mapIdx_ite {α β γ : Type} {event : Nat → α → β} {read : β → Option γ}
    {told : α → Option γ} {position : Nat}
    (h : ∀ i item, read (event i item) = if i = position then told item else none)
    (items : List α) :
    (items.mapIdx event).filterMap read = (items[position]?.bind told).toList := by
  induction items generalizing event position with
  | nil => rfl
  | cons item items ih =>
    rw [List.mapIdx_cons, List.filterMap_cons, h 0 item]
    cases position with
    | zero =>
      have hrest : (items.mapIdx fun i => event (i + 1)).filterMap read
          = items.filterMap fun _ => none :=
        filterMap_mapIdx (fun i other => (h (i + 1) other).trans (if_neg (Nat.succ_ne_zero i))) items
      rw [if_pos rfl, hrest, List.filterMap_none, List.getElem?_cons_zero, Option.bind_some]
      cases told item <;> rfl
    | succ position =>
      rw [if_neg (Nat.succ_ne_zero position).symm, List.getElem?_cons_succ]
      refine ih fun i other => ?_
      simpa only [Nat.add_right_cancel_iff] using h (i + 1) other

/-- The log of a batch tells of its entries: how many there are, which of them failed and of what,
and the addresses of the others. It does not count the failures. -/
structure TellsEntries (entries : List Entry) (log : List LogEvent) : Prop where
  total : log.filterMap LogEvent.total? = [entries.length]
  failureAt (position : Nat) : log.filterMap (LogEvent.failureAt? position)
    = (entries[position]?.bind Entry.error?).toList
  derived : (log.filterMap LogEvent.derived?).Perm (entries.filterMap Entry.address?)
  failures : log.filterMap LogEvent.failures? = []

/-- One passphrase after another, the log tells of the entries. -/
theorem tellsEntries_mapIdx (entries : List Entry) (concurrency : Nat) (network : Network) :
    TellsEntries entries (.batchStarted entries.length concurrency network ::
      entries.mapIdx fun position entry => entry.event position) where
  total := by
    rw [List.filterMap_cons, filterMap_mapIdx fun i entry => total?_event entry i,
      List.filterMap_none]
    rfl
  failureAt position := by
    rw [← filterMap_mapIdx_ite (fun i entry => failureAt?_event entry i position) entries]
    rfl
  derived := by
    rw [← filterMap_mapIdx (fun i entry => derived?_event entry i) entries]
    exact List.Perm.refl _
  failures := by
    rw [List.filterMap_cons, filterMap_mapIdx fun i entry => failures?_event entry i,
      List.filterMap_none]
    rfl

/-- A list has one order only if it has no more than one item. -/
theorem eq_toList_of_perm {α : Type} {items : List α} {item : Option α}
    (h : items.Perm item.toList) : items = item.toList := by
  cases item with
  | none => exact List.perm_nil.1 h
  | some item => exact List.perm_singleton.1 h

/-- The order of the events does not matter. -/
theorem TellsEntries.of_perm {entries : List Entry} {log log' : List LogEvent}
    (h : TellsEntries entries log) (hperm : log'.Perm log) : TellsEntries entries log' where
  total := List.perm_singleton.1 (h.total ▸ hperm.filterMap _)
  failureAt position := eq_toList_of_perm (h.failureAt position ▸ hperm.filterMap _)
  derived := (hperm.filterMap _).trans h.derived
  failures := List.perm_nil.1 (h.failures ▸ hperm.filterMap _)

/-- What a batch has come to and what it has reported, once it is over. -/
def State.outcome? : State → Option (Logged (Except Failure (List Entry)))
  | .working _ => none
  | .returned result log => some ⟨result.mapError .refused, log⟩
  | .abandoned log => some ⟨.error .tooManyPermits, log⟩

section

variable {keys : List ExtendedKey} {network : Network} {passphrases : List Bytes}
  {concurrency : Nat} (hkeys : keys.length = Cosigners.count) (hlimit : concurrency ≤ permitLimit)
include hkeys hlimit

theorem tellsEntries_derive :
    TellsEntries (passphrases.map (entry keys network))
      (derive keys passphrases network concurrency).events := by
  have htells := tellsEntries_mapIdx (passphrases.map (entry keys network)) concurrency network
  rw [List.length_map] at htells
  rw [derive_eq hkeys hlimit]
  exact htells

/-- Whatever the schedule, a batch that cannot go on has come to its entries, and its log tells of
them. -/
theorem Run.tellsEntries {actions : List Action} {state : State}
    (hrun : Run keys network (start keys passphrases network concurrency) actions state)
    (hstuck : Stuck keys network state) :
    ∃ log, state.outcome? = some ⟨.ok (passphrases.map (entry keys network)), log⟩ ∧
      TellsEntries (passphrases.map (entry keys network)) log := by
  obtain ⟨log, rfl, hperm⟩ := (alwaysReturns_entries hkeys hlimit).complete hrun hstuck
  exact ⟨log, rfl, (tellsEntries_derive hkeys hlimit).of_perm hperm⟩

end

end Batch

end TwoOfThree
