-- SUMMARY: Every complete run of a batch returns the entries that deriving them one by one gives.
import Mathlib.Data.List.Forall2
import TwoOfThree.Proofs.Batch.Invariant
import TwoOfThree.Proofs.Deposit.Basic

/-!
# The result of a batch

Whatever the schedule, a batch is never given up, no slot is missed or filled
twice, and none of the dispatcher's own errors arises. A run that cannot go on
has returned, and every run can be completed. The entries it returns, and the
events it reports up to their order, are those of `derive`, which works out one
passphrase after another.
-/

namespace TwoOfThree.Batch

variable {keys : List ExtendedKey} {network : Network} {passphrases : List Bytes}
  {concurrency : Nat}

/-! ## States that a batch can come to -/

/-- The states that a batch comes to: it is being worked on with all tasks accounted for, or it has
returned the entries of all passphrases. -/
inductive Sound (keys : List ExtendedKey) (network : Network) (passphrases : List Bytes)
    (concurrency : Nat) : State → Prop where
  | working {work ended joined}
      (accounted : Accounted keys network passphrases concurrency work ended joined) :
      Sound keys network passphrases concurrency (.working work)
  | returned {log}
      (events : log.Perm (.batchStarted passphrases.length concurrency network ::
        eventsOf keys network (tasks passphrases) (tasks passphrases))) :
      Sound keys network passphrases concurrency
        (.returned (.ok (passphrases.map (entry keys network))) log)

theorem sound_start (hkeys : keys.length = Cosigners.count) (hlimit : concurrency ≤ permitLimit) :
    Sound keys network passphrases concurrency (start keys passphrases network concurrency) := by
  rw [start, Cosigners.checkCount_eq_ok hkeys]
  simp only [if_neg (Nat.not_lt.2 hlimit)]
  exact .working accounted_initial

theorem eventsOf_perm {joined : List Task} (h : (tasks passphrases).Perm joined) :
    (eventsOf keys network joined joined).Perm
      (eventsOf keys network (tasks passphrases) (tasks passphrases)) :=
  (h.symm.flatMap_right _).append (h.symm.flatMap_right _)

/-- A step from a state with all tasks accounted for leads to another one, or to the end. -/
theorem Step.sound {state next : State} {action : Action}
    (h : Sound keys network passphrases concurrency state)
    (hstep : Step keys network state action next) :
    Sound keys network passphrases concurrency next := by
  cases hstep with
  | spawn =>
    cases h with
    | working accounted => exact .working accounted.spawn
  | spawnRefused =>
    cases h with
    | working accounted => cases accounted.notClosed
  | finish =>
    cases h with
    | working accounted => exact .working accounted.finish
  | join inside =>
    cases h with
    | working accounted =>
      obtain ⟨before, task, after, rfl, rfl, rfl, heq⟩ := accounted.finished_split
      cases heq
      exact .working accounted.join
  | joinOutside outside =>
    cases h with
    | working accounted =>
      obtain ⟨before, task, after, rfl, rfl, rfl, heq⟩ := accounted.finished_split
      cases heq
      have hslot := accounted.slot_of_mem_ended (by simp : task ∈ before ++ task :: after)
      rw [List.getElem?_eq_none outside] at hslot
      cases hslot
  | joinFailed =>
    cases h with
    | working accounted =>
      obtain ⟨before, task, after, rfl, rfl, rfl, heq⟩ := accounted.finished_split
      cases heq
  | conclude =>
    cases h with
    | @working _ ended joined accounted =>
      obtain ⟨rfl, hjoined⟩ := accounted.all_joined
      have hslots := accounted.slots
      simp only at hslots
      rw [hslots, collectFrom_slotsOf hjoined]
      exact .returned (accounted.log.trans ((eventsOf_perm hjoined).cons _))

theorem Run.sound {state next : State} {actions : List Action}
    (h : Sound keys network passphrases concurrency state)
    (hrun : Run keys network state actions next) :
    Sound keys network passphrases concurrency next := by
  induction hrun with
  | refl => exact h
  | tail _ hstep ih => exact hstep.sound ih

/-! ## Going on -/

/-- How many steps are still to be taken. -/
def State.remaining : State → Nat
  | .working work => 3 * work.waiting.length + 2 * work.active.length + work.finished.length + 1
  | .returned _ _ => 0
  | .abandoned _ => 0

theorem Step.remaining_lt {state next : State} {action : Action}
    (h : Step keys network state action next) : next.remaining < state.remaining := by
  cases h <;> simp only [State.remaining, List.length_append, List.length_cons, List.length_nil] <;>
    omega

/-- A batch that is still being worked on can go on: a task can finish, or else one can be spawned,
since all permits are free then, or else one can be joined, or else all is done. -/
theorem Accounted.progress {work : Work} {ended joined : List Task}
    (h : Accounted keys network passphrases concurrency work ended joined) :
    ∃ action next, Step keys network (.working work) action next := by
  obtain ⟨waiting, ⟨permits, closed⟩, active, finished, slots, log⟩ := work
  cases active with
  | cons task rest =>
    have hfinish : Step keys network
        (.working ⟨waiting, ⟨permits, closed⟩, [] ++ task :: rest, finished, slots, log⟩) .finish _ :=
      .finish
    exact ⟨_, _, hfinish⟩
  | nil =>
    cases waiting with
    | cons task rest =>
      obtain rfl : closed = false := h.notClosed
      have hpermits : permits = max concurrency 1 := by simpa using h.permits
      obtain ⟨permits, rfl⟩ : ∃ k, permits = k + 1 := ⟨permits - 1, by omega⟩
      exact ⟨_, _, .spawn⟩
    | nil =>
      cases finished with
      | nil => exact ⟨_, _, .conclude⟩
      | cons handed rest =>
        rw [← List.nil_append (handed :: rest)] at h ⊢
        obtain ⟨before, task, after, rfl, _, _, rfl⟩ := h.finished_split
        have hslot := h.slot_of_mem_ended (by simp : task ∈ before ++ task :: after)
        exact ⟨_, _, .join (List.getElem?_eq_some_iff.1 hslot).1⟩

theorem Sound.stuck {state : State} (h : Sound keys network passphrases concurrency state)
    (hstuck : Stuck keys network state) :
    ∃ log, state = .returned (.ok (passphrases.map (entry keys network))) log := by
  cases h with
  | returned => exact ⟨_, rfl⟩
  | working accounted =>
    obtain ⟨action, next, hstep⟩ := accounted.progress
    exact absurd hstep (hstuck action next)

/-- Every state that a batch comes to leads to its end. -/
theorem Sound.completes {state : State} (h : Sound keys network passphrases concurrency state) :
    ∃ actions log, Run keys network state actions
      (.returned (.ok (passphrases.map (entry keys network))) log) := by
  induction hremaining : state.remaining using Nat.strongRecOn generalizing state with
  | ind remaining ih =>
    cases h with
    | @returned log => exact ⟨[], log, .refl⟩
    | working accounted =>
      obtain ⟨action, next, hstep⟩ := accounted.progress
      obtain ⟨actions, log, hrun⟩ :=
        ih next.remaining (hremaining ▸ hstep.remaining_lt) (hstep.sound (.working accounted)) rfl
      exact ⟨[action] ++ actions, log, (Run.refl.tail hstep).trans hrun⟩

/-! ## One passphrase after another -/

theorem singleton_event (entry : Entry) (position : Nat) :
    [entry.event position] = entry.taskEvents ++ entry.joinEvents position := by
  unfold Entry.event Entry.taskEvents Entry.joinEvents
  cases entry.result <;> rfl

theorem derive_eq (hkeys : keys.length = Cosigners.count) (hlimit : concurrency ≤ permitLimit) :
    derive keys passphrases network concurrency =
      ⟨.ok (passphrases.map (entry keys network)),
        .batchStarted passphrases.length concurrency network ::
          (passphrases.map (entry keys network)).mapIdx fun position entry =>
            entry.event position⟩ := by
  rw [derive, Cosigners.checkCount_eq_ok hkeys]
  simp only [if_neg (Nat.not_lt.2 hlimit)]

theorem events_derive_perm (hkeys : keys.length = Cosigners.count)
    (hlimit : concurrency ≤ permitLimit) :
    (derive keys passphrases network concurrency).events.Perm
      (.batchStarted passphrases.length concurrency network ::
        eventsOf keys network (tasks passphrases) (tasks passphrases)) := by
  have hevents : ((passphrases.map (entry keys network)).mapIdx fun position entry =>
      entry.event position) =
      (tasks passphrases).flatMap fun task =>
        (task.entry keys network).taskEvents ++
          (task.entry keys network).joinEvents task.position := by
    simp only [← singleton_event, ← List.map_eq_flatMap]
    apply List.ext_getElem?
    intro i
    rw [List.getElem?_mapIdx, List.getElem?_map, List.getElem?_map, getElem?_tasks, Option.map_map,
      Option.map_map]
    rfl
  rw [derive_eq hkeys hlimit, hevents]
  exact (List.flatMap_append_perm _ _ _).symm.cons _

/-! ## Every schedule gives the same result -/

/-- The entry shows the passphrase as text, with replacement characters where it is none, and holds
what the derivation for this text comes to or else the fault in the passphrase. -/
structure Entry.IsOf (keys : List ExtendedKey) (network : Network) (passphrase : Bytes)
    (entry : Entry) : Prop where
  text : entry.passphrase = Utf8.decodeLossy passphrase
  outcome : entry.result = match Utf8.decode passphrase with
    | .error fault => .error (.invalidInput (.passphraseEncoding fault))
    | .ok text => Deposit.deriveAddress keys text network

/-- Whatever the schedule, the batch returns these entries and does not fail on the way. -/
structure AlwaysReturns (keys : List ExtendedKey) (network : Network) (passphrases : List Bytes)
    (concurrency : Nat) (entries : List Entry) : Prop where
  sequential : (derive keys passphrases network concurrency).value = .ok entries
  not_abandoned {actions log} :
    ¬ Run keys network (start keys passphrases network concurrency) actions (.abandoned log)
  no_error {actions error log} :
    ¬ Run keys network (start keys passphrases network concurrency) actions
      (.returned (.error error) log)
  /-- A slot that is about to be filled exists and is empty. -/
  slot_empty {actions work position entry} :
    Run keys network (start keys passphrases network concurrency) actions (.working work) →
    .ok (position, entry) ∈ work.finished → work.slots[position]? = some none
  complete {actions state} :
    Run keys network (start keys passphrases network concurrency) actions state →
    Stuck keys network state →
    ∃ log, state = .returned (.ok entries) log ∧
      log.Perm (derive keys passphrases network concurrency).events
  completes {actions state} :
    Run keys network (start keys passphrases network concurrency) actions state →
    ∃ actions' log, Run keys network state actions' (.returned (.ok entries) log)

theorem entry_isOf (passphrase : Bytes) :
    (entry keys network passphrase).IsOf keys network passphrase where
  text := rfl
  outcome := by
    simp only [entry, readPassphrase]
    cases Utf8.decode passphrase <;> rfl

theorem alwaysReturns_entries (hkeys : keys.length = Cosigners.count)
    (hlimit : concurrency ≤ permitLimit) :
    AlwaysReturns keys network passphrases concurrency (passphrases.map (entry keys network)) where
  sequential := by rw [derive_eq hkeys hlimit]
  not_abandoned hrun := by cases hrun.sound (sound_start hkeys hlimit)
  no_error hrun := by cases hrun.sound (sound_start hkeys hlimit)
  slot_empty hrun hmem := by
    cases hrun.sound (sound_start hkeys hlimit) with
    | working accounted =>
      rw [accounted.finished] at hmem
      obtain ⟨task, htask, heq⟩ := List.mem_map.1 hmem
      cases heq
      exact accounted.slot_of_mem_ended htask
  complete hrun hstuck := by
    have hsound := hrun.sound (sound_start hkeys hlimit)
    obtain ⟨log, rfl⟩ := hsound.stuck hstuck
    cases hsound with
    | returned events =>
      exact ⟨log, rfl, events.trans (events_derive_perm hkeys hlimit).symm⟩
  completes hrun := (hrun.sound (sound_start hkeys hlimit)).completes

/-- A batch has one entry for each passphrase, in order, and returns them under every schedule and
at every concurrency. -/
theorem every_schedule_returns_entries (hkeys : keys.length = Cosigners.count)
    (network : Network) (passphrases : List Bytes) :
    ∃ entries,
      List.Forall₂ (Entry.IsOf keys network) passphrases entries ∧
      ∀ concurrency ≤ permitLimit,
        AlwaysReturns keys network passphrases concurrency entries := by
  refine ⟨passphrases.map (entry keys network), ?_, fun _ => alwaysReturns_entries hkeys⟩
  rw [List.forall₂_map_right_iff]
  exact List.forall₂_same.2 fun passphrase _ => entry_isOf passphrase

/-- One of the passphrases may be no text. -/
theorem every_schedule_returns_entries_bad_passphrase :
    let keys := List.replicate 3 (ExtendedKey.onGenerator 0 0)
    keys.length = Cosigners.count ∧
      ∃ entries,
        List.Forall₂ (Entry.IsOf keys .test) [[0x61], [0xc3, 0x28], []] entries ∧
        ∀ concurrency ≤ permitLimit,
          AlwaysReturns keys .test [[0x61], [0xc3, 0x28], []] concurrency entries := by
  intro keys
  have hkeys : keys.length = Cosigners.count := rfl
  exact ⟨hkeys, every_schedule_returns_entries hkeys .test _⟩

end TwoOfThree.Batch
