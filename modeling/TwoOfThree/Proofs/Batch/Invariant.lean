-- SUMMARY: What holds in every state that a batch can come to, and that every step keeps it.
import Mathlib.Data.List.Perm.Basic
import TwoOfThree.Proofs.Batch.Schedule

/-!
# The invariant of a batch

Every task of a batch is in exactly one place: it is waiting, active, ended or
joined. Permits are neither lost nor made, a slot is filled exactly when its task
is joined, and then with the entry of that task. Each step moves one task from
its place to the next, so a state from which no step leads has joined them all.
-/

namespace TwoOfThree.Batch

/-! ## Tasks and their positions -/

section Tasks

variable {passphrases : List Bytes}

theorem getElem?_tasks (position : Nat) :
    (tasks passphrases)[position]? = passphrases[position]?.map (Task.mk position) := by
  simp [tasks]

/-- Every task stands at its position. -/
theorem getElem?_tasks_of_mem {task : Task} (h : task ∈ tasks passphrases) :
    (tasks passphrases)[task.position]? = some task := by
  obtain ⟨position, hposition⟩ := List.mem_iff_getElem?.1 h
  have htask := hposition
  rw [getElem?_tasks] at htask
  obtain ⟨passphrase, _, rfl⟩ := Option.map_eq_some_iff.1 htask
  exact hposition

theorem position_of_getElem?_tasks {position : Nat} {task : Task}
    (h : (tasks passphrases)[position]? = some task) : task.position = position := by
  rw [getElem?_tasks] at h
  obtain ⟨passphrase, _, rfl⟩ := Option.map_eq_some_iff.1 h
  rfl

theorem nodup_tasks : (tasks passphrases).Nodup := by
  rw [List.nodup_iff_pairwise_ne, List.pairwise_iff_getElem]
  intro i j hi hj hlt heq
  have htask := position_of_getElem?_tasks (List.getElem?_eq_getElem hi)
  have htask' := position_of_getElem?_tasks (List.getElem?_eq_getElem hj)
  rw [heq, htask'] at htask
  omega

theorem map_entry_tasks (keys : List ExtendedKey) (network : Network) :
    (tasks passphrases).map (Task.entry keys network) = passphrases.map (entry keys network) := by
  apply List.ext_getElem?
  intro i
  rw [List.getElem?_map, List.getElem?_map, getElem?_tasks, Option.map_map]
  rfl

end Tasks

/-! ## The invariant -/

/-- The slots when the tasks in `joined` are joined. -/
def slotsOf (keys : List ExtendedKey) (network : Network) (passphrases : List Bytes)
    (joined : List Task) : List (Option Entry) :=
  (tasks passphrases).map fun task =>
    if task ∈ joined then some (task.entry keys network) else none

/-- What the tasks that have ended, and the dispatcher when it joined some of them, report. -/
def eventsOf (keys : List ExtendedKey) (network : Network) (ended joined : List Task) :
    List LogEvent :=
  ended.flatMap (fun task => (task.entry keys network).taskEvents) ++
    joined.flatMap fun task => (task.entry keys network).joinEvents task.position

/-- The bookkeeping of a batch in which the tasks of `ended` wait to be joined and those of `joined`
have been. -/
structure Accounted (keys : List ExtendedKey) (network : Network) (passphrases : List Bytes)
    (concurrency : Nat) (work : Work) (ended joined : List Task) : Prop where
  notClosed : work.semaphore.closed = false
  permits : work.semaphore.permits + work.active.length = max concurrency 1
  places : (work.waiting ++ work.active ++ ended ++ joined).Perm (tasks passphrases)
  finished : work.finished = ended.map fun task => .ok (task.position, task.entry keys network)
  slots : work.slots = slotsOf keys network passphrases joined
  log : work.log.Perm (.batchStarted passphrases.length concurrency network ::
    eventsOf keys network (ended ++ joined) joined)

section Steps

variable {keys : List ExtendedKey} {network : Network} {passphrases : List Bytes}
  {concurrency : Nat} {ended joined : List Task}

/-! ## Slots -/

theorem getElem?_slotsOf_of_notMem {task : Task} (htask : task ∈ tasks passphrases)
    (h : task ∉ joined) :
    (slotsOf keys network passphrases joined)[task.position]? = some none := by
  simp [slotsOf, getElem?_tasks_of_mem htask, h]

/-- Filling the slot of a task joins it. -/
theorem set_slotsOf {task : Task} (htask : task ∈ tasks passphrases) :
    (slotsOf keys network passphrases joined).set task.position
      (some (task.entry keys network)) = slotsOf keys network passphrases (joined ++ [task]) := by
  apply List.ext_getElem?
  intro i
  rw [List.getElem?_set]
  by_cases hi : task.position = i
  · subst hi
    have hlt : task.position < (slotsOf keys network passphrases joined).length := by
      rw [slotsOf, List.length_map]
      exact (List.getElem?_eq_some_iff.1 (getElem?_tasks_of_mem htask)).1
    rw [if_pos rfl, if_pos hlt, slotsOf, List.getElem?_map, getElem?_tasks_of_mem htask]
    simp
  · rw [if_neg hi, slotsOf, slotsOf, List.getElem?_map, List.getElem?_map]
    cases hother : (tasks passphrases)[i]? with
    | none => rfl
    | some other =>
      have hne : other ≠ task := by
        rintro rfl
        exact hi (position_of_getElem?_tasks hother)
      simp [hne]

theorem slotsOf_nil : slotsOf keys network passphrases [] =
    List.replicate passphrases.length none := by
  simp [slotsOf, tasks, List.map_const']

/-- When all tasks are joined, the slots give all the entries. -/
theorem collectFrom_slotsOf (h : (tasks passphrases).Perm joined) :
    collectFrom 0 (slotsOf keys network passphrases joined) =
      .ok (passphrases.map (entry keys network)) := by
  have hslots : slotsOf keys network passphrases joined =
      (passphrases.map (entry keys network)).map some := by
    rw [← map_entry_tasks, List.map_map]
    exact List.map_congr_left fun task htask => if_pos (h.mem_iff.1 htask)
  have hcollect (position : Nat) (entries : List Entry) :
      collectFrom position (entries.map some) = .ok entries := by
    induction entries generalizing position with
    | nil => rfl
    | cons entry rest ih => simp [collectFrom, ih, Except.map]
  rw [hslots, hcollect]

/-! ## Keeping the invariant -/

theorem accounted_initial :
    Accounted keys network passphrases concurrency (.initial passphrases network concurrency)
      [] [] where
  notClosed := rfl
  permits := by simp [Work.initial]
  places := by simp [Work.initial]
  finished := rfl
  slots := slotsOf_nil.symm
  log := by simp [Work.initial, eventsOf]

variable {waiting active before after : List Task} {task : Task} {semaphore : Semaphore}
  {permits : Nat} {closed : Bool} {finished : List (Except String (Nat × Entry))}
  {slots : List (Option Entry)} {log : List LogEvent}

theorem Accounted.spawn
    (h : Accounted keys network passphrases concurrency
      ⟨task :: waiting, ⟨permits + 1, closed⟩, active, finished, slots, log⟩ ended joined) :
    Accounted keys network passphrases concurrency
      ⟨waiting, ⟨permits, closed⟩, active ++ [task], finished, slots, log⟩ ended joined where
  notClosed := h.notClosed
  permits := by
    have := h.permits
    simp only [List.length_append, List.length_cons, List.length_nil] at this ⊢
    omega
  places := by
    refine List.Perm.trans ?_ h.places
    rw [List.perm_iff_count]
    intro other
    simp only [List.count_append, List.count_cons, List.count_nil]
    omega
  finished := h.finished
  slots := h.slots
  log := h.log

theorem Accounted.finish
    (h : Accounted keys network passphrases concurrency
      ⟨waiting, ⟨permits, closed⟩, before ++ task :: after, finished, slots, log⟩ ended joined) :
    Accounted keys network passphrases concurrency
      ⟨waiting, ⟨permits + 1, closed⟩, before ++ after,
        finished ++ [.ok (task.position, task.entry keys network)], slots,
        log ++ (task.entry keys network).taskEvents⟩ (ended ++ [task]) joined where
  notClosed := h.notClosed
  permits := by
    have := h.permits
    simp only [List.length_append, List.length_cons] at this ⊢
    omega
  places := by
    refine List.Perm.trans ?_ h.places
    rw [List.perm_iff_count]
    intro other
    simp only [List.count_append, List.count_cons, List.count_nil]
    omega
  finished := by
    have := h.finished
    simp only at this
    simp [this]
  slots := h.slots
  log := by
    refine (h.log.append_right _).trans ?_
    rw [List.perm_iff_count]
    intro event
    simp only [eventsOf, List.flatMap_append, List.flatMap_cons, List.flatMap_nil,
      List.cons_append, List.count_append, List.count_cons, List.count_nil]
    omega

/-- What is handed over to be joined comes from a task that has ended. -/
theorem Accounted.finished_split {before after : List (Except String (Nat × Entry))}
    {handed : Except String (Nat × Entry)}
    (h : Accounted keys network passphrases concurrency
      ⟨waiting, semaphore, active, before ++ handed :: after, slots, log⟩ ended joined) :
    ∃ earlier task later, ended = earlier ++ task :: later ∧
      before = earlier.map (fun task => .ok (task.position, task.entry keys network)) ∧
      after = later.map (fun task => .ok (task.position, task.entry keys network)) ∧
      handed = .ok (task.position, task.entry keys network) := by
  obtain ⟨earlier, rest, rfl, hbefore, hrest⟩ := List.map_eq_append_iff.1 h.finished.symm
  obtain ⟨task, later, rfl, hhanded, hafter⟩ := List.map_eq_cons_iff.1 hrest
  exact ⟨earlier, task, later, rfl, hbefore.symm, hafter.symm, hhanded.symm⟩

/-- The slot of a task that is to be joined exists and is empty. -/
theorem Accounted.slot_of_mem_ended
    (h : Accounted keys network passphrases concurrency
      ⟨waiting, semaphore, active, finished, slots, log⟩ ended joined) (htask : task ∈ ended) :
    slots[task.position]? = some none := by
  have hslots := h.slots
  simp only at hslots
  have hnodup : (waiting ++ active ++ ended ++ joined).Nodup := h.places.symm.nodup nodup_tasks
  have hjoined : task ∉ joined := fun hmem =>
    (List.nodup_append.1 hnodup).2.2 task (List.mem_append_right _ htask) task hmem rfl
  rw [hslots]
  exact getElem?_slotsOf_of_notMem (h.places.mem_iff.1 (by simp [htask])) hjoined

theorem Accounted.join {before after : List Task}
    (h : Accounted keys network passphrases concurrency
      ⟨waiting, semaphore, active, finished, slots, log⟩ (before ++ task :: after) joined) :
    Accounted keys network passphrases concurrency
      ⟨waiting, semaphore, active,
        before.map (fun task => .ok (task.position, task.entry keys network)) ++
          after.map (fun task => .ok (task.position, task.entry keys network)),
        slots.set task.position (some (task.entry keys network)),
        log ++ (task.entry keys network).joinEvents task.position⟩
      (before ++ after) (joined ++ [task]) where
  notClosed := h.notClosed
  permits := h.permits
  places := by
    refine List.Perm.trans ?_ h.places
    rw [List.perm_iff_count]
    intro other
    simp only [List.count_append, List.count_cons, List.count_nil]
    omega
  finished := List.map_append.symm
  slots := by
    have hslots := h.slots
    simp only at hslots
    have htask : task ∈ tasks passphrases := h.places.mem_iff.1 (by simp)
    rw [hslots, set_slotsOf htask]
  log := by
    refine (h.log.append_right _).trans ?_
    rw [List.perm_iff_count]
    intro event
    simp only [eventsOf, List.flatMap_append, List.flatMap_cons, List.flatMap_nil,
      List.cons_append, List.count_append, List.count_cons, List.count_nil]
    omega

/-- When nothing is left to be spawned, finished or joined, all tasks are joined. -/
theorem Accounted.all_joined
    (h : Accounted keys network passphrases concurrency ⟨[], semaphore, [], [], slots, log⟩
      ended joined) : ended = [] ∧ (tasks passphrases).Perm joined := by
  have hended : ended = [] := List.map_eq_nil_iff.1 h.finished.symm
  subst hended
  exact ⟨rfl, by simpa using h.places.symm⟩

end Steps

end TwoOfThree.Batch
