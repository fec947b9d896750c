-- SUMMARY: A batch never works on more entries than it may, never gets stuck, and ends after a known number of steps.
import TwoOfThree.Proofs.Batch.Result

/-!
# Progress of a batch

The dispatcher waits for permits while it joins nothing, which is safe because a
task gives its permit back when it ends and not when it is joined. So a run can
always go on until it has returned. Every step brings it nearer to its end, and on the
way every passphrase is spawned, finished and joined once.
-/

namespace TwoOfThree.Batch

variable {keys : List ExtendedKey} {network : Network} {passphrases : List Bytes}
  {concurrency : Nat} {actions : List Action} {state next : State} {action : Action}

/-! ## Counting steps -/

/-- The steps that lead to a state in which a batch is worked on: what is not spawned is waiting, what
is spawned and not finished is active, and what is finished and not joined is still to be joined. -/
structure Tally (total : Nat) (actions : List Action) (work : Work) : Prop where
  spawned : actions.count .spawn + work.waiting.length = total
  finished : actions.count .finish + work.active.length = actions.count .spawn
  joined : actions.count .join + work.finished.length = actions.count .finish
  concluded : actions.count .conclude = 0
  /-- Nothing is joined as long as something is waiting. -/
  order : 0 < actions.count .join → work.waiting = []

/-- The steps that lead to a state of a batch of `total` passphrases. -/
inductive Tallied (total : Nat) (actions : List Action) : State → Prop where
  | working {work} (tally : Tally total actions work) : Tallied total actions (.working work)
  | returned {result log} (spawned : actions.count .spawn = total)
      (finished : actions.count .finish = total) (joined : actions.count .join = total)
      (concluded : actions.count .conclude = 1) :
      Tallied total actions (.returned result log)

theorem tallied_initial : Tally passphrases.length [] (.initial passphrases network concurrency) where
  spawned := by simp [Work.initial, tasks]
  finished := rfl
  joined := rfl
  concluded := rfl
  order := nofun

section Steps

variable {total : Nat} {waiting active before after : List Task} {task : Task}
  {semaphore semaphore' : Semaphore} {earlier later : List (Except String (Nat × Entry))}
  {handed : Except String (Nat × Entry)} {finished : List (Except String (Nat × Entry))}
  {slots slots' : List (Option Entry)} {log log' : List LogEvent}

theorem Tally.spawn
    (h : Tally total actions ⟨task :: waiting, semaphore, active, finished, slots, log⟩) :
    Tally total (actions ++ [.spawn])
      ⟨waiting, semaphore', active ++ [task], finished, slots, log⟩ where
  spawned := by
    have hspawned := h.spawned
    simp at hspawned ⊢
    omega
  finished := by
    have hfinished := h.finished
    simp at hfinished ⊢
    omega
  joined := by simpa using h.joined
  concluded := by simpa using h.concluded
  order hpos := by
    -- something was waiting, so nothing has been joined
    simp only [List.count_append, List.count_singleton] at hpos
    cases h.order hpos

theorem Tally.finish
    (h : Tally total actions ⟨waiting, semaphore, before ++ task :: after, finished, slots, log⟩) :
    Tally total (actions ++ [.finish])
      ⟨waiting, semaphore', before ++ after, finished ++ [handed], slots, log'⟩ where
  spawned := by simpa using h.spawned
  finished := by
    have hfinished := h.finished
    simp at hfinished ⊢
    omega
  joined := by
    have hjoined := h.joined
    simp at hjoined ⊢
    omega
  concluded := by simpa using h.concluded
  order hpos := by
    simp only [List.count_append, List.count_singleton] at hpos
    exact h.order hpos

theorem Tally.join
    (h : Tally total actions ⟨[], semaphore, active, earlier ++ handed :: later, slots, log⟩) :
    Tally total (actions ++ [.join]) ⟨[], semaphore, active, earlier ++ later, slots', log'⟩ where
  spawned := by simpa using h.spawned
  finished := by simpa using h.finished
  joined := by
    have hjoined := h.joined
    simp at hjoined ⊢
    omega
  concluded := by simpa using h.concluded
  order _ := rfl

theorem Tally.conclude (h : Tally total actions ⟨[], semaphore, [], [], slots, log⟩)
    (result : Except Error (List Entry)) :
    Tallied total (actions ++ [.conclude]) (.returned result log) := by
  have hspawned := h.spawned
  have hfinished := h.finished
  have hjoined := h.joined
  have hconcluded := h.concluded
  simp at hspawned hfinished hjoined
  refine .returned ?_ ?_ ?_ ?_ <;>
    simp only [List.count_append, List.count_singleton] <;> simp <;> omega

end Steps

/-- Each step is counted where it moves a task. -/
theorem Step.tallied {total : Nat} (hstep : Step keys network state action next)
    (hsound : Sound keys network passphrases concurrency next)
    (h : Tallied total actions state) : Tallied total (actions ++ [action]) next := by
  cases hstep with
  | spawn =>
    cases h with
    | working tally => exact .working tally.spawn
  | spawnRefused => cases hsound
  | finish =>
    cases h with
    | working tally => exact .working tally.finish
  | join inside =>
    cases h with
    | working tally => exact .working tally.join
  | joinOutside outside => cases hsound
  | joinFailed => cases hsound
  | conclude =>
    cases h with
    | working tally => exact tally.conclude _

theorem Run.tallied {total : Nat} (hsound : Sound keys network passphrases concurrency state)
    (h : Tallied total [] state) (hrun : Run keys network state actions next) :
    Tallied total actions next := by
  induction hrun with
  | refl => exact h
  | tail hrun hstep ih => exact hstep.tallied (hstep.sound (hrun.sound hsound)) ih

/-! ## Nearing the end -/

/-- On the way of a batch no step does more than one step's work. -/
theorem Step.remaining_eq (hstep : Step keys network state action next)
    (hsound : Sound keys network passphrases concurrency next) :
    next.remaining + 1 = state.remaining := by
  cases hstep with
  | spawnRefused => cases hsound
  | joinOutside outside => cases hsound
  | joinFailed => cases hsound
  | spawn => simp [State.remaining]; omega
  | finish => simp [State.remaining]; omega
  | join inside => simp [State.remaining]; omega
  | conclude => rfl

theorem Run.remaining_eq (hsound : Sound keys network passphrases concurrency state)
    (hrun : Run keys network state actions next) :
    actions.length + next.remaining = state.remaining := by
  induction hrun with
  | refl => simp
  | tail hrun hstep ih =>
    have hlast := hstep.remaining_eq (hstep.sound (hrun.sound hsound))
    simp only [List.length_append, List.length_singleton]
    omega

/-- No state has infinitely many steps before it ends. -/
theorem not_exists_infinite_run (keys : List ExtendedKey) (network : Network) :
    ¬ ∃ states : Nat → State, ∀ i, ∃ action, Step keys network (states i) action (states (i + 1)) := by
  rintro ⟨states, hsteps⟩
  have hremaining (i : Nat) : (states i).remaining + i ≤ (states 0).remaining := by
    induction i with
    | zero => exact Nat.le_refl _
    | succ i ih =>
      obtain ⟨action, hstep⟩ := hsteps i
      have hlt := hstep.remaining_lt
      omega
  have hpast := hremaining ((states 0).remaining + 1)
  omega

/-! ## Runs of a batch -/

/-- How a run of a batch stands after some steps. -/
structure Proceeds (keys : List ExtendedKey) (network : Network) (passphrases : List Bytes)
    (concurrency : Nat) (actions : List Action) (state : State) : Prop where
  permits : ∀ work, state = .working work →
    work.semaphore.permits + work.active.length = max concurrency 1
  bounded : ∀ work, state = .working work → work.active.length ≤ max concurrency 1
  /-- The run has returned its entries, or it can go on. -/
  enabled : (∃ entries log, state = .returned (.ok entries) log) ∨
    ∃ action next, Step keys network state action next
  /-- Joining begins when all passphrases are spawned. -/
  order : 0 < actions.count .join → actions.count .spawn = passphrases.length
  /-- There are only so many steps in all. -/
  finite : actions.length ≤ 3 * passphrases.length + 1
  /-- A run that cannot go on has handled every passphrase once. -/
  complete : Stuck keys network state → actions.count .spawn = passphrases.length ∧
    actions.count .finish = passphrases.length ∧ actions.count .join = passphrases.length ∧
    actions.count .conclude = 1

section

variable (hkeys : keys.length = Cosigners.count) (hlimit : concurrency ≤ permitLimit)
include hkeys hlimit

theorem start_eq : start keys passphrases network concurrency
    = .working (.initial passphrases network concurrency) := by
  rw [start, Cosigners.checkCount_eq_ok hkeys]
  exact if_neg (Nat.not_lt.2 hlimit)

theorem Run.proceeds
    (hrun : Run keys network (start keys passphrases network concurrency) actions state) :
    Proceeds keys network passphrases concurrency actions state := by
  have hstart : Sound keys network passphrases concurrency _ := sound_start hkeys hlimit
  have hsound := hrun.sound hstart
  have hremaining := hrun.remaining_eq hstart
  have htallied : Tallied passphrases.length actions state := by
    refine hrun.tallied hstart ?_
    rw [start_eq hkeys hlimit]
    exact .working tallied_initial
  have hpermits : ∀ work, state = .working work →
      work.semaphore.permits + work.active.length = max concurrency 1 := by
    rintro work rfl
    cases hsound with
    | working accounted => exact accounted.permits
  refine ⟨hpermits, ?_, ?_, ?_, ?_, ?_⟩
  · intro work hwork
    have hpermits := hpermits work hwork
    omega
  · cases hsound with
    | working accounted => exact .inr accounted.progress
    | returned => exact .inl ⟨_, _, rfl⟩
  · intro hpos
    cases htallied with
    | returned spawned => exact spawned
    | working tally =>
      have hspawned := tally.spawned
      rw [tally.order hpos] at hspawned
      exact hspawned
  · rw [start_eq hkeys hlimit] at hremaining
    simp [State.remaining, Work.initial, tasks] at hremaining
    omega
  · intro hstuck
    obtain ⟨log, rfl⟩ := hsound.stuck hstuck
    cases htallied with
    | returned spawned finished joined concluded => exact ⟨spawned, finished, joined, concluded⟩

end

/-- Under every schedule permits and active tasks add up to what there is at first, a run can go on
until it has returned, and it ends after every passphrase has been spawned, finished and joined
once. Without three keys there is nothing to schedule. -/
theorem every_schedule_proceeds (hlimit : concurrency ≤ permitLimit) (keys : List ExtendedKey)
    (network : Network) (passphrases : List Bytes) :
    (keys.length = Cosigners.count → ∀ actions state,
      Run keys network (start keys passphrases network concurrency) actions state →
      Proceeds keys network passphrases concurrency actions state) ∧
    (keys.length ≠ Cosigners.count → ∀ actions state,
      Run keys network (start keys passphrases network concurrency) actions state →
      actions = [] ∧ state = .returned (.error (.invalidInput (.keyCount keys.length))) []) ∧
    ¬ ∃ states : Nat → State, states 0 = start keys passphrases network concurrency ∧
      ∀ i, ∃ action, Step keys network (states i) action (states (i + 1)) := by
  refine ⟨?_, ?_, ?_⟩
  · intro hkeys actions state hrun
    exact hrun.proceeds hkeys hlimit
  · intro hkeys actions state hrun
    rw [start, Cosigners.checkCount_eq_error hkeys] at hrun
    exact hrun.of_returned
  · rintro ⟨states, _, hsteps⟩
    exact not_exists_infinite_run keys network ⟨states, hsteps⟩

/-- No concurrency is as good as one. -/
theorem every_schedule_proceeds_zero :
    let keys := List.replicate 3 (ExtendedKey.onGenerator 0 0)
    let passphrases : List Bytes := [[0x61], [0xff], [0x62]]
    0 ≤ permitLimit ∧
      ∃ actions state, Run keys .main (start keys passphrases .main 0) actions state ∧
        actions.count .spawn = 3 ∧ actions.count .finish = 3 ∧ actions.count .join = 3 := by
  intro keys passphrases
  have hkeys : keys.length = Cosigners.count := rfl
  have hlimit : 0 ≤ permitLimit := Nat.zero_le _
  obtain ⟨actions, log, hrun⟩ := (sound_start hkeys hlimit).completes
  have hproceeds := (every_schedule_proceeds hlimit keys .main passphrases).1 hkeys _ _ hrun
  obtain ⟨hspawned, hfinished, hjoined, _⟩ := hproceeds.complete nofun
  exact ⟨hlimit, _, _, hrun, hspawned, hfinished, hjoined⟩

end TwoOfThree.Batch
