-- SUMMARY: A batch as a system of concurrent tasks: its states, the steps that may be taken, and its runs.
import TwoOfThree.Batch

/-!
# Schedules of a batch

A batch is worked on by one dispatcher and many tasks. The dispatcher takes a
permit for each passphrase in turn and spawns a task for it; when all are
spawned, it joins the tasks that have ended, one at a time and in any order, and
puts their entries into slots. A task that ends gives its permit back. Which of
the possible steps comes next is left open, so a run stands for one schedule.

Every way in which the dispatcher could fail is a step of its own: permits that
are no longer given out, a task that came to nothing, a slot that does not exist
and a slot that was never filled.
-/

namespace TwoOfThree.Batch

/-- A passphrase and its place in the batch. -/
structure Task where
  position : Nat
  passphrase : Bytes
deriving DecidableEq

/-- The tasks of a batch, in the order in which they are spawned. -/
def tasks (passphrases : List Bytes) : List Task := passphrases.mapIdx Task.mk

def Task.entry (keys : List ExtendedKey) (network : Network) (task : Task) : Entry :=
  Batch.entry keys network task.passphrase

/-! ## States -/

structure Semaphore where
  permits : Nat
  /-- No permit is given out any more. -/
  closed : Bool
deriving DecidableEq

/-- A batch that is being worked on. -/
structure Work where
  /-- Tasks that are not spawned yet. -/
  waiting : List Task
  semaphore : Semaphore
  /-- Tasks that hold a permit. -/
  active : List Task
  /-- What the tasks that have ended and are not joined yet hand over: an entry and its position,
  or the reason why there is none. -/
  finished : List (Except String (Nat × Entry))
  slots : List (Option Entry)
  log : List LogEvent

inductive State where
  | working (work : Work)
  | returned (result : Except Error (List Entry)) (log : List LogEvent)
  /-- Given up without a result. -/
  | abandoned (log : List LogEvent)

/-- The entries of all the slots, unless one of them is empty. -/
def collectFrom (position : Nat) : List (Option Entry) → Except Error (List Entry)
  | [] => .ok []
  | none :: _ => .error (.worker s!"no result for entry {position}")
  | some entry :: rest => (collectFrom (position + 1) rest).map (entry :: ·)

/-- The work on a batch before any step. -/
def Work.initial (passphrases : List Bytes) (network : Network) (concurrency : Nat) : Work where
  waiting := tasks passphrases
  semaphore := ⟨max concurrency 1, false⟩
  active := []
  finished := []
  slots := List.replicate passphrases.length none
  log := [.batchStarted passphrases.length concurrency network]

/-- The state in which a batch begins. -/
def start (keys : List ExtendedKey) (passphrases : List Bytes) (network : Network)
    (concurrency : Nat) : State :=
  match Cosigners.checkCount keys with
  | .error error => .returned (.error error) []
  | .ok _ =>
    if permitLimit < concurrency then .abandoned []
    else .working (.initial passphrases network concurrency)

/-! ## Steps -/

/-- What a task reports while it works: the address that it derives. -/
def Entry.taskEvents (entry : Entry) : List LogEvent :=
  match entry.result with
  | .ok address => [.depositDerived address address.network]
  | .error _ => []

/-- What the dispatcher reports of an entry that it joins: its error. -/
def Entry.joinEvents (entry : Entry) (position : Nat) : List LogEvent :=
  match entry.result with
  | .ok _ => []
  | .error error => [.entryFailed position error]

inductive Action where
  | spawn
  | finish
  | join
  | conclude
deriving DecidableEq

inductive Step (keys : List ExtendedKey) (network : Network) : State → Action → State → Prop where
  | spawn {task waiting permits active finished slots log} :
      Step keys network
        (.working ⟨task :: waiting, ⟨permits + 1, false⟩, active, finished, slots, log⟩) .spawn
        (.working ⟨waiting, ⟨permits, false⟩, active ++ [task], finished, slots, log⟩)
  | spawnRefused {task waiting permits active finished slots log} :
      Step keys network
        (.working ⟨task :: waiting, ⟨permits, true⟩, active, finished, slots, log⟩) .spawn
        (.returned (.error (.worker "semaphore closed")) log)
  | finish {waiting permits closed before task after finished slots log} :
      Step keys network
        (.working ⟨waiting, ⟨permits, closed⟩, before ++ task :: after, finished, slots, log⟩)
        .finish
        (.working ⟨waiting, ⟨permits + 1, closed⟩, before ++ after,
          finished ++ [.ok (task.position, task.entry keys network)], slots,
          log ++ (task.entry keys network).taskEvents⟩)
  | join {semaphore active before position entry after slots log}
      (inside : position < slots.length) :
      Step keys network
        (.working ⟨[], semaphore, active, before ++ .ok (position, entry) :: after, slots, log⟩)
        .join
        (.working ⟨[], semaphore, active, before ++ after, slots.set position (some entry),
          log ++ entry.joinEvents position⟩)
  | joinOutside {semaphore active before position entry after slots log}
      (outside : slots.length ≤ position) :
      Step keys network
        (.working ⟨[], semaphore, active, before ++ .ok (position, entry) :: after, slots, log⟩)
        .join
        (.abandoned (log ++ entry.joinEvents position))
  | joinFailed {semaphore active before reason after slots log} :
      Step keys network
        (.working ⟨[], semaphore, active, before ++ .error reason :: after, slots, log⟩) .join
        (.returned (.error (.worker reason)) log)
  | conclude {semaphore slots log} :
      Step keys network (.working ⟨[], semaphore, [], [], slots, log⟩) .conclude
        (.returned (collectFrom 0 slots) log)

/-- No step can be taken any more. -/
def Stuck (keys : List ExtendedKey) (network : Network) (state : State) : Prop :=
  ∀ action next, ¬ Step keys network state action next

/-! ## Runs -/

/-- A sequence of steps from one state to another. -/
inductive Run (keys : List ExtendedKey) (network : Network) :
    State → List Action → State → Prop where
  | refl {state} : Run keys network state [] state
  | tail {state actions middle action next} :
      Run keys network state actions middle → Step keys network middle action next →
      Run keys network state (actions ++ [action]) next

theorem Run.trans {keys : List ExtendedKey} {network : Network} {state middle next : State}
    {actions actions' : List Action} (h : Run keys network state actions middle)
    (h' : Run keys network middle actions' next) :
    Run keys network state (actions ++ actions') next := by
  induction h' with
  | refl => simpa using h
  | tail _ hstep ih =>
    rw [← List.append_assoc]
    exact ih.tail hstep

/-- A run takes no step from a state that has none. -/
theorem Run.of_stuck {keys : List ExtendedKey} {network : Network} {state next : State}
    {actions : List Action} (hstuck : Stuck keys network state)
    (h : Run keys network state actions next) : actions = [] ∧ next = state := by
  induction h with
  | refl => exact ⟨rfl, rfl⟩
  | tail _ hstep ih =>
    obtain ⟨-, rfl⟩ := ih
    exact absurd hstep (hstuck _ _)

/-- A state that has been returned is the last one. -/
theorem Run.of_returned {keys : List ExtendedKey} {network : Network}
    {result : Except Error (List Entry)} {log : List LogEvent} {actions : List Action}
    {state : State} (h : Run keys network (.returned result log) actions state) :
    actions = [] ∧ state = .returned result log :=
  h.of_stuck nofun

/-- So is a state that was given up. -/
theorem Run.of_abandoned {keys : List ExtendedKey} {network : Network} {log : List LogEvent}
    {actions : List Action} {state : State} (h : Run keys network (.abandoned log) actions state) :
    actions = [] ∧ state = .abandoned log :=
  h.of_stuck nofun

end TwoOfThree.Batch
