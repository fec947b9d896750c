-- SUMMARY: The events that a derivation reports, and computations that report them.
import TwoOfThree.Address
import TwoOfThree.Error

/-!
# Log events

A computation of type `Logged α` yields a value and the events on the way to it,
in order. An event is told by its level and message, followed by its fields in
the order of their names. No event holds a passphrase or a path.
-/

namespace TwoOfThree

inductive LogEvent where
  | depositDerived (address : Address) (network : Network)
  | batchStarted (total concurrency : Nat) (network : Network)
  | entryFailed (position : Nat) (error : Error)
  | cosignersLoaded (count : Nat) (network : Network)
  | configurationLoading (path : String)
  | batchAnnounced (total concurrency : Nat)
  | entriesFailed (count : Int32)
deriving DecidableEq

/-- An event as one line of text. -/
def LogEvent.render : LogEvent → String
  | .depositDerived address network =>
    s!"DEBUG Derived multisig address address={address.render} network={network.selector}"
  | .batchStarted total concurrency network =>
    s!"DEBUG Starting batch derivation concurrency={concurrency} network={network.selector} " ++
      s!"total={total}"
  | .entryFailed position error =>
    s!"WARN Batch derivation failed for entry error={error.message} position={position}"
  | .cosignersLoaded count network =>
    s!"INFO Loaded {count} cosigner xpubs for network {network.selector}"
  | .configurationLoading path => s!"INFO Loading configuration from: {path}"
  | .batchAnnounced total concurrency =>
    s!"INFO Deriving {total} addresses with concurrency {concurrency}"
  | .entriesFailed count => s!"WARN {count} passphrases failed"

/-- A value and the events on the way to it. -/
structure Logged (α : Type) where
  value : α
  events : List LogEvent
deriving DecidableEq

namespace Logged

instance : Monad Logged where
  pure value := ⟨value, []⟩
  bind x f := ⟨(f x.value).value, x.events ++ (f x.value).events⟩

/-- Report one event. -/
def report (event : LogEvent) : Logged Unit := ⟨(), [event]⟩

@[simp] theorem value_pure (a : α) : (pure a : Logged α).value = a := rfl

@[simp] theorem events_pure (a : α) : (pure a : Logged α).events = [] := rfl

@[simp] theorem value_bind (x : Logged α) (f : α → Logged β) :
    (x >>= f).value = (f x.value).value := rfl

@[simp] theorem events_bind (x : Logged α) (f : α → Logged β) :
    (x >>= f).events = x.events ++ (f x.value).events := rfl

end Logged

end TwoOfThree
