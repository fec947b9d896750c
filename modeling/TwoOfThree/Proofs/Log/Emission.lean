-- SUMMARY: What whoever reads the log sees of an event, and logs in which the same events are seen.
import TwoOfThree.Log

/-!
# Seeing a log

Whoever reads the log sees the level of an event, its message and its fields, and
not the values behind them: of an error only its message is seen. The order of
events can depend on a schedule, so logs are compared as collections.
-/

namespace TwoOfThree

/-- An event as it is seen. -/
structure Emission where
  level : String
  message : String
  /-- The names of the fields, in order, with their values. -/
  fields : List (String × String)
deriving DecidableEq

def LogEvent.emission : LogEvent → Emission
  | .depositDerived address network =>
    ⟨"DEBUG", "Derived multisig address",
      [("address", address.render), ("network", network.selector)]⟩
  | .batchStarted total concurrency network =>
    ⟨"DEBUG", "Starting batch derivation",
      [("concurrency", toString concurrency), ("network", network.selector),
        ("total", toString total)]⟩
  | .entryFailed position error =>
    ⟨"WARN", "Batch derivation failed for entry",
      [("error", error.message), ("position", toString position)]⟩
  | .cosignersLoaded count network =>
    ⟨"INFO", s!"Loaded {count} cosigner xpubs for network {network.selector}", []⟩
  | .configurationLoading path => ⟨"INFO", s!"Loading configuration from: {path}", []⟩
  | .batchAnnounced total concurrency =>
    ⟨"INFO", s!"Deriving {total} addresses with concurrency {concurrency}", []⟩
  | .entriesFailed count => ⟨"WARN", s!"{count} passphrases failed", []⟩

/-- An event that is seen, as one line. -/
def Emission.text (emission : Emission) : String :=
  emission.fields.foldl (fun text field => text ++ " " ++ field.1 ++ "=" ++ field.2)
    (emission.level ++ " " ++ emission.message)

/-- A line shows just what is seen of an event. -/
theorem LogEvent.render_eq (event : LogEvent) : event.render = event.emission.text := by
  -- what stands between two values in a line is one text, and several in an emission
  have hfield (text name value : String) :
      text ++ (" " ++ name ++ "=") ++ value = text ++ " " ++ name ++ "=" ++ value := by
    simp only [String.append_assoc]
  have hlast (text name value : String) :
      text ++ " " ++ (name ++ "=" ++ value) = text ++ " " ++ name ++ "=" ++ value := by
    simp only [String.append_assoc]
  have hpath (text a b : String) : text ++ a ++ b = text ++ (a ++ b) := String.append_assoc
  have hmessage (text a b c d : String) :
      text ++ a ++ b ++ c ++ d = text ++ (a ++ b ++ c ++ d) := by
    simp only [String.append_assoc]
  cases event with
  | depositDerived address network => exact hfield _ "network" _
  | batchStarted total concurrency network =>
    exact (hlast _ "total" _).trans
      (congrArg (· ++ " " ++ "total" ++ "=" ++ toString total) (hfield _ "network" _))
  | entryFailed position error => exact hfield _ "position" _
  | cosignersLoaded count network => exact hmessage "INFO " "Loaded " _ _ _
  | configurationLoading path => exact hpath "INFO " "Loading configuration from: " path
  | batchAnnounced total concurrency => exact hmessage "INFO " "Deriving " _ _ _
  | entriesFailed count => exact hpath "WARN " _ _

/-! ## The same events -/

/-- The same events are seen in both logs, each as often. -/
def SameEvents (log log' : List LogEvent) : Prop :=
  (log.map LogEvent.emission).Perm (log'.map LogEvent.emission)

namespace SameEvents

variable {log log' more more' : List LogEvent}

theorem refl (log : List LogEvent) : SameEvents log log := List.Perm.refl _

theorem of_perm (h : log.Perm log') : SameEvents log log' := List.Perm.map _ h

theorem symm (h : SameEvents log log') : SameEvents log' log := List.Perm.symm h

theorem trans {log'' : List LogEvent} (h : SameEvents log log') (h' : SameEvents log' log'') :
    SameEvents log log'' := List.Perm.trans h h'

theorem append (h : SameEvents log log') (h' : SameEvents more more') :
    SameEvents (log ++ more) (log' ++ more') := by
  rw [SameEvents, List.map_append, List.map_append]
  exact List.Perm.append h h'

end SameEvents

end TwoOfThree
