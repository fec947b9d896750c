-- SUMMARY: When it makes no difference on which side of the command options stand.
import TwoOfThree.Proofs.CommandLine.Lines

/-!
# The placement of options

The options of the whole program may stand before the command or after it. For the
settings file and the network the side makes no difference, and neither does it for
the keys if all of them stand on one side. Keys before the command are not in effect
if there are keys after it, so keys on both sides are read otherwise than all of them
after the command.
-/

namespace TwoOfThree.CommandLine

theorem head?_append_of_length {init rest : List α} (h : (init ++ rest).length ≤ 1) :
    (rest.head? <|> init.head?) = (init ++ rest).head? := by
  rcases head?_eq_none_or h with hnone | hnone
  · rw [List.head?_append, hnone, Option.none_or]
    cases rest.head? <;> rfl
  · rw [List.head?_append, hnone, Option.or_none]
    rfl

namespace Line

/-- The keys in effect: those after the command if there are any, or else those before it. -/
def keysInEffect (line : Line) : List String :=
  if CommandLine.values .key line.after = [] then CommandLine.values .key line.before
  else CommandLine.values .key line.after

/-- What a line for this command comes to with these keys. A settings file that the environment
names by the empty path is an error. -/
def answer (line : Line) (environment : Option String) (command : Command) (keys : List String) :
    Except Usage Invocation :=
  if environment = some "" then .error .missingValue
  else .ok ⟨(line.values .config).head? <|> environment, ⟨(line.values .network).head?, keys⟩,
    command⟩

/-- The other line has all options of the whole program after the command, each with its values in
the order that they have on the line. -/
structure MovesOptions (line moved : Line) : Prop where
  before : moved.before = []
  values : ∀ option, option ≠ .concurrency → moved.values option = line.values option

variable {line moved : Line} {command : Command}

theorem Writes.parse_eq_answer (h : line.Writes command) (environment : Option String) :
    parse environment line.words = line.answer environment command line.keysInEffect := by
  have hkeys : (if (line.givenAfter command).keys.isEmpty then line.givenBefore.keys
      else (line.givenAfter command).keys) = line.keysInEffect := by
    simp only [keysInEffect, List.isEmpty_iff]
    rfl
  rw [h.parse_eq, answer, combine, hkeys, values, values, ← head?_append_of_length h.config,
    ← head?_append_of_length h.network]
  rfl

/-- Where all keys stand after the command, all of them are in effect. -/
theorem MovesOptions.keysInEffect_eq (h : line.MovesOptions moved) :
    moved.keysInEffect = line.values .key := by
  rw [← h.values .key (by decide), keysInEffect, Line.values, h.before]
  split
  · next hafter =>
    rw [hafter]
    rfl
  · rfl

theorem MovesOptions.answer_eq (h : line.MovesOptions moved) (environment : Option String)
    (command : Command) (keys : List String) :
    moved.answer environment command keys = line.answer environment command keys := by
  rw [answer, answer, h.values .config (by decide), h.values .network (by decide)]

/-- The keys in effect are all keys unless there are some on both sides. -/
theorem keysInEffect_eq_iff (line : Line) :
    line.keysInEffect = line.values .key ↔
      CommandLine.values .key line.before = [] ∨ CommandLine.values .key line.after = [] := by
  rw [keysInEffect, Line.values]
  split
  · next hafter => simp [hafter]
  · next hafter => rw [or_iff_left hafter, List.self_eq_append_left]

theorem answer_inj {environment : Option String} {keys keys' : List String} :
    line.answer environment command keys = line.answer environment command keys' ↔
      environment = some "" ∨ keys = keys' := by
  unfold answer
  by_cases henvironment : environment = some "" <;> simp [henvironment]

end Line

/-- A line is read as its command with its settings file and network, whichever side of the command
they stand on, and with the keys in effect. It is read like the line that has all of its options
after the command if and only if there are no keys on one of the sides, or the environment rules out
both. -/
theorem parse_placement {line moved : Line} {command : Command} (h : line.Writes command)
    (hmoved : moved.Writes command) (hmoves : line.MovesOptions moved)
    (environment : Option String) :
    parse environment line.words = line.answer environment command line.keysInEffect ∧
      parse environment moved.words = line.answer environment command (line.values .key) ∧
      (parse environment line.words = parse environment moved.words ↔
        environment = some "" ∨ values .key line.before = [] ∨ values .key line.after = []) := by
  have hline := h.parse_eq_answer environment
  have hanswer : parse environment moved.words
      = line.answer environment command (line.values .key) := by
    rw [hmoved.parse_eq_answer, hmoves.keysInEffect_eq, hmoves.answer_eq]
  refine ⟨hline, hanswer, ?_⟩
  rw [hline, hanswer, Line.answer_inj, line.keysInEffect_eq_iff]

theorem parse_placement_keys_before :
    let line : Line := ⟨[.option .apart .key "A", .option .joined .network "test"], .address,
      [.argument "p", .json, .option .apart .config "c"], none⟩
    let moved : Line := ⟨[], .address, [.json, .option .joined .key "A",
      .option .apart .network "test", .option .joined .config "c"], some ["p"]⟩
    line.Writes (.address "p" true) ∧ moved.Writes (.address "p" true) ∧
      line.MovesOptions moved ∧ parse none line.words = parse none moved.words := by
  intro line moved
  have h : line.Writes (.address "p" true) := ⟨by decide, rfl, by decide, by decide, by decide,
    by decide, rfl, rfl, rfl, trivial⟩
  have hmoved : moved.Writes (.address "p" true) := ⟨by decide, rfl, by decide, by decide,
    by decide, by decide, rfl, rfl, rfl, trivial⟩
  have hmoves : line.MovesOptions moved := ⟨rfl, fun option _ => by cases option <;> rfl⟩
  exact ⟨h, hmoved, hmoves, (parse_placement h hmoved hmoves none).2.2.2 (.inr (.inr rfl))⟩

/-- A key before the command is lost to those after it. -/
theorem parse_keys_on_both_sides :
    parse none ["--xpub", "A", "address", "p", "--xpub", "B", "--xpub", "C"]
        = .ok ⟨none, ⟨none, ["B", "C"]⟩, .address "p" false⟩ ∧
      parse none ["address", "p", "--xpub", "A", "--xpub", "B", "--xpub", "C"]
        = .ok ⟨none, ⟨none, ["A", "B", "C"]⟩, .address "p" false⟩ ∧
      parse none ["--xpub", "A", "address", "p", "--xpub", "B", "--xpub", "C"]
        ≠ parse none ["address", "p", "--xpub", "A", "--xpub", "B", "--xpub", "C"] := by
  have hsplit : parse none ["--xpub", "A", "address", "p", "--xpub", "B", "--xpub", "C"]
      = .ok ⟨none, ⟨none, ["B", "C"]⟩, .address "p" false⟩ := by rfl
  have hgathered : parse none ["address", "p", "--xpub", "A", "--xpub", "B", "--xpub", "C"]
      = .ok ⟨none, ⟨none, ["A", "B", "C"]⟩, .address "p" false⟩ := by rfl
  refine ⟨hsplit, hgathered, ?_⟩
  rw [hsplit, hgathered]
  simp

end TwoOfThree.CommandLine
