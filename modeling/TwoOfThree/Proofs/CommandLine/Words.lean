-- SUMMARY: Every invocation has words that are read as that invocation.
import TwoOfThree.Proofs.CommandLine.Lines

/-!
# The words of an invocation

Options are written in front of the command, each in one word with its value, and
the argument of the command behind `--`, so that it may be any text at all. Such
words are read as the invocation that they were written for: with these options,
this command, and the settings file that the environment names if no option does.
-/

namespace TwoOfThree.CommandLine

/-! ## Numbers -/

theorem digitValue?_of_isDigit {c : Char} (h : c.isDigit = true) :
    digitValue? c = some (c.toNat - '0'.toNat) := by
  rw [Char.isDigit, Bool.and_eq_true, decide_eq_true_eq, decide_eq_true_eq] at h
  exact if_pos h

theorem foldlM_digitValue? {cs : List Char} (h : ∀ c ∈ cs, c.isDigit = true) (n : Nat) :
    cs.foldlM (fun n c => return n * 10 + (← digitValue? c)) n = some (Nat.ofDigitChars 10 cs n) := by
  induction cs generalizing n with
  | nil => rfl
  | cons c rest ih =>
    rw [List.foldlM_cons, digitValue?_of_isDigit (h c List.mem_cons_self), Nat.ofDigitChars_cons,
      Nat.mul_comm 10 n]
    exact ih (fun c hc => h c (List.mem_cons_of_mem _ hc)) _

theorem readDigits_toDigits (n : Nat) : readDigits (Nat.toDigits 10 n) = some n := by
  have hdigits : ∀ c ∈ Nat.toDigits 10 n, c.isDigit = true := fun c hc =>
    Nat.isDigit_of_mem_toDigits (by decide) (by decide) hc
  have hne : (Nat.toDigits 10 n).isEmpty = false :=
    List.isEmpty_eq_false_iff.2 Nat.toDigits_ne_nil
  rw [readDigits, hne, if_neg Bool.false_ne_true, foldlM_digitValue? hdigits,
    Nat.ofDigitChars_ten_toDigits]

theorem readConcurrency_toString {n : Nat} (h : n < wordLimit) :
    readConcurrency (toString n) = some n := by
  have hplus : '+' ∉ Nat.toDigits 10 n := fun hmem =>
    absurd (Nat.isDigit_of_mem_toDigits (by decide) (by decide) hmem) (by decide)
  have hchars : (toString n).toList = Nat.toDigits 10 n := Nat.toList_repr
  rw [readConcurrency, hchars]
  split
  · next rest heq =>
    rw [heq] at hplus
    exact absurd List.mem_cons_self hplus
  · rw [readDigits_toDigits]
    exact if_pos h

/-! ## Words -/

/-- The words of the options for a settings file and overrides. -/
def optionWords (config : Option String) (overrides : Overrides) : List String :=
  (config.map (optionWord "config")).toList ++
    ((overrides.network.map (optionWord "network")).toList ++
      overrides.keys.map (optionWord "xpub"))

namespace Command

/-- The words behind the name of a command: its options, and then its argument. -/
def arguments : Command → List String
  | .path passphrase => ["--", passphrase]
  | .address passphrase json => (if json then ["--json"] else []) ++ ["--", passphrase]
  | .pubkeys passphrase => ["--", passphrase]
  | .new json => if json then ["--json"] else []
  | .batch file concurrency =>
    (concurrency.map fun n => optionWord "concurrency" (toString n)).toList ++ ["--", file]

def words (command : Command) : List String := command.name.text :: command.arguments

end Command

/-! ## Items -/

/-- The items that stand for a settings file and overrides. -/
def optionItems (config : Option String) (overrides : Overrides) : List Item :=
  config.toList.map (.option .joined .config) ++
    (overrides.network.toList.map (.option .joined .network) ++
      overrides.keys.map (.option .joined .key))

/-- The options of a command. -/
def Command.items : Command → List Item
  | .address _ json => if json then [.json] else []
  | .new json => if json then [.json] else []
  | .batch _ concurrency =>
    (concurrency.map fun n => .option .joined .concurrency (toString n)).toList
  | _ => []

/-- The items of an invocation. -/
def Command.line (command : Command) (config : Option String) (overrides : Overrides) : Line where
  before := optionItems config overrides
  name := command.name
  after := command.items
  trailing := command.given.argument.map ([·])

section

variable {config : Option String} {overrides : Overrides} {command : Command}

theorem flatMap_words_joined (option : Opt) (values : List String) :
    (values.map (Item.option .joined option)).flatMap Item.words
      = values.map (optionWord option.name) := by
  induction values with
  | nil => rfl
  | cons value rest ih =>
    rw [List.map_cons, List.flatMap_cons, ih]
    rfl

theorem flatMap_words_optionItems (config : Option String) (overrides : Overrides) :
    (optionItems config overrides).flatMap Item.words = optionWords config overrides := by
  rw [optionItems, List.flatMap_append, List.flatMap_append, flatMap_words_joined,
    flatMap_words_joined, flatMap_words_joined, ← Option.toList_map, ← Option.toList_map]
  rfl

theorem words_line :
    (command.line config overrides).words = optionWords config overrides ++ command.words := by
  have hcommand : command.items.flatMap Item.words ++ (command.line config overrides).trailingWords
      = command.arguments := by
    cases command with
    | path passphrase => rfl
    | address passphrase json => cases json <;> rfl
    | pubkeys passphrase => rfl
    | new json => cases json <;> rfl
    | batch file concurrency => cases concurrency <;> rfl
  rw [Line.words, Command.words, ← hcommand, ← flatMap_words_optionItems]
  rfl

theorem values_optionItems (option : Opt) :
    values option (optionItems config overrides) = match option with
      | .config => config.toList
      | .network => overrides.network.toList
      | .key => overrides.keys
      | .concurrency => [] := by
  rw [optionItems, values_append, values_append, values_map, values_map, values_map]
  cases option <;> simp

/-- No option of the whole program is among those of a command. -/
theorem values_items {option : Opt} (h : option ≠ .concurrency) :
    values option command.items = [] := by
  cases command with
  | address passphrase json => cases json <;> rfl
  | new json => cases json <;> rfl
  | batch file concurrency =>
    cases concurrency with
    | none => rfl
    | some n => exact if_neg h.symm
  | _ => rfl

theorem values_line {option : Opt} (h : option ≠ .concurrency) :
    (command.line config overrides).values option
      = values option (optionItems config overrides) := by
  rw [Line.values]
  show _ ++ values option command.items = _
  rw [values_items h, List.append_nil]
  rfl

theorem fits_optionItems : ∀ item ∈ optionItems config overrides, item.Fits none := by
  intro item hmem
  rw [optionItems, List.mem_append, List.mem_append, List.mem_map, List.mem_map, List.mem_map]
    at hmem
  rcases hmem with ⟨value, _, rfl⟩ | ⟨value, _, rfl⟩ | ⟨value, _, rfl⟩ <;> exact ⟨rfl, trivial⟩

/-- The items of a command stand where they can, and give what it needs. -/
theorem gives_items (h : command.IsWritable) :
    (∀ item ∈ command.items, item.Fits (some command.name)) ∧
      (command.given.concurrency.map some).toList
        = (values .concurrency command.items).map readConcurrency ∧
      command.given.json.toNat = command.items.count .json ∧ texts command.items = [] := by
  cases command with
  | path passphrase => exact ⟨nofun, rfl, rfl, rfl⟩
  | address passphrase json =>
    cases json with
    | false => exact ⟨nofun, rfl, rfl, rfl⟩
    | true => exact ⟨List.forall_mem_singleton.2 rfl, rfl, rfl, rfl⟩
  | pubkeys passphrase => exact ⟨nofun, rfl, rfl, rfl⟩
  | new json =>
    cases json with
    | false => exact ⟨nofun, rfl, rfl, rfl⟩
    | true => exact ⟨List.forall_mem_singleton.2 rfl, rfl, rfl, rfl⟩
  | batch file concurrency =>
    cases concurrency with
    | none => exact ⟨nofun, rfl, rfl, rfl⟩
    | some n =>
      refine ⟨List.forall_mem_singleton.2 ⟨rfl, trivial⟩, ?_, rfl, rfl⟩
      show [some n] = [readConcurrency (toString n)]
      rw [readConcurrency_toString (h.2 n rfl)]

theorem writes_line (hconfig : config ≠ some "") (h : command.IsWritable) :
    (command.line config overrides).Writes command := by
  obtain ⟨hfits, hconcurrency, hjson, htexts⟩ := gives_items h
  exact {
    before := fits_optionItems
    name := rfl
    after := hfits
    config := by
      rw [values_line (by decide), values_optionItems]
      exact Option.length_toList_le
    config_named := by
      rw [values_line (by decide), values_optionItems]
      exact fun hmem => hconfig (Option.mem_toList.1 hmem)
    network := by
      rw [values_line (by decide), values_optionItems]
      exact Option.length_toList_le
    concurrency := hconcurrency
    json := hjson
    argument := by
      show _ = texts command.items ++ (command.given.argument.map ([·])).getD []
      rw [htexts]
      cases command.given.argument <;> rfl
    writable := h }

end

/-! ## Reading all words -/

/-- The words of an invocation are read as it, with the settings file of the environment if the
options name none. -/
theorem parse_words {environment config : Option String} (henvironment : environment ≠ some "")
    (hconfig : config ≠ some "") (overrides : Overrides) {command : Command}
    (h : command.IsWritable) :
    parse environment (optionWords config overrides ++ command.words)
      = .ok ⟨config <|> environment, overrides, command⟩ := by
  rw [← words_line, (writes_line hconfig h).parse_eq, if_neg henvironment]
  have hbefore : (command.line config overrides).givenBefore
      = { Given.nothing with
          config := config, network := overrides.network, keys := overrides.keys } := by
    simp only [Line.givenBefore, Command.line, values_optionItems, Option.head?_toList]
  have hafter : (command.line config overrides).givenAfter command
      = command.givenWith none none [] := by
    simp only [Line.givenAfter, Command.line, values_items, ne_eq, reduceCtorEq, not_false_eq_true,
      List.head?_nil]
  rw [hbefore, hafter]
  rfl

end TwoOfThree.CommandLine
