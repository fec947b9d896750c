-- SUMMARY: What can stand at a place of a command line, the words it is written in, and what it gives.
import TwoOfThree.CommandLine.Arguments

/-!
# The items of a command line

An option has its value in its own word or in the next one, and the concurrency
has a letter besides its name. Whatever the words, items give a place the same
values: each option but the keys once, the keys in their order, and one argument.
-/

namespace TwoOfThree.CommandLine

/-! ## Items and their words -/

def Opt.name : Opt → String
  | .config => "config"
  | .network => "network"
  | .key => "xpub"
  | .concurrency => "concurrency"

/-- An option and its value in one word. -/
def optionWord (name value : String) : String := "--" ++ name ++ "=" ++ value

/-- How an option and its value are written. -/
inductive Spelling where
  /-- As `--name=value`. -/
  | joined
  /-- As `--name value`. -/
  | apart
  /-- As `-cvalue`. -/
  | letterJoined
  /-- As `-c=value`. -/
  | letterEquals
  /-- As `-c value`. -/
  | letterApart
deriving DecidableEq, Repr

def Spelling.words (option : Opt) (value : String) : Spelling → List String
  | .joined => [optionWord option.name value]
  | .apart => ["--" ++ option.name, value]
  | .letterJoined => ["-c" ++ value]
  | .letterEquals => ["-c=" ++ value]
  | .letterApart => ["-c", value]

/-- The word is nothing but text. -/
def IsPlain (text : String) : Prop := Word.ofText text = .plain text

instance (text : String) : Decidable (IsPlain text) := decEq _ _

theorem IsPlain.ofText {text : String} (h : IsPlain text) : Word.ofText text = .plain text := h

/-- An option can be written in this way with this value. -/
def Spelling.Fits (option : Opt) (value : String) : Spelling → Prop
  | .joined => True
  | .apart => IsPlain value
  | .letterJoined => option = .concurrency ∧ attachedValue value.toList = some value
  | .letterEquals => option = .concurrency
  | .letterApart => option = .concurrency ∧ IsPlain value

instance (option : Opt) (value : String) :
    (spelling : Spelling) → Decidable (spelling.Fits option value)
  | .joined => isTrue trivial
  | .apart => inferInstanceAs (Decidable (IsPlain value))
  | .letterJoined =>
    inferInstanceAs (Decidable (option = .concurrency ∧ attachedValue value.toList = some value))
  | .letterEquals => inferInstanceAs (Decidable (option = .concurrency))
  | .letterApart => inferInstanceAs (Decidable (option = .concurrency ∧ IsPlain value))

inductive Item where
  | option (spelling : Spelling) (option : Opt) (value : String)
  | json
  | argument (text : String)
deriving DecidableEq, Repr

namespace Item

def words : Item → List String
  | .option spelling opt value => spelling.words opt value
  | .json => ["--json"]
  | .argument text => [text]

/-- The item can stand at a place. -/
def Fits (place : Place) : Item → Prop
  | .option spelling opt value => place.option? opt.name = some opt ∧ spelling.Fits opt value
  | .json => place.flag? "json" = some .json
  | .argument text => place.takesArgument = true ∧ IsPlain text

instance (place : Place) : (item : Item) → Decidable (item.Fits place)
  | .option spelling opt value =>
    inferInstanceAs (Decidable (place.option? opt.name = some opt ∧ spelling.Fits opt value))
  | .json => inferInstanceAs (Decidable (place.flag? "json" = some .json))
  | .argument text => inferInstanceAs (Decidable (place.takesArgument = true ∧ IsPlain text))

/-- What is given before and after an item. Only keys can be given more than once. -/
inductive Adds (place : Place) : Item → Given → Given → Prop where
  | config {spelling : Spelling} {value : String} {given : Given} (first : given.config = none)
      (named : value ≠ "") :
      Adds place (.option spelling .config value) given { given with config := some value }
  | network {spelling : Spelling} {value : String} {given : Given} (first : given.network = none) :
      Adds place (.option spelling .network value) given { given with network := some value }
  | key {spelling : Spelling} {value : String} {given : Given} :
      Adds place (.option spelling .key value) given { given with keys := given.keys ++ [value] }
  | concurrency {spelling : Spelling} {value : String} {n : Nat} {given : Given}
      (first : given.concurrency = none) (reads : readConcurrency value = some n) :
      Adds place (.option spelling .concurrency value) given { given with concurrency := some n }
  | json {given : Given} (first : given.json = false) :
      Adds place .json given { given with json := true }
  | argument {text : String} {given : Given} (first : given.argument = none)
      (named : place.takesFile = true → text ≠ "") :
      Adds place (.argument text) given { given with argument := some text }

end Item

/-! ## Words of options -/

theorem toList_optionWord (name value : String) :
    (optionWord name value).toList = '-' :: '-' :: (name.toList ++ '=' :: value.toList) := by
  simp [optionWord]

theorem ofText_optionWord {name : String} (h : '=' ∉ name.toList) (value : String) :
    Word.ofText (optionWord name value) = .long name (some value) := by
  have hall : ∀ c ∈ name.toList, decide (c ≠ '=') = true := fun c hc =>
    decide_eq_true fun heq => h (heq ▸ hc)
  have htake : (name.toList ++ '=' :: value.toList).takeWhile (· ≠ '=') = name.toList := by
    rw [List.takeWhile_append_of_pos hall]
    simp
  have hdrop : (name.toList ++ '=' :: value.toList).dropWhile (· ≠ '=') = '=' :: value.toList := by
    rw [List.dropWhile_append_of_pos hall]
    simp
  obtain ⟨c, rest, hcons⟩ := List.exists_cons_of_ne_nil
    (List.append_ne_nil_of_right_ne_nil name.toList (List.cons_ne_nil '=' value.toList))
  rw [hcons] at htake hdrop
  rw [Word.ofText, toList_optionWord, hcons]
  simp only [htake, hdrop, String.ofList_toList]

theorem ofText_name (option : Opt) :
    Word.ofText ("--" ++ option.name) = .long option.name none := by
  cases option <;> decide

theorem ofText_letter (value : String) :
    Word.ofText ("-c" ++ value) = .short ('c' :: value.toList) := by
  have hlist : ("-c" ++ value).toList = '-' :: 'c' :: value.toList := by simp
  rw [Word.ofText, hlist]
  cases value.toList <;> rfl

/-- A word that begins with a dash is no command. -/
theorem not_command_of_dash {word : String} (h : word.toList.head? = some '-') :
    word ≠ helpCommand ∧ CommandName.ofText? word = none := by
  have hne (text : String) (htext : text.toList.head? ≠ some '-') : word ≠ text := by
    rintro rfl
    exact htext h
  refine ⟨hne _ (by decide), ?_⟩
  simp only [CommandName.ofText?, if_neg (hne "path" (by decide)),
    if_neg (hne "address" (by decide)), if_neg (hne "pubkeys" (by decide)),
    if_neg (hne "new" (by decide)), if_neg (hne "batch" (by decide))]

/-- Words for an option and its value at a place: the first one begins the option, and if it does
not hold the value then the second one does. -/
inductive Spelt (place : Place) (option : Opt) (value : String) : List String → Prop where
  | inOne {word : String} (dash : word.toList.head? = some '-')
      (begins : ∀ scan : Scan, scan.trailing = false →
        scan.readWord place word = scan.beginOption place option (some value)) :
      Spelt place option value [word]
  | inTwo {word : String} (dash : word.toList.head? = some '-')
      (begins : ∀ scan : Scan, scan.trailing = false →
        scan.readWord place word = scan.beginOption place option none)
      (plain : IsPlain value) :
      Spelt place option value [word, value]

section

variable {place : Place} {scan : Scan} {option : Opt}

theorem readWord_long {word : String} {value : Option String} (htrailing : scan.trailing = false)
    (hword : Word.ofText word = .long option.name value)
    (hoption : place.option? option.name = some option) :
    scan.readWord place word = scan.beginOption place option value := by
  simp only [Scan.readWord, htrailing, Bool.false_eq_true, if_false, hword, Scan.readLong, hoption]

theorem readWord_letter {word : String} {cs : List Char} (htrailing : scan.trailing = false)
    (hword : Word.ofText word = .short ('c' :: cs)) (hbatch : place = some .batch) :
    scan.readWord place word = scan.beginOption place .concurrency (attachedValue cs) := by
  simp only [Scan.readWord, htrailing, Bool.false_eq_true, if_false, hword, Scan.readShort, hbatch,
    if_true]

theorem eq_batch_of_concurrency (h : place.option? "concurrency" = some .concurrency) :
    place = some .batch := by
  simpa [Place.option?] using h

theorem Spelling.spelt {spelling : Spelling} {value : String}
    (hoption : place.option? option.name = some option) (hfits : spelling.Fits option value) :
    Spelt place option value (spelling.words option value) := by
  cases spelling with
  | joined =>
    have hname : '=' ∉ option.name.toList := by cases option <;> decide
    refine .inOne (by rw [toList_optionWord]; rfl) ?_
    intro scan htrailing
    exact readWord_long htrailing (ofText_optionWord hname value) hoption
  | apart =>
    refine .inTwo (by simp) ?_ hfits
    intro scan htrailing
    exact readWord_long htrailing (ofText_name option) hoption
  | letterJoined =>
    obtain ⟨rfl, hattached⟩ := hfits
    refine .inOne (by simp) ?_
    intro scan htrailing
    rw [readWord_letter htrailing (ofText_letter value) (eq_batch_of_concurrency hoption),
      hattached]
  | letterEquals =>
    obtain rfl := hfits
    refine .inOne (by simp) ?_
    intro scan htrailing
    have hletter : "-c=" ++ value = "-c" ++ ("=" ++ value) := by rw [← String.append_assoc]; rfl
    have hvalue : attachedValue ("=" ++ value).toList = some value := by simp [attachedValue]
    rw [hletter, readWord_letter htrailing (ofText_letter _) (eq_batch_of_concurrency hoption),
      hvalue]
  | letterApart =>
    obtain ⟨rfl, hplain⟩ := hfits
    refine .inTwo (by decide) ?_ hplain
    intro scan htrailing
    exact readWord_letter htrailing (ofText_letter "") (eq_batch_of_concurrency hoption)

end

/-! ## Lists of items -/

/-- The values that an option is given, in the order of the items. -/
def values (option : Opt) : List Item → List String
  | [] => []
  | .option _ opt value :: rest =>
    if opt = option then value :: values option rest else values option rest
  | _ :: rest => values option rest

theorem values_cons_self (spelling : Spelling) (option : Opt) (value : String)
    (rest : List Item) :
    values option (.option spelling option value :: rest) = value :: values option rest :=
  if_pos rfl

theorem values_append (option : Opt) (init rest : List Item) :
    values option (init ++ rest) = values option init ++ values option rest := by
  induction init with
  | nil => rfl
  | cons item init ih =>
    cases item with
    | option spelling opt value =>
      simp only [List.cons_append, values, ih]
      split <;> rfl
    | _ => exact ih

theorem values_map (option opt : Opt) (spelling : Spelling) (list : List String) :
    values option (list.map (.option spelling opt)) = if opt = option then list else [] := by
  induction list with
  | nil => exact (ite_self _).symm
  | cons value rest ih =>
    rw [List.map_cons, values, ih]
    split <;> rfl

/-- The arguments among the items. -/
def texts : List Item → List String
  | [] => []
  | .argument text :: rest => text :: texts rest
  | _ :: rest => texts rest

/-- What is given after some items is what was given before, and the items. -/
structure Gives (place : Place) (given : Given) (items : List Item) (given' : Given) : Prop where
  config : given'.config.toList = given.config.toList ++ values .config items
  network : given'.network.toList = given.network.toList ++ values .network items
  keys : given'.keys = given.keys ++ values .key items
  concurrency : (given'.concurrency.map some).toList
    = (given.concurrency.map some).toList ++ (values .concurrency items).map readConcurrency
  json : given'.json.toNat = given.json.toNat + items.count .json
  argument : given'.argument.toList = given.argument.toList ++ texts items
  config_named : given'.config ≠ some ""
  file_named : place.takesFile = true → given'.argument ≠ some ""

/-- An option has room for one value. -/
theorem toList_eq_append_cons {a : α} {option : Option α} {init rest : List α}
    (h : option.toList = init ++ a :: rest) : init = [] ∧ option = some a ∧ rest = [] := by
  cases option with
  | none => simp at h
  | some b =>
    cases init with
    | nil => simpa using h
    | cons c init => simp at h

theorem eq_of_toList_eq {option option' : Option α} (h : option.toList = option'.toList) :
    option = option' := by
  cases option <;> cases option' <;> simp_all

section

variable {place : Place} {given given' : Given}

theorem Gives.eq_of_nil (h : Gives place given [] given') : given' = given := by
  obtain ⟨config, network, keys, concurrency, json, argument⟩ := given
  obtain ⟨config', network', keys', concurrency', json', argument'⟩ := given'
  obtain rfl : config' = config := eq_of_toList_eq (by simpa [values] using h.config)
  obtain rfl : network' = network := eq_of_toList_eq (by simpa [values] using h.network)
  obtain rfl : keys' = keys := by simpa [values] using h.keys
  obtain rfl : concurrency' = concurrency := by
    have hmap : concurrency'.map some = concurrency.map some :=
      eq_of_toList_eq (by simpa [values] using h.concurrency)
    exact (Option.map_inj_right fun _ _ => Option.some.inj).1 hmap
  obtain rfl : json' = json := by
    have hinj : ∀ a b : Bool, a.toNat = b.toNat → a = b := by decide
    exact hinj _ _ h.json
  obtain rfl : argument' = argument := eq_of_toList_eq (by simpa [texts] using h.argument)
  rfl

theorem Gives.exists_adds {item : Item} {rest : List Item}
    (h : Gives place given (item :: rest) given') :
    ∃ mid, item.Adds place given mid ∧ Gives place mid rest given' := by
  -- What may be given once is in the end what the first item says, so it was not given before.
  cases item with
  | option spelling opt value =>
    cases opt with
    | config =>
      obtain ⟨hnone, hvalue, _⟩ := toList_eq_append_cons h.config
      have first : given.config = none := Option.toList_eq_nil_iff.1 hnone
      refine ⟨_, .config first fun heq => h.config_named (heq ▸ hvalue), ?_⟩
      exact { h with config := by rw [h.config, first]; rfl }
    | network =>
      obtain ⟨hnone, _⟩ := toList_eq_append_cons h.network
      have first : given.network = none := Option.toList_eq_nil_iff.1 hnone
      refine ⟨_, .network first, ?_⟩
      exact { h with network := by rw [h.network, first]; rfl }
    | key =>
      refine ⟨_, .key, ?_⟩
      exact { h with keys := by rw [h.keys, values_cons_self, List.append_assoc]; rfl }
    | concurrency =>
      obtain ⟨hnone, hvalue, _⟩ := toList_eq_append_cons h.concurrency
      have first : given.concurrency = none :=
        Option.map_eq_none_iff.1 (Option.toList_eq_nil_iff.1 hnone)
      obtain ⟨n, hn, reads⟩ := Option.map_eq_some_iff.1 hvalue
      refine ⟨_, .concurrency first reads.symm, ?_⟩
      have hconcurrency := h.concurrency
      rw [first, values_cons_self, List.map_cons, ← reads] at hconcurrency
      exact { h with concurrency := hconcurrency }
  | json =>
    have hjson := h.json
    rw [List.count_cons_self] at hjson
    have hfirst : given.json = false := by
      have hle := Bool.toNat_le given'.json
      rw [← Bool.toNat_eq_zero]
      omega
    refine ⟨_, .json hfirst, ?_⟩
    exact { h with json := by rw [hjson, hfirst, Bool.toNat_false, Bool.toNat_true]; omega }
  | argument text =>
    obtain ⟨hnone, htext, _⟩ := toList_eq_append_cons h.argument
    have first : given.argument = none := Option.toList_eq_nil_iff.1 hnone
    refine ⟨_, .argument first fun hfile heq => h.file_named hfile (heq ▸ htext), ?_⟩
    exact { h with argument := by rw [h.argument, first]; rfl }

end

end TwoOfThree.CommandLine
