-- SUMMARY: What reading a whole command line gives, in terms of the items on it.
import TwoOfThree.Proofs.CommandLine.Reading

/-!
# Lines of items

A command line has items before the command, items after it, and perhaps words
behind `--`. The two places are read one after the other, and each gives the
values of its own items. Of the settings file and the network at most one of the
places has a value. Of the keys both may have some, and then those after the
command are in effect.
-/

namespace TwoOfThree.CommandLine

/-! ## Commands -/

def CommandName.text : CommandName → String
  | .path => "path"
  | .address => "address"
  | .pubkeys => "pubkeys"
  | .new => "new"
  | .batch => "batch"

theorem CommandName.ofText?_text (name : CommandName) : ofText? name.text = some name := by
  cases name <;> decide

theorem CommandName.text_ne_help (name : CommandName) : name.text ≠ helpCommand := by
  cases name <;> decide

namespace Command

def name : Command → CommandName
  | .path _ => .path
  | .address _ _ => .address
  | .pubkeys _ => .pubkeys
  | .new _ => .new
  | .batch _ _ => .batch

/-- A batch can be written if its file has a name and its concurrency is a number of 64 bits. -/
def IsWritable : Command → Prop
  | .batch file concurrency => file ≠ "" ∧ ∀ n ∈ concurrency, n < wordLimit
  | _ => True

/-- What the place behind a command gives. -/
def given : Command → Given
  | .path passphrase => { Given.nothing with argument := some passphrase }
  | .address passphrase json => { Given.nothing with json, argument := some passphrase }
  | .pubkeys passphrase => { Given.nothing with argument := some passphrase }
  | .new json => { Given.nothing with json }
  | .batch file concurrency => { Given.nothing with concurrency, argument := some file }

/-- What the place behind a command gives, with options of the whole program among it. -/
def givenWith (command : Command) (config network : Option String) (keys : List String) : Given :=
  { command.given with config, network, keys }

theorem command_givenWith (command : Command) (config network : Option String)
    (keys : List String) :
    (command.givenWith config network keys).command command.name = .ok command := by
  cases command <;> rfl

theorem takesArgument_of_argument {command : Command} {text : String}
    (h : command.given.argument = some text) :
    Place.takesArgument (some command.name) = true := by
  cases command with
  | new json => cases h
  | _ => rfl

theorem IsWritable.argument_ne {command : Command} (h : command.IsWritable)
    (hfile : Place.takesFile (some command.name) = true) : command.given.argument ≠ some "" := by
  cases command with
  | batch file concurrency => exact fun heq => h.1 (Option.some.inj heq)
  | _ => cases hfile

theorem isWritable_batch {file : String} {n : Nat} (hfile : file ≠ "") (hn : n < wordLimit) :
    (batch file (some n)).IsWritable :=
  ⟨hfile, fun _ hmem => Option.some.inj hmem ▸ hn⟩

end Command

/-! ## Lines -/

/-- The items on a command line. -/
structure Line where
  before : List Item
  name : CommandName
  after : List Item
  /-- The words behind `--`, if it is there. -/
  trailing : Option (List String)

namespace Line

def trailingWords (line : Line) : List String :=
  match line.trailing with
  | none => []
  | some texts => "--" :: texts

def words (line : Line) : List String :=
  line.before.flatMap Item.words ++
    line.name.text :: (line.after.flatMap Item.words ++ line.trailingWords)

/-- The values of an option on the whole line, in the order of the line. -/
def values (line : Line) (option : Opt) : List String :=
  CommandLine.values option line.before ++ CommandLine.values option line.after

/-- The line is one for this command: the items stand where they can, there is at most one settings
file and at most one network, and what the command needs is given once. -/
structure Writes (line : Line) (command : Command) : Prop where
  before : ∀ item ∈ line.before, item.Fits none
  name : line.name = command.name
  after : ∀ item ∈ line.after, item.Fits (some line.name)
  config : (line.values .config).length ≤ 1
  config_named : "" ∉ line.values .config
  network : (line.values .network).length ≤ 1
  concurrency : (command.given.concurrency.map some).toList
    = (CommandLine.values .concurrency line.after).map readConcurrency
  json : command.given.json.toNat = line.after.count .json
  argument : command.given.argument.toList = texts line.after ++ line.trailing.getD []
  writable : command.IsWritable

/-- What the place before the command gives. -/
def givenBefore (line : Line) : Given :=
  { Given.nothing with
    config := (CommandLine.values .config line.before).head?
    network := (CommandLine.values .network line.before).head?
    keys := CommandLine.values .key line.before }

/-- What the place after the command gives. -/
def givenAfter (line : Line) (command : Command) : Given :=
  command.givenWith (CommandLine.values .config line.after).head?
    (CommandLine.values .network line.after).head? (CommandLine.values .key line.after)

end Line

/-! ## Reading lines -/

theorem toList_head? {items : List α} (h : items.length ≤ 1) : items.head?.toList = items := by
  match items, h with
  | [], _ => rfl
  | [item], _ => rfl

theorem head?_eq_none_or {init rest : List α} (h : (init ++ rest).length ≤ 1) :
    init.head? = none ∨ rest.head? = none := by
  cases init with
  | nil => exact .inl rfl
  | cons item init =>
    cases rest with
    | nil => exact .inr rfl
    | cons item' rest => simp at h

/-- Only options of the whole program fit before a command. -/
theorem own_items_of_fits {items : List Item} (h : ∀ item ∈ items, item.Fits none) :
    values .concurrency items = [] ∧ items.count .json = 0 ∧ texts items = [] := by
  induction items with
  | nil => exact ⟨rfl, rfl, rfl⟩
  | cons item rest ih =>
    rw [List.forall_mem_cons] at h
    obtain ⟨hconcurrency, hjson, htexts⟩ := ih h.2
    cases item with
    | option spelling opt value =>
      have hopt : opt ≠ .concurrency := by
        rintro rfl
        exact absurd h.1.1 (by decide)
      exact ⟨(if_neg hopt).trans hconcurrency, by simpa using hjson, htexts⟩
    | json => exact absurd h.1 (by decide)
    | argument text => exact absurd h.1.1 (by decide)

section

variable {line : Line} {command : Command} {environment : Option String}

theorem Line.Writes.gives_before (h : line.Writes command) :
    Gives none Given.nothing line.before line.givenBefore := by
  have hconfig := h.config
  have hnetwork := h.network
  rw [Line.values, List.length_append] at hconfig hnetwork
  obtain ⟨hconcurrency, hjson, htexts⟩ := own_items_of_fits h.before
  exact {
    config := toList_head? (by omega)
    network := toList_head? (by omega)
    keys := rfl
    concurrency := by rw [hconcurrency]; rfl
    json := by rw [hjson]; rfl
    argument := by rw [htexts]; rfl
    config_named := fun hhead =>
      h.config_named (List.mem_append_left _ (List.mem_of_head? hhead))
    file_named := fun hfile => absurd hfile (by decide) }

/-- The items after the command give what the command needs, less an argument behind `--`. -/
theorem Line.Writes.gives_after (h : line.Writes command) {argument : Option String}
    (hargument : argument.toList = texts line.after)
    (hnamed : Place.takesFile (some line.name) = true → argument ≠ some "") :
    Gives (some line.name) Given.nothing line.after
      { line.givenAfter command with argument } := by
  have hconfig := h.config
  have hnetwork := h.network
  rw [Line.values, List.length_append] at hconfig hnetwork
  exact {
    config := toList_head? (by omega)
    network := toList_head? (by omega)
    keys := rfl
    concurrency := h.concurrency
    json := h.json.trans (Nat.zero_add _).symm
    argument := hargument
    config_named := fun hhead =>
      h.config_named (List.mem_append_right _ (List.mem_of_head? hhead))
    file_named := hnamed }

/-- Behind `--` any text is the argument. -/
theorem readWords_trailing {place : Place} {scan : Scan} {given : Given} {text : String}
    (hplace : place.takesArgument = true) (h : scan.StandsFor place given)
    (hfirst : given.argument = none) (hnamed : place.takesFile = true → text ≠ "") :
    ∃ next, scan.readWords place ["--", text] = .ok next ∧
      next.settle place = .ok { given with argument := some text } := by
  have hargument : Scan.readArgument place { scan with trailing := true } text
      = .ok ⟨given, .argument text, true, true⟩ := readArgument_eq hplace h.settle h.met hfirst
  have hword : Scan.readWord place { scan with trailing := true } text
      = .ok ⟨given, .argument text, true, true⟩ := (readWord_trailing rfl text).trans hargument
  refine ⟨⟨given, .argument text, true, true⟩, ?_, settle_argument rfl hnamed⟩
  rw [readWords_cons (readWord_escape h.trailing), readWords_cons hword]
  rfl

/-- The words after the command are read to their end. -/
theorem Line.Writes.readWords_after (h : line.Writes command) :
    ∃ scan, Scan.initial.readWords (some line.name)
        (line.after.flatMap Item.words ++ line.trailingWords) = .ok scan ∧
      scan.settle (some line.name) = .ok (line.givenAfter command) := by
  have hnamed : Place.takesFile (some line.name) = true → command.given.argument ≠ some "" := by
    rw [h.name]
    exact h.writable.argument_ne
  have hargument := h.argument
  cases htrailing : line.trailing with
  | none =>
    rw [htrailing, Option.getD_none, List.append_nil] at hargument
    obtain ⟨scan, hread, hstands⟩ := readWords_items h.after (standsFor_initial _)
      (h.gives_after hargument hnamed)
    refine ⟨scan, ?_, hstands.settle⟩
    rw [trailingWords, htrailing, List.append_nil, hread]
  | some trailing =>
    match trailing with
    | [] =>
      rw [htrailing, Option.getD_some, List.append_nil] at hargument
      obtain ⟨scan, hread, hstands⟩ := readWords_items h.after (standsFor_initial _)
        (h.gives_after hargument hnamed)
      refine ⟨{ scan with trailing := true }, ?_, hstands.settle⟩
      rw [trailingWords, htrailing, readWords_append hread,
        readWords_cons (readWord_escape hstands.trailing)]
      rfl
    | [text] =>
      rw [htrailing, Option.getD_some] at hargument
      obtain ⟨htexts, htext, _⟩ := toList_eq_append_cons hargument
      have hgives : Gives _ _ line.after { line.givenAfter command with argument := none } :=
        h.gives_after htexts.symm fun _ => nofun
      obtain ⟨scan, hread, hstands⟩ := readWords_items h.after (standsFor_initial _) hgives
      have hplace : Place.takesArgument (some line.name) = true := by
        rw [h.name]
        exact Command.takesArgument_of_argument htext
      obtain ⟨next, hread', hsettle⟩ := readWords_trailing hplace hstands rfl fun hfile heq =>
        hnamed hfile (heq ▸ htext)
      refine ⟨next, ?_, ?_⟩
      · rw [trailingWords, htrailing, readWords_append hread, hread']
      · rw [hsettle, givenAfter, Command.givenWith, htext]
    | _ :: _ :: _ =>
      rw [htrailing, Option.getD_some] at hargument
      cases (toList_eq_append_cons hargument).2.2

theorem finish_of_settle {place : Place} {scan : Scan} {given : Given}
    (h : scan.settle place = .ok given) (environment : Option String) :
    scan.finish place environment
      = if given.config = none ∧ environment = some "" then .error .missingValue
        else .ok given := by
  rw [Scan.finish, h]
  obtain ⟨config, network, keys, concurrency, json, argument⟩ := given
  cases config with
  | some config => rfl
  | none =>
    cases environment with
    | none => rfl
    | some path =>
      show (readPath path >>= _) = _
      by_cases hpath : path = ""
      · rw [readPath, if_pos hpath, if_pos ⟨rfl, congrArg some hpath⟩]
        rfl
      · rw [readPath, if_neg hpath, if_neg fun hnone => hpath (Option.some.inj hnone.2)]
        rfl

theorem readToCommand_text {scan : Scan} (hadmits : scan.admitsCommand = true)
    (name : CommandName) (rest : List String) :
    scan.readToCommand (name.text :: rest) = .ok (scan, some (name, rest)) := by
  have hhelp : (name.text = helpCommand) = False := eq_false name.text_ne_help
  rw [Scan.readToCommand]
  simp only [hadmits, hhelp, decide_false, Bool.and_false, Bool.false_eq_true, if_false, if_true,
    CommandName.ofText?_text]

/-- A line is read as its command with the options of both places, unless the environment names a
settings file by the empty path. -/
theorem Line.Writes.parse_eq (h : line.Writes command) (environment : Option String) :
    parse environment line.words
      = if environment = some "" then .error .missingValue
        else .ok (combine environment line.givenBefore (line.givenAfter command) command) := by
  obtain ⟨before, hbefore, hread⟩ := readToCommand_items h.before (standsFor_initial none)
    h.gives_before
  obtain ⟨after, hafter, hsettle⟩ := h.readWords_after
  have hcommand : (line.givenAfter command).command line.name = .ok command := by
    rw [h.name]
    exact command.command_givenWith _ _ _
  rw [parse, words, hread, readToCommand_text hbefore.admits]
  show (Scan.initial.readWords _ _ >>= _) = _
  rw [hafter]
  show (after.finish _ _ >>= _) = _
  rw [finish_of_settle hsettle]
  -- Of the two places at least one names no settings file, and there the environment is looked at.
  by_cases hafterNone : (line.givenAfter command).config = none ∧ environment = some ""
  · rw [if_pos hafterNone, if_pos hafterNone.2]
    rfl
  · rw [if_neg hafterNone]
    show ((line.givenAfter command).command _ >>= _) = _
    rw [hcommand]
    show (before.finish _ _ >>= _) = _
    rw [finish_of_settle hbefore.settle]
    by_cases henvironment : environment = some ""
    · have hbeforeNone : line.givenBefore.config = none :=
        (head?_eq_none_or h.config).resolve_right fun hnone => hafterNone ⟨hnone, henvironment⟩
      rw [if_pos ⟨hbeforeNone, henvironment⟩, if_pos henvironment]
      rfl
    · rw [if_neg fun hnone => henvironment hnone.2, if_neg henvironment]
      rfl

end

end TwoOfThree.CommandLine
