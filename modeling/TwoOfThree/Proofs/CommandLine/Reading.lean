-- SUMMARY: A place that holds items is read from their words, and comes to the values that they give.
import TwoOfThree.Proofs.CommandLine.Items

/-!
# Reading items

The words of an item are read from wherever no value is awaited, whatever comes
behind them. What is begun last may not be settled yet, so a scan is known by the
values that settling it gives. Before a command the words of the items are passed
over in the search for the command, even where a value is spelt like one.
-/

namespace TwoOfThree.CommandLine

theorem exists_of_bind_eq_ok {x : Except ε α} {f : α → Except ε β} {b : β}
    (h : x >>= f = .ok b) : ∃ a, x = .ok a ∧ f a = .ok b := by
  cases x with
  | error error => cases h
  | ok a => exact ⟨a, rfl, h⟩

/-! ## Reading items -/

/-- The scan has come to these values at a place, and can go on with any item. -/
structure Scan.StandsFor (place : Place) (scan : Scan) (given : Given) : Prop where
  settle : scan.settle place = .ok given
  admits : scan.admitsCommand = true
  met : scan.argumentMet = given.argument.isSome

section

variable {place : Place} {scan next : Scan} {given given' : Given}

theorem trailing_of_admitsCommand (h : scan.admitsCommand = true) : scan.trailing = false := by
  unfold Scan.admitsCommand at h
  rw [Bool.and_eq_true, Bool.not_eq_true'] at h
  exact h.1

theorem not_awaiting_of_admitsCommand (h : scan.admitsCommand = true) (option : Opt) :
    scan.pending ≠ .awaiting option := by
  intro hpending
  rw [Scan.admitsCommand, hpending, Bool.and_false] at h
  cases h

theorem Scan.StandsFor.trailing (h : scan.StandsFor place given) : scan.trailing = false :=
  trailing_of_admitsCommand h.admits

theorem admitsCommand_of_trailing (htrailing : scan.trailing = false)
    (hpending : ∀ option, scan.pending ≠ .awaiting option) : scan.admitsCommand = true := by
  unfold Scan.admitsCommand
  rw [htrailing]
  cases hcases : scan.pending with
  | awaiting option => exact absurd hcases (hpending option)
  | _ => rfl

theorem Scan.StandsFor.not_awaiting (h : scan.StandsFor place given) (option : Opt) :
    scan.pending ≠ .awaiting option :=
  not_awaiting_of_admitsCommand h.admits option

theorem standsFor_initial (place : Place) : Scan.initial.StandsFor place Given.nothing :=
  ⟨rfl, rfl, rfl⟩

theorem readWords_cons {word : String} (h : scan.readWord place word = .ok next)
    (rest : List String) : scan.readWords place (word :: rest) = next.readWords place rest := by
  rw [Scan.readWords, List.foldlM_cons, h]
  rfl

theorem exists_of_readWords_cons {word : String} {rest : List String}
    (h : scan.readWords place (word :: rest) = .ok next) :
    ∃ mid, scan.readWord place word = .ok mid ∧ mid.readWords place rest = .ok next :=
  exists_of_bind_eq_ok h

theorem readWords_append {words rest : List String} (h : scan.readWords place words = .ok next) :
    scan.readWords place (words ++ rest) = next.readWords place rest := by
  rw [Scan.readWords, List.foldlM_append]
  show (scan.readWords place words >>= _) = _
  rw [h]
  rfl

theorem Item.Adds.setOption {spelling : Spelling} {opt : Opt} {value : String}
    (h : Adds place (.option spelling opt value) given given') :
    given.setOption opt value = .ok given' ∧ given'.argument = given.argument := by
  cases h with
  | config first named =>
    refine ⟨?_, rfl⟩
    rw [Given.setOption, first, readPath, if_neg named]
    rfl
  | network first =>
    refine ⟨?_, rfl⟩
    rw [Given.setOption, first]
    rfl
  | key => exact ⟨rfl, rfl⟩
  | concurrency first reads =>
    refine ⟨?_, rfl⟩
    rw [Given.setOption, first, reads]
    rfl

/-- Going on from settled values. -/
theorem Scan.StandsFor.resume (h : scan.StandsFor place given)
    (hargument : given'.argument = given.argument) :
    (scan.resume given').StandsFor place given' where
  settle := rfl
  admits := admitsCommand_of_trailing h.trailing nofun
  met := by rw [hargument]; exact h.met

theorem readWord_escape (htrailing : scan.trailing = false) :
    scan.readWord place "--" = .ok { scan with trailing := true } := by
  have hword : Word.ofText "--" = .escape := rfl
  simp only [Scan.readWord, htrailing, Bool.false_eq_true, if_false, hword]

theorem readWord_trailing (htrailing : scan.trailing = true) (text : String) :
    scan.readWord place text = scan.readArgument place text := by
  rw [Scan.readWord, if_pos htrailing]

/-- A plain word is the value of the option that awaits it. -/
theorem readWord_value {option : Opt} {value : String} (htrailing : scan.trailing = false)
    (hpending : scan.pending = .awaiting option) (hplain : IsPlain value) :
    scan.readWord place value = .ok { scan with pending := .option option value } := by
  simp only [Scan.readWord, htrailing, Bool.false_eq_true, if_false, hplain.ofText, hpending]

theorem Scan.StandsFor.beginOption (h : scan.StandsFor place given) (option : Opt) :
    scan.beginOption place option none
      = .ok { scan.resume given with pending := .awaiting option } := by
  rw [Scan.beginOption, h.settle]
  rfl

/-- An option is read from words that it is spelt in. -/
theorem readWords_spelt {option : Opt} {value : String} {words : List String}
    (hspelt : Spelt place option value words) (h : scan.StandsFor place given)
    (hset : given.setOption option value = .ok given')
    (hargument : given'.argument = given.argument) :
    ∃ next, scan.readWords place words = .ok next ∧ next.StandsFor place given' := by
  cases hspelt with
  | inOne dash begins =>
    have hbegin : scan.beginOption place option (some value) = .ok (scan.resume given') := by
      rw [Scan.beginOption, h.settle]
      show (given.setOption option value >>= _) = _
      rw [hset]
      rfl
    refine ⟨scan.resume given', ?_, h.resume hargument⟩
    rw [readWords_cons ((begins scan h.trailing).trans hbegin)]
    rfl
  | inTwo dash begins plain =>
    have hvalue : Scan.readWord place { scan.resume given with pending := .awaiting option } value
        = .ok { scan.resume given with pending := .option option value } :=
      readWord_value h.trailing rfl plain
    refine ⟨{ scan.resume given with pending := .option option value }, ?_, hset,
      admitsCommand_of_trailing h.trailing nofun, ?_⟩
    · rw [readWords_cons ((begins scan h.trailing).trans (h.beginOption option)),
        readWords_cons hvalue]
      rfl
    · rw [hargument]
      exact h.met

theorem readWords_json (hplace : place.flag? "json" = some .json) (h : scan.StandsFor place given)
    (hjson : given.json = false) :
    ∃ next, scan.readWords place ["--json"] = .ok next ∧
      next.StandsFor place { given with json := true } := by
  have hoption : place.option? "json" = none := by simp [Place.option?]
  have htext : Word.ofText "--json" = .long "json" none := rfl
  have hword : scan.readWord place "--json" = .ok (scan.resume { given with json := true }) := by
    simp only [Scan.readWord, h.trailing, Bool.false_eq_true, if_false, htext, Scan.readLong,
      hoption, hplace, h.settle]
    show (given.setFlag .json >>= _) = _
    rw [Given.setFlag, hjson]
    rfl
  refine ⟨_, ?_, h.resume rfl⟩
  rw [readWords_cons hword]
  rfl

theorem readArgument_eq {text : String} (hplace : place.takesArgument = true)
    (hsettle : scan.settle place = .ok given) (hmet : scan.argumentMet = given.argument.isSome)
    (hfirst : given.argument = none) :
    scan.readArgument place text
      = .ok { scan.resume given with pending := .argument text, argumentMet := true } := by
  have hunmet : scan.argumentMet = false := by rw [hmet, hfirst]; rfl
  simp only [Scan.readArgument, hplace, hunmet, Bool.not_false, Bool.and_self, if_true, hsettle]
  rfl

theorem settle_argument {text : String} (hpending : scan.pending = .argument text)
    (hnamed : place.takesFile = true → text ≠ "") :
    scan.settle place = .ok { scan.given with argument := some text } := by
  rw [Scan.settle, hpending]
  cases hplace : place.takesFile with
  | false => rfl
  | true =>
    simp only [if_true, readPath, if_neg (hnamed hplace)]
    rfl

theorem readWords_argument {text : String} (hplace : place.takesArgument = true)
    (hplain : IsPlain text) (h : scan.StandsFor place given) (hfirst : given.argument = none)
    (hnamed : place.takesFile = true → text ≠ "") :
    ∃ next, scan.readWords place [text] = .ok next ∧
      next.StandsFor place { given with argument := some text } := by
  have hargument : scan.readArgument place text = _ := readArgument_eq hplace h.settle h.met hfirst
  have hword : scan.readWord place text = scan.readArgument place text := by
    simp only [Scan.readWord, h.trailing, Bool.false_eq_true, if_false, hplain.ofText]
    cases hpending : scan.pending with
    | awaiting option => exact absurd hpending (h.not_awaiting option)
    | _ => rfl
  refine ⟨{ scan.resume given with pending := .argument text, argumentMet := true }, ?_,
    settle_argument rfl hnamed, admitsCommand_of_trailing h.trailing ?_, rfl⟩
  · rw [readWords_cons (hword.trans hargument)]
    rfl
  · intro option hawaits
    cases hawaits

/-- An item is read from its words. -/
theorem readWords_item {item : Item} (hfits : item.Fits place) (h : scan.StandsFor place given)
    (hadds : item.Adds place given given') :
    ∃ next, scan.readWords place item.words = .ok next ∧ next.StandsFor place given' := by
  cases item with
  | option spelling opt value =>
    obtain ⟨hset, hargument⟩ := hadds.setOption
    exact readWords_spelt (spelling.spelt hfits.1 hfits.2) h hset hargument
  | json =>
    cases hadds with
    | json first => exact readWords_json hfits h first
  | argument text =>
    cases hadds with
    | argument first named => exact readWords_argument hfits.1 hfits.2 h first named

/-- Items are read one after another. -/
theorem readWords_items {items : List Item} (hfits : ∀ item ∈ items, item.Fits place)
    (h : scan.StandsFor place given) (hgives : Gives place given items given') :
    ∃ next, scan.readWords place (items.flatMap Item.words) = .ok next ∧
      next.StandsFor place given' := by
  induction items generalizing scan given with
  | nil =>
    rw [hgives.eq_of_nil]
    exact ⟨scan, rfl, h⟩
  | cons item rest ih =>
    obtain ⟨mid, hadds, hrest⟩ := hgives.exists_adds
    rw [List.forall_mem_cons] at hfits
    obtain ⟨scan', hread, h'⟩ := readWords_item hfits.1 h hadds
    obtain ⟨next, hread', hnext⟩ := ih hfits.2 h' hrest
    refine ⟨next, ?_, hnext⟩
    rw [List.flatMap_cons, readWords_append hread, hread']

end

/-! ## Items before a command -/

section

variable {scan next : Scan} {given given' : Given}

theorem readToCommand_cons {word : String}
    (hnone : scan.admitsCommand = true → word ≠ helpCommand ∧ CommandName.ofText? word = none)
    (h : scan.readWord none word = .ok next) (rest : List String) :
    scan.readToCommand (word :: rest) = next.readToCommand rest := by
  rw [Scan.readToCommand]
  cases hadmits : scan.admitsCommand with
  | false =>
    simp only [Bool.false_and, Bool.false_eq_true, if_false, h]
    rfl
  | true =>
    obtain ⟨hhelp, hname⟩ := hnone hadmits
    simp only [hhelp, decide_false, Bool.and_false, Bool.false_eq_true, if_false, if_true, hname, h]
    rfl

/-- No command begins within the words of an option: the first begins with a dash, and behind it a
value is awaited. -/
theorem readToCommand_spelt {option : Opt} {value : String} {words : List String}
    (hspelt : Spelt none option value words) (h : scan.StandsFor none given)
    (hread : scan.readWords none words = .ok next) (rest : List String) :
    scan.readToCommand (words ++ rest) = next.readToCommand rest := by
  obtain ⟨mid, hword, hrest⟩ : ∃ mid, scan.readWord none (words.headD "") = .ok mid ∧
    mid.readWords none words.tail = .ok next := by
    cases hspelt <;> exact exists_of_readWords_cons hread
  cases hspelt with
  | inOne dash begins =>
    cases hrest
    exact readToCommand_cons (fun _ => not_command_of_dash dash) hword rest
  | inTwo dash begins plain =>
    -- The value may be spelt like a command, so that it is passed over rests on the scan.
    obtain ⟨last, hvalue, hlast⟩ := exists_of_readWords_cons hrest
    cases hlast
    have hawaits : mid.admitsCommand ≠ true := by
      have hmid := ((begins scan h.trailing).trans (h.beginOption option)).symm.trans hword
      cases hmid
      simp [Scan.admitsCommand]
    refine (readToCommand_cons (fun _ => not_command_of_dash dash) hword _).trans ?_
    exact readToCommand_cons (fun hadmits => absurd hadmits hawaits) hvalue rest

theorem readToCommand_item {item : Item} (hfits : item.Fits none) (h : scan.StandsFor none given)
    (hread : scan.readWords none item.words = .ok next) (rest : List String) :
    scan.readToCommand (item.words ++ rest) = next.readToCommand rest := by
  cases item with
  | option spelling opt value =>
    exact readToCommand_spelt (spelling.spelt hfits.1 hfits.2) h hread rest
  | json => exact absurd hfits (by decide)
  | argument text => exact absurd hfits.1 (by decide)

/-- Items before a command are read one after another. -/
theorem readToCommand_items {items : List Item} (hfits : ∀ item ∈ items, item.Fits none)
    (h : scan.StandsFor none given) (hgives : Gives none given items given') :
    ∃ next : Scan, next.StandsFor none given' ∧
      ∀ rest, scan.readToCommand (items.flatMap Item.words ++ rest) = next.readToCommand rest := by
  induction items generalizing scan given with
  | nil =>
    rw [hgives.eq_of_nil]
    exact ⟨scan, h, fun _ => rfl⟩
  | cons item rest ih =>
    obtain ⟨mid, hadds, hrest⟩ := hgives.exists_adds
    rw [List.forall_mem_cons] at hfits
    obtain ⟨scan', hread, h'⟩ := readWords_item hfits.1 h hadds
    obtain ⟨next, hnext, hread'⟩ := ih hfits.2 h' hrest
    refine ⟨next, hnext, ?_⟩
    intro words
    rw [List.flatMap_cons, List.append_assoc, readToCommand_item hfits.1 h hread, hread']

end

end TwoOfThree.CommandLine
