-- SUMMARY: The settings files that the words of a command line name are those that reading the words gives.
import TwoOfThree.Proofs.CommandLine.Reading

/-!
# Settings files named by words

Which settings files a command line names by options can be told from its words
alone, one after another. Reading keeps to this: at every word, what has been given
and is pending names what the words up to there name. Reading does not look at the
environment, so this holds of accepted lines and of refused ones alike, up to where
they are refused.
-/

namespace TwoOfThree.CommandLine

/-! ## Words -/

/-- The settings files that words name, up to `--`. An option without a value in its own word has it
in the next one, and `awaits` says that the word before was such an option. -/
def namedFrom : (awaits : Bool) → List String → List String
  | _, [] => []
  | awaits, word :: rest =>
    match Word.ofText word with
    | .escape => []
    | .long name value =>
      if name = "config" then value.toList ++ namedFrom value.isNone rest else namedFrom false rest
    | .short _ => namedFrom false rest
    | .plain text => if awaits then text :: namedFrom false rest else namedFrom false rest

/-- The settings files that the words of a command line name. -/
def namedFiles (words : List String) : List String := namedFrom false words

/-! ## Scans -/

def Pending.named : Pending → List String
  | .option .config value => [value]
  | _ => []

/-- The settings files that a scan has met, and those that the words ahead name. -/
def Scan.named (scan : Scan) (ahead : List String) : List String :=
  scan.given.config.toList ++ (scan.pending.named ++
    if scan.trailing then [] else namedFrom (scan.pending = .awaiting .config) ahead)

section

variable {place : Place} {scan next : Scan} {given given' : Given}

/-- Of all options, the one for the settings file adds to the files that are named. -/
theorem config_of_setOption {option : Opt} {value : String}
    (h : given.setOption option value = .ok given') :
    given'.config.toList = given.config.toList ++ (Pending.option option value).named := by
  cases option with
  | config =>
    rw [Given.setOption] at h
    split at h
    · cases h
    · next hfirst =>
      obtain ⟨path, hpath, hgiven⟩ := exists_of_bind_eq_ok h
      have hvalue : path = value := by
        unfold readPath at hpath
        split at hpath <;> cases hpath
        rfl
      cases hgiven
      rw [Option.not_isSome_iff_eq_none] at hfirst
      rw [hfirst, hvalue]
      rfl
  | network =>
    rw [Given.setOption] at h
    split at h <;> cases h
    exact (List.append_nil _).symm
  | key =>
    cases h
    exact (List.append_nil _).symm
  | concurrency =>
    rw [Given.setOption] at h
    split at h
    · cases h
    · split at h <;> cases h
      exact (List.append_nil _).symm

theorem config_of_setFlag {flag : Flag} (h : given.setFlag flag = .ok given') :
    given'.config = given.config := by
  cases flag with
  | help => cases h
  | json =>
    rw [Given.setFlag] at h
    split at h <;> cases h
    rfl

/-- What is settled was given or pending. -/
theorem config_of_settle (h : scan.settle place = .ok given) :
    given.config.toList = scan.given.config.toList ++ scan.pending.named := by
  unfold Scan.settle at h
  cases hpending : scan.pending with
  | nothing =>
    rw [hpending] at h
    cases h
    exact (List.append_nil _).symm
  | awaiting option =>
    rw [hpending] at h
    cases h
  | option option value =>
    rw [hpending] at h
    exact config_of_setOption h
  | argument text =>
    rw [hpending] at h
    dsimp only at h
    split at h
    · obtain ⟨argument, _, hgiven⟩ := exists_of_bind_eq_ok h
      cases hgiven
      exact (List.append_nil _).symm
    · cases h
      exact (List.append_nil _).symm

/-! ## Reading a word -/

theorem named_of_beginOption {option : Opt} {value : Option String}
    (htrailing : scan.trailing = false)
    (h : scan.beginOption place option value = .ok next) (rest : List String) :
    next.named rest = scan.given.config.toList ++ (scan.pending.named ++
      if option = .config then value.toList ++ namedFrom value.isNone rest
      else namedFrom false rest) := by
  obtain ⟨given, hsettle, hbegin⟩ := exists_of_bind_eq_ok h
  have hgiven := config_of_settle hsettle
  cases value with
  | none =>
    cases hbegin
    simp only [Scan.named, Scan.resume, htrailing, hgiven, List.append_assoc]
    cases option <;> rfl
  | some value =>
    obtain ⟨given', hset, hnext⟩ := exists_of_bind_eq_ok hbegin
    cases hnext
    have hgiven' := config_of_setOption hset
    simp only [Scan.named, Scan.resume, htrailing, hgiven', hgiven, List.append_assoc]
    cases option <;> rfl

theorem named_of_readArgument {text : String} (h : scan.readArgument place text = .ok next)
    (rest : List String) :
    next.named rest = scan.given.config.toList ++ (scan.pending.named ++
      if scan.trailing then [] else namedFrom false rest) := by
  unfold Scan.readArgument at h
  split at h
  · obtain ⟨given, hsettle, hnext⟩ := exists_of_bind_eq_ok h
    cases hnext
    have hgiven := config_of_settle hsettle
    simp only [Scan.named, Scan.resume, hgiven, List.append_assoc]
    rfl
  · split at h
    · cases h
    · split at h <;> cases h

theorem option?_eq_config_iff {name : String} :
    place.option? name = some .config ↔ name = "config" := by
  unfold Place.option?
  split
  · next h => exact iff_of_true rfl h
  · next h =>
    refine iff_of_false ?_ h
    split
    · nofun
    · split
      · nofun
      · split <;> nofun

theorem named_of_setFlag {flag : Flag} (htrailing : scan.trailing = false)
    (h : (do return scan.resume (← (← scan.settle place).setFlag flag)) = .ok next)
    (rest : List String) :
    next.named rest = scan.given.config.toList ++ (scan.pending.named ++ namedFrom false rest) := by
  obtain ⟨given, hsettle, hflag⟩ := exists_of_bind_eq_ok h
  obtain ⟨given', hset, hnext⟩ := exists_of_bind_eq_ok hflag
  cases hnext
  simp only [Scan.named, Scan.resume, htrailing, config_of_setFlag hset, config_of_settle hsettle,
    List.append_assoc]
  rfl

theorem named_of_readLong {name : String} {value : Option String}
    (htrailing : scan.trailing = false) (h : scan.readLong place name value = .ok next)
    (rest : List String) :
    next.named rest = scan.given.config.toList ++ (scan.pending.named ++
      if name = "config" then value.toList ++ namedFrom value.isNone rest
      else namedFrom false rest) := by
  unfold Scan.readLong at h
  split at h
  · next option hoption =>
    have hconfig : option = .config ↔ name = "config" := by
      rw [← @option?_eq_config_iff place name, hoption, Option.some.injEq]
    rw [named_of_beginOption htrailing h]
    simp only [hconfig]
  · next hoption =>
    have hname : name ≠ "config" := by
      intro hname
      rw [option?_eq_config_iff.2 hname] at hoption
      cases hoption
    rw [if_neg hname]
    split at h
    · cases h
    · split at h
      · cases h
      · exact named_of_setFlag htrailing h rest

theorem named_of_readShort {letters : List Char} (htrailing : scan.trailing = false)
    (h : scan.readShort place letters = .ok next) (rest : List String) :
    next.named rest = scan.given.config.toList ++ (scan.pending.named ++ namedFrom false rest) := by
  unfold Scan.readShort at h
  split at h
  · exact named_of_setFlag htrailing h rest
  · split at h
    · rw [named_of_beginOption htrailing h]
      rfl
    · cases h
  · cases h

/-- Reading a word keeps to what the words name. -/
theorem named_of_readWord {word : String} (h : scan.readWord place word = .ok next)
    (rest : List String) : scan.named (word :: rest) = next.named rest := by
  unfold Scan.readWord at h
  cases htrailing : scan.trailing with
  | true =>
    rw [if_pos htrailing] at h
    rw [named_of_readArgument h, Scan.named, if_pos htrailing, if_pos htrailing]
  | false =>
    rw [htrailing, if_neg Bool.false_ne_true] at h
    rw [Scan.named, htrailing, if_neg Bool.false_ne_true]
    cases hword : Word.ofText word with
    | escape =>
      rw [hword] at h
      cases h
      simp only [namedFrom, hword, Scan.named, if_true]
    | long name value =>
      rw [hword] at h
      simp only [namedFrom, hword, named_of_readLong htrailing h]
    | short letters =>
      rw [hword] at h
      simp only [namedFrom, hword, named_of_readShort htrailing h]
    | plain text =>
      rw [hword] at h
      simp only [namedFrom, hword, decide_eq_true_eq]
      dsimp only at h
      split at h
      · next option hpending =>
        -- the value of the option that awaits one
        cases h
        rw [hpending]
        cases option <;> simp [Scan.named, Pending.named]
      · next hpending =>
        rw [named_of_readArgument h, htrailing, if_neg (hpending .config)]
        rfl

/-- Reading words keeps to what they name. -/
theorem named_of_readWords {words : List String} (h : scan.readWords place words = .ok next) :
    scan.named words = next.given.config.toList ++ next.pending.named := by
  induction words generalizing scan with
  | nil =>
    cases h
    simp [Scan.named, namedFrom]
  | cons word rest ih =>
    obtain ⟨mid, hword, hrest⟩ := exists_of_readWords_cons h
    rw [named_of_readWord hword, ih hrest]

end

/-! ## Reading up to the command -/

section

variable {scan next : Scan} {words rest : List String} {name : CommandName}

theorem ofText_of_command {word : String} (h : CommandName.ofText? word = some name) :
    Word.ofText word = .plain word := by
  unfold CommandName.ofText? at h
  split at h
  · next heq => rw [heq]; decide
  split at h
  · next heq => rw [heq]; decide
  split at h
  · next heq => rw [heq]; decide
  split at h
  · next heq => rw [heq]; decide
  split at h
  · next heq => rw [heq]; decide
  · cases h

/-- No option awaits its value where a command begins, and what the command is named after is no
settings file. -/
theorem named_of_command {word : String} (hadmits : scan.admitsCommand = true)
    (h : CommandName.ofText? word = some name) (rest : List String) :
    scan.named (word :: rest)
      = scan.given.config.toList ++ (scan.pending.named ++ namedFiles rest) := by
  have hawaits : scan.pending ≠ .awaiting .config := not_awaiting_of_admitsCommand hadmits _
  have htrailing := trailing_of_admitsCommand hadmits
  simp only [Scan.named, htrailing, Bool.false_eq_true, if_false, hawaits, decide_false, namedFrom,
    ofText_of_command h]
  rfl

/-- Reading keeps to what the words name up to the command, and up to the end if there is none. -/
theorem named_of_readToCommand {command : Option (CommandName × List String)}
    (h : scan.readToCommand words = .ok (next, command)) :
    scan.named words = next.given.config.toList ++
      (next.pending.named ++ namedFiles ((command.map Prod.snd).getD [])) := by
  induction words generalizing scan with
  | nil =>
    cases h
    simp [Scan.named, namedFrom, namedFiles]
  | cons word rest ih =>
    unfold Scan.readToCommand at h
    split at h
    · cases h
    · split at h
      · next name hname =>
        cases h
        split at hname
        · next hadmits => exact named_of_command hadmits hname rest
        · cases hname
      · obtain ⟨mid, hword, hrest⟩ := exists_of_bind_eq_ok h
        rw [named_of_readWord hword, ih hrest]

end

end TwoOfThree.CommandLine
