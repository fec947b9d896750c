-- SUMMARY: Which files a list of passphrases can be written as, and that every one of them is read back.
import TwoOfThree.Proofs.Batch.Lines

/-!
# Writing passphrases into a file

Each passphrase stands on a line of its own, which a line feed ends, or a carriage
return and a line feed. A carriage return in front of a line feed belongs to the
line end, so a passphrase that ends in one can only be written with a second one
behind it. Blank lines may stand anywhere, and nothing needs to end the last line.
All files of a list are read as that list, and up to the line feed that may be
missing at its end, every file is one of a list.
-/

namespace TwoOfThree.Batch

/-! ## Files of a list -/

/-- How a line ends. -/
inductive LineEnd where
  | feed
  | returnAndFeed
deriving DecidableEq, Repr

def LineEnd.bytes : LineEnd → Bytes
  | .feed => [lineFeed]
  | .returnAndFeed => [carriageReturn, lineFeed]

/-- Bytes that can be a passphrase: any but none at all, and none of them a line feed. -/
structure IsPassphrase (bytes : Bytes) : Prop where
  filled : bytes ≠ []
  unbroken : lineFeed ∉ bytes

/-- A file with the passphrases of a list on it, in their order. -/
inductive IsFileOf : List Bytes → Bytes → Prop where
  | empty : IsFileOf [] []
  | blank {passphrases : List Bytes} {rest : Bytes} (ending : LineEnd)
      (hrest : IsFileOf passphrases rest) : IsFileOf passphrases (ending.bytes ++ rest)
  /-- A line feed alone would take a last carriage return away from the passphrase. -/
  | line {passphrase : Bytes} {passphrases : List Bytes} {rest : Bytes} (ending : LineEnd)
      (hpassphrase : IsPassphrase passphrase)
      (hending : passphrase.getLast? = some carriageReturn → ending = .returnAndFeed)
      (hrest : IsFileOf passphrases rest) :
      IsFileOf (passphrase :: passphrases) (passphrase ++ ending.bytes ++ rest)
  | unended {passphrase : Bytes} (hpassphrase : IsPassphrase passphrase)
      (hending : passphrase.getLast? ≠ some carriageReturn) : IsFileOf [passphrase] passphrase

theorem IsFileOf.isPassphrase {passphrases : List Bytes} {content : Bytes}
    (h : IsFileOf passphrases content) : ∀ passphrase ∈ passphrases, IsPassphrase passphrase := by
  induction h with
  | empty => simp
  | blank _ _ ih => exact ih
  | line _ hpassphrase _ _ ih => exact List.forall_mem_cons.2 ⟨hpassphrase, ih⟩
  | unended hpassphrase => exact List.forall_mem_singleton.2 hpassphrase

/-- There is a file of every list. -/
theorem isFileOf_flatMap {passphrases : List Bytes}
    (h : ∀ passphrase ∈ passphrases, IsPassphrase passphrase) :
    IsFileOf passphrases (passphrases.flatMap (· ++ LineEnd.returnAndFeed.bytes)) := by
  induction passphrases with
  | nil => exact .empty
  | cons passphrase passphrases ih =>
    obtain ⟨hpassphrase, hrest⟩ := List.forall_mem_cons.1 h
    exact .line .returnAndFeed hpassphrase (fun _ => rfl) (ih hrest)

/-! ## One line -/

/-- A line feed separates what is read before it from what is read behind it. -/
theorem splitPassphrases_append (front rest : Bytes) :
    splitPassphrases (front ++ lineFeed :: rest)
      = splitPassphrases front ++ splitPassphrases rest := by
  simp only [splitPassphrases_eq, fileLines, List.splitOn_append_cons_self, List.filter_append,
    List.map_append]

theorem splitPassphrases_of_unbroken {line : Bytes} (h : lineFeed ∉ line) :
    splitPassphrases line = if isFilled line then [stripReturn line] else [] := by
  rw [splitPassphrases_eq, fileLines, List.splitOn_eq_singleton h]
  cases hfilled : isFilled line with
  | true => rw [List.filter_cons_of_pos hfilled]; rfl
  | false => rw [List.filter_cons_of_neg (Bool.eq_false_iff.1 hfilled)]; rfl

/-- A line that a passphrase is left on is read as that passphrase. -/
theorem splitPassphrases_of_stripReturn {line passphrase : Bytes} (hline : lineFeed ∉ line)
    (hstrip : stripReturn line = passphrase) (hfilled : passphrase ≠ []) :
    splitPassphrases line = [passphrase] := by
  rw [splitPassphrases_of_unbroken hline, if_pos (isFilled_of_stripReturn hstrip hfilled), hstrip]

theorem splitPassphrases_passphrase {passphrase : Bytes} (h : IsPassphrase passphrase)
    (hending : passphrase.getLast? ≠ some carriageReturn) :
    splitPassphrases passphrase = [passphrase] :=
  splitPassphrases_of_stripReturn h.unbroken (stripReturn_of_not_returned hending) h.filled

theorem splitPassphrases_returned {passphrase : Bytes} (h : IsPassphrase passphrase) :
    splitPassphrases (passphrase ++ [carriageReturn]) = [passphrase] := by
  have hunbroken : lineFeed ∉ passphrase ++ [carriageReturn] :=
    List.not_mem_append h.unbroken (by decide)
  exact splitPassphrases_of_stripReturn hunbroken (stripReturn_append_return passphrase) h.filled

theorem splitPassphrases_blank (ending : LineEnd) (rest : Bytes) :
    splitPassphrases (ending.bytes ++ rest) = splitPassphrases rest := by
  cases ending with
  | feed => exact splitPassphrases_append [] rest
  | returnAndFeed => exact splitPassphrases_append [carriageReturn] rest

theorem splitPassphrases_line {passphrase : Bytes} {ending : LineEnd}
    (h : IsPassphrase passphrase)
    (hending : passphrase.getLast? = some carriageReturn → ending = .returnAndFeed)
    (rest : Bytes) :
    splitPassphrases (passphrase ++ ending.bytes ++ rest)
      = passphrase :: splitPassphrases rest := by
  rw [List.append_assoc]
  cases ending with
  | feed =>
    have hplain : passphrase.getLast? ≠ some carriageReturn := fun hlast => nomatch hending hlast
    calc splitPassphrases (passphrase ++ lineFeed :: rest)
      _ = splitPassphrases passphrase ++ splitPassphrases rest := splitPassphrases_append _ _
      _ = passphrase :: splitPassphrases rest := by rw [splitPassphrases_passphrase h hplain]; rfl
  | returnAndFeed =>
    calc splitPassphrases (passphrase ++ carriageReturn :: lineFeed :: rest)
      _ = splitPassphrases (passphrase ++ [carriageReturn] ++ lineFeed :: rest) := by
        rw [List.append_assoc]; rfl
      _ = splitPassphrases (passphrase ++ [carriageReturn]) ++ splitPassphrases rest :=
        splitPassphrases_append _ _
      _ = passphrase :: splitPassphrases rest := by rw [splitPassphrases_returned h]; rfl

/-! ## Whole files -/

theorem IsFileOf.splitPassphrases_eq {passphrases : List Bytes} {content : Bytes}
    (h : IsFileOf passphrases content) : splitPassphrases content = passphrases := by
  induction h with
  | empty => rfl
  | blank ending _ ih => rw [splitPassphrases_blank, ih]
  | line ending hpassphrase hending _ ih => rw [splitPassphrases_line hpassphrase hending, ih]
  | unended hpassphrase hending => exact splitPassphrases_passphrase hpassphrase hending

/-- What is read from a line is a list that the line, once it is ended, is a file of. -/
theorem IsFileOf.ended {line : Bytes} (hline : lineFeed ∉ line) {passphrases : List Bytes}
    {rest : Bytes} (hrest : IsFileOf passphrases rest) :
    IsFileOf (splitPassphrases line ++ passphrases) (line ++ lineFeed :: rest) := by
  obtain rfl | ⟨front, last, rfl⟩ := line.eq_nil_or_concat
  · exact hrest.blank .feed
  rw [List.concat_eq_append] at hline ⊢
  by_cases hlast : last = carriageReturn
  · subst hlast
    rw [List.append_assoc]
    by_cases hfront : front = []
    · subst hfront
      exact hrest.blank .returnAndFeed
    · have hpassphrase : IsPassphrase front :=
        ⟨hfront, fun hmem => hline (List.mem_append_left _ hmem)⟩
      rw [splitPassphrases_returned hpassphrase]
      have hfile := hrest.line .returnAndFeed hpassphrase fun _ => rfl
      rwa [List.append_assoc] at hfile
  · have hpassphrase : IsPassphrase (front ++ [last]) := ⟨by simp, hline⟩
    have hending : (front ++ [last]).getLast? ≠ some carriageReturn := by simpa using hlast
    rw [splitPassphrases_passphrase hpassphrase hending]
    have hfile := hrest.line .feed hpassphrase fun h => absurd h hending
    rwa [List.append_assoc (front ++ [last])] at hfile

/-- Files are taken line by line: the one behind the last line feed, and those before it. -/
@[elab_as_elim]
theorem line_induction {motive : Bytes → Prop} (content : Bytes)
    (last : ∀ line, lineFeed ∉ line → motive line)
    (ended : ∀ line rest, lineFeed ∉ line → motive rest → motive (line ++ lineFeed :: rest)) :
    motive content := by
  by_cases h : lineFeed ∈ content
  · obtain ⟨line, rest, rfl, hline⟩ := List.eq_append_cons_of_mem h
    exact ended line rest hline (line_induction rest last ended)
  · exact last content h
termination_by content.length

/-- Every file that ends in a line feed is a file of the list that is read from it. -/
theorem isFileOf_splitPassphrases (content : Bytes) :
    IsFileOf (splitPassphrases content) (content ++ [lineFeed]) := by
  induction content using line_induction with
  | last line hline => simpa using IsFileOf.empty.ended hline
  | ended line rest hline ih =>
    rw [splitPassphrases_append, List.append_assoc]
    exact ih.ended hline

/-- A file is read as a list just if it is a file of the list once its last line is ended. -/
theorem splitPassphrases_eq_iff {content : Bytes} {passphrases : List Bytes} :
    splitPassphrases content = passphrases ↔ IsFileOf passphrases (content ++ [lineFeed]) := by
  constructor
  · rintro rfl
    exact isFileOf_splitPassphrases content
  · intro h
    calc splitPassphrases content
      _ = splitPassphrases (content ++ [lineFeed]) := by
        rw [splitPassphrases_append]
        exact (List.append_nil _).symm
      _ = passphrases := h.splitPassphrases_eq

theorem isPassphrase_of_mem {content passphrase : Bytes}
    (h : passphrase ∈ splitPassphrases content) : IsPassphrase passphrase :=
  (isFileOf_splitPassphrases content).isPassphrase passphrase h

/-- Some file is read as a list just if all of the list are passphrases. -/
theorem exists_splitPassphrases_eq_iff {passphrases : List Bytes} :
    (∃ content, splitPassphrases content = passphrases)
      ↔ ∀ passphrase ∈ passphrases, IsPassphrase passphrase := by
  constructor
  · rintro ⟨content, rfl⟩ passphrase h
    exact isPassphrase_of_mem h
  · exact fun h => ⟨_, (isFileOf_flatMap h).splitPassphrases_eq⟩

/-- Reading undoes writing whatever the line ends and blank lines are, the parts that a line feed
separates are read by themselves, and nothing but passphrases is read. -/
theorem splitPassphrases_reads_back :
    (∀ (passphrases : List Bytes) (content : Bytes),
        IsFileOf passphrases content → splitPassphrases content = passphrases)
      ∧ (∀ front rest : Bytes,
          splitPassphrases (front ++ [lineFeed] ++ rest)
            = splitPassphrases front ++ splitPassphrases rest)
      ∧ ∀ content : Bytes, ∀ passphrase ∈ splitPassphrases content,
          passphrase ≠ [] ∧ lineFeed ∉ passphrase := by
  refine ⟨fun _ _ h => h.splitPassphrases_eq, fun front rest => ?_, fun _ _ h => ?_⟩
  · rw [List.append_assoc]
    exact splitPassphrases_append front rest
  · exact ⟨(isPassphrase_of_mem h).filled, (isPassphrase_of_mem h).unbroken⟩

/-- A blank line, bytes that are no text, a passphrase that ends in a carriage return, another
blank line, and a space that nothing ends. -/
theorem splitPassphrases_reads_back_mixed :
    splitPassphrases [0x0d, 0x0a, 0x00, 0xff, 0x0a, 0x61, 0x0d, 0x0d, 0x0a, 0x0a, 0x20]
      = [[0x00, 0xff], [0x61, 0x0d], [0x20]] := by
  have hbytes : IsPassphrase [0x00, 0xff] := ⟨by decide, by decide⟩
  have hreturned : IsPassphrase [0x61, 0x0d] := ⟨by decide, by decide⟩
  have hspace : IsPassphrase [0x20] := ⟨by decide, by decide⟩
  exact splitPassphrases_reads_back.1 _ _ <|
    .blank .returnAndFeed <| .line .feed hbytes (by decide) <|
      .line .returnAndFeed hreturned (fun _ => rfl) <| .blank .feed <|
        .unended hspace (by decide)

end TwoOfThree.Batch
