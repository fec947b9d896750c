-- SUMMARY: Reading JSON objects of strings, and both written forms of an object read back.
import TwoOfThree.Json.Object
import TwoOfThree.Proofs.Json.Literals

/-!
# Reading objects

The reader takes an object whose members are all strings, with blanks wherever
the format allows them. The compact form and the pretty form of an object differ
in their blanks only, and the reader gives back the object from both. The compact
form is a single line.
-/

namespace TwoOfThree.JsonObject

open JsonString

/-! ## The reader -/

/-- Read a member with the blanks around it. -/
def readMember (cs : List Char) : Option ((String × String) × List Char) := do
  let (name, rest) ← JsonString.read (skipBlanks cs)
  let ':' :: rest := skipBlanks rest | none
  let (text, rest) ← JsonString.read (skipBlanks rest)
  return ((String.ofList name, String.ofList text), skipBlanks rest)

/-- Read at most `limit` members and the closing brace. -/
def readMembers : (limit : Nat) → List Char → Option (JsonObject × List Char)
  | 0, _ => none
  | limit + 1, cs =>
    match readMember cs with
    | some (member, ',' :: rest) =>
      (readMembers limit rest).map fun (members, rest) => (member :: members, rest)
    | some (member, '}' :: rest) => some ([member], rest)
    | _ => none

/-- Read the members of an object from behind its opening brace. -/
def readBody (cs : List Char) : Option (JsonObject × List Char) :=
  match skipBlanks cs with
  | '}' :: rest => some ([], rest)
  | _ => readMembers cs.length cs

/-- The object that a text is, with nothing but blanks around it. -/
def read (text : List Char) : Option JsonObject := do
  let '{' :: rest := skipBlanks text | none
  let (object, rest) ← readBody rest
  if skipBlanks rest = [] then some object else none

/-! ## Blanks -/

/-- Text made of blanks. -/
def Blanks (cs : List Char) : Prop := cs.all isBlank = true

instance (cs : List Char) : Decidable (Blanks cs) :=
  inferInstanceAs (Decidable (cs.all isBlank = true))

theorem Blanks.append {blanks blanks' : List Char} (h : Blanks blanks) (h' : Blanks blanks') :
    Blanks (blanks ++ blanks') := by
  rw [Blanks, List.all_append, h, h']
  rfl

theorem skipBlanks_append {blanks : List Char} (h : Blanks blanks) (rest : List Char) :
    skipBlanks (blanks ++ rest) = skipBlanks rest :=
  List.dropWhile_append_of_pos (List.all_eq_true.1 h)

theorem skipBlanks_eq_nil {blanks : List Char} (h : Blanks blanks) : skipBlanks blanks = [] := by
  have hskip := skipBlanks_append h []
  rwa [List.append_nil] at hskip

theorem skipBlanks_cons {c : Char} (h : isBlank c = false) (rest : List Char) :
    skipBlanks (c :: rest) = c :: rest :=
  List.dropWhile_cons_of_neg (by rw [h]; exact Bool.false_ne_true)

theorem skipBlanks_encode (text rest : List Char) :
    skipBlanks (encode text ++ rest) = encode text ++ rest :=
  skipBlanks_cons rfl _

/-! ## Members -/

theorem readMember_memberChars {blanks space : List Char} (hblanks : Blanks blanks)
    (hspace : Blanks space) (member : String × String) (rest : List Char) :
    readMember (blanks ++ (memberChars (':' :: space) member ++ rest))
      = some (member, skipBlanks rest) := by
  have hmember : memberChars (':' :: space) member ++ rest
      = encode member.1.toList ++ (':' :: (space ++ (encode member.2.toList ++ rest))) := by
    simp [memberChars]
  rw [readMember, skipBlanks_append hblanks, hmember, skipBlanks_encode, read_encode]
  simp only [Option.bind_eq_bind, Option.bind_some, skipBlanks_cons (c := ':') rfl,
    skipBlanks_append hspace, skipBlanks_encode, read_encode, String.ofList_toList]
  rfl

/-- Members, each behind `indent`, with a comma and `gap` between them, and `close` behind all. -/
def bodyChars (indent space gap close : List Char) (object : JsonObject) : List Char :=
  (',' :: gap).intercalate (object.map fun member => indent ++ memberChars (':' :: space) member)
    ++ (close ++ ['}'])

section

variable {indent space gap close : List Char}

theorem bodyChars_singleton (member : String × String) :
    bodyChars indent space gap close [member]
      = indent ++ (memberChars (':' :: space) member ++ (close ++ ['}'])) := by
  simp [bodyChars, List.intercalate]

theorem bodyChars_cons (member next : String × String) (object : JsonObject) :
    bodyChars indent space gap close (member :: next :: object)
      = indent ++ (memberChars (':' :: space) member
        ++ ',' :: (gap ++ bodyChars indent space gap close (next :: object))) := by
  simp [bodyChars, List.intercalate]

variable (indent space gap close) in
/-- A body begins with its first member, and there is more behind it than there are members to
come. -/
theorem exists_bodyChars_eq (member : String × String) (object : JsonObject) :
    ∃ rest, bodyChars indent space gap close (member :: object)
        = indent ++ (memberChars (':' :: space) member ++ rest) ∧ object.length < rest.length := by
  induction object generalizing member with
  | nil => exact ⟨close ++ ['}'], bodyChars_singleton member, by simp⟩
  | cons next object ih =>
    obtain ⟨rest, hbody, hlength⟩ := ih next
    refine ⟨_, bodyChars_cons member next object, ?_⟩
    rw [hbody]
    simp only [List.length_cons, List.length_append]
    omega

variable (hindent : Blanks indent) (hspace : Blanks space) (hgap : Blanks gap)
  (hclose : Blanks close)
include hindent hspace hgap hclose

theorem readMembers_bodyChars {lead : List Char} (hlead : Blanks lead) (member : String × String)
    (object : JsonObject) (tail : List Char) {limit : Nat} (hlimit : object.length < limit) :
    readMembers limit (lead ++ (bodyChars indent space gap close (member :: object) ++ tail))
      = some (member :: object, tail) := by
  induction object generalizing lead member limit with
  | nil =>
    cases limit with
    | zero => cases hlimit
    | succ limit =>
      have hchars : lead ++ (bodyChars indent space gap close [member] ++ tail)
          = (lead ++ indent) ++ (memberChars (':' :: space) member ++ (close ++ '}' :: tail)) := by
        simp only [bodyChars_singleton, List.append_assoc, List.singleton_append]
      rw [hchars, readMembers, readMember_memberChars (hlead.append hindent) hspace,
        skipBlanks_append hclose, skipBlanks_cons rfl]
      rfl
  | cons next object ih =>
    cases limit with
    | zero => cases hlimit
    | succ limit =>
      have hchars : lead ++ (bodyChars indent space gap close (member :: next :: object) ++ tail)
          = (lead ++ indent) ++ (memberChars (':' :: space) member
            ++ ',' :: (gap ++ (bodyChars indent space gap close (next :: object) ++ tail))) := by
        simp only [bodyChars_cons, List.append_assoc, List.cons_append]
      rw [hchars, readMembers, readMember_memberChars (hlead.append hindent) hspace,
        skipBlanks_cons rfl]
      have hrest : readMembers limit
            (gap ++ (bodyChars indent space gap close (next :: object) ++ tail))
          = some (next :: object, tail) := ih hgap next (Nat.lt_of_succ_lt_succ hlimit)
      simp only [hrest, Option.map_some]

theorem readBody_bodyChars {lead : List Char} (hlead : Blanks lead) (member : String × String)
    (object : JsonObject) (tail : List Char) :
    readBody (lead ++ (bodyChars indent space gap close (member :: object) ++ tail))
      = some (member :: object, tail) := by
  obtain ⟨rest, hbody, hlength⟩ := exists_bodyChars_eq indent space gap close member object
  have hlimit : object.length
      < (lead ++ (bodyChars indent space gap close (member :: object) ++ tail)).length := by
    rw [hbody]
    simp only [List.length_append]
    omega
  have hfirst : skipBlanks (lead ++ (bodyChars indent space gap close (member :: object) ++ tail))
      = memberChars (':' :: space) member ++ rest ++ tail := by
    rw [hbody, skipBlanks_append hlead, List.append_assoc, skipBlanks_append hindent]
    exact skipBlanks_cons rfl _
  rw [readBody, hfirst]
  exact readMembers_bodyChars hindent hspace hgap hclose hlead member object tail hlimit

theorem read_bodyChars {lead : List Char} (hlead : Blanks lead) (member : String × String)
    (object : JsonObject) {tail : List Char} (htail : Blanks tail) :
    read ('{' :: (lead ++ (bodyChars indent space gap close (member :: object) ++ tail)))
      = some (member :: object) := by
  rw [read, skipBlanks_cons rfl]
  simp only [Option.bind_eq_bind]
  rw [readBody_bodyChars hindent hspace hgap hclose hlead]
  simp only [Option.bind_some, skipBlanks_eq_nil htail, if_true]

end

/-! ## The two forms -/

theorem read_nil {tail : List Char} (htail : Blanks tail) :
    read ('{' :: '}' :: tail) = some [] := by
  rw [read, skipBlanks_cons rfl]
  simp only [Option.bind_eq_bind]
  rw [readBody, skipBlanks_cons rfl]
  simp only [Option.bind_some, skipBlanks_eq_nil htail, if_true]

theorem read_compactChars (object : JsonObject) {tail : List Char} (htail : Blanks tail) :
    read (object.compactChars ++ tail) = some object := by
  cases object with
  | nil => exact read_nil htail
  | cons member object =>
    have hchars : compactChars (member :: object) ++ tail
        = '{' :: ([] ++ (bodyChars [] [] [] [] (member :: object) ++ tail)) := rfl
    rw [hchars]
    exact read_bodyChars (by decide) (by decide) (by decide) (by decide) (by decide) _ _ htail

theorem read_prettyChars (object : JsonObject) {tail : List Char} (htail : Blanks tail) :
    read (object.prettyChars ++ tail) = some object := by
  cases object with
  | nil => exact read_nil htail
  | cons member object =>
    have hchars : prettyChars (member :: object) ++ tail
        = '{' :: (['\n'] ++
          (bodyChars [' ', ' '] [' '] ['\n'] ['\n'] (member :: object) ++ tail)) := by
      simp [prettyChars, bodyChars]
    rw [hchars]
    exact read_bodyChars (by decide) (by decide) (by decide) (by decide) (by decide) _ _ htail

/-! ## One line -/

theorem isRaw_memberChars (member : String × String) :
    ∀ c ∈ memberChars [':'] member, isRaw c = true := by
  intro c hc
  rw [memberChars, List.mem_append, List.mem_append, List.mem_singleton] at hc
  rcases hc with (hc | rfl) | hc
  · exact isRaw_encode _ c hc
  · rfl
  · exact isRaw_encode _ c hc

/-- The compact form holds no control character, and so no line end. -/
theorem isRaw_compactChars (object : JsonObject) : ∀ c ∈ object.compactChars, isRaw c = true := by
  have hbrace : ∀ c ∈ ['}'], isRaw c = true := List.all_eq_true.1 (by decide)
  have hbody : ∀ c ∈ bodyChars [] [] [] [] object, isRaw c = true := by
    induction object with
    | nil => exact hbrace
    | cons member object ih =>
      cases object with
      | nil =>
        rw [bodyChars_singleton, List.nil_append, List.nil_append]
        exact List.forall_mem_append.2 ⟨isRaw_memberChars member, hbrace⟩
      | cons next object =>
        rw [bodyChars_cons, List.nil_append, List.nil_append]
        refine List.forall_mem_append.2 ⟨isRaw_memberChars member, ?_⟩
        exact List.forall_mem_cons.2 ⟨rfl, ih⟩
  exact List.forall_mem_cons.2 ⟨rfl, hbody⟩

end TwoOfThree.JsonObject
