-- SUMMARY: Readers over characters, and the blanks, line ends and comments of TOML.

/-!
# Readers

A reader takes characters from the front of its input and yields a value and the
characters that are left, or nothing. `Reader.many` repeats a step until the step
says that it was the last one. The steps used here take at least one character
each, so the length of the input is enough to bound their number.
-/

namespace TwoOfThree.Toml

abbrev Reader (α : Type) := List Char → Option (α × List Char)

/-- What a repeated step read, and whether there is more to come. -/
inductive Step (α : Type) where
  | more (value : α)
  | last (value : α)

namespace Reader

/-- At most `count` steps. -/
def manyUpTo (step : Reader (Step α)) : (count : Nat) → Reader (List α)
  | 0, _ => none
  | count + 1, cs =>
    match step cs with
    | none => none
    | some (.last value, rest) => some ([value], rest)
    | some (.more value, rest) =>
      match manyUpTo step count rest with
      | none => none
      | some (values, rest) => some (value :: values, rest)

/-- Steps up to and including the last one. -/
def many (step : Reader (Step α)) : Reader (List α) := fun cs => manyUpTo step (cs.length + 1) cs

end Reader

/-! ## Characters -/

def isBlank (c : Char) : Bool := c = ' ' || c = '\t'

def isDigit (c : Char) : Bool := '0' ≤ c && c ≤ '9'

/-- Neither a control character nor past a line end: what a comment consists of. -/
def isVisible (c : Char) : Bool := c = '\t' || (' ' ≤ c && c ≠ '\x7f')

/-! ## Blanks, line ends, comments -/

def skipBlanks (cs : List Char) : List Char := cs.dropWhile isBlank

/-- What follows a line end. -/
def lineEnd? : List Char → Option (List Char)
  | '\n' :: rest => some rest
  | '\r' :: '\n' :: rest => some rest
  | _ => none

/-- Skip a comment, if there is one. -/
def skipComment : List Char → List Char
  | '#' :: rest => rest.dropWhile isVisible
  | cs => cs

/-- What follows the end of a statement: blanks, a comment, and then a line end or the end of the
input. -/
def statementEnd? (cs : List Char) : Option (List Char) :=
  match skipComment (skipBlanks cs) with
  | [] => some []
  | cs => lineEnd? cs

/-- Skip blanks, line ends and comments. The flag tells whether a comment is being skipped. -/
def skipLinesFrom : (inComment : Bool) → List Char → List Char
  | _, [] => []
  | _, '\n' :: rest => skipLinesFrom false rest
  | _, '\r' :: '\n' :: rest => skipLinesFrom false rest
  | true, c :: rest => if isVisible c then skipLinesFrom true rest else c :: rest
  | false, c :: rest =>
    if c = '#' then skipLinesFrom true rest
    else if isBlank c then skipLinesFrom false rest
    else c :: rest

def skipLines (cs : List Char) : List Char := skipLinesFrom false cs

/-- Skip blanks and line ends. -/
def skipSpace : List Char → List Char
  | '\n' :: rest => skipSpace rest
  | '\r' :: '\n' :: rest => skipSpace rest
  | c :: rest => if isBlank c then skipSpace rest else c :: rest
  | [] => []

end TwoOfThree.Toml
