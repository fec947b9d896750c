-- SUMMARY: The four kinds of TOML strings.
import TwoOfThree.Toml.Reader

/-!
# Strings

A string stands between quotation marks, where a backslash begins an escape, or
between apostrophes, where nothing does. Three marks on either side make it a
string of several lines: a line end behind the opening marks is dropped, every
other line end is read as a line feed, and up to two marks may stand directly
before the closing ones.
-/

namespace TwoOfThree.Toml

/-! ## Escapes -/

def hexValue? (c : Char) : Option Nat :=
  if isDigit c then some (c.toNat - '0'.toNat)
  else if 'a' ≤ c ∧ c ≤ 'f' then some (c.toNat - 'a'.toNat + 10)
  else if 'A' ≤ c ∧ c ≤ 'F' then some (c.toNat - 'A'.toNat + 10)
  else none

/-- The number written by exactly `count` hexadecimal digits, in front of which `high` was read. -/
def readHex : (count : Nat) → (high : Nat) → Reader Nat
  | 0, high, cs => some (high, cs)
  | _ + 1, _, [] => none
  | count + 1, high, c :: rest =>
    match hexValue? c with
    | none => none
    | some value => readHex count (high * 16 + value) rest

/-- The character at a code point, which must not be half of a pair or out of range. -/
def charAt? (codePoint : Nat) : Option Char :=
  if codePoint.isValidChar then some (Char.ofNat codePoint) else none

def readCodePoint (digits : Nat) : Reader Char := fun cs => do
  let (codePoint, rest) ← readHex digits 0 cs
  return (← charAt? codePoint, rest)

/-- Read an escape from behind its backslash. -/
def readEscape : Reader Char
  | 'b' :: rest => some ('\x08', rest)
  | 'f' :: rest => some ('\x0c', rest)
  | 'n' :: rest => some ('\n', rest)
  | 'r' :: rest => some ('\r', rest)
  | 't' :: rest => some ('\t', rest)
  | '"' :: rest => some ('"', rest)
  | '\\' :: rest => some ('\\', rest)
  | 'u' :: rest => readCodePoint 4 rest
  | 'U' :: rest => readCodePoint 8 rest
  | _ => none

/-! ## Steps -/

def basicStep : Reader (Step (List Char))
  | [] => none
  | '"' :: rest => some (.last [], rest)
  | '\\' :: rest => do
    let (c, rest) ← readEscape rest
    return (.more [c], rest)
  | c :: rest => if isVisible c then some (.more [c], rest) else none

def literalStep : Reader (Step (List Char))
  | [] => none
  | '\'' :: rest => some (.last [], rest)
  | c :: rest => if isVisible c then some (.more [c], rest) else none

/-- Read a run of marks inside a string of several lines: fewer than three are text, and of more
than three the first ones, at most two, are text in front of the closing marks. -/
def markStep (mark : Char) : Reader (Step (List Char)) := fun cs =>
  let run := (cs.takeWhile (· = mark)).length
  if run < 3 then some (.more (List.replicate run mark), cs.drop run)
  else
    let text := min (run - 3) 2
    some (.last (List.replicate text mark), cs.drop (text + 3))

/-- Read a line end or a character of a string of several lines. -/
def lineStep (cs : List Char) : Option (Step (List Char) × List Char) :=
  match lineEnd? cs with
  | some rest => some (.more ['\n'], rest)
  | none =>
    match cs with
    | [] => none
    | c :: rest => if isVisible c then some (.more [c], rest) else none

/-- A backslash before a line end takes all blanks and line ends that follow with it. -/
def multilineBasicStep : Reader (Step (List Char))
  | '"' :: rest => markStep '"' ('"' :: rest)
  | '\\' :: rest =>
    match lineEnd? (skipBlanks rest) with
    | some rest => some (.more [], skipSpace rest)
    | none => do
      let (c, rest) ← readEscape rest
      return (.more [c], rest)
  | cs => lineStep cs

def multilineLiteralStep : Reader (Step (List Char))
  | '\'' :: rest => markStep '\'' ('\'' :: rest)
  | cs => lineStep cs

/-! ## Strings -/

def readSteps (step : Reader (Step (List Char))) : Reader String := fun cs => do
  let (pieces, rest) ← Reader.many step cs
  return (String.ofList pieces.flatten, rest)

/-- What follows the opening marks of a string of several lines. -/
def dropLineEnd (cs : List Char) : List Char := (lineEnd? cs).getD cs

/-- Read a string on one line. -/
def readLineString : Reader String
  | '"' :: rest => readSteps basicStep rest
  | '\'' :: rest => readSteps literalStep rest
  | _ => none

/-- Read a string of any kind. -/
def readString : Reader String
  | '"' :: '"' :: '"' :: rest => readSteps multilineBasicStep (dropLineEnd rest)
  | '\'' :: '\'' :: '\'' :: rest => readSteps multilineLiteralStep (dropLineEnd rest)
  | cs => readLineString cs

end TwoOfThree.Toml
