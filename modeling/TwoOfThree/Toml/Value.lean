-- SUMMARY: Reading TOML keys and values.
import TwoOfThree.Toml.DateTime
import TwoOfThree.Toml.Table

/-!
# Keys and values

Arrays and inline tables contain values again. How deep they may be nested is
bounded, and so is the number of parts of a dotted key, so reading a value
recurses on the depth that is left.
-/

namespace TwoOfThree.Toml

/-- Arrays and inline tables can be nested less deep than this, and keys have fewer parts. -/
def depthLimit : Nat := 80

/-! ## Keys -/

def isBareKeyChar (c : Char) : Bool :=
  isDigit c || ('A' ≤ c && c ≤ 'Z') || ('a' ≤ c && c ≤ 'z') || c = '-' || c = '_'

/-- Read one part of a key. -/
def readKeyPart : Reader String
  | '"' :: rest => readLineString ('"' :: rest)
  | '\'' :: rest => readLineString ('\'' :: rest)
  | cs =>
    let key := cs.takeWhile isBareKeyChar
    if key.isEmpty then none else some (String.ofList key, cs.dropWhile isBareKeyChar)

def keyStep : Reader (Step String) := fun cs => do
  let (part, rest) ← readKeyPart (skipBlanks cs)
  match skipBlanks rest with
  | '.' :: rest => some (.more part, rest)
  | rest => some (.last part, rest)

/-- Read a dotted key and the blanks around it: its last part, and the parts before. -/
def readKey : Reader (List String × String) := fun cs => do
  let (parts, rest) ← Reader.many keyStep cs
  if depthLimit ≤ parts.length then none
  return ((parts.dropLast, ← parts.getLast?), rest)

/-! ## Arrays and inline tables -/

/-- Read an item of an array, up to and including the comma or bracket behind it. -/
def itemStep (readValue : Reader Value) : Reader (Step (Option Value)) := fun cs =>
  match skipLines cs with
  | ']' :: rest => some (.last none, rest)
  | cs => do
    let (value, rest) ← readValue cs
    match skipLines rest with
    | ',' :: rest => some (.more (some value), rest)
    | ']' :: rest => some (.last (some value), rest)
    | _ => none

/-- Read an array from behind its opening bracket. -/
def readArray (readValue : Reader Value) : Reader (List Value) := fun cs => do
  let (items, rest) ← Reader.many (itemStep readValue) cs
  return (items.filterMap id, rest)

/-- An entry as it is written: the parts of its key before the last one, the last one, its value. -/
abbrev Assignment := List String × String × Value

/-- Read a key, an equals sign and a value. -/
def readAssignment (readValue : Reader Value) : Reader Assignment := fun cs => do
  let ((path, key), rest) ← readKey cs
  let rest ← readChar '=' rest
  let (value, rest) ← readValue (skipBlanks rest)
  return ((path, key, value), rest)

/-- Read an entry of an inline table, up to and including the comma or brace behind it. -/
def entryStep (readValue : Reader Value) : Reader (Step Assignment) := fun cs => do
  let (entry, rest) ← readAssignment readValue cs
  match skipBlanks rest with
  | ',' :: rest => some (.more entry, rest)
  | '}' :: rest => some (.last entry, rest)
  | _ => none

/-- The table that assignments make, one after another. -/
def tableOfAssignments (entries : List Assignment) : Option Table :=
  entries.foldlM (fun table (path, key, value) => table.assign path key value .inline) []

/-- Read an inline table from behind its opening brace. -/
def readInlineTable (readValue : Reader Value) : Reader Table := fun cs =>
  match skipBlanks cs with
  | '}' :: rest => some ([], rest)
  | cs => do
    let (entries, rest) ← Reader.many (entryStep readValue) cs
    return (← tableOfAssignments entries, rest)

/-! ## Values -/

def readNumber : Reader Value := fun cs =>
  match readDateTime cs with
  | some (_, rest) => some (.dateTime, rest)
  | none =>
    match readFloat cs with
    | some (_, rest) => some (.float, rest)
    | none => (readInteger cs).map fun (n, rest) => (.integer n, rest)

/-- Read a value that contains no other values. -/
def readScalar : Reader Value
  | 't' :: 'r' :: 'u' :: 'e' :: rest => some (.boolean true, rest)
  | 'f' :: 'a' :: 'l' :: 's' :: 'e' :: rest => some (.boolean false, rest)
  | c :: rest =>
    if c = '"' ∨ c = '\'' then (readString (c :: rest)).map fun (text, rest) => (.string text, rest)
    else readNumber (c :: rest)
  | [] => none

/-- Read a value that nests arrays and inline tables at most `depth` deep. -/
def readValue : (depth : Nat) → Reader Value
  | 0, cs => readScalar cs
  | depth + 1, cs =>
    match cs with
    | '[' :: rest => (readArray (readValue depth) rest).map fun (items, rest) => (.array items, rest)
    | '{' :: rest =>
      (readInlineTable (readValue depth) rest).map fun (table, rest) => (.table .inline table, rest)
    | cs => readScalar cs

end TwoOfThree.Toml
