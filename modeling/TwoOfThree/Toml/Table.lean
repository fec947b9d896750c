-- SUMMARY: TOML values and tables, and how statements add to a table.

/-!
# Values and tables

A table is the list of its entries, in the order in which they came to be. How a
table came to be decides what may still be added to it: a table that a header or
an inline value has defined is closed to dotted keys, a table that exists only
because something below it was named can still be defined, and a table made by
dotted keys is extended by dotted keys only.
-/

namespace TwoOfThree.Toml

/-- How a table came to be. -/
inductive Origin where
  /-- Defined by a header, or the root of a document. -/
  | header
  /-- Named on the way to a table that a header defined. -/
  | passed
  /-- Made by dotted keys. -/
  | dotted
  /-- Written as an inline value. -/
  | inline
deriving DecidableEq, Repr

inductive Value where
  | string (text : String)
  | integer (n : Int)
  | float
  | boolean (b : Bool)
  | dateTime
  | array (items : List Value)
  | table (origin : Origin) (entries : List (String × Value))
  | tableArray (tables : List (List (String × Value)))

/-- The entries of a table. -/
abbrev Table := List (String × Value)

namespace Table

def get? (table : Table) (key : String) : Option Value := table.lookup key

/-- Replace the value of a key, or add the key at the end. -/
def put (table : Table) (key : String) (value : Value) : Table :=
  match table with
  | [] => [(key, value)]
  | (other, old) :: rest =>
    if other = key then (key, value) :: rest else (other, old) :: put rest key value

/-- Change the table at the end of a path, making the tables on the way that do not exist yet. The
change is told the origin of the table it is applied to. The last table of an array of tables stands
for the array. -/
def changeAt (made : Origin) (change : Origin → Table → Option Table) (origin : Origin) :
    (path : List String) → Table → Option Table
  | [], table => change origin table
  | key :: path, table =>
    match table.get? key with
    | none => do
      return table.put key (.table made (← changeAt made change made path []))
    | some (.table inner entries) =>
      if inner = .inline ∨ (made = .dotted ∧ inner = .header) then none
      else do return table.put key (.table inner (← changeAt made change inner path entries))
    | some (.tableArray tables) =>
      match tables.getLast? with
      | none => none
      | some entries => do
        let entries ← changeAt made change .header path entries
        return table.put key (.tableArray (tables.dropLast ++ [entries]))
    | some _ => none

/-- Add an entry under a dotted key. The table it goes to must have been made by dotted keys if and
only if the key is dotted, and must not have the entry yet. -/
def assign (path : List String) (key : String) (value : Value) (origin : Origin) (table : Table) :
    Option Table :=
  changeAt .dotted (fun origin table =>
    if (origin = .dotted) = (path = []) then none
    else if (table.get? key).isSome then none
    else some (table.put key value)) origin path table

/-- The table that a header defines anew, with the entries that it has if it was only passed so far.
-/
def openHeader (path : List String) (key : String) (root : Table) : Option Table :=
  let rec go : List String → Table → Option Table
    | [], table =>
      match table.get? key with
      | none => some []
      | some (.table .passed entries) => some entries
      | some _ => none
    | key :: path, table =>
      match table.get? key with
      | none => some []
      | some (.table .inline _) => none
      | some (.table _ entries) => go path entries
      | some (.tableArray tables) => go path (tables.getLastD [])
      | some _ => none
  go path root

/-- Put a finished table at the end of the path of its header. -/
def closeHeader (path : List String) (key : String) (entries root : Table) : Option Table :=
  changeAt .passed (fun _ table => some (table.put key (.table .header entries))) .header path root

/-- Put a finished table at the end of an array of tables. -/
def closeArrayHeader (path : List String) (key : String) (entries root : Table) : Option Table :=
  changeAt .passed (fun _ table =>
    match table.get? key with
    | none => some (table.put key (.tableArray [entries]))
    | some (.tableArray tables) => some (table.put key (.tableArray (tables ++ [entries])))
    | some _ => none) .header path root

end Table

end TwoOfThree.Toml
