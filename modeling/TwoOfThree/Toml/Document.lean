-- SUMMARY: TOML documents: their statements, and the table that these make.
import TwoOfThree.Toml.Value

/-!
# Documents

A document is a list of statements: headers, each of which turns to a table, and
assignments, each of which adds to the table that was turned to last. A table is
put in its place when the document turns away from it.
-/

namespace TwoOfThree.Toml

inductive Statement where
  | header (path : List String) (key : String)
  | arrayHeader (path : List String) (key : String)
  | assign (entry : Assignment)

/-! ## Reading statements -/

/-- Read a header from behind its opening bracket or brackets. -/
def readHeader : Reader Statement
  | '[' :: rest => do
    let ((path, key), rest) ← readKey rest
    let rest ← readChar ']' rest
    let rest ← readChar ']' rest
    return (.arrayHeader path key, rest)
  | cs => do
    let ((path, key), rest) ← readKey cs
    let rest ← readChar ']' rest
    return (.header path key, rest)

def readStatement : Reader Statement
  | '[' :: rest => readHeader rest
  | cs => do
    let (entry, rest) ← readAssignment (readValue (depthLimit - 1)) cs
    return (.assign entry, rest)

/-- Read a statement to the end of its last line, after blank lines and comments. -/
def statementStep : Reader (Step (Option Statement)) := fun cs =>
  match skipLines cs with
  | [] => some (.last none, [])
  | cs => do
    let (statement, rest) ← readStatement cs
    return (.more (some statement), ← statementEnd? rest)

/-- The statements of a document. A byte order mark in front is skipped. -/
def readStatements (cs : List Char) : Option (List Statement) := do
  let cs := match cs with
    | '\uFEFF' :: rest => rest
    | cs => cs
  let (statements, _) ← Reader.many statementStep cs
  return statements.filterMap id

/-! ## Making the table -/

/-- The table that a document has turned to. -/
inductive Place where
  | root
  | header (path : List String) (key : String)
  | arrayHeader (path : List String) (key : String)

/-- A document that is being made: what is in place, and the table that it has turned to. -/
structure Building where
  root : Table
  place : Place
  entries : Table

namespace Building

/-- Put the current table in its place. -/
def close (b : Building) : Option Table :=
  match b.place with
  | .root => some b.entries
  | .header path key => Table.closeHeader path key b.entries b.root
  | .arrayHeader path key => Table.closeArrayHeader path key b.entries b.root

def add (b : Building) : Statement → Option Building
  | .header path key => do
    let root ← b.close
    return ⟨root, .header path key, ← Table.openHeader path key root⟩
  | .arrayHeader path key => do
    return ⟨← b.close, .arrayHeader path key, []⟩
  | .assign (path, key, value) => do
    return { b with entries := ← b.entries.assign path key value .header }

end Building

/-- The table that statements make. -/
def tableOfStatements (statements : List Statement) : Option Table := do
  (← statements.foldlM Building.add ⟨[], .root, []⟩).close

/-- The table that a document denotes. -/
def parse? (text : String) : Option Table := do
  tableOfStatements (← readStatements text.toList)

end TwoOfThree.Toml
