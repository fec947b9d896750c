-- SUMMARY: What the paths of a file system lead to, and how reading them fails.
import TwoOfThree.Text.Utf8

/-!
# File systems

A file system says what every path leads to. That is all that a run depends on:
it only reads whole files, and it reads a path no differently the second time. A
path that cannot be followed to its end, through links that lead back to each other
or a directory that may not be searched, leads to nothing; reading it fails for
another reason, though, than reading what is not there.
-/

namespace TwoOfThree

/-- What a path leads to. -/
inductive FileState where
  | absent
  | directory
  | file (content : Bytes)
  /-- The path cannot be followed to its end. -/
  | unreachable (reason : String)
  /-- There is something at the end of the path, but it cannot be read. -/
  | unreadable (reason : String)
deriving DecidableEq, Repr

abbrev FileSystem := String → FileState

/-- Why a file cannot be read. -/
inductive FileError where
  | absent
  | directory
  | notText
  | unreadable (reason : String)
deriving DecidableEq, Repr

def FileError.message : FileError → String
  | .absent => "No such file or directory (os error 2)"
  | .directory => "Is a directory (os error 21)"
  | .notText => "stream did not contain valid UTF-8"
  | .unreadable reason => reason

namespace FileState

def readBytes : FileState → Except FileError Bytes
  | .absent => .error .absent
  | .directory => .error .directory
  | .file content => .ok content
  | .unreachable reason => .error (.unreadable reason)
  | .unreadable reason => .error (.unreadable reason)

def readText (state : FileState) : Except FileError String := do
  match Utf8.decode (← state.readBytes) with
  | .ok text => return text
  | .error _ => throw .notText

/-- There is something at the end of the path. -/
def isPresent : FileState → Bool
  | .absent => false
  | .unreachable _ => false
  | _ => true

end FileState

end TwoOfThree
