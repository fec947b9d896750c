-- SUMMARY: JSON objects whose members are all strings, on one line or indented.
import TwoOfThree.Json.StringLiteral

/-!
# JSON objects of strings

An object is the list of its members, in the order in which they are written.
The compact form has no blanks at all; the pretty form puts each member on a
line of its own, indented by two spaces.
-/

namespace TwoOfThree

/-- Names and texts of the members, in order. -/
abbrev JsonObject := List (String × String)

namespace JsonObject

def memberChars (separator : List Char) (member : String × String) : List Char :=
  JsonString.encode member.1.toList ++ separator ++ JsonString.encode member.2.toList

def compactChars (object : JsonObject) : List Char :=
  '{' :: [','].intercalate (object.map (memberChars [':'])) ++ ['}']

/-- The object on one line. -/
def compact (object : JsonObject) : String := String.ofList object.compactChars

def prettyChars : JsonObject → List Char
  | [] => ['{', '}']
  | object =>
    let line member := [' ', ' '] ++ memberChars [':', ' '] member
    '{' :: '\n' :: [',', '\n'].intercalate (object.map line) ++ ['\n', '}']

/-- The object with one member on a line. -/
def pretty (object : JsonObject) : String := String.ofList object.prettyChars

end JsonObject

end TwoOfThree
