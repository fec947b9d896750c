-- SUMMARY: A network selector written as a JSON value, and read from one.
import TwoOfThree.Json.StringLiteral
import TwoOfThree.Network

/-!
# Network selectors in JSON

In JSON a network goes by the name of its constructor, in lower case. It is
written as the string literal of this name. It is read from such a literal, in any
spelling, or from an object whose only member has this name and null as its value.
Blanks may stand between the parts.
-/

namespace TwoOfThree.Network

/-! ## Names -/

def constructorName : Network → String
  | .main => "Main"
  | .test => "Test"

/-- What the network is called in JSON. -/
def jsonName (network : Network) : String := network.constructorName.toLower

def ofJsonName? (name : String) : Option Network :=
  [Network.main, Network.test].find? fun network => name = network.jsonName

/-! ## Values -/

/-- The network as a JSON value. -/
def json (network : Network) : String :=
  String.ofList (JsonString.encode network.jsonName.toList)

/-- Read an object with one member, from behind its opening brace: the name of the member, if its
value is null, and what follows the closing brace. -/
def readUnitMember (cs : List Char) : Option (List Char × List Char) := do
  let (name, rest) ← JsonString.read (JsonString.skipBlanks cs)
  let ':' :: rest := JsonString.skipBlanks rest | none
  let 'n' :: 'u' :: 'l' :: 'l' :: rest := JsonString.skipBlanks rest | none
  let '}' :: rest := JsonString.skipBlanks rest | none
  return (name, rest)

/-- Read the name of a network from a JSON value. -/
def readName (cs : List Char) : Option (List Char × List Char) :=
  match cs with
  | '{' :: rest => readUnitMember rest
  | _ => JsonString.read cs

/-- The network that a JSON text denotes. -/
def ofJson? (text : String) : Option Network := do
  let (name, rest) ← readName (JsonString.skipBlanks text.toList)
  if JsonString.skipBlanks rest = [] then ofJsonName? (String.ofList name) else none

end TwoOfThree.Network
