-- SUMMARY: Text between quotation marks, with escapes for whatever would not show as itself.
import TwoOfThree.Text.GraphemeExtend
import TwoOfThree.Text.Hex
import TwoOfThree.Text.Unprintable

/-!
# Quoted text

Text that somebody else supplied is shown between quotation marks. The quotation
mark, the backslash and four control characters have short escapes; any other
character that is unprintable, shows nothing or extends the one before it is
written as its code point in hexadecimal; all else stands for itself.
-/

namespace TwoOfThree.Quoted

/-! ## Characters that do not show as themselves -/

/-- The letters that stand for an absent part of a syllable and show nothing. -/
def fillers : List Char := ['\u115f', '\u1160', '\u3164', '\uffa0']

/-- The halfwidth sound marks, which extend the character before them and still take up a place of
their own. -/
def soundMarks : List Char := ['\uff9e', '\uff9f']

def isHidden (c : Char) : Bool :=
  Unprintable.contains c || fillers.contains c ||
    (GraphemeExtend.contains c && !soundMarks.contains c)

/-! ## Writing -/

def escapeCodePoint (c : Char) : List Char :=
  ['\\', 'u', '{'] ++ Nat.toDigits 16 c.toNat ++ ['}']

def escape (c : Char) : List Char :=
  if c = '\x00' then ['\\', '0']
  else if c = '\t' then ['\\', 't']
  else if c = '\r' then ['\\', 'r']
  else if c = '\n' then ['\\', 'n']
  else if c = '"' then ['\\', '"']
  else if c = '\\' then ['\\', '\\']
  else if isHidden c then escapeCodePoint c
  else [c]

def encodeChars (chars : List Char) : List Char := '"' :: chars.flatMap escape ++ ['"']

def encode (text : String) : String := String.ofList (encodeChars text.toList)

end TwoOfThree.Quoted
