-- SUMMARY: TOML dates and times.
import TwoOfThree.Toml.Number

/-!
# Dates and times

A date, a time of day, or a date with a time and perhaps an offset. Months have
their lengths, with leap years, and a minute may have a leap second. Only the
form is read: no setting is a date.
-/

namespace TwoOfThree.Toml

/-- The number written by exactly two digits, if it lies in a range. -/
def readTwoDigits (least greatest : Nat) : Reader Nat
  | a :: b :: rest =>
    if isDigit a && isDigit b then
      let n := digitsValue 10 [a, b]
      if least ≤ n ∧ n ≤ greatest then some (n, rest) else none
    else none
  | _ => none

def readChar (c : Char) : List Char → Option (List Char)
  | [] => none
  | d :: rest => if d = c then some rest else none

def isLeapYear (year : Nat) : Bool := year % 4 = 0 && (year % 100 ≠ 0 || year % 400 = 0)

def daysInMonth (year month : Nat) : Nat :=
  if month = 2 then if isLeapYear year then 29 else 28
  else if month = 4 ∨ month = 6 ∨ month = 9 ∨ month = 11 then 30
  else 31

def readDate : Reader Unit := fun cs => do
  let (century, cs) ← readTwoDigits 0 99 cs
  let (decade, cs) ← readTwoDigits 0 99 cs
  let cs ← readChar '-' cs
  let (month, cs) ← readTwoDigits 1 12 cs
  let cs ← readChar '-' cs
  let (_, rest) ← readTwoDigits 1 (daysInMonth (century * 100 + decade) month) cs
  return ((), rest)

/-- A fraction of a second. -/
def readSecondFraction (cs : List Char) : Option (List Char) :=
  match cs with
  | '.' :: c :: rest => if isDigit c then some (rest.dropWhile isDigit) else none
  | _ => none

def readTime : Reader Unit := fun cs => do
  let (_, cs) ← readTwoDigits 0 23 cs
  let cs ← readChar ':' cs
  let (_, cs) ← readTwoDigits 0 59 cs
  let cs ← readChar ':' cs
  let (_, cs) ← readTwoDigits 0 60 cs
  return ((), (readSecondFraction cs).getD cs)

def readOffset : Reader Unit
  | 'Z' :: rest => some ((), rest)
  | 'z' :: rest => some ((), rest)
  | c :: rest =>
    if c = '+' ∨ c = '-' then do
      let (_, cs) ← readTwoDigits 0 23 rest
      let cs ← readChar ':' cs
      let (_, rest) ← readTwoDigits 0 59 cs
      return ((), rest)
    else none
  | [] => none

/-- The time behind a date, with its offset. -/
def readTimeOfDate : Reader Unit
  | c :: rest =>
    if c = 'T' ∨ c = 't' ∨ c = ' ' then do
      let (_, rest) ← readTime rest
      return ((), ((readOffset rest).map Prod.snd).getD rest)
    else none
  | [] => none

def readDateTime : Reader Unit := fun cs =>
  match readDate cs with
  | some (_, rest) => some ((), ((readTimeOfDate rest).map Prod.snd).getD rest)
  | none => readTime cs

end TwoOfThree.Toml
