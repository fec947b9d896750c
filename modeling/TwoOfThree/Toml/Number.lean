-- SUMMARY: TOML integers and floats.
import TwoOfThree.Toml.Text

/-!
# Numbers

Integers are decimal with an optional sign, or hexadecimal, octal or binary
without one, and have to fit 64 bits with a sign. Floats are decimal with a
fraction or an exponent, or the words for infinity and for no number. A single
underscore may stand between two digits, and a decimal number has no leading
zeros. Of a float only its form matters, and that a positive one is not so large
that it would round to infinity.
-/

namespace TwoOfThree.Toml

/-! ## Digits -/

/-- The digits at the front of the input, without the underscores between them. -/
def digitTail (isDigit : Char → Bool) : List Char → List Char × List Char
  | [] => ([], [])
  | '_' :: c :: rest =>
    if isDigit c then
      let (digits, rest) := digitTail isDigit rest
      (c :: digits, rest)
    else ([], '_' :: c :: rest)
  | c :: rest =>
    if isDigit c then
      let (digits, rest) := digitTail isDigit rest
      (c :: digits, rest)
    else ([], c :: rest)

/-- One digit or more. -/
def readDigits (isDigit : Char → Bool) : Reader (List Char)
  | [] => none
  | c :: rest =>
    if isDigit c then
      let (digits, rest) := digitTail isDigit rest
      some (c :: digits, rest)
    else none

/-- The number that digits write in a base. -/
def digitsValue (base : Nat) (digits : List Char) : Nat :=
  digits.foldl (fun n c => n * base + (hexValue? c).getD 0) 0

/-- A sign at the front of the input: whether it is a minus, and what follows. -/
def readSign : List Char → Bool × List Char
  | '+' :: rest => (false, rest)
  | '-' :: rest => (true, rest)
  | cs => (false, cs)

/-- Decimal digits without leading zeros. -/
def readDecimal : Reader (List Char)
  | '0' :: rest => some (['0'], rest)
  | cs => readDigits isDigit cs

/-! ## Integers -/

/-- The integers that fit 64 bits. -/
def inRange (n : Int) : Bool := -9223372036854775808 ≤ n && n ≤ 9223372036854775807

def readRadix (base : Nat) (isDigit : Char → Bool) : Reader Int := fun cs => do
  let (digits, rest) ← readDigits isDigit cs
  let n : Int := digitsValue base digits
  if inRange n then some (n, rest) else none

def readInteger : Reader Int
  | '0' :: 'x' :: rest => readRadix 16 (fun c => (hexValue? c).isSome) rest
  | '0' :: 'o' :: rest => readRadix 8 (fun c => '0' ≤ c && c ≤ '7') rest
  | '0' :: 'b' :: rest => readRadix 2 (fun c => c = '0' || c = '1') rest
  | cs => do
    let (negative, cs) := readSign cs
    let (digits, rest) ← readDecimal cs
    let magnitude : Int := digitsValue 10 digits
    let n := if negative then -magnitude else magnitude
    if inRange n then some (n, rest) else none

/-! ## Floats -/

/-- The least number that rounds to infinity: halfway from the greatest float to the next power of
two. -/
def overflowThreshold : Nat := (1 <<< 1024) - (1 <<< 970)

/-- Whether `digits * 10 ^ exponent` rounds to infinity. Far outside the range of floats the
number of digits decides. -/
def overflows (digits : Nat) (exponent : Int) : Bool :=
  let magnitude := (Nat.toDigits 10 digits).length + exponent
  if digits = 0 ∨ magnitude < 300 then false
  else if 320 < magnitude then true
  else if 0 ≤ exponent then overflowThreshold ≤ digits * Nat.pow 10 exponent.toNat
  else overflowThreshold * Nat.pow 10 (-exponent).toNat ≤ digits

/-- A fraction, without its point. -/
def readFraction : Reader (List Char)
  | '.' :: rest => readDigits isDigit rest
  | _ => none

def readExponent : Reader Int
  | c :: rest =>
    if c = 'e' ∨ c = 'E' then do
      let (negative, rest) := readSign rest
      let (digits, rest) ← readDigits isDigit rest
      let magnitude : Int := digitsValue 10 digits
      some (if negative then -magnitude else magnitude, rest)
    else none
  | [] => none

/-- Read a decimal float: a fraction, an exponent, or both must follow its whole part. -/
def readDecimalFloat : Reader Unit := fun cs => do
  let (negative, cs) := readSign cs
  let (whole, cs) ← readDecimal cs
  let (fraction, exponent, rest) ←
    match readFraction cs with
    | some (fraction, cs) =>
      match readExponent cs with
      | some (exponent, rest) => some (fraction, exponent, rest)
      | none => some (fraction, 0, cs)
    | none =>
      match readExponent cs with
      | some (exponent, rest) => some ([], exponent, rest)
      | none => none
  let digits := digitsValue 10 (whole ++ fraction)
  if !negative && overflows digits (exponent - fraction.length) then none else some ((), rest)

/-- Read one of the words that are floats. -/
def readFloatWord : Reader Unit := fun cs =>
  match (readSign cs).2 with
  | 'i' :: 'n' :: 'f' :: rest => some ((), rest)
  | 'n' :: 'a' :: 'n' :: rest => some ((), rest)
  | _ => none

def readFloat : Reader Unit := fun cs => readDecimalFloat cs <|> readFloatWord cs

end TwoOfThree.Toml
