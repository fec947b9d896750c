-- SUMMARY: Changing the base of a digit string, leading zeros kept.

/-!
# Changing the base of a digit string

A digit string is a list of digits, most significant first. `convert` reads it in
one base and writes the number in another. The leading zeros say nothing about
the number, so they are carried over one for one, which is what makes the
conversion reversible.
-/

namespace TwoOfThree.Radix

/-- The number that the digits write. -/
def toNat (base : Nat) (digits : List Nat) : Nat :=
  digits.foldl (fun n digit => n * base + digit) 0

/-- The digits of a number in front of the digits already written. The first argument bounds
their count. -/
def digitsOnto (base : Nat) : (count : Nat) → Nat → List Nat → List Nat
  | 0, _, written => written
  | count + 1, n, written =>
    if n = 0 then written else digitsOnto base count (n / base) (n % base :: written)

/-- The digits of a number without leading zeros: none for zero. -/
def digits (base n : Nat) : List Nat := digitsOnto base n n []

/-- The digit string in another base for the same number, keeping its leading zeros. -/
def convert (source target : Nat) (ds : List Nat) : List Nat :=
  ds.takeWhile (· == 0) ++ digits target (toNat source ds)

end TwoOfThree.Radix
