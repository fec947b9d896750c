-- SUMMARY: Byte strings, cutting them into pieces of one size, and their reading as big-endian numbers.

/-!
# Byte strings and big-endian numbers

A byte string is a list of bytes. `chunks` cuts a list into pieces of one
size, and `BigEndian` reads a byte string as the number it writes in base 256,
most significant byte first.
-/

namespace TwoOfThree

abbrev Bytes := List UInt8

/-- A byte string of one fixed length. -/
abbrev FixedBytes (size : Nat) := { bytes : Bytes // bytes.length = size }

/-! ## Pieces of one size -/

/-- The first `count` pieces of `size` elements each. -/
def chunks (size : Nat) : Nat → List α → List (List α)
  | 0, _ => []
  | count + 1, xs => xs.take size :: chunks size count (xs.drop size)

@[simp] theorem length_chunks (size count : Nat) (xs : List α) :
    (chunks size count xs).length = count := by
  induction count generalizing xs with
  | zero => rfl
  | succ count ih => simp [chunks, ih]

/-- The pieces, put together again, are the part of the list that was cut. -/
theorem flatten_chunks (size count : Nat) (xs : List α) :
    (chunks size count xs).flatten = xs.take (size * count) := by
  induction count generalizing xs with
  | zero => simp [chunks]
  | succ count ih =>
    rw [chunks, List.flatten_cons, ih, Nat.mul_succ, Nat.add_comm, List.take_add]

/-- Every piece is full when there is enough to cut. -/
theorem length_of_mem_chunks {size count : Nat} {xs piece : List α} (h : size * count ≤ xs.length)
    (hmem : piece ∈ chunks size count xs) : piece.length = size := by
  induction count generalizing xs with
  | zero => cases hmem
  | succ count ih =>
    rw [Nat.mul_succ] at h
    cases List.mem_cons.1 hmem with
    | inl hhead =>
      rw [hhead, List.length_take]
      omega
    | inr htail => exact ih (by rw [List.length_drop]; omega) htail

/-- Pieces of one size that were written one behind the other are cut apart again, whatever is
written behind the last one. -/
theorem chunks_flatMap {size : Nat} {f : β → List α} (h : ∀ x, (f x).length = size) (xs : List β)
    (rest : List α) : chunks size xs.length (xs.flatMap f ++ rest) = xs.map f := by
  induction xs with
  | nil => rfl
  | cons x xs ih =>
    have hcut : (x :: xs).flatMap f ++ rest = f x ++ (xs.flatMap f ++ rest) := by
      rw [List.flatMap_cons, List.append_assoc]
    rw [hcut, List.length_cons, chunks, List.take_left' (h x), List.drop_left' (h x), ih,
      List.map_cons]

/-! ## Big-endian numbers -/

namespace BigEndian

/-- The last `width` base-256 digits of a number, most significant first. -/
def encode : (width : Nat) → Nat → Bytes
  | 0, _ => []
  | width + 1, n => encode width (n / 256) ++ [UInt8.ofNat n]

/-- The number that a byte string writes in base 256. -/
def decode (bytes : Bytes) : Nat :=
  bytes.foldl (fun n byte => n * 256 + byte.toNat) 0

@[simp] theorem length_encode (width n : Nat) : (encode width n).length = width := by
  induction width generalizing n with
  | zero => rfl
  | succ width ih => simp [encode, ih]

end BigEndian

end TwoOfThree
