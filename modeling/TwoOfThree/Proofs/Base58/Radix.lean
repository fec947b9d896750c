-- SUMMARY: Changing the base of a digit string and changing it back gives the same digit string.
import Mathlib.Data.List.TakeWhile
import Mathlib.Data.Nat.Digits.Lemmas
import TwoOfThree.Encoding.Radix

/-!
# Changing the base back

The digits that are written are those of the library's `Nat.digits`, in the other
direction, and the number that is read is its `Nat.ofDigits`. Leading zeros play no
part in the number, and the digits of a number have none, so the zeros in front of
a conversion are exactly those that were there before.
-/

namespace TwoOfThree.Radix

variable {base source target : Nat}

/-! ## Numbers and digits -/

theorem toNat_eq_ofDigits (base : Nat) (ds : List Nat) :
    toNat base ds = Nat.ofDigits base ds.reverse := by
  rw [Nat.ofDigits_eq_foldr, List.foldr_reverse, toNat]
  simp only [Nat.cast_id, Nat.mul_comm, Nat.add_comm]

theorem digitsOnto_eq (h : 1 < base) {count n : Nat} (hcount : n ≤ count) (written : List Nat) :
    digitsOnto base count n written = (Nat.digits base n).reverse ++ written := by
  induction count generalizing n written with
  | zero =>
    obtain rfl : n = 0 := Nat.le_zero.1 hcount
    rw [digitsOnto, Nat.digits_zero]
    rfl
  | succ count ih =>
    rw [digitsOnto]
    split
    · next hzero =>
      rw [hzero, Nat.digits_zero]
      rfl
    · next hne =>
      have hpos : 0 < n := Nat.pos_of_ne_zero hne
      have hdiv : n / base < n := Nat.div_lt_self hpos h
      rw [ih (by omega), Nat.digits_def' h hpos, List.reverse_cons, List.append_assoc]
      rfl

theorem digits_eq (h : 1 < base) (n : Nat) : digits base n = (Nat.digits base n).reverse := by
  rw [digits, digitsOnto_eq h (Nat.le_refl n), List.append_nil]

theorem toNat_digits (h : 1 < base) (n : Nat) : toNat base (digits base n) = n := by
  rw [toNat_eq_ofDigits, digits_eq h, List.reverse_reverse, Nat.ofDigits_digits]

theorem lt_of_mem_digits (h : 1 < base) {n d : Nat} (hd : d ∈ digits base n) : d < base := by
  rw [digits_eq h, List.mem_reverse] at hd
  exact Nat.digits_lt_base h hd

/-- The digits of a number have no leading zero. -/
theorem takeWhile_digits (h : 1 < base) (n : Nat) : (digits base n).takeWhile (· == 0) = [] := by
  rw [digits_eq h]
  by_cases hzero : n = 0
  · rw [hzero, Nat.digits_zero]
    rfl
  · have hne : Nat.digits base n ≠ [] := Nat.digits_ne_nil_iff_ne_zero.2 hzero
    have hlast := Nat.getLast_digit_ne_zero base hzero
    rw [← List.dropLast_append_getLast hne, List.reverse_append]
    exact List.takeWhile_cons_of_neg (by simpa using hlast)

/-! ## Leading zeros -/

theorem takeWhile_zeros (ds : List Nat) :
    ds.takeWhile (· == 0) = List.replicate (ds.takeWhile (· == 0)).length 0 := by
  refine List.eq_replicate_iff.2 ⟨rfl, ?_⟩
  intro d hd
  exact eq_of_beq (List.mem_takeWhile_imp (p := (· == 0)) hd)

theorem toNat_zeros_append (base count : Nat) (ds : List Nat) :
    toNat base (List.replicate count 0 ++ ds) = toNat base ds := by
  rw [toNat_eq_ofDigits, List.reverse_append, List.reverse_replicate,
    Nat.ofDigits_append_replicate_zero, toNat_eq_ofDigits]

theorem toNat_dropWhile (base : Nat) (ds : List Nat) :
    toNat base (ds.dropWhile (· == 0)) = toNat base ds := by
  have hsplit : List.replicate (ds.takeWhile (· == 0)).length 0 ++ ds.dropWhile (· == 0) = ds := by
    rw [← takeWhile_zeros, List.takeWhile_append_dropWhile]
  conv => rhs; rw [← hsplit, toNat_zeros_append]

/-- The digits of the number that a digit string writes are those behind its leading zeros. -/
theorem digits_toNat (h : 1 < base) {ds : List Nat} (hds : ∀ d ∈ ds, d < base) :
    digits base (toNat base ds) = ds.dropWhile (· == 0) := by
  have hmem : ∀ d ∈ (ds.dropWhile (· == 0)).reverse, d < base := fun d hd =>
    hds d ((List.dropWhile_suffix _).subset (List.mem_reverse.1 hd))
  have hlast : ∀ hne : (ds.dropWhile (· == 0)).reverse ≠ [],
      (ds.dropWhile (· == 0)).reverse.getLast hne ≠ 0 := by
    intro hne
    rw [List.getLast_reverse]
    exact ne_of_beq_false (List.head_dropWhile_not (· == 0) _)
  rw [digits_eq h, ← toNat_dropWhile, toNat_eq_ofDigits, Nat.digits_ofDigits base h _ hmem hlast,
    List.reverse_reverse]

/-! ## Conversions -/

theorem takeWhile_convert (h : 1 < target) (ds : List Nat) :
    (convert source target ds).takeWhile (· == 0) = ds.takeWhile (· == 0) := by
  rw [convert, List.takeWhile_append_of_pos fun d hd => List.mem_takeWhile_imp (p := (· == 0)) hd,
    takeWhile_digits h, List.append_nil]

theorem toNat_convert (h : 1 < target) (ds : List Nat) :
    toNat target (convert source target ds) = toNat source ds := by
  rw [convert, takeWhile_zeros, toNat_zeros_append, toNat_digits h]

theorem lt_of_mem_convert (h : 1 < target) {ds : List Nat} {d : Nat}
    (hd : d ∈ convert source target ds) : d < target := by
  rw [convert, takeWhile_zeros, List.mem_append] at hd
  rcases hd with hd | hd
  · rw [List.eq_of_mem_replicate hd]
    omega
  · exact lt_of_mem_digits h hd

/-- A digit string comes back from every other base. -/
theorem convert_convert (hsource : 1 < source) (htarget : 1 < target) {ds : List Nat}
    (hds : ∀ d ∈ ds, d < source) : convert target source (convert source target ds) = ds := by
  rw [convert, takeWhile_convert htarget, toNat_convert htarget, digits_toNat hsource hds,
    List.takeWhile_append_dropWhile]

/-- Every further leading zero is one more on the other side. -/
theorem convert_zeros_append (source target count : Nat) (ds : List Nat) :
    convert source target (List.replicate count 0 ++ ds)
      = List.replicate count 0 ++ convert source target ds := by
  have hzeros : ∀ d ∈ List.replicate count 0, (d == 0) = true := fun d hd =>
    beq_iff_eq.2 (List.eq_of_mem_replicate hd)
  rw [convert, List.takeWhile_append_of_pos hzeros, toNat_zeros_append, List.append_assoc, convert]

end TwoOfThree.Radix
