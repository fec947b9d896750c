-- SUMMARY: Comparing encodings is comparing numbers, so sorting arranges them in the one ascending way.
import TwoOfThree.Proofs.PublicKey.Order

/-!
# The arrangement of encodings

Two encodings of 33 bytes are compared like the big-endian numbers that they
write, bytes above 0x7f included. The comparison is therefore a total order, and
it is the order of byte strings by their first difference. There is then one way
only to arrange the encodings of keys so that they ascend, and sorting the keys
arrives at it.
-/

namespace TwoOfThree.PublicKey

variable {a b c : Bytes}

/-! ## A total order -/

theorem compareBytes_eq_eq_iff (h : a.length = b.length) : compareBytes a b = .eq ↔ a = b := by
  rw [compareBytes_eq_compare h, Nat.compare_eq_eq]
  exact ⟨BigEndian.decode_inj h, congrArg BigEndian.decode⟩

theorem compareBytes_swap (h : a.length = b.length) :
    compareBytes b a = (compareBytes a b).swap := by
  rw [compareBytes_eq_compare h, compareBytes_eq_compare h.symm, Nat.compare_swap]

theorem isLE_compareBytes_iff (h : a.length = b.length) :
    (compareBytes a b).isLE = true ↔ BigEndian.decode a ≤ BigEndian.decode b := by
  rw [compareBytes_eq_compare h, Nat.isLE_compare]

theorem isLE_compareBytes_trans (hab : a.length = b.length) (hbc : b.length = c.length)
    (h : (compareBytes a b).isLE = true) (h' : (compareBytes b c).isLE = true) :
    (compareBytes a c).isLE = true := by
  rw [isLE_compareBytes_iff hab] at h
  rw [isLE_compareBytes_iff hbc] at h'
  exact (isLE_compareBytes_iff (hab.trans hbc)).2 (Nat.le_trans h h')

/-- The smaller of two byte strings is the one that comes first in the lexicographic order. -/
theorem compareBytes_eq_lt_iff_lt (h : a.length = b.length) : compareBytes a b = .lt ↔ a < b := by
  have hswap : compareBytes b a = .gt ↔ compareBytes a b = .lt := by
    rw [compareBytes_swap h, Ordering.swap_eq_gt]
  rw [← hswap, ← List.not_le, ← compareBytes_ne_gt_iff_le h.symm, Decidable.not_not]

/-! ## The ascending arrangement -/

/-- The same encodings, each as often, with none in front of a smaller one. -/
structure Arranges (arranged encodings : List Bytes) : Prop where
  perm : arranged.Perm encodings
  ascending : arranged.Pairwise (· ≤ ·)

theorem arranges_sort (keys : List PublicKey) :
    Arranges ((sort keys).map sortKey) (keys.map sortKey) :=
  ⟨(sort_perm keys).map sortKey, sort_sortKeys_pairwise keys⟩

theorem Arranges.unique {arranged arranged' encodings : List Bytes}
    (h : Arranges arranged encodings) (h' : Arranges arranged' encodings) :
    arranged = arranged' := by
  refine (h.perm.trans h'.perm.symm).eq_of_pairwise ?_ h.ascending h'.ascending
  intro a b _ _ hab hba
  exact List.le_antisymm hab hba

theorem arranges_iff {keys : List PublicKey} {arranged : List Bytes} :
    Arranges arranged (keys.map sortKey) ↔ arranged = (sort keys).map sortKey := by
  constructor
  · intro h
    exact h.unique (arranges_sort keys)
  · rintro rfl
    exact arranges_sort keys

/-- Encodings compare like the numbers that they write. Only an encoding itself compares equal to
it, exchanging two of them reverses the result, and what is not above a second one is not above a
third that the second one is not above. The comparison is the lexicographic order of byte strings,
and the encodings of sorted keys are their one ascending arrangement in it. -/
theorem encodings_ordered :
    (∀ a b : FixedBytes 33,
      compareBytes a.val b.val = compare (BigEndian.decode a.val) (BigEndian.decode b.val)) ∧
    (∀ a b : FixedBytes 33, compareBytes a.val b.val = .eq ↔ a = b) ∧
    (∀ a b : FixedBytes 33, compareBytes b.val a.val = (compareBytes a.val b.val).swap) ∧
    (∀ a b c : FixedBytes 33, (compareBytes a.val b.val).isLE = true →
      (compareBytes b.val c.val).isLE = true → (compareBytes a.val c.val).isLE = true) ∧
    (∀ a b : FixedBytes 33, compareBytes a.val b.val = .lt ↔ a.val < b.val) ∧
    ∀ keys arranged,
      Arranges arranged (keys.map sortKey) ↔ arranged = (sort keys).map sortKey := by
  have hlength (a b : FixedBytes 33) : a.val.length = b.val.length :=
    a.property.trans b.property.symm
  refine ⟨?_, ?_, ?_, ?_, ?_, fun _ _ => arranges_iff⟩
  · intro a b
    exact compareBytes_eq_compare (hlength a b)
  · intro a b
    exact (compareBytes_eq_eq_iff (hlength a b)).trans Subtype.ext_iff.symm
  · intro a b
    exact compareBytes_swap (hlength a b)
  · intro a b c
    exact isLE_compareBytes_trans (hlength a b) (hlength b c)
  · intro a b
    exact compareBytes_eq_lt_iff_lt (hlength a b)

/-- The last byte decides between the first two, with its top bit, and the first byte between these
and the third. -/
theorem encodings_ordered_top_bit :
    let a : FixedBytes 33 := ⟨0x02 :: List.replicate 31 0xff ++ [0x7f], rfl⟩
    let b : FixedBytes 33 := ⟨0x02 :: List.replicate 31 0xff ++ [0x80], rfl⟩
    let c : FixedBytes 33 := ⟨0x03 :: List.replicate 32 0, rfl⟩
    (compareBytes a.val b.val).isLE = true ∧ (compareBytes b.val c.val).isLE = true ∧
      (compareBytes a.val c.val).isLE = true := by
  intro a b c
  have hab : (compareBytes a.val b.val).isLE = true := by decide
  have hbc : (compareBytes b.val c.val).isLE = true := by decide
  exact ⟨hab, hbc, encodings_ordered.2.2.2.1 a b c hab hbc⟩

end TwoOfThree.PublicKey
