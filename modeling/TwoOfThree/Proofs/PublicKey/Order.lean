-- SUMMARY: The order of public keys is that of the numbers their short forms write, and sorting follows it.
import TwoOfThree.Bytes.BigEndianLaws
import TwoOfThree.PublicKey

/-!
# The order of public keys

Comparing two byte strings of one length at the first place where they differ is
comparing the big-endian numbers that they write. So the order of keys is the
order of numbers, read off `rank`, and a sorted list of keys is determined, up
to the form that its keys are written in, by which keys it holds.
-/

namespace TwoOfThree

/-! ## Comparing byte strings -/

namespace BigEndian

theorem decode_cons (byte : UInt8) (rest : Bytes) :
    decode (byte :: rest) = byte.toNat * 256 ^ rest.length + decode rest := by
  suffices h : ∀ reversed : Bytes,
      decode (byte :: reversed.reverse)
        = byte.toNat * 256 ^ reversed.length + decode reversed.reverse by
    simpa using h rest.reverse
  intro reversed
  induction reversed with
  | nil => simp [decode]
  | cons last init ih =>
    rw [List.reverse_cons, ← List.cons_append, decode_append_byte, decode_append_byte, ih,
      List.length_cons, Nat.pow_succ, Nat.add_mul, ← Nat.mul_assoc, Nat.add_assoc]

end BigEndian

theorem compare_toNat (x y : UInt8) : compare x.toNat y.toNat = compare x y := by
  simp [compare, compareOfLessAndEq, UInt8.lt_iff_toNat_lt, UInt8.toNat_inj]

namespace PublicKey

theorem compareBytes_eq_compare {a b : Bytes} (h : a.length = b.length) :
    compareBytes a b = compare (BigEndian.decode a) (BigEndian.decode b) := by
  induction a generalizing b with
  | nil =>
    obtain rfl := List.length_eq_zero_iff.1 h.symm
    rfl
  | cons x as ih =>
    cases b with
    | nil => simp at h
    | cons y bs =>
      have hlen : as.length = bs.length := by simpa using h
      have ha := BigEndian.decode_lt as
      have hb := BigEndian.decode_lt bs
      rw [hlen] at ha
      rw [compareBytes, ← compare_toNat, BigEndian.decode_cons, BigEndian.decode_cons, hlen]
      -- The first byte decides unless it is the same on both sides, since what follows it is
      -- below one unit of its place.
      rcases Nat.lt_trichotomy x.toNat y.toNat with hlt | heq | hgt
      · have hsum : x.toNat * 256 ^ bs.length + BigEndian.decode as
            < y.toNat * 256 ^ bs.length + BigEndian.decode bs := by
          have := Nat.mul_le_mul_right (256 ^ bs.length) hlt
          rw [Nat.succ_mul] at this
          omega
        rw [Nat.compare_eq_lt.2 hlt, Nat.compare_eq_lt.2 hsum]
      · obtain rfl := UInt8.toNat_inj.1 heq
        rw [Nat.compare_eq_eq.2 rfl, ih hlen]
        simp only [Nat.compare_eq_ite_lt, Nat.add_lt_add_iff_left]
      · have hsum : y.toNat * 256 ^ bs.length + BigEndian.decode bs
            < x.toNat * 256 ^ bs.length + BigEndian.decode as := by
          have := Nat.mul_le_mul_right (256 ^ bs.length) hgt
          rw [Nat.succ_mul] at this
          omega
        rw [Nat.compare_eq_gt.2 hgt, Nat.compare_eq_gt.2 hsum]

/-- The comparison is the lexicographic order. -/
theorem compareBytes_ne_gt_iff_le {a b : Bytes} (h : a.length = b.length) :
    compareBytes a b ≠ .gt ↔ a ≤ b := by
  induction a generalizing b with
  | nil =>
    obtain rfl := List.length_eq_zero_iff.1 h.symm
    simp [compareBytes]
  | cons x as ih =>
    cases b with
    | nil => simp at h
    | cons y bs =>
      have hlen : as.length = bs.length := by simpa using h
      rw [compareBytes, ← compare_toNat, List.cons_le_cons_iff, UInt8.lt_iff_toNat_lt,
        ← UInt8.toNat_inj]
      rcases Nat.lt_trichotomy x.toNat y.toNat with hlt | heq | hgt
      · simp [Nat.compare_eq_lt.2 hlt, hlt]
      · simp [heq, ih hlen]
      · simp [Nat.compare_eq_gt.2 hgt, Nat.not_lt.2 (Nat.le_of_lt hgt), Nat.ne_of_gt hgt]

/-! ## The rank of a key -/

/-- The number that the short form of a key writes. -/
def rank (key : PublicKey) : Nat := BigEndian.decode key.sortKey

@[simp] theorem length_sortKey (key : PublicKey) : key.sortKey.length = 33 := by
  simp [sortKey]

theorem le_iff_rank_le {a b : PublicKey} : a.le b = true ↔ a.rank ≤ b.rank := by
  rw [le, compareBytes_eq_compare (by simp), bne_iff_ne, Nat.compare_ne_gt]
  rfl

theorem sortKey_inj_of_rank {a b : PublicKey} (h : a.rank = b.rank) : a.sortKey = b.sortKey :=
  BigEndian.decode_inj (by simp) h

/-! ## Sorting -/

theorem insertSorted_perm (key : PublicKey) (keys : List PublicKey) :
    (insertSorted key keys).Perm (key :: keys) := by
  induction keys with
  | nil => exact .refl _
  | cons other rest ih =>
    rw [insertSorted]
    split
    · exact .refl _
    · exact (ih.cons other).trans (.swap key other rest)

theorem sort_perm (keys : List PublicKey) : (sort keys).Perm keys := by
  induction keys with
  | nil => exact .refl _
  | cons key rest ih => exact (insertSorted_perm key _).trans (ih.cons key)

theorem forall_mem_sort {p : PublicKey → Prop} {keys : List PublicKey} (h : ∀ key ∈ keys, p key) :
    ∀ key ∈ sort keys, p key :=
  fun key hkey => h key ((sort_perm keys).mem_iff.1 hkey)

@[simp] theorem length_sort (keys : List PublicKey) : (sort keys).length = keys.length :=
  (sort_perm keys).length_eq

theorem insertSorted_pairwise {key : PublicKey} {keys : List PublicKey}
    (h : keys.Pairwise fun a b => a.rank ≤ b.rank) :
    (insertSorted key keys).Pairwise fun a b => a.rank ≤ b.rank := by
  induction keys with
  | nil => exact List.pairwise_singleton _ _
  | cons other rest ih =>
    obtain ⟨hother, hrest⟩ := List.pairwise_cons.1 h
    rw [insertSorted]
    split
    · next hle =>
      have hkey : key.rank ≤ other.rank := le_iff_rank_le.1 hle
      refine List.pairwise_cons.2 ⟨?_, h⟩
      intro a ha
      rcases List.mem_cons.1 ha with rfl | ha
      · exact hkey
      · exact Nat.le_trans hkey (hother a ha)
    · next hle =>
      have hkey : other.rank ≤ key.rank := by
        rw [le_iff_rank_le] at hle
        omega
      refine List.pairwise_cons.2 ⟨?_, ih hrest⟩
      intro a ha
      rcases List.mem_cons.1 ((insertSorted_perm key rest).mem_iff.1 ha) with rfl | ha
      · exact hkey
      · exact hother a ha

theorem sort_pairwise (keys : List PublicKey) :
    (sort keys).Pairwise fun a b => a.rank ≤ b.rank := by
  induction keys with
  | nil => exact List.Pairwise.nil
  | cons key rest ih => exact insertSorted_pairwise ih

theorem sort_sortKeys_pairwise (keys : List PublicKey) :
    ((sort keys).map sortKey).Pairwise (· ≤ ·) := by
  refine List.pairwise_map.2 ((sort_pairwise keys).imp ?_)
  intro a b hab
  have hle : compareBytes a.sortKey b.sortKey ≠ .gt := bne_iff_ne.1 (le_iff_rank_le.2 hab)
  exact (compareBytes_ne_gt_iff_le (by simp)).1 hle

/-- Keys that are sorted and whose short forms are the same up to their order have the same short
forms one by one. -/
theorem sortKeys_eq_of_pairwise {keys keys' : List PublicKey}
    (h : keys.Pairwise fun a b => a.rank ≤ b.rank)
    (h' : keys'.Pairwise fun a b => a.rank ≤ b.rank)
    (hperm : (keys.map sortKey).Perm (keys'.map sortKey)) :
    keys.map sortKey = keys'.map sortKey := by
  have hranks : (keys.map sortKey).Pairwise fun a b => BigEndian.decode a ≤ BigEndian.decode b :=
    List.pairwise_map.2 h
  have hranks' : (keys'.map sortKey).Pairwise fun a b => BigEndian.decode a ≤ BigEndian.decode b :=
    List.pairwise_map.2 h'
  refine hperm.eq_of_pairwise ?_ hranks hranks'
  intro a b ha hb hab hba
  obtain ⟨key, _, rfl⟩ := List.mem_map.1 ha
  obtain ⟨key', _, rfl⟩ := List.mem_map.1 hb
  exact sortKey_inj_of_rank (Nat.le_antisymm hab hba)

theorem sort_sortKeys_of_perm {keys keys' : List PublicKey} (h : keys.Perm keys') :
    (sort keys).map sortKey = (sort keys').map sortKey := by
  apply sortKeys_eq_of_pairwise (sort_pairwise keys) (sort_pairwise keys')
  exact (((sort_perm keys).trans h).trans (sort_perm keys').symm).map sortKey

end PublicKey

end TwoOfThree
