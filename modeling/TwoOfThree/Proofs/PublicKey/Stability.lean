-- SUMMARY: Sorting keeps the order of keys at one point, and nothing else of the order that keys came in.
import TwoOfThree.Proofs.Curve.Encoding
import TwoOfThree.Proofs.PublicKey.Order

/-!
# What sorting keeps of an order

Keys are compared by the short form of their points, so the order does not tell
the two forms of a key apart: sorting leaves keys at one point in the order in
which they came. Sorted keys keep this of the order before and nothing else.
-/

namespace TwoOfThree.PublicKey

variable {point : Curve.Point} {key : PublicKey} {keys keys' : List PublicKey}

/-! ## Forms of a key -/

theorem bytes_inj {key key' : PublicKey} (h : key.bytes = key'.bytes) : key = key' := by
  obtain ⟨point, compressed⟩ := key
  obtain ⟨point', compressed'⟩ := key'
  cases compressed <;> cases compressed'
  · obtain rfl : point = point' := Curve.Point.long_inj h
    rfl
  · exact absurd (congrArg List.length h) (by simp [bytes])
  · exact absurd (congrArg List.length h) (by simp [bytes])
  · obtain rfl : point = point' := Curve.Point.short_inj h
    rfl

/-- The order tells points apart. -/
theorem point_eq_of_rank_eq {a b : PublicKey} (h : a.rank = b.rank) : a.point = b.point :=
  Curve.Point.short_inj (sortKey_inj_of_rank h)

theorem rank_eq_of_point_eq {a b : PublicKey} (h : a.point = b.point) : a.rank = b.rank :=
  congrArg (fun point : Curve.Point => BigEndian.decode point.short) h

/-! ## Keys at one point -/

/-- The keys with this point, in the order of the keys. -/
def atPoint (point : Curve.Point) (keys : List PublicKey) : List PublicKey :=
  keys.filter fun key => key.point = point

theorem atPoint_cons_of_eq (h : key.point = point) :
    atPoint point (key :: keys) = key :: atPoint point keys :=
  List.filter_cons_of_pos (decide_eq_true h)

theorem atPoint_cons_of_ne (h : key.point ≠ point) :
    atPoint point (key :: keys) = atPoint point keys :=
  List.filter_cons_of_neg fun heq => h (of_decide_eq_true heq)

theorem mem_atPoint : key ∈ atPoint point keys ↔ key ∈ keys ∧ key.point = point :=
  List.mem_filter.trans (and_congr_right fun _ => decide_eq_true_iff)

theorem atPoint_perm (h : keys.Perm keys') (point : Curve.Point) :
    (atPoint point keys).Perm (atPoint point keys') :=
  h.filter _

/-! ## Sorting -/

/-- A key is put in front of the keys that it is not told apart from. -/
theorem atPoint_insertSorted (point : Curve.Point) (key : PublicKey) (keys : List PublicKey) :
    atPoint point (insertSorted key keys) = atPoint point (key :: keys) := by
  induction keys with
  | nil => rfl
  | cons other rest ih =>
    unfold insertSorted
    split
    · rfl
    · next hle =>
      -- the key goes behind another only where their points differ
      have hne : key.point ≠ other.point := fun heq =>
        hle (le_iff_rank_le.2 (Nat.le_of_eq (rank_eq_of_point_eq heq)))
      by_cases hkey : key.point = point
      · have hother : other.point ≠ point := fun hother => hne (hkey.trans hother.symm)
        simp only [atPoint_cons_of_ne hother, atPoint_cons_of_eq hkey, ih]
      · by_cases hother : other.point = point
        · simp only [atPoint_cons_of_eq hother, atPoint_cons_of_ne hkey, ih]
        · simp only [atPoint_cons_of_ne hother, atPoint_cons_of_ne hkey, ih]

theorem atPoint_sort (point : Curve.Point) (keys : List PublicKey) :
    atPoint point (sort keys) = atPoint point keys := by
  induction keys with
  | nil => rfl
  | cons key rest ih =>
    refine (atPoint_insertSorted point key (sort rest)).trans ?_
    by_cases hkey : key.point = point
    · rw [atPoint_cons_of_eq hkey, atPoint_cons_of_eq hkey, ih]
    · rw [atPoint_cons_of_ne hkey, atPoint_cons_of_ne hkey, ih]

/-- The first of sorted keys comes no later than any key whose point is found among them. -/
theorem rank_le_of_atPoint_ne_nil (h : (key :: keys).Pairwise fun a b => a.rank ≤ b.rank)
    {other : PublicKey} (hother : atPoint other.point (key :: keys) ≠ []) :
    key.rank ≤ other.rank := by
  obtain ⟨found, hfound⟩ := List.exists_mem_of_ne_nil _ hother
  obtain ⟨hmem, hpoint⟩ := mem_atPoint.1 hfound
  have hrank : found.rank = other.rank := rank_eq_of_point_eq hpoint
  rw [← hrank]
  rcases List.mem_cons.1 hmem with rfl | hmem
  · exact Nat.le_refl _
  · exact (List.pairwise_cons.1 h).1 found hmem

/-- Sorted keys are the same if at every point they have the same keys in the same order. -/
theorem eq_of_atPoint (h : keys.Pairwise fun a b => a.rank ≤ b.rank)
    (h' : keys'.Pairwise fun a b => a.rank ≤ b.rank)
    (hsame : ∀ point, atPoint point keys = atPoint point keys') : keys = keys' := by
  have hself (key : PublicKey) (rest : List PublicKey) : atPoint key.point (key :: rest) ≠ [] := by
    rw [atPoint_cons_of_eq rfl]
    exact List.cons_ne_nil _ _
  induction keys generalizing keys' with
  | nil =>
    cases keys' with
    | nil => rfl
    | cons key' rest' => exact absurd (hsame key'.point).symm (hself key' rest')
  | cons key rest ih =>
    cases keys' with
    | nil => exact absurd (hsame key.point) (hself key rest)
    | cons key' rest' =>
      -- each of the first keys finds its point on the other side too
      have hle : key.rank ≤ key'.rank :=
        rank_le_of_atPoint_ne_nil h (hsame key'.point ▸ hself key' rest')
      have hge : key'.rank ≤ key.rank :=
        rank_le_of_atPoint_ne_nil h' (hsame key.point ▸ hself key rest)
      have hpoint : key.point = key'.point := point_eq_of_rank_eq (Nat.le_antisymm hle hge)
      have hfirst := hsame key'.point
      rw [atPoint_cons_of_eq hpoint, atPoint_cons_of_eq rfl] at hfirst
      obtain ⟨rfl, hrest⟩ := List.cons.inj hfirst
      refine congrArg (key :: ·) (ih (List.pairwise_cons.1 h).2 (List.pairwise_cons.1 h').2 ?_)
      intro point
      by_cases heq : key.point = point
      · exact heq ▸ hrest
      · have hsame := hsame point
        rwa [atPoint_cons_of_ne heq, atPoint_cons_of_ne heq] at hsame

/-- Of the order before, sorted keys keep that of the keys at one point. -/
theorem sort_eq_iff : sort keys = sort keys' ↔ ∀ point, atPoint point keys = atPoint point keys' := by
  constructor
  · intro h point
    rw [← atPoint_sort, h, atPoint_sort]
  · intro h
    apply eq_of_atPoint (sort_pairwise keys) (sort_pairwise keys')
    intro point
    rw [atPoint_sort, atPoint_sort, h]

/-! ## Keys in one form each -/

/-- No point is there in both forms. -/
def OneFormEach (keys : List PublicKey) : Prop :=
  ∀ a ∈ keys, ∀ b ∈ keys, a.point = b.point → a.compressed = b.compressed

instance (keys : List PublicKey) : Decidable (OneFormEach keys) :=
  inferInstanceAs (Decidable (∀ a ∈ keys, ∀ b ∈ keys, _ → _))

/-- With one form for each point, the order of the keys does not show in those at a point. -/
theorem OneFormEach.atPoint_eq (h : OneFormEach keys) (hperm : keys'.Perm keys)
    (point : Curve.Point) : atPoint point keys' = atPoint point keys := by
  have hpoint := atPoint_perm hperm point
  cases hkeys : atPoint point keys with
  | nil => exact (hkeys ▸ hpoint).eq_nil
  | cons key rest =>
    have hall : ∀ other ∈ atPoint point keys, other = key := by
      intro other hother
      obtain ⟨hkey, heq⟩ := mem_atPoint.1 (hkeys ▸ List.mem_cons_self : key ∈ atPoint point keys)
      obtain ⟨hmem, heq'⟩ := mem_atPoint.1 hother
      have hpoints := heq'.trans heq.symm
      exact congrArg₂ PublicKey.mk hpoints (h other hmem key hkey hpoints)
    have hreplicate := List.eq_replicate_iff.2 ⟨rfl, hall⟩
    rw [hreplicate] at hpoint
    rw [← hkeys, List.perm_replicate.1 hpoint, ← hreplicate]

theorem perm_cons_cons_of_mem {a b : PublicKey} (ha : a ∈ keys) (hb : b ∈ keys) (hne : b ≠ a) :
    ∃ rest, (a :: b :: rest).Perm keys := by
  have hmem : b ∈ keys.erase a := (List.mem_erase_of_ne hne).2 hb
  refine ⟨(keys.erase a).erase b, ?_⟩
  exact ((List.perm_cons_erase ha).trans ((List.perm_cons_erase hmem).cons a)).symm

/-- Sorting forgets the order of keys exactly where no point is there in both forms. -/
theorem oneFormEach_iff_sort_eq :
    OneFormEach keys ↔ ∀ keys', keys'.Perm keys → sort keys' = sort keys := by
  constructor
  · intro h keys' hperm
    exact sort_eq_iff.2 (h.atPoint_eq hperm)
  · intro h a ha b hb hpoint
    by_cases hne : b = a
    · exact congrArg compressed hne.symm
    · obtain ⟨rest, hperm⟩ := perm_cons_cons_of_mem ha hb hne
      have hswap := h _ ((List.Perm.swap a b rest).trans hperm)
      have hsame := sort_eq_iff.1 ((h _ hperm).trans hswap.symm) b.point
      rw [atPoint_cons_of_eq hpoint, atPoint_cons_of_eq rfl, atPoint_cons_of_eq rfl] at hsame
      exact congrArg compressed (List.cons.inj hsame).1

end TwoOfThree.PublicKey
