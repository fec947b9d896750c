-- SUMMARY: Each byte form of a curve point determines the point.
import TwoOfThree.Bytes.BigEndianLaws
import TwoOfThree.Curve.Encoding
import TwoOfThree.Proofs.Curve.FieldPrime

/-!
# Byte forms determine points

The long form writes both coordinates. The short form writes one of them and the
parity of the other, which is enough: at most two numbers below the field prime
have the same square, and as they add up to the prime, which is odd, one of them
is odd and one even.
-/

namespace TwoOfThree.Curve

/-- Two numbers with one square are the same or add up to the field prime. -/
theorem eq_or_add_eq_of_square_eq {a b : Nat} (ha : a < p) (hb : b < p)
    (h : Coordinate.square a = Coordinate.square b) : a = b ∨ a + b = p := by
  have : Fact p.Prime := ⟨prime_p⟩
  have hsquares : (a : ZMod p) ^ 2 = (b : ZMod p) ^ 2 := by
    rw [pow_two, pow_two, ← Nat.cast_mul, ← Nat.cast_mul, ZMod.natCast_eq_natCast_iff']
    exact h
  rcases sq_eq_sq_iff_eq_or_eq_neg.1 hsquares with heq | hneg
  · rw [ZMod.natCast_eq_natCast_iff', Nat.mod_eq_of_lt ha, Nat.mod_eq_of_lt hb] at heq
    exact .inl heq
  · rw [eq_neg_iff_add_eq_zero, ← Nat.cast_add, ZMod.natCast_eq_zero_iff] at hneg
    -- the sum is below twice the prime, so it is the prime or both are zero
    obtain ⟨k, hk⟩ := hneg
    have hk2 : k < 2 := by
      by_contra hle
      have hmul := Nat.mul_le_mul_left p (Nat.le_of_not_lt hle)
      omega
    obtain rfl | rfl : k = 0 ∨ k = 1 := by omega
    · exact .inl (by omega)
    · exact .inr (by omega)

theorem encode_inj_of_lt {a b : Nat} (ha : a < p) (hb : b < p)
    (h : BigEndian.encode 32 a = BigEndian.encode 32 b) : a = b := by
  have hp : p < 256 ^ 32 := by decide
  have hdecode := congrArg BigEndian.decode h
  rwa [BigEndian.decode_encode, BigEndian.decode_encode, Nat.mod_eq_of_lt (by omega),
    Nat.mod_eq_of_lt (by omega)] at hdecode

namespace Point

variable {point point' : Point}

theorem long_inj (h : point.long = point'.long) : point = point' := by
  obtain ⟨x, y, honCurve⟩ := point
  obtain ⟨x', y', honCurve'⟩ := point'
  obtain ⟨hx, hy⟩ := List.append_inj (List.cons.inj h).2 (by simp)
  obtain rfl := encode_inj_of_lt honCurve.1 honCurve'.1 hx
  obtain rfl := encode_inj_of_lt honCurve.2.1 honCurve'.2.1 hy
  rfl

theorem parity_eq_of_parityTag_eq (h : point.parityTag = point'.parityTag) :
    point.y % 2 = point'.y % 2 := by
  unfold parityTag at h
  split at h <;> split at h
  · next hy hy' => exact hy.trans hy'.symm
  · cases h
  · cases h
  · omega

theorem short_inj (h : point.short = point'.short) : point = point' := by
  obtain ⟨htag, hx⟩ := List.cons.inj h
  have hparity := parity_eq_of_parityTag_eq htag
  obtain ⟨x, y, honCurve⟩ := point
  obtain ⟨x', y', honCurve'⟩ := point'
  obtain rfl := encode_inj_of_lt honCurve.1 honCurve'.1 hx
  have hsquares := honCurve.2.2.trans honCurve'.2.2.symm
  have hodd : p % 2 = 1 := by decide
  rcases eq_or_add_eq_of_square_eq honCurve.2.1 honCurve'.2.1 hsquares with rfl | hsum
  · rfl
  · dsimp only at hparity
    omega

end Point

end TwoOfThree.Curve
