-- SUMMARY: The checksum of Bech32 text is right: with it, the groups leave the remainder 1.
import TwoOfThree.Encoding.Bech32

/-!
# The Bech32 checksum

Shifting a group into the register is linear: on the sum of two registers and of
two groups it gives the sum of the results. So the groups of a checksum add to
the remainder what they would leave in an empty register, and that is the
register that they were cut from.
-/

namespace TwoOfThree.Bech32

/-! ## Linearity -/

theorem foldBack_xor (register register' : BitVec 30) (term : Nat × BitVec 30) :
    foldBack (register ^^^ register') term
      = foldBack register term ^^^ foldBack register' term := by
  simp only [foldBack, BitVec.getLsbD_xor]
  cases register.getLsbD term.1 <;> cases register'.getLsbD term.1 <;> simp

theorem step_xor (register register' : BitVec 30) (group group' : Group) :
    step (register ^^^ register') (group ^^^ group')
      = step register group ^^^ step register' group' := by
  simp only [step, feedback, List.map_cons, List.map_nil, List.foldl_cons, List.foldl_nil,
    foldBack_xor, BitVec.shiftLeft_xor_distrib, BitVec.setWidth_xor]
  ac_rfl

/-- Groups shifted into a sum of registers: the one register takes zeros instead. -/
theorem foldl_step_xor (register register' : BitVec 30) (groups : List Group) :
    groups.foldl step (register ^^^ register')
      = (List.replicate groups.length 0).foldl step register ^^^ groups.foldl step register' := by
  induction groups generalizing register register' with
  | nil => rfl
  | cons group rest ih =>
    have hzero : (0 : Group) ^^^ group = group := BitVec.zero_xor
    have hstep : step (register ^^^ register') group
        = step register 0 ^^^ step register' group := by
      rw [← step_xor, hzero]
    rw [List.foldl_cons, hstep, ih]
    rfl

/-! ## The groups of a register -/

/-- Shifting in the next group of a register brings back its next bits, as long as none of the bits
that leave on the left is set. -/
theorem step_ushiftRight (register : BitVec 30) (k : Nat) :
    step (register >>> (k + 5)) (register.extractLsb' k 5) = register >>> k := by
  have hfold (place : Nat) (term : BitVec 30) (h : 25 ≤ place) :
      foldBack (register >>> (k + 5)) (place, term) = 0 := by
    have hbit : (register >>> (k + 5)).getLsbD place = false := by
      rw [BitVec.getLsbD_ushiftRight]
      exact BitVec.getLsbD_of_ge _ _ (by omega)
    rw [foldBack, hbit]
    rfl
  simp only [step, feedback, List.map_cons, List.map_nil, List.foldl_cons, List.foldl_nil,
    hfold _ _ (Nat.le_refl 25), hfold 26 _ (by omega), hfold 27 _ (by omega),
    hfold 28 _ (by omega), hfold 29 _ (by omega)]
  apply BitVec.eq_of_getLsbD_eq
  intro i hi
  simp only [BitVec.getLsbD_xor, BitVec.getLsbD_shiftLeft, BitVec.getLsbD_ushiftRight,
    BitVec.getLsbD_setWidth, BitVec.getLsbD_extractLsb']
  by_cases hlow : i < 5
  · simp [hi, hlow]
  · have hplace : k + 5 + (i - 5) = k + i := by omega
    simp [hi, hlow, hplace]

/-- An empty register takes the groups of a register and becomes that register. -/
theorem foldl_step_registerGroups (register : BitVec 30) :
    (registerGroups register).foldl step 0 = register := by
  have hzero : (0 : BitVec 30) = register >>> (25 + 5) := by
    apply BitVec.eq_of_getLsbD_eq
    intro i _
    rw [BitVec.getLsbD_ushiftRight, BitVec.getLsbD_of_ge register _ (by omega)]
    simp
  simp only [registerGroups, List.map_cons, List.map_nil, List.foldl_cons, List.foldl_nil]
  rw [hzero, step_ushiftRight, step_ushiftRight register 20, step_ushiftRight register 15,
    step_ushiftRight register 10, step_ushiftRight register 5, step_ushiftRight register 0]
  exact BitVec.ushiftRight_zero register

/-! ## The checksum -/

@[simp] theorem length_checksum (humanPart : List Char) (data : List Group) :
    (checksum humanPart data).length = 6 := rfl

/-- Groups with their checksum leave the remainder 1. -/
theorem polymod_checksum (humanPart : List Char) (data : List Group) :
    polymod (expand humanPart ++ (data ++ checksum humanPart data)) = 1 := by
  rw [← List.append_assoc, polymod, List.foldl_append]
  generalize hregister : (expand humanPart ++ data).foldl step 1 = register
  have hzeros : polymod (expand humanPart ++ data ++ List.replicate 6 0)
      = (List.replicate 6 0).foldl step register := by
    rw [polymod, List.foldl_append, hregister]
  calc (checksum humanPart data).foldl step register
      = (checksum humanPart data).foldl step (register ^^^ 0) := by
        rw [show register ^^^ 0 = register from BitVec.xor_zero]
    _ = (List.replicate 6 0).foldl step register ^^^ (checksum humanPart data).foldl step 0 :=
        foldl_step_xor _ _ _
    _ = (List.replicate 6 0).foldl step register
          ^^^ ((List.replicate 6 0).foldl step register ^^^ 1) := by
        rw [checksum, foldl_step_registerGroups, hzeros]
    _ = 1 := by
        rw [← BitVec.xor_assoc, BitVec.xor_self]
        exact BitVec.zero_xor

end TwoOfThree.Bech32
