-- SUMMARY: A script of sorted keys shows the order in which keys of one point came, and no other order.
import TwoOfThree.Proofs.PublicKey.Stability
import TwoOfThree.Proofs.Report.Deposit

/-!
# Orders that a script shows

Keys are sorted by their points and written in their own forms. A script of three
keys in any order therefore tells in which order the keys of one point came. This
is nothing where every point comes in one form, and the script is then the same
for every order; with a point in both forms, two parties with the same keys in
different orders have different scripts.
-/

namespace TwoOfThree

open PublicKey

variable {keys keys' : List PublicKey}

theorem multisigScript_inj (hcount : keys.length = 3) (hcount' : keys'.length = 3)
    (h : multisigScript keys = multisigScript keys') : keys = keys' := by
  have hread := Report.read_multisigScript hcount
  rw [h, Report.read_multisigScript hcount', Option.some.injEq] at hread
  have hpushes := (List.cons.inj (List.append_cancel_right hread)).2
  have hpush : Function.Injective Script.Instruction.push := fun _ _ => Script.Instruction.push.inj
  have hbytes : Function.Injective bytes := fun _ _ => bytes_inj
  exact (hbytes.list_map (hpush.list_map hpushes)).symm

theorem sortedMultisigScript_eq_iff (hcount : keys.length = 3) (hcount' : keys'.length = 3) :
    sortedMultisigScript keys = sortedMultisigScript keys' ↔ sort keys = sort keys' := by
  constructor
  · intro h
    exact multisigScript_inj ((length_sort keys).trans hcount) ((length_sort keys').trans hcount') h
  · intro h
    exact congrArg multisigScript h

/-- Two lists of three keys have one script if they have the same keys at every point in the same
order. Every order of three keys has the same script exactly if no point is there in both forms. -/
theorem sortedMultisigScript_order (hcount : keys.length = Cosigners.count) :
    (∀ keys', keys'.length = Cosigners.count →
      (sortedMultisigScript keys' = sortedMultisigScript keys ↔
        ∀ point, atPoint point keys' = atPoint point keys)) ∧
    ((∀ keys', keys'.Perm keys → sortedMultisigScript keys' = sortedMultisigScript keys) ↔
      OneFormEach keys) := by
  constructor
  · intro keys' hcount'
    exact (sortedMultisigScript_eq_iff hcount' hcount).trans sort_eq_iff
  · rw [oneFormEach_iff_sort_eq]
    refine forall_congr' fun keys' => forall_congr' fun hperm => ?_
    exact sortedMultisigScript_eq_iff (hperm.length_eq.trans hcount) hcount

/-- One point in its long form twice, and its negative in the short form. -/
theorem sortedMultisigScript_order_repeated_point :
    let negative : Curve.Point :=
      ⟨Curve.generator.x, Curve.p - Curve.generator.y, by decide +kernel⟩
    let keys := [⟨negative, true⟩, ⟨Curve.generator, false⟩, ⟨Curve.generator, false⟩]
    keys.length = Cosigners.count ∧
      ∀ keys', keys'.Perm keys → sortedMultisigScript keys' = sortedMultisigScript keys := by
  intro negative keys
  refine ⟨rfl, (sortedMultisigScript_order rfl).2.2 ?_⟩
  decide +kernel

/-- With a point in both forms, the order of the keys decides which form stands first. -/
theorem sortedMultisigScript_both_forms :
    let negative : Curve.Point :=
      ⟨Curve.generator.x, Curve.p - Curve.generator.y, by decide +kernel⟩
    let keys := [⟨Curve.generator, false⟩, ⟨Curve.generator, true⟩, ⟨negative, true⟩]
    let keys' := [⟨Curve.generator, true⟩, ⟨Curve.generator, false⟩, ⟨negative, true⟩]
    keys'.Perm keys ∧ sortedMultisigScript keys' ≠ sortedMultisigScript keys := by
  intro negative keys keys'
  refine ⟨List.Perm.swap _ _ _, ?_⟩
  decide +kernel

end TwoOfThree
