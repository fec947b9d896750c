-- SUMMARY: A script of sorted keys is read back as its keys, and its length tells how many are in the long form.
import TwoOfThree.Proofs.Deposit.ScriptOrder

/-!
# What a script says of its keys

A script pushes every key in its own form, so pushes are of two lengths and the
bytes of a key may look like instructions. A reader that goes from left to right
is not misled by them: it finds the pushes of the sorted keys, and no other script
is read in the same way. So a script tells which keys it was built from, though
not in which order they were given.
-/

namespace TwoOfThree

open PublicKey

variable {keys keys' : List PublicKey}

/-! ## Lengths -/

namespace Script

theorem encode_append (instructions rest : List Instruction) :
    encode (instructions ++ rest) = encode instructions ++ encode rest :=
  List.flatMap_append

/-- Every key takes a length and its short form, and those in the long form 32 bytes more. -/
theorem length_encode_pushes (keys : List PublicKey) :
    (encode (keys.map fun key => .push key.bytes)).length
      = 34 * keys.length + 32 * keys.countP (!·.compressed) := by
  induction keys with
  | nil => rfl
  | cons key rest ih =>
    have hpush : (Instruction.encode (.push key.bytes)).length
        = 34 + 32 * if !key.compressed then 1 else 0 := by
      rw [Instruction.encode, List.length_cons, length_bytes_eq]
      cases key.compressed <;> rfl
    have hcons : (encode ((key :: rest).map fun key => .push key.bytes)).length
        = (Instruction.encode (.push key.bytes)).length
          + (encode (rest.map fun key => .push key.bytes)).length := by
      rw [List.map_cons, encode, List.flatMap_cons, List.length_append]
      rfl
    rw [hcons, hpush, ih, List.length_cons, List.countP_cons]
    omega

end Script

theorem length_multisigScript (keys : List PublicKey) :
    (multisigScript keys).length = 3 + 34 * keys.length + 32 * keys.countP (!·.compressed) := by
  have hparts : multisigScript keys = Script.encode [.number requiredSignatures]
      ++ (Script.encode (keys.map fun key => .push key.bytes)
        ++ Script.encode [.number keys.length, .checkMultisig]) := by
    rw [← Script.encode_append, ← Script.encode_append]
    rfl
  have hends : (Script.encode [.number requiredSignatures]).length = 1
      ∧ (Script.encode [.number keys.length, .checkMultisig]).length = 2 := ⟨rfl, rfl⟩
  rw [hparts, List.length_append, List.length_append, Script.length_encode_pushes, hends.1, hends.2]
  omega

theorem length_sortedMultisigScript (keys : List PublicKey) :
    (sortedMultisigScript keys).length
      = 3 + 34 * keys.length + 32 * keys.countP (!·.compressed) := by
  rw [sortedMultisigScript, length_multisigScript, length_sort, (sort_perm keys).countP_eq]

/-! ## Readings -/

/-- Of all scripts, only the script of the keys is read as their pushes. -/
theorem read_eq_pushes_iff (hcount : keys.length = 3) (script : Bytes) :
    Script.read script = some (.number 2 :: (keys.map PublicKey.bytes).map .push
      ++ [.number 3, .checkMultisig]) ↔ script = multisigScript keys := by
  have hread := Report.read_multisigScript hcount
  constructor
  · intro h
    rw [← Script.encode_of_read h, ← Script.encode_of_read hread]
  · rintro rfl
    exact hread

theorem perm_of_sortedMultisigScript_eq (hcount : keys.length = 3) (hcount' : keys'.length = 3)
    (h : sortedMultisigScript keys' = sortedMultisigScript keys) : keys'.Perm keys := by
  have hsort : sort keys' = sort keys := (sortedMultisigScript_eq_iff hcount' hcount).1 h
  exact ((sort_perm keys').symm.trans (.of_eq hsort)).trans (sort_perm keys)

/-- The script of three keys is the only one that is read as two signatures, the pushes of these
keys in ascending order of their short forms, and three keys. Its length tells how many keys are in
the long form, and keys that have one script are the same up to their order. -/
theorem sortedMultisigScript_content (hcount : keys.length = Cosigners.count) :
    (∃ sorted : List PublicKey, sorted.Perm keys ∧ (sorted.map sortKey).Pairwise (· ≤ ·) ∧
      ∀ script, Script.read script = some (.number 2 :: (sorted.map PublicKey.bytes).map .push
        ++ [.number 3, .checkMultisig]) ↔ script = sortedMultisigScript keys) ∧
    (sortedMultisigScript keys).length = 105 + 32 * keys.countP (!·.compressed) ∧
    ∀ keys', keys'.length = Cosigners.count →
      sortedMultisigScript keys' = sortedMultisigScript keys → keys'.Perm keys := by
  refine ⟨⟨sort keys, sort_perm keys, sort_sortKeys_pairwise keys, ?_⟩, ?_, ?_⟩
  · exact read_eq_pushes_iff ((length_sort keys).trans hcount)
  · rw [length_sortedMultisigScript, hcount]
    rfl
  · intro keys' hcount' h
    exact perm_of_sortedMultisigScript_eq hcount hcount' h

/-- A point in both forms, and once more in the long form. -/
theorem sortedMultisigScript_content_both_forms :
    let keys : List PublicKey :=
      [⟨Curve.generator, false⟩, ⟨Curve.generator, true⟩, ⟨Curve.generator, false⟩]
    keys.length = Cosigners.count ∧ (sortedMultisigScript keys).length = 169 ∧
      ∀ keys', keys'.length = Cosigners.count →
        sortedMultisigScript keys' = sortedMultisigScript keys → keys'.Perm keys := by
  intro keys
  have hcount : keys.length = Cosigners.count := rfl
  exact ⟨hcount, (sortedMultisigScript_content hcount).2⟩

end TwoOfThree
