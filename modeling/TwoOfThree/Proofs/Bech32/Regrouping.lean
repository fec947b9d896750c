-- SUMMARY: Bytes regrouped to five bits are read back, and symbols stand for their groups.
import TwoOfThree.Proofs.Bech32.Reader

/-!
# Regrouping

A string of bytes and its groups are two ways of cutting the same bits, filled up
with fewer than five zeros. Both cuts are undone by putting the pieces together
again, so reading the groups gives the bytes.
-/

namespace TwoOfThree.Bech32

/-! ## Symbols -/

theorem symbolValue?_symbol (group : Group) : symbolValue? (symbol group) = some group := by
  have h : ∀ i : Fin 32, symbolValue? (symbol (BitVec.ofFin i)) = some (BitVec.ofFin i) := by
    decide +kernel
  exact h group.toFin

theorem mapM_symbolValue? (groups : List Group) :
    (groups.map symbol).mapM symbolValue? = some groups := by
  induction groups with
  | nil => rfl
  | cons group rest ih => simp [symbolValue?_symbol, ih]

/-! ## Bits of one piece -/

theorem groupBits_groupOfBits (bits : List Bool) (h : bits.length = 5) :
    groupBits (groupOfBits bits) = bits := by
  match bits, h with
  | [a, b, c, d, e], _ =>
    revert a b c d e
    decide

theorem byteOfBits_byteBits (byte : UInt8) : byteOfBits (byteBits byte) = byte := by
  have h : ∀ i : Fin 256, byteOfBits (byteBits ⟨BitVec.ofFin i⟩) = ⟨BitVec.ofFin i⟩ := by
    decide +kernel
  exact h byte.toBitVec.toFin

@[simp] theorem length_byteBits (byte : UInt8) : (byteBits byte).length = 8 := rfl

theorem length_flatMap_byteBits (bytes : Bytes) :
    (bytes.flatMap byteBits).length = 8 * bytes.length := by
  induction bytes with
  | nil => rfl
  | cons byte rest ih =>
    rw [List.flatMap_cons, List.length_append, length_byteBits, ih, List.length_cons]
    omega

/-! ## Cutting and putting together -/

theorem flatMap_groupBits_groupOfBits (pieces : List (List Bool))
    (h : ∀ piece ∈ pieces, piece.length = 5) :
    (pieces.map groupOfBits).flatMap groupBits = pieces.flatten := by
  induction pieces with
  | nil => rfl
  | cons piece rest ih =>
    rw [List.map_cons, List.flatMap_cons, List.flatten_cons,
      groupBits_groupOfBits piece (h piece List.mem_cons_self),
      ih fun other hother => h other (List.mem_cons_of_mem _ hother)]

theorem chunks_byteBits (bytes : Bytes) (padding : List Bool) :
    (chunks 8 bytes.length (bytes.flatMap byteBits ++ padding)).map byteOfBits = bytes := by
  rw [chunks_flatMap length_byteBits, List.map_map]
  exact (List.map_congr_left fun byte _ => byteOfBits_byteBits byte).trans (List.map_id bytes)

/-! ## Groups of bytes -/

@[simp] theorem length_regroup (bytes : Bytes) :
    (regroup bytes).length = (8 * bytes.length + 4) / 5 := by
  simp only [regroup, List.length_map, length_chunks, length_flatMap_byteBits]

/-- The bits of the groups are those of the bytes, filled up with zeros. -/
theorem flatMap_groupBits_regroup (bytes : Bytes) :
    (regroup bytes).flatMap groupBits = bytes.flatMap byteBits
      ++ List.replicate (5 * ((8 * bytes.length + 4) / 5) - 8 * bytes.length) false := by
  have hlength := length_flatMap_byteBits bytes
  simp only [regroup, hlength]
  generalize hbits : bytes.flatMap byteBits
    ++ List.replicate (5 * ((8 * bytes.length + 4) / 5) - 8 * bytes.length) false = bits
  have hfull : bits.length = 5 * ((8 * bytes.length + 4) / 5) := by
    rw [← hbits, List.length_append, List.length_replicate, hlength]
    omega
  rw [flatMap_groupBits_groupOfBits, flatten_chunks, List.take_of_length_le (by omega)]
  intro piece hpiece
  exact length_of_mem_chunks (by omega) hpiece

theorem ungroup_regroup (bytes : Bytes) : ungroup (regroup bytes) = some bytes := by
  have hlength := length_flatMap_byteBits bytes
  have hcount : ((regroup bytes).flatMap groupBits).length / 8 = bytes.length := by
    rw [flatMap_groupBits_regroup, List.length_append, hlength, List.length_replicate]
    omega
  have hpadding : ((regroup bytes).flatMap groupBits).drop (8 * bytes.length)
      = List.replicate (5 * ((8 * bytes.length + 4) / 5) - 8 * bytes.length) false := by
    rw [flatMap_groupBits_regroup]
    exact List.drop_left' hlength
  have hzero (n : Nat) : (List.replicate n false).all (! ·) = true := by
    simp
  simp only [ungroup, hcount, hpadding, List.length_replicate, hzero, and_true]
  rw [if_pos (by omega), flatMap_groupBits_regroup, chunks_byteBits]

end TwoOfThree.Bech32
