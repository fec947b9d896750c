-- SUMMARY: The path of a passphrase spells out thirty bytes of its digest, no more and no less.
import Mathlib.Data.Fintype.BigOperators
import Mathlib.Data.Fintype.Pi
import Mathlib.SetTheory.Cardinal.Finite
import TwoOfThree.Bytes.BigEndianLaws
import TwoOfThree.Path

/-!
# The segments of a digest

The numbers of a path, written in three bytes each and put one behind the other,
are the first thirty bytes of the digest that names the path. So a path tells
these bytes and nothing else of the digest. Every choice of ten numbers below 2^24
is named by exactly one string of thirty bytes, and none of them is preferred.
-/

namespace TwoOfThree.Path

/-! ## Written numbers -/

/-- A number in as many bytes as name one level. -/
def writeSegment (index : UInt32) : Bytes := BigEndian.encode segmentBytes index.toNat

/-- What the numbers of a path say of the digest that they are read from. -/
structure Spells (digest : Bytes) (indices : List UInt32) : Prop where
  count : indices.length = 10
  below : ∀ index ∈ indices, index.toNat < 2 ^ 24
  written : indices.flatMap writeSegment = digest.take 30

theorem length_writeSegment (index : UInt32) : (writeSegment index).length = segmentBytes :=
  BigEndian.length_encode segmentBytes index.toNat

theorem decode_lt_of_length {segment : Bytes} (h : segment.length = segmentBytes) :
    BigEndian.decode segment < 2 ^ 24 := by
  have hlt := BigEndian.decode_lt segment
  rw [h] at hlt
  exact hlt

theorem toNat_ofNat_decode {segment : Bytes} (h : segment.length = segmentBytes) :
    (UInt32.ofNat (BigEndian.decode segment)).toNat = BigEndian.decode segment :=
  UInt32.toNat_ofNat_of_lt' (Nat.lt_trans (decode_lt_of_length h) (by decide))

theorem writeSegment_decode {segment : Bytes} (h : segment.length = segmentBytes) :
    writeSegment (UInt32.ofNat (BigEndian.decode segment)) = segment := by
  rw [writeSegment, toNat_ofNat_decode h, ← h]
  exact BigEndian.encode_decode segment

theorem decode_writeSegment {index : UInt32} (h : index.toNat < 2 ^ 24) :
    UInt32.ofNat (BigEndian.decode (writeSegment index)) = index := by
  have hdecode : BigEndian.decode (writeSegment index) = index.toNat := by
    rw [writeSegment, BigEndian.decode_encode]
    exact Nat.mod_eq_of_lt h
  rw [hdecode, UInt32.ofNat_toNat]

/-! ## Numbers read from a digest -/

section

variable {digest : Bytes} {indices : List UInt32}

theorem spells_indicesOfDigest (h : 30 ≤ digest.length) :
    Spells digest (indicesOfDigest digest) := by
  have hsegment : ∀ segment ∈ chunks segmentBytes levels digest, segment.length = segmentBytes :=
    fun segment hmem => length_of_mem_chunks h hmem
  refine ⟨length_indicesOfDigest digest, ?_, ?_⟩
  · intro index hindex
    obtain ⟨segment, hmem, rfl⟩ := List.mem_map.1 hindex
    rw [toNat_ofNat_decode (hsegment segment hmem)]
    exact decode_lt_of_length (hsegment segment hmem)
  · have hwritten : (chunks segmentBytes levels digest).map
        (fun segment => writeSegment (UInt32.ofNat (BigEndian.decode segment)))
          = chunks segmentBytes levels digest :=
      (List.map_congr_left fun segment hmem => writeSegment_decode (hsegment segment hmem)).trans
        (List.map_id _)
    rw [indicesOfDigest, List.flatMap_map, List.flatMap_def, hwritten]
    exact flatten_chunks segmentBytes levels digest

/-- Nothing but the numbers of a digest spells it. -/
theorem Spells.eq_indicesOfDigest (h : Spells digest indices) :
    indices = indicesOfDigest digest := by
  have hcut : chunks segmentBytes levels digest = indices.map writeSegment := by
    have hchunks := chunks_flatMap length_writeSegment indices (digest.drop 30)
    rw [h.written, List.take_append_drop, h.count] at hchunks
    exact hchunks
  have hread : ∀ index ∈ indices, UInt32.ofNat (BigEndian.decode (writeSegment index)) = index :=
    fun index hmem => decode_writeSegment (h.below index hmem)
  rw [indicesOfDigest, hcut, List.map_map]
  exact ((List.map_congr_left hread).trans (List.map_id indices)).symm

theorem Spells.congr {digest' : Bytes} (h : Spells digest indices)
    (htake : digest'.take 30 = digest.take 30) : Spells digest' indices :=
  ⟨h.count, h.below, h.written.trans htake.symm⟩

/-- The numbers of a digest tell its first thirty bytes and nothing else of it. -/
theorem indicesOfDigest_eq_iff {digest' : Bytes} (h : 30 ≤ digest.length)
    (h' : 30 ≤ digest'.length) :
    indicesOfDigest digest' = indicesOfDigest digest ↔ digest'.take 30 = digest.take 30 := by
  constructor
  · intro heq
    rw [← (spells_indicesOfDigest h).written, ← (spells_indicesOfDigest h').written, heq]
  · intro htake
    exact ((spells_indicesOfDigest h).congr htake).eq_indicesOfDigest.symm

end

/-! ## Thirty bytes and ten numbers -/

/-- Numbers below 2^24, one for each level. -/
abbrev Numbers := Fin levels → Fin (2 ^ 24)

def Numbers.toList (numbers : Numbers) : List UInt32 :=
  List.ofFn fun level => UInt32.ofNat (numbers level).val

theorem toNat_ofNat_val (number : Fin (2 ^ 24)) : (UInt32.ofNat number.val).toNat = number.val :=
  UInt32.toNat_ofNat_of_lt' (Nat.lt_trans number.isLt (by decide))

theorem Numbers.toList_injective : Function.Injective Numbers.toList := by
  intro numbers numbers' h
  funext level
  have hlevel := congrArg UInt32.toNat (congrFun (List.ofFn_injective h) level)
  rw [toNat_ofNat_val, toNat_ofNat_val] at hlevel
  exact Fin.ext hlevel

theorem Numbers.below_of_mem {numbers : Numbers} {index : UInt32} (h : index ∈ numbers.toList) :
    index.toNat < 2 ^ 24 := by
  obtain ⟨level, rfl⟩ := List.mem_ofFn.1 h
  rw [toNat_ofNat_val]
  exact (numbers level).isLt

/-- The numbers that thirty bytes write. -/
def segments (bytes : FixedBytes 30) : Numbers := fun level =>
  let index := (indicesOfDigest bytes.val).get (level.cast (length_indicesOfDigest _).symm)
  ⟨index.toNat, (spells_indicesOfDigest bytes.property.ge).below index (List.get_mem _ _)⟩

theorem toList_segments (bytes : FixedBytes 30) :
    (segments bytes).toList = indicesOfDigest bytes.val := by
  have hget : (segments bytes).toList = List.ofFn fun level : Fin levels =>
      (indicesOfDigest bytes.val).get (level.cast (length_indicesOfDigest _).symm) :=
    congrArg List.ofFn (funext fun _ => UInt32.ofNat_toNat)
  rw [hget, ← List.ofFn_congr (length_indicesOfDigest bytes.val), List.ofFn_get]

theorem segments_injective : Function.Injective segments := by
  intro bytes bytes' h
  have hindices : indicesOfDigest bytes.val = indicesOfDigest bytes'.val := by
    rw [← toList_segments, ← toList_segments, h]
  have htake := (indicesOfDigest_eq_iff bytes'.property.ge bytes.property.ge).1 hindices
  rw [List.take_of_length_le bytes.property.le, List.take_of_length_le bytes'.property.le] at htake
  exact Subtype.ext htake

theorem length_flatMap_writeSegment (indices : List UInt32) :
    (indices.flatMap writeSegment).length = indices.length * segmentBytes := by
  rw [List.length_flatMap, List.map_congr_left fun index _ => length_writeSegment index,
    List.map_const', List.sum_replicate_nat]

/-- Any ten numbers are written by the bytes that spell them. -/
theorem segments_surjective : Function.Surjective segments := by
  intro numbers
  have hcount : numbers.toList.length = 10 := List.length_ofFn
  have hlength : (numbers.toList.flatMap writeSegment).length = 30 := by
    rw [length_flatMap_writeSegment, hcount]
    rfl
  have hspells : Spells (numbers.toList.flatMap writeSegment) numbers.toList :=
    ⟨hcount, fun _ => Numbers.below_of_mem, (List.take_of_length_le hlength.le).symm⟩
  refine ⟨⟨_, hlength⟩, Numbers.toList_injective ?_⟩
  rw [toList_segments]
  exact hspells.eq_indicesOfDigest.symm

theorem segments_bijective : Function.Bijective segments :=
  ⟨segments_injective, segments_surjective⟩

/-- The number of strings of thirty bytes that write a given number at a given level does not depend
on either. -/
theorem card_segments_eq (level : Fin levels) (number : Fin (2 ^ 24)) :
    Nat.card { bytes : FixedBytes 30 // segments bytes level = number } = (2 ^ 24) ^ 9 := by
  let equiv := Equiv.ofBijective segments segments_bijective
  have hnumbers : Nat.card { numbers : Numbers // numbers level = number } = (2 ^ 24) ^ 9 := by
    rw [Nat.card_eq_fintype_card, Fintype.card_subtype, ← Fintype.piFinset_univ,
      Fintype.card_filter_piFinset_const_eq_of_mem _ _ (Finset.mem_univ number), Finset.card_univ,
      Fintype.card_fin, Fintype.card_fin]
    rfl
  rw [← hnumbers]
  exact Nat.card_congr (equiv.subtypeEquiv fun _ => Iff.rfl)

/-! ## Paths of passphrases -/

theorem thirty_le_length_digest (message : Bytes) : 30 ≤ (Sha256.digest message).length := by
  rw [Sha256.length_digest]
  decide

theorem spells_indices (passphrase : String) :
    Spells (Sha256.digest (Utf8.encode passphrase)) (indices passphrase) :=
  spells_indicesOfDigest (thirty_le_length_digest _)

/-- A number of a passphrase is far below the first hardened child. -/
theorem ofRaw_of_mem_indices {passphrase : String} {index : UInt32}
    (h : index ∈ indices passphrase) :
    ∃ hindex, ChildNumber.ofRaw index = .normal ⟨index.toNat, hindex⟩ := by
  have hbelow : index.toNat < hardenedBit :=
    Nat.lt_trans ((spells_indices passphrase).below index h) (by decide)
  exact ⟨hbelow, ChildNumber.ofRaw_of_lt hbelow⟩

/-- The path has the numbers of the passphrase one by one, and a normal child for each. -/
theorem ofPassphrase_normal (passphrase : String) :
    List.Forall₂ (fun index child => ∃ hindex, child = .normal ⟨index.toNat, hindex⟩)
      (indices passphrase) (ofPassphrase passphrase) :=
  List.forall₂_map_right_iff.2 (List.forall₂_same.2 fun _ => ofRaw_of_mem_indices)

theorem hardened_notMem_ofPassphrase (passphrase : String) (index : Fin hardenedBit) :
    .hardened index ∉ ofPassphrase passphrase := by
  intro hmem
  obtain ⟨raw, hraw, hchild⟩ := List.mem_map.1 hmem
  obtain ⟨_, hnormal⟩ := ofRaw_of_mem_indices hraw
  rw [hnormal] at hchild
  cases hchild

theorem ofPassphrase_eq_iff {passphrase passphrase' : String} :
    ofPassphrase passphrase' = ofPassphrase passphrase ↔
      indices passphrase' = indices passphrase := by
  constructor
  · intro h
    rw [← map_raw_ofPassphrase, ← map_raw_ofPassphrase, h]
  · intro h
    rw [ofPassphrase, ofPassphrase, h]

/-- A digest of 32 bytes is cut into ten numbers below 2^24 that spell out its first thirty bytes and
leave the last two untold. Strings of thirty bytes and choices of ten such numbers correspond one to
one, and at every level every number has as many strings as any other. The path of a passphrase
consists of the normal children with the numbers of its SHA-256 digest, so two passphrases share a
path if and only if their digests share these thirty bytes. -/
theorem ofPassphrase_spells :
    (∀ digest : FixedBytes 32, Spells digest.val (indicesOfDigest digest.val) ∧
      ∀ digest' : FixedBytes 32,
        indicesOfDigest digest'.val = indicesOfDigest digest.val ↔
          digest'.val.take 30 = digest.val.take 30) ∧
    (Function.Bijective segments ∧
      ∀ bytes, (segments bytes).toList = indicesOfDigest bytes.val) ∧
    (∀ level number,
      Nat.card { bytes : FixedBytes 30 // segments bytes level = number } = (2 ^ 24) ^ 9) ∧
    ∀ passphrase,
      Spells (Sha256.digest (Utf8.encode passphrase)) (indices passphrase) ∧
      List.Forall₂ (fun index child => ∃ hindex, child = .normal ⟨index.toNat, hindex⟩)
        (indices passphrase) (ofPassphrase passphrase) ∧
      ∀ passphrase', ofPassphrase passphrase' = ofPassphrase passphrase ↔
        (Sha256.digest (Utf8.encode passphrase')).take 30
          = (Sha256.digest (Utf8.encode passphrase)).take 30 := by
  have henough (digest : FixedBytes 32) : 30 ≤ digest.val.length :=
    Nat.le_trans (by decide) digest.property.ge
  refine ⟨?_, ⟨segments_bijective, toList_segments⟩, card_segments_eq, ?_⟩
  · intro digest
    refine ⟨spells_indicesOfDigest (henough digest), ?_⟩
    intro digest'
    exact indicesOfDigest_eq_iff (henough digest) (henough digest')
  · intro passphrase
    refine ⟨spells_indices passphrase, ofPassphrase_normal passphrase, ?_⟩
    intro passphrase'
    exact ofPassphrase_eq_iff.trans
      (indicesOfDigest_eq_iff (thirty_le_length_digest _) (thirty_le_length_digest _))

example : (indices "").head? = some 0xe3b0c4 := by decide +kernel

end TwoOfThree.Path
