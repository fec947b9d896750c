-- SUMMARY: The text of a path is read back, first to its numbers and from them to its children.
import TwoOfThree.Path
import TwoOfThree.Proofs.Descriptor.Reader

/-!
# The text of a path

A path is written as its raw numbers in decimal digits, with a slash in front of
each. No number holds a slash, so cutting the text at its slashes gives the
numbers back, however many there are. The top bit of a raw number tells whether
the child is hardened, so the children are found in the text too, and no two paths
have one text.
-/

namespace TwoOfThree

/-! ## Raw numbers -/

namespace ChildNumber

theorem raw_injective : Function.Injective raw :=
  Function.LeftInverse.injective ofRaw_raw

/-- The number of a hardened child has the top bit set, and the index below it. -/
theorem raw_hardened (index : Fin hardenedBit) :
    (ChildNumber.hardened index).raw = UInt32.ofNat index.val ||| 0x80000000 := by
  have hindex : index.val < 2 ^ 31 := index.isLt
  have hlow : (UInt32.ofNat index.val).toNat = index.val :=
    UInt32.toNat_ofNat_of_lt' (Nat.lt_trans hindex (by decide))
  have hraw : (ChildNumber.hardened index).raw.toNat = 2 ^ 31 + index.val := by
    have hsum : index.val + hardenedBit = 2 ^ 31 + index.val := Nat.add_comm _ _
    rw [raw, hsum]
    exact UInt32.toNat_ofNat_of_lt' (by show _ < 2 ^ 32; omega)
  apply UInt32.toNat_inj.1
  rw [hraw, UInt32.toNat_or, hlow, Nat.or_comm]
  exact Nat.two_pow_add_eq_or_of_lt hindex 1

end ChildNumber

namespace Path

/-! ## The reader -/

/-- A number of 32 bits in decimal digits. -/
def readIndex (piece : List Char) : Option UInt32 := do
  let number ← Descriptor.readNumber piece
  if number < UInt32.size then some (UInt32.ofNat number) else none

/-- The numbers between the slashes of a text, without the leading `m`. -/
def readIndices (text : String) : Option (List UInt32) :=
  match text.toList.splitOn '/' with
  | ['m'] :: pieces => pieces.mapM readIndex
  | _ => none

/-- The children that the numbers of a text stand for. -/
def read (text : String) : Option Path :=
  (readIndices text).map fun indices => indices.map ChildNumber.ofRaw

/-! ## Numbers read back -/

theorem readIndex_toDigits (index : UInt32) :
    readIndex (Nat.toDigits 10 index.toNat) = some index := by
  have hread := Descriptor.readNumber_toDigits index.toNat
  simp only [readIndex, hread, Option.bind_eq_bind, Option.bind_some, if_pos index.toNat_lt,
    UInt32.ofNat_toNat]

/-- The slashes stand in front of the numbers and nowhere else. -/
theorem splitOn_indices (first : List Char) (h : '/' ∉ first) (indices : List UInt32) :
    (first ++ indices.flatMap fun index => '/' :: Nat.toDigits 10 index.toNat).splitOn '/'
      = first :: indices.map fun index => Nat.toDigits 10 index.toNat := by
  induction indices generalizing first with
  | nil =>
    rw [List.flatMap_nil, List.append_nil]
    exact List.splitOn_eq_singleton h
  | cons index indices ih =>
    rw [List.flatMap_cons, List.cons_append, List.splitOn_append_cons_self_of_not_mem h,
      ih _ (Descriptor.notMem_toDigits rfl index.toNat), List.map_cons]

theorem splitOn_format (indices : List UInt32) :
    (format indices).toList.splitOn '/'
      = ['m'] :: indices.map fun index => Nat.toDigits 10 index.toNat := by
  rw [format, String.toList_ofList]
  exact splitOn_indices ['m'] (by decide) indices

theorem mapM_readIndex (indices : List UInt32) :
    (indices.map fun index => Nat.toDigits 10 index.toNat).mapM readIndex = some indices := by
  induction indices with
  | nil => rfl
  | cons index indices ih => simp [readIndex_toDigits, ih]

theorem readIndices_format (indices : List UInt32) :
    readIndices (format indices) = some indices := by
  rw [readIndices, splitOn_format]
  exact mapM_readIndex indices

theorem format_injective : Function.Injective format := by
  intro indices indices' h
  apply Option.some.inj
  rw [← readIndices_format, ← readIndices_format, h]

/-! ## Children read back -/

theorem read_render (path : Path) : read (render path) = some path := by
  rw [read, render, readIndices_format, Option.map_some, List.map_map]
  exact congrArg some
    ((List.map_congr_left fun child _ => ChildNumber.ofRaw_raw child).trans (List.map_id path))

theorem render_injective : Function.Injective render :=
  format_injective.comp ChildNumber.raw_injective.list_map

/-- Numbers are read back from their text, whatever they are and however many. A path is written as
the raw numbers of its children: the index of a normal child as it is, that of a hardened one with
the top bit set. The children are read back from these numbers, and a passphrase has one text,
whether it is written from its path or from its numbers. -/
theorem texts_read_back :
    (∀ indices, readIndices (format indices) = some indices) ∧
    Function.Injective format ∧
    (∀ path, render path = format (path.map ChildNumber.raw)) ∧
    (∀ index, (ChildNumber.normal index).raw = UInt32.ofNat index.val ∧
      (ChildNumber.hardened index).raw = UInt32.ofNat index.val ||| 0x80000000) ∧
    (∀ path, read (render path) = some path) ∧
    Function.Injective render ∧
    ∀ passphrase, render (ofPassphrase passphrase) = format (indices passphrase) :=
  ⟨readIndices_format, format_injective, fun _ => rfl,
    fun index => ⟨rfl, ChildNumber.raw_hardened index⟩, read_render, render_injective,
    render_ofPassphrase⟩

example : read "m/2147483648/0" = some [.hardened ⟨0, by decide⟩, .normal ⟨0, by decide⟩] := by
  decide +kernel

end Path

end TwoOfThree
