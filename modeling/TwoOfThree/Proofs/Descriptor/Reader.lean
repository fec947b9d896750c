-- SUMMARY: Multisignature descriptors: their text, reading it back, and the script that they stand for.
import Mathlib.Data.List.Basic
import TwoOfThree.Encoding.Bech32
import TwoOfThree.Hash.Sha256
import TwoOfThree.Network
import TwoOfThree.Script

/-!
# Output descriptors

A descriptor `wsh(sortedmulti(k,key,...,key))` stands for a witness script that
any `k` of the keys can spend from. A wallet that is given the text knows nothing
of how it came about: it reads the number and the keys, puts the keys in order
itself, and writes the script byte by byte. What it arrives at does not depend on
the order in which the text lists the keys.
-/

namespace TwoOfThree

/-- What a descriptor says: how many signatures are needed, and the keys in the order of the
text. -/
structure Descriptor where
  required : Nat
  keys : List Bytes
deriving DecidableEq, Repr

namespace Descriptor

/-! ## Text -/

def opening : String := "wsh(sortedmulti("

def closing : String := "))"

def render (descriptor : Descriptor) : String :=
  opening ++ ",".intercalate (toString descriptor.required :: descriptor.keys.map Hex.encode) ++
    closing

/-- A number in decimal digits; there must be one. -/
def readNumber (cs : List Char) : Option Nat :=
  if cs ≠ [] ∧ cs.all Char.isDigit then some (Nat.ofDigitChars 10 cs 0) else none

/-- Read what stands between the brackets, cut at its commas. -/
def readPieces : List (List Char) → Option Descriptor
  | [] => none
  | number :: keys => do return ⟨← readNumber number, ← keys.mapM Hex.decodeChars⟩

def read (text : String) : Option Descriptor := do
  let rest ← text.toList.dropPrefix? opening.toList
  let body ← rest.dropSuffix? closing.toList
  readPieces (body.splitOn ',')

theorem readNumber_toDigits (n : Nat) : readNumber (Nat.toDigits 10 n) = some n := by
  have hdigits : (Nat.toDigits 10 n).all Char.isDigit := by
    simp only [List.all_eq_true]
    intro c hc
    exact Nat.isDigit_of_mem_toDigits (by decide) (by decide) hc
  simp [readNumber, hdigits, Nat.ofDigitChars_ten_toDigits]

theorem notMem_toDigits {c : Char} (h : c.isDigit = false) (n : Nat) : c ∉ Nat.toDigits 10 n := by
  intro hmem
  rw [Nat.isDigit_of_mem_toDigits (by decide) (by decide) hmem] at h
  cases h

theorem mapM_decodeChars (keys : List Bytes) :
    (keys.map Hex.encodeChars).mapM Hex.decodeChars = some keys := by
  induction keys with
  | nil => rfl
  | cons key rest ih => simp [Hex.decodeChars_encodeChars, ih]

/-- No piece of the text holds a comma, so the commas are where it is put together. -/
theorem splitOn_pieces (descriptor : Descriptor) :
    (",".intercalate (toString descriptor.required :: descriptor.keys.map Hex.encode)).toList.splitOn
        ','
      = Nat.toDigits 10 descriptor.required :: descriptor.keys.map Hex.encodeChars := by
  have hpieces : (toString descriptor.required :: descriptor.keys.map Hex.encode).map String.toList
      = Nat.toDigits 10 descriptor.required :: descriptor.keys.map Hex.encodeChars := by
    simp [Function.comp_def, Hex.encode]
  rw [String.toList_intercalate, hpieces]
  apply List.splitOn_intercalate
  · intro piece hpiece
    rcases List.mem_cons.1 hpiece with rfl | hpiece
    · exact notMem_toDigits rfl _
    · obtain ⟨key, _, rfl⟩ := List.mem_map.1 hpiece
      intro hmem
      exact absurd (Hex.mem_encodeChars key _ hmem) (by decide)
  · simp

/-- What is written is read back, whatever the number and the keys are. -/
theorem read_render (descriptor : Descriptor) : read descriptor.render = some descriptor := by
  have hopening : descriptor.render.toList.dropPrefix? opening.toList
      = some ((",".intercalate (toString descriptor.required ::
        descriptor.keys.map Hex.encode)).toList ++ closing.toList) := by
    simp only [render, String.toList_append, List.append_assoc]
    exact List.dropPrefix?_append_of_beq _ (beq_self_eq_true _)
  have hclosing (body : List Char) :
      (body ++ closing.toList).dropSuffix? closing.toList = some body :=
    List.dropSuffix?_eq_some_iff.2 ⟨_, rfl, beq_self_eq_true _⟩
  simp only [read, hopening, hclosing, splitOn_pieces, readPieces, readNumber_toDigits,
    mapM_decodeChars, Option.bind_eq_bind, Option.bind_some]
  rfl

/-! ## Script and address -/

/-- The keys of a multisignature script for a witness program are in their short form, and its
numbers are ones that have a code of their own. -/
def IsValid (descriptor : Descriptor) : Prop :=
  1 ≤ descriptor.required ∧ descriptor.required ≤ descriptor.keys.length ∧
    descriptor.keys.length ≤ 16 ∧ ∀ key ∈ descriptor.keys, key.length = 33

instance (descriptor : Descriptor) : Decidable descriptor.IsValid := by
  unfold IsValid
  infer_instance

/-- The keys in ascending order. -/
def sortedKeys (descriptor : Descriptor) : List Bytes :=
  descriptor.keys.mergeSort fun a b => a ≤ b

/-- The code of a small number. -/
def numberCode (n : Nat) : UInt8 := UInt8.ofNat (0x50 + n)

/-- The script, written byte by byte: the number of signatures, every key behind its length, the
number of keys, and the code that checks the signatures. -/
def script? (descriptor : Descriptor) : Option Bytes :=
  if descriptor.IsValid then
    some (numberCode descriptor.required ::
      descriptor.sortedKeys.flatMap (fun key => UInt8.ofNat key.length :: key) ++
      [numberCode descriptor.keys.length, 0xae])
  else none

/-- The text of the address that pays to a script on a network. -/
def addressOf (script : Bytes) (network : Network) : String :=
  String.ofList (Bech32.encodeWitness network.humanPart.toList (Sha256.digest script))

/-- Keys that are in order are what sorting them gives, whatever order they came in. -/
theorem sortedKeys_eq_of_pairwise {required : Nat} {keys sorted : List Bytes}
    (hperm : keys.Perm sorted) (hsorted : sorted.Pairwise (· ≤ ·)) :
    sortedKeys ⟨required, keys⟩ = sorted := by
  have hmerge : (keys.mergeSort fun a b => a ≤ b).Pairwise fun a b => decide (a ≤ b) = true :=
    List.pairwise_mergeSort (by simpa using fun a b c => List.le_trans)
      (by simpa using List.le_total) keys
  have hle : (sortedKeys ⟨required, keys⟩).Pairwise (· ≤ ·) := by
    simpa [sortedKeys] using hmerge
  apply ((List.mergeSort_perm keys _).trans hperm).eq_of_pairwise _ hle hsorted
  intro a b _ _ hab hba
  exact List.le_antisymm hab hba

/-- The script is that of the sorted keys, in the instructions that scripts are made of. -/
theorem script?_eq_of_pairwise {required : Nat} {keys sorted : List Bytes}
    (hvalid : IsValid ⟨required, keys⟩) (hperm : keys.Perm sorted)
    (hsorted : sorted.Pairwise (· ≤ ·)) :
    script? ⟨required, keys⟩ = some (Script.encode
      (.number required :: sorted.map .push ++ [.number sorted.length, .checkMultisig])) := by
  simp only [script?, if_pos hvalid, sortedKeys_eq_of_pairwise hperm hsorted, hperm.length_eq]
  simp [Script.encode, Script.Instruction.encode, numberCode, List.flatMap_map]

end Descriptor

end TwoOfThree
