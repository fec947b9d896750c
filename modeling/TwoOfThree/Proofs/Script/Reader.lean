-- SUMMARY: Reading scripts instruction by instruction, and written scripts read back.
import TwoOfThree.Script

/-!
# Reading scripts

The reader consumes a script from left to right. A code from 1 to 75 is followed
by that many bytes of data; a small number and the check of the signatures have a
code of their own. A script whose instructions can be written is read back, and a
script that can be read consists of the instructions that are read.
-/

namespace TwoOfThree.Script

/-! ## The reader -/

/-- The code of the number zero of the small numbers. -/
def numberBase : Nat := 0x50

/-- The greatest length of data that stands right behind its length. -/
def pushLimit : Nat := 75

/-- Read one instruction from its code and what follows the code. -/
def readInstruction (code : UInt8) (rest : Bytes) : Option (Instruction × Bytes) :=
  if numberBase < code.toNat ∧ code.toNat ≤ numberBase + 16 then
    some (.number (code.toNat - numberBase), rest)
  else if code = 0xae then some (.checkMultisig, rest)
  else if 0 < code.toNat ∧ code.toNat ≤ pushLimit ∧ code.toNat ≤ rest.length then
    some (.push (rest.take code.toNat), rest.drop code.toNat)
  else none

/-- Read at most `limit` instructions, up to the end of the script. -/
def readUpTo : (limit : Nat) → Bytes → Option (List Instruction)
  | _, [] => some []
  | 0, _ :: _ => none
  | limit + 1, code :: rest =>
    match readInstruction code rest with
    | none => none
    | some (instruction, rest) => (readUpTo limit rest).map (instruction :: ·)

/-- The instructions of a script. No instruction is empty, so there are no more than bytes. -/
def read (script : Bytes) : Option (List Instruction) := readUpTo script.length script

/-! ## Reading what was written -/

/-- An instruction that the reader tells from others. -/
def Instruction.IsWritable : Instruction → Prop
  | .number n => 1 ≤ n ∧ n ≤ 16
  | .push data => 1 ≤ data.length ∧ data.length ≤ pushLimit
  | .checkMultisig => True

theorem readInstruction_encode {instruction : Instruction} (h : instruction.IsWritable) :
    ∃ code data, instruction.encode = code :: data ∧
      ∀ rest, readInstruction code (data ++ rest) = some (instruction, rest) := by
  cases instruction with
  | number n =>
    refine ⟨_, _, rfl, ?_⟩
    intro rest
    have hn : (UInt8.ofNat (0x50 + n)).toNat = numberBase + n := by
      rw [UInt8.toNat_ofNat', Nat.mod_eq_of_lt (by have := h.2; omega)]
      rfl
    have hrange : numberBase < (UInt8.ofNat (0x50 + n)).toNat
        ∧ (UInt8.ofNat (0x50 + n)).toNat ≤ numberBase + 16 := by
      rw [hn]
      exact ⟨Nat.lt_add_of_pos_right h.1, Nat.add_le_add_left h.2 _⟩
    rw [readInstruction, if_pos hrange, hn, Nat.add_sub_cancel_left]
    rfl
  | push data =>
    refine ⟨_, _, rfl, ?_⟩
    intro rest
    obtain ⟨hpos, hlimit⟩ := h
    have hlength : (UInt8.ofNat data.length).toNat = data.length := by
      rw [UInt8.toNat_ofNat', Nat.mod_eq_of_lt (by rw [pushLimit] at hlimit; omega)]
    have hnumber : ¬ (numberBase < (UInt8.ofNat data.length).toNat
        ∧ (UInt8.ofNat data.length).toNat ≤ numberBase + 16) := by
      rw [hlength, numberBase]
      rw [pushLimit] at hlimit
      omega
    have hcheck : UInt8.ofNat data.length ≠ 0xae := by
      intro heq
      have hnat := congrArg UInt8.toNat heq
      rw [hlength] at hnat
      rw [hnat] at hlimit
      exact absurd hlimit (by decide)
    rw [readInstruction, if_neg hnumber, if_neg hcheck, hlength,
      if_pos ⟨hpos, hlimit, by simp⟩, List.take_left' rfl, List.drop_left' rfl]
  | checkMultisig => exact ⟨_, _, rfl, fun rest => rfl⟩

theorem readUpTo_encode {instructions : List Instruction}
    (h : ∀ instruction ∈ instructions, instruction.IsWritable) {limit : Nat}
    (hlimit : (encode instructions).length ≤ limit) :
    readUpTo limit (encode instructions) = some instructions := by
  induction instructions generalizing limit with
  | nil => cases limit <;> rfl
  | cons instruction rest ih =>
    obtain ⟨code, data, hencode, hread⟩ :=
      readInstruction_encode (h instruction List.mem_cons_self)
    have hchars : encode (instruction :: rest) = code :: (data ++ encode rest) := by
      rw [encode, List.flatMap_cons, hencode]
      rfl
    rw [hchars, List.length_cons, List.length_append] at hlimit
    cases limit with
    | zero => cases hlimit
    | succ limit =>
      have hrest : readUpTo limit (encode rest) = some rest :=
        ih (fun other hother => h other (List.mem_cons_of_mem _ hother)) (by omega)
      rw [hchars, readUpTo, hread]
      simp only [hrest, Option.map_some]

theorem read_encode {instructions : List Instruction}
    (h : ∀ instruction ∈ instructions, instruction.IsWritable) :
    read (encode instructions) = some instructions :=
  readUpTo_encode h (Nat.le_refl _)

/-! ## Writing what was read -/

theorem encode_of_readInstruction {code : UInt8} {script rest : Bytes} {instruction : Instruction}
    (h : readInstruction code script = some (instruction, rest)) :
    instruction.encode ++ rest = code :: script := by
  unfold readInstruction at h
  split at h
  · next hnumber =>
    cases h
    have hcode : UInt8.ofNat (0x50 + (code.toNat - numberBase)) = code := by
      rw [show 0x50 + (code.toNat - numberBase) = code.toNat from
        Nat.add_sub_cancel' (Nat.le_of_lt hnumber.1)]
      exact UInt8.ofNat_toNat
    rw [Instruction.encode, hcode]
    rfl
  · split at h
    · next hcheck =>
      cases h
      rw [hcheck]
      rfl
    · split at h
      · next hpush =>
        cases h
        have hlength : (script.take code.toNat).length = code.toNat :=
          List.length_take_of_le hpush.2.2
        rw [Instruction.encode, hlength, UInt8.ofNat_toNat, List.cons_append,
          List.take_append_drop]
      · cases h

/-- A script is made up of what is read of it, with nothing skipped and nothing left over. -/
theorem encode_of_readUpTo {limit : Nat} {script : Bytes} {instructions : List Instruction}
    (h : readUpTo limit script = some instructions) : encode instructions = script := by
  induction limit generalizing script instructions with
  | zero =>
    cases script with
    | nil =>
      cases h
      rfl
    | cons code script => cases h
  | succ limit ih =>
    cases script with
    | nil =>
      cases h
      rfl
    | cons code script =>
      unfold readUpTo at h
      cases hfirst : readInstruction code script with
      | none =>
        rw [hfirst] at h
        cases h
      | some first =>
        obtain ⟨instruction, rest⟩ := first
        rw [hfirst] at h
        obtain ⟨others, hothers, rfl⟩ := Option.map_eq_some_iff.1 h
        rw [← encode_of_readInstruction hfirst, ← ih hothers]
        rfl

theorem encode_of_read {script : Bytes} {instructions : List Instruction}
    (h : read script = some instructions) : encode instructions = script :=
  encode_of_readUpTo h

end TwoOfThree.Script
