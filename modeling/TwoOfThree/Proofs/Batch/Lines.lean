-- SUMMARY: Which entry of a batch the passphrase on a line of the file is, and what is worked out for it.
import TwoOfThree.Batch
import TwoOfThree.Proofs.Text.Utf8Encoding

/-!
# The lines of a passphrase file

Blank lines of the file are passed over, so the passphrase on a line is the entry
behind those of the filled lines before it. A passphrase that is text is taken as
that text, and its address is the one that is derived for the text by itself.
-/

namespace TwoOfThree.Batch

/-! ## Lines -/

def lineFeed : UInt8 := 0x0a

def carriageReturn : UInt8 := 0x0d

/-- The lines of a file, without their line feeds. -/
def fileLines (content : Bytes) : List Bytes := content.splitOn lineFeed

/-- A line without the carriage return that it may end in. -/
def stripReturn (line : Bytes) : Bytes :=
  if line.getLast? = some carriageReturn then line.dropLast else line

/-- A line with a passphrase on it. -/
def isFilled (line : Bytes) : Bool := !(stripReturn line).isEmpty

/-- Where in the batch the passphrase on a line comes. -/
def entryIndex (content : Bytes) (line : Nat) : Nat :=
  ((fileLines content).take line).countP isFilled

/-- The line at a position is a passphrase, which a carriage return may follow. -/
inductive HasLine (content : Bytes) (line : Nat) (passphrase : Bytes) : Prop where
  | plain (h : (fileLines content)[line]? = some passphrase)
  | returned (h : (fileLines content)[line]? = some (passphrase ++ [carriageReturn]))

theorem splitPassphrases_eq (content : Bytes) :
    splitPassphrases content = ((fileLines content).filter isFilled).map stripReturn :=
  List.filter_map

/-- What is kept of a list holds an element behind those that are kept before it. -/
theorem getElem?_filter_countP {p : α → Bool} {items : List α} {i : Nat} {item : α}
    (h : items[i]? = some item) (hp : p item = true) :
    (items.filter p)[(items.take i).countP p]? = some item := by
  induction items generalizing i with
  | nil => simp at h
  | cons first rest ih =>
    cases i with
    | zero =>
      simp only [List.getElem?_cons_zero, Option.some.injEq] at h
      simp [h, hp]
    | succ i =>
      rw [List.getElem?_cons_succ] at h
      cases hfirst : p first with
      | false => simpa [hfirst] using ih h
      | true => simpa [hfirst] using ih h

theorem stripReturn_of_not_returned {line : Bytes} (h : line.getLast? ≠ some carriageReturn) :
    stripReturn line = line := if_neg h

theorem stripReturn_append_return (line : Bytes) :
    stripReturn (line ++ [carriageReturn]) = line := by
  rw [stripReturn, if_pos List.getLast?_concat, List.dropLast_concat]

theorem isFilled_of_stripReturn {line passphrase : Bytes} (h : stripReturn line = passphrase)
    (hne : passphrase ≠ []) : isFilled line = true := by
  rw [isFilled, h, List.isEmpty_eq_false_iff.2 hne]
  rfl

theorem getElem?_splitPassphrases {content : Bytes} {line : Nat} {passphrase : Bytes}
    (h : HasLine content line passphrase) (hne : passphrase ≠ [])
    (hend : passphrase.getLast? ≠ some carriageReturn) :
    (splitPassphrases content)[entryIndex content line]? = some passphrase := by
  have hline : ∃ raw, (fileLines content)[line]? = some raw ∧ stripReturn raw = passphrase := by
    cases h with
    | plain h => exact ⟨passphrase, h, stripReturn_of_not_returned hend⟩
    | returned h => exact ⟨_, h, stripReturn_append_return passphrase⟩
  obtain ⟨raw, hraw, hstrip⟩ := hline
  rw [splitPassphrases_eq, List.getElem?_map, entryIndex,
    getElem?_filter_countP hraw (isFilled_of_stripReturn hstrip hne), Option.map_some, hstrip]

/-! ## Passphrases that are text -/

/-- A character ends in a carriage return byte only if it is that character. -/
theorem eq_return_of_getLast?_encoded {c : Char} {bytes : Bytes} (h : Utf8.Encoded c bytes)
    (hlast : bytes.getLast? = some carriageReturn) : c = '\r' := by
  have hcontinuation : some (Utf8.continuation c.toNat) ≠ some carriageReturn := by
    intro heq
    have hnat := congrArg UInt8.toNat (Option.some.inj heq)
    rw [Utf8.toNat_continuation] at hnat
    have hreturn : carriageReturn.toNat = 0x0d := rfl
    omega
  cases h with
  | one high =>
    have hbyte : UInt8.ofNat c.toNat = carriageReturn := Option.some.inj hlast
    have hnat := congrArg UInt8.toNat hbyte
    rw [UInt8.toNat_ofNat', Nat.mod_eq_of_lt (by omega)] at hnat
    rw [← Char.ofNat_toNat c, hnat]
    rfl
  | two => exact absurd hlast hcontinuation
  | three => exact absurd hlast hcontinuation
  | four => exact absurd hlast hcontinuation

theorem getLast?_encode {text : String} (h : text.toList.getLast? ≠ some '\r') :
    (Utf8.encode text).getLast? ≠ some carriageReturn := by
  intro hlast
  unfold Utf8.encode at hlast
  cases List.eq_nil_or_concat text.toList with
  | inl hnil =>
    rw [hnil] at hlast
    cases hlast
  | inr hconcat =>
    obtain ⟨front, c, hchars⟩ := hconcat
    rw [hchars, List.concat_eq_append] at h hlast
    rw [List.getLast?_concat] at h
    have hencoded := Utf8.encoded_encodeChar c
    obtain ⟨byte, hbyte⟩ := Option.ne_none_iff_exists'.1 fun hnone =>
      hencoded.ne_nil (List.getLast?_eq_none_iff.1 hnone)
    rw [Utf8.encodeChars, List.flatMap_append, List.flatMap_singleton, List.getLast?_append, hbyte,
      Option.some_or, ← hbyte] at hlast
    exact h (congrArg some (eq_return_of_getLast?_encoded hencoded hlast))

theorem encode_ne_nil {text : String} (h : text ≠ "") : Utf8.encode text ≠ [] := by
  intro hnil
  rw [Utf8.encode, Utf8.encodeChars, List.flatMap_eq_nil_iff] at hnil
  have hchars : text.toList = [] :=
    List.eq_nil_iff_forall_not_mem.2 fun c hc => (Utf8.encoded_encodeChar c).ne_nil (hnil c hc)
  exact h (String.toList_eq_nil_iff.1 hchars)

theorem entry_encode (keys : List ExtendedKey) (network : Network) (passphrase : String) :
    entry keys network (Utf8.encode passphrase)
      = ⟨passphrase, Deposit.deriveAddress keys passphrase network⟩ := by
  rw [entry, readPassphrase, Utf8.decode_encode, Utf8.decodeLossy_encode]
  rfl

end TwoOfThree.Batch
