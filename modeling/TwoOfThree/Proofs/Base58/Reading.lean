-- SUMMARY: A Base58 text that can be read is the one that is written for its bytes.
import TwoOfThree.Encoding.Base58
import TwoOfThree.Proofs.Base58.Radix
import TwoOfThree.Proofs.Text.Utf8Encoding

/-!
# What Base58 text is read from

Every symbol stands for one digit and every digit has one symbol, so a text that can
be read is written again when its bytes are. With a checksum the same holds of the
payload. Each `1` in front of a text is one zero byte more in front of its bytes, and
so never another spelling of the same bytes.
-/

namespace TwoOfThree.Base58

/-! ## Symbols -/

theorem digitValue?_eq_some {byte : UInt8} {value : Nat} (h : digitValue? byte = some value) :
    value < 58 ∧ Utf8.encodeChar (digit value) = [byte] := by
  obtain ⟨hlt, hbyte, _⟩ := List.findIdx?_eq_some_iff_getElem.1 h
  have hdigit : digit value = alphabet[value] := by
    rw [digit, List.getD_eq_getElem?_getD, List.getElem?_eq_getElem hlt, Option.getD_some]
  have hnat : (digit value).toNat = byte.toNat := by
    rw [hdigit]
    exact of_decide_eq_true hbyte
  have hascii : (alphabet.all fun c => c.toNat < 0x80) = true := by decide
  have hlow : (digit value).toNat < 0x80 :=
    hdigit ▸ of_decide_eq_true (List.all_eq_true.1 hascii _ (List.getElem_mem hlt))
  refine ⟨hlt, ?_⟩
  simp only [Utf8.encodeChar, if_pos hlow]
  rw [hnat, UInt8.ofNat_toNat]

theorem readDigits_cons {byte : UInt8} {rest : Bytes} {ds : List Nat}
    (h : readDigits (byte :: rest) = .ok ds) :
    ∃ value values, ds = value :: values ∧ digitValue? byte = some value ∧
      readDigits rest = .ok values := by
  rw [readDigits] at h
  cases hvalue : digitValue? byte with
  | none =>
    rw [hvalue] at h
    cases h
  | some value =>
    rw [hvalue] at h
    cases hrest : readDigits rest with
    | error error =>
      rw [hrest] at h
      cases h
    | ok values =>
      rw [hrest] at h
      exact ⟨value, values, (Except.ok.inj h).symm, rfl, rfl⟩

/-- The symbols of the digits that were read are the bytes that they were read from. -/
theorem encodeChars_digits {bytes : Bytes} {ds : List Nat} (h : readDigits bytes = .ok ds) :
    (∀ d ∈ ds, d < 58) ∧ Utf8.encodeChars (ds.map digit) = bytes := by
  induction bytes generalizing ds with
  | nil =>
    cases h
    exact ⟨nofun, rfl⟩
  | cons byte rest ih =>
    obtain ⟨value, values, rfl, hvalue, hrest⟩ := readDigits_cons h
    obtain ⟨hlt, hbyte⟩ := digitValue?_eq_some hvalue
    obtain ⟨hlts, hbytes⟩ := ih hrest
    refine ⟨List.forall_mem_cons.2 ⟨hlt, hlts⟩, ?_⟩
    rw [List.map_cons, Utf8.encodeChars, List.flatMap_cons, hbyte]
    exact congrArg (byte :: ·) hbytes

theorem readDigits_ones (count : Nat) {bytes : Bytes} {ds : List Nat}
    (h : readDigits bytes = .ok ds) :
    readDigits (List.replicate count 0x31 ++ bytes) = .ok (List.replicate count 0 ++ ds) := by
  have hone : digitValue? 0x31 = some 0 := by decide
  induction count with
  | zero => exact h
  | succ count ih =>
    rw [List.replicate_succ, List.cons_append, readDigits, hone]
    simp only [ih]
    rfl

/-! ## Text -/

theorem decode_eq_ok {text : String} {bytes : Bytes} (h : decode text = .ok bytes) :
    ∃ ds, readDigits (Utf8.encode text) = .ok ds ∧
      bytes = (Radix.convert 58 256 ds).map UInt8.ofNat := by
  rw [decode] at h
  cases hread : readDigits (Utf8.encode text) with
  | error error =>
    rw [hread] at h
    cases h
  | ok ds =>
    rw [hread] at h
    exact ⟨ds, rfl, (Except.ok.inj h).symm⟩

/-- A text that can be read is written again. -/
theorem encode_decode {text : String} {bytes : Bytes} (h : decode text = .ok bytes) :
    encode bytes = text := by
  obtain ⟨ds, hread, rfl⟩ := decode_eq_ok h
  obtain ⟨hlt, hchars⟩ := encodeChars_digits hread
  have hbytes : ((Radix.convert 58 256 ds).map UInt8.ofNat).map UInt8.toNat
      = Radix.convert 58 256 ds := by
    rw [List.map_map]
    refine (List.map_congr_left fun d hd => ?_).trans (List.map_id _)
    exact UInt8.toNat_ofNat_of_lt' (Radix.lt_of_mem_convert (by decide) hd)
  have htext : Utf8.encode (String.ofList (ds.map digit)) = Utf8.encode text := by
    rw [Utf8.encode, String.toList_ofList, hchars]
  rw [encode, hbytes, Radix.convert_convert (by decide) (by decide) hlt]
  exact Utf8.encode_inj htext

/-- Each `1` in front of a text is a zero byte in front of its bytes. -/
theorem decode_ones (count : Nat) {text : String} {bytes : Bytes} (h : decode text = .ok bytes) :
    decode (String.ofList (List.replicate count '1') ++ text)
      = .ok (List.replicate count 0 ++ bytes) := by
  obtain ⟨ds, hread, rfl⟩ := decode_eq_ok h
  have hones : Utf8.encode (String.ofList (List.replicate count '1'))
      = List.replicate count 0x31 := by
    have hone : Utf8.encodeChar '1' = [0x31] := by decide
    rw [Utf8.encode, String.toList_ofList, Utf8.encodeChars, List.flatMap_replicate, hone]
    simp
  rw [decode, Utf8.encode_append, hones, readDigits_ones count hread]
  simp only [Except.map, Radix.convert_zeros_append, List.map_append, List.map_replicate]
  rfl

/-! ## Text with a checksum -/

@[simp] theorem length_checksum (payload : Bytes) : (checksum payload).length = checksumBytes := by
  simp [checksum, checksumBytes]

theorem verify_eq_ok_iff {bytes payload : Bytes} :
    verify bytes = .ok payload ↔ bytes = payload ++ checksum payload := by
  constructor
  · intro h
    unfold verify at h
    split at h
    · cases h
    · simp only at h
      split at h
      · next hchecksum =>
        cases h
        rw [← hchecksum, List.take_append_drop]
      · cases h
  · rintro rfl
    have hlen : (payload ++ checksum payload).length - checksumBytes = payload.length := by
      rw [List.length_append, length_checksum, Nat.add_sub_cancel]
    have hroom : ¬ (payload ++ checksum payload).length < checksumBytes := by
      rw [List.length_append, length_checksum]
      omega
    rw [verify, if_neg hroom]
    simp only [hlen, List.take_left, List.drop_left, if_true]

/-- A payload is read from the texts of exactly its own bytes and their checksum. -/
theorem decodeChecked_eq_ok_iff {text : String} {payload : Bytes} :
    decodeChecked text = .ok payload ↔ decode text = .ok (payload ++ checksum payload) := by
  rw [decodeChecked]
  cases decode text with
  | error error => simp
  | ok bytes => simp [verify_eq_ok_iff]

theorem encodeChecked_decodeChecked {text : String} {payload : Bytes}
    (h : decodeChecked text = .ok payload) : encodeChecked payload = text :=
  encode_decode (decodeChecked_eq_ok_iff.1 h)

/-- With `1` in front of a text, any payload that it still has is longer. -/
theorem length_of_decodeChecked_ones {count : Nat} {text : String} {payload payload' : Bytes}
    (h : decodeChecked text = .ok payload)
    (h' : decodeChecked (String.ofList (List.replicate count '1') ++ text) = .ok payload') :
    payload'.length = count + payload.length := by
  have hbytes := decode_ones count (decodeChecked_eq_ok_iff.1 h)
  rw [decodeChecked_eq_ok_iff.1 h', Except.ok.injEq] at hbytes
  have hlen := congrArg List.length hbytes
  simp only [List.length_append, length_checksum, List.length_replicate] at hlen
  omega

end TwoOfThree.Base58
