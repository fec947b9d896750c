-- SUMMARY: Every extended key that can be read has one text, the one that it is written as.
import TwoOfThree.Bytes.BigEndianLaws
import TwoOfThree.Proofs.Base58.Reading
import TwoOfThree.Proofs.Cosigners.FirstFailure

/-!
# The one spelling of an extended key

Nothing of a text is lost when an extended key is read from it: the parity of a point
is told by its tag, each field of the payload is kept as it is, and the digits and
the checksum of the text are those of the payload. So a key that was read is written
as the text that it was read from, and no other text stands for it. In particular,
no `1` can be put in front of it.
-/

namespace TwoOfThree

/-! ## Points -/

namespace Curve

theorem Coordinate.powBits_lt (bits base exponent : Nat) :
    Coordinate.powBits bits base exponent < p := by
  have hp : 0 < p := by decide
  induction bits generalizing base exponent with
  | zero => exact (by decide : 1 < p)
  | succ bits ih =>
    rw [powBits]
    split
    · exact Nat.mod_lt _ hp
    · exact ih _ _

namespace Point

theorem ofCoordinates?_eq_some {x y : Nat} {point : Point}
    (h : ofCoordinates? x y = some point) : OnCurve x y ∧ point.x = x ∧ point.y = y := by
  unfold ofCoordinates? at h
  split at h
  · next hcurve =>
    cases h
    exact ⟨hcurve, rfl, rfl⟩
  · cases h

/-- The point that is found has the parity that was asked for. -/
theorem ofX?_eq_some {x : Nat} {odd : Bool} {point : Point} (h : ofX? x odd = some point) :
    point.x = x ∧ (point.y % 2 == 1) = odd := by
  obtain ⟨hcurve, hx, hy⟩ := ofCoordinates?_eq_some h
  refine ⟨hx, ?_⟩
  rw [← hy] at hcurve
  have hlt : point.y < p := hcurve.2.1
  have hroot : Coordinate.sqrtCandidate (cubic x) < p := Coordinate.powBits_lt _ _ _
  have hodd : p % 2 = 1 := by decide
  generalize Coordinate.sqrtCandidate (cubic x) = root at hroot hy
  split at hy
  · next hparity =>
    rw [hy]
    exact eq_of_beq hparity
  · next hparity =>
    -- The root is not zero, since its negative would then not be below the prime.
    have hflip : point.y % 2 = 1 - root % 2 := by omega
    rw [hflip]
    revert hparity
    rcases Nat.mod_two_eq_zero_or_one root with hmod | hmod <;> rw [hmod] <;> cases odd <;> decide

/-- A point is written as the bytes that it was read from. -/
theorem short_of_ofShort? {bytes : Bytes} {point : Point} (h : ofShort? bytes = some point) :
    point.short = bytes := by
  match bytes with
  | [] => cases h
  | tag :: rest =>
    rw [ofShort?] at h
    split at h
    · cases h
    · next hlen =>
      have hcoordinate : BigEndian.encode 32 (BigEndian.decode rest) = rest := by
        have hwritten := BigEndian.encode_decode rest
        rwa [Decidable.not_not.1 hlen] at hwritten
      split at h
      · next htag =>
        obtain ⟨hx, hparity⟩ := ofX?_eq_some h
        rw [short, parityTag, if_neg (by simpa using hparity), hx, hcoordinate, htag]
      · split at h
        · next htag =>
          obtain ⟨hx, hparity⟩ := ofX?_eq_some h
          rw [short, parityTag, if_pos (by simpa using hparity), hx, hcoordinate, htag]
        · cases h

end Point

end Curve

namespace ExtendedKey

/-! ## Payloads -/

theorem version_of_networkOfVersion? {bytes : Bytes} {network : Network}
    (h : networkOfVersion? bytes = some network) : version network = bytes := by
  unfold networkOfVersion? at h
  split at h
  · next hmain =>
    cases h
    exact hmain.symm
  · split at h
    · next htest =>
      cases h
      exact htest.symm
    · cases h

theorem encode_wordAt {bytes : Bytes} {offset : Nat} (h : offset + 4 ≤ bytes.length) :
    BigEndian.encode 4 (wordAt bytes offset).toNat = (bytes.drop offset).take 4 := by
  have hlen : ((bytes.drop offset).take 4).length = 4 := by
    rw [List.length_take, List.length_drop]
    omega
  have hlt := BigEndian.decode_lt ((bytes.drop offset).take 4)
  rw [hlen] at hlt
  have hwritten := BigEndian.encode_decode ((bytes.drop offset).take 4)
  rw [wordAt, UInt32.toNat_ofNat_of_lt' hlt]
  rwa [hlen] at hwritten

/-- The fields of a payload, one behind the other. -/
theorem split_payload {bytes : Bytes} (h : bytes.length = payloadBytes) :
    bytes.take 4 ++ bytes.getD 4 0 :: (bytes.drop 5).take 4 ++ (bytes.drop 9).take 4
      ++ (bytes.drop 13).take 32 ++ bytes.drop 45 = bytes := by
  have hcut (offset count : Nat) :
      (bytes.drop offset).take count ++ bytes.drop (offset + count) = bytes.drop offset := by
    rw [← List.drop_drop, List.take_append_drop]
  have hbyte : bytes.getD 4 0 :: bytes.drop 5 = bytes.drop 4 := by
    have hlt : 4 < bytes.length := by
      rw [h]
      decide
    rw [List.drop_eq_getElem_cons hlt, List.getD_eq_getElem?_getD, List.getElem?_eq_getElem hlt,
      Option.getD_some]
  simp only [List.append_assoc, List.cons_append]
  rw [hcut 13 32, hcut 9 4, hcut 5 4, hbyte, List.take_append_drop]

theorem payload_of_ofPayload {bytes : Bytes} {key : ExtendedKey}
    (h : ofPayload bytes = .ok key) : bytes.length = payloadBytes ∧ key.payload = bytes := by
  unfold ofPayload at h
  split at h
  · next hlen =>
    refine ⟨hlen, ?_⟩
    cases hnetwork : networkOfVersion? (bytes.take 4) with
    | none =>
      rw [hnetwork] at h
      cases h
    | some network =>
      cases hpoint : Curve.Point.ofShort? (bytes.drop 45) with
      | none =>
        rw [hnetwork, hpoint] at h
        cases h
      | some publicKey =>
        rw [hnetwork, hpoint] at h
        cases h
        have hfits (offset : Nat) (hoffset : offset ≤ 74) : offset + 4 ≤ bytes.length := by
          rw [hlen, payloadBytes]
          omega
        rw [payload, version_of_networkOfVersion? hnetwork, ChildNumber.raw_ofRaw,
          encode_wordAt (hfits 5 (by decide)), encode_wordAt (hfits 9 (by decide)),
          Curve.Point.short_of_ofShort? hpoint, split_payload hlen]
  · cases h

/-! ## Texts -/

section

variable {text : String} {key : ExtendedKey}

theorem parse_eq_ok (h : parse text = .ok key) :
    ∃ payload, Base58.decodeChecked text = .ok payload ∧ ofPayload payload = .ok key := by
  unfold parse at h
  cases hdecode : Base58.decodeChecked text with
  | error error =>
    rw [hdecode] at h
    cases h
  | ok payload =>
    rw [hdecode] at h
    exact ⟨payload, rfl, h⟩

/-- A key is written as the text that it was read from. -/
theorem render_of_parse (h : parse text = .ok key) : key.render = text := by
  obtain ⟨payload, hdecode, hpayload⟩ := parse_eq_ok h
  rw [render, (payload_of_ofPayload hpayload).2, Base58.encodeChecked_decodeChecked hdecode]

/-- The text that a key is written as is the only one that it is read from. -/
theorem parse_eq_ok_iff_of_parse (h : parse text = .ok key) (text' : String) :
    parse text' = .ok key ↔ text' = key.render := by
  constructor
  · intro h'
    exact (render_of_parse h').symm
  · rintro rfl
    rw [render_of_parse h, h]

/-- A text of the right length is too long with a `1` in front of it. -/
theorem parse_ones {count : Nat} (hcount : 0 < count) (h : parse text = .ok key) :
    ∃ error, parse (String.ofList (List.replicate count '1') ++ text) = .error error := by
  cases hones : parse (String.ofList (List.replicate count '1') ++ text) with
  | error error => exact ⟨error, rfl⟩
  | ok key' =>
    obtain ⟨payload, hdecode, hpayload⟩ := parse_eq_ok h
    obtain ⟨payload', hdecode', hpayload'⟩ := parse_eq_ok hones
    have hlen := Base58.length_of_decodeChecked_ones hdecode hdecode'
    rw [(payload_of_ofPayload hpayload).1, (payload_of_ofPayload hpayload').1] at hlen
    omega

end

end ExtendedKey

/-! ## Three texts -/

namespace Cosigners

section

variable {texts : List String} {keys : List ExtendedKey} (h : parse texts = .ok keys)
include h

theorem map_render_of_parse : keys.map ExtendedKey.render = texts := by
  obtain ⟨hlen, hmap⟩ := parse_eq_ok_iff.1 h
  clear hlen h
  induction texts generalizing keys with
  | nil =>
    cases keys with
    | nil => rfl
    | cons key rest => cases hmap
  | cons text texts ih =>
    cases keys with
    | nil => cases hmap
    | cons key rest =>
      obtain ⟨hkey, hrest⟩ := List.cons.inj hmap
      rw [List.map_cons, ExtendedKey.render_of_parse hkey, ih hrest]

theorem exists_text_of_mem {key : ExtendedKey} (hkey : key ∈ keys) :
    ∃ text ∈ texts, ExtendedKey.parse text = .ok key := by
  have hmem : Except.ok key ∈ texts.map ExtendedKey.parse :=
    (parse_eq_ok_iff.1 h).2 ▸ List.mem_map_of_mem hkey
  exact List.mem_map.1 hmem

theorem exists_key_of_mem {text : String} (htext : text ∈ texts) :
    ∃ key, ExtendedKey.parse text = .ok key := by
  have hmem : ExtendedKey.parse text ∈ keys.map Except.ok :=
    (parse_eq_ok_iff.1 h).2 ▸ List.mem_map_of_mem htext
  obtain ⟨key, _, hkey⟩ := List.mem_map.1 hmem
  exact ⟨key, hkey.symm⟩

end

/-- Three keys that were read are written as the three texts that they were read from. Each of them
is read from this one text and from no other, and three texts are refused if one of them is an
accepted text behind some `1`. -/
theorem parse_spelling {texts : List String} {keys : List ExtendedKey}
    (h : parse texts = .ok keys) :
    keys.map ExtendedKey.render = texts ∧
      (∀ key ∈ keys, ∀ text, ExtendedKey.parse text = .ok key ↔ text = key.render) ∧
      ∀ text ∈ texts, ∀ count > 0, ∀ texts',
        String.ofList (List.replicate count '1') ++ text ∈ texts' →
        ∃ error, parse texts' = .error error := by
  refine ⟨map_render_of_parse h, ?_, ?_⟩
  · intro key hkey text
    obtain ⟨text', _, htext'⟩ := exists_text_of_mem h hkey
    exact ExtendedKey.parse_eq_ok_iff_of_parse htext' text
  · intro text htext count hcount texts' hmem
    cases hparse : parse texts' with
    | error error => exact ⟨error, rfl⟩
    | ok keys' =>
      obtain ⟨key, hkey⟩ := exists_key_of_mem h htext
      obtain ⟨error, herror⟩ := ExtendedKey.parse_ones hcount hkey
      obtain ⟨key', hkey'⟩ := exists_key_of_mem hparse hmem
      rw [herror] at hkey'
      cases hkey'

/-- Three texts of different networks, depths and child numbers, and of points of both parities. -/
def mixedTexts : List String := [
  "xpub661MyMwAqRbcEYS8w7XLSVeEsBXy79zSzH1J8vCdxAZningWLdN3zgtU6"
    ++ "QzvJsNBNF5QPBBBg1yVF2LKrcfGdJq86PeLWDMUCYatZPzQu8R",
  "tpubDC2RiwGzSCPC9aTvBzehLWHiHLhr8YAEiEny2LHP59S7jsUaSQAyco817"
    ++ "wL65qgZdyzuJCFd1mazcQVwQU4XCwN5oTHqF2eGTeFWDdhmYmi",
  "xpub6EkTGi8Kh6bqYpZzFeoANKQh7nH1GiChpb1StmTSoUG3QA1u6yf6dYprG"
    ++ "jWiMBKcTEQ1KFDBNDL4sxDh45AiD7EkFC3yeD23Vkf3yzYSwEb"]

theorem parse_spelling_mixed :
    ∃ keys, parse mixedTexts = .ok keys ∧
      keys.map ExtendedKey.render = mixedTexts ∧
      (∀ key ∈ keys, ∀ text, ExtendedKey.parse text = .ok key ↔ text = key.render) ∧
      ∀ text ∈ mixedTexts, ∀ count > 0, ∀ texts',
        String.ofList (List.replicate count '1') ++ text ∈ texts' →
        ∃ error, parse texts' = .error error := by
  have hok : (parse mixedTexts).isOk = true := by decide +kernel
  cases hparse : parse mixedTexts with
  | error error =>
    rw [hparse] at hok
    cases hok
  | ok keys => exact ⟨keys, rfl, parse_spelling hparse⟩

end Cosigners

end TwoOfThree
