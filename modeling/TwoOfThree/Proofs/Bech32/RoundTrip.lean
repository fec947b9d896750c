-- SUMMARY: The reader takes every written text and gives back what it was written from.
import TwoOfThree.Proofs.Bech32.Checksum
import TwoOfThree.Proofs.Bech32.Regrouping
import TwoOfThree.Text.Hex

/-!
# Reading what was written

Under a human-readable part in lower case, every text that is short enough is one
that the reader accepts: its symbols hold no separator, so the split is at the
right place, and its checksum is right. The program of a witness address comes
back byte for byte.
-/

namespace TwoOfThree.Bech32

/-! ## Characters -/

/-- Text that a written address may begin with. -/
structure IsHumanPart (humanPart : List Char) : Prop where
  nonempty : humanPart ≠ []
  printable : humanPart.all isPrintable = true
  lower : humanPart.any Char.isUpper = false

instance (humanPart : List Char) : Decidable (IsHumanPart humanPart) :=
  decidable_of_iff
    (humanPart ≠ [] ∧ humanPart.all isPrintable = true ∧ humanPart.any Char.isUpper = false)
    ⟨fun ⟨hn, hp, hl⟩ => ⟨hn, hp, hl⟩, fun h => ⟨h.nonempty, h.printable, h.lower⟩⟩

/-- A symbol is a lower-case letter or a digit, and not the separator. -/
theorem symbol_class (group : Group) :
    ((symbol group).isLower || (symbol group).isDigit) = true ∧ symbol group ≠ '1'
      ∧ isPrintable (symbol group) = true ∧ (symbol group).isUpper = false := by
  have h : ∀ i : Fin 32,
      ((symbol (.ofFin i)).isLower || (symbol (.ofFin i)).isDigit) = true ∧ symbol (.ofFin i) ≠ '1'
        ∧ isPrintable (symbol (.ofFin i)) = true ∧ (symbol (.ofFin i)).isUpper = false := by
    decide +kernel
  exact h group.toFin

theorem toLower_of_not_upper {c : Char} (h : c.isUpper = false) : c.toLower = c :=
  dif_neg (of_decide_eq_false h)

theorem foldCase?_of_not_upper {cs : List Char} (h : cs.any Char.isUpper = false) :
    foldCase? cs = some cs := by
  have hlower : ∀ c ∈ cs, c.isUpper = false := fun c hc =>
    eq_false_of_ne_true (List.any_eq_false.1 h c hc)
  have hmap : cs.map Char.toLower = cs :=
    (List.map_congr_left fun c hc => toLower_of_not_upper (hlower c hc)).trans (List.map_id cs)
  rw [foldCase?, h, hmap]
  rfl

theorem splitLast?_append {symbols : List Char} (before : List Char) (h : '1' ∉ symbols) :
    splitLast? (before ++ '1' :: symbols) = some (before, symbols) := by
  have hreverse : (before ++ '1' :: symbols).reverse = symbols.reverse ++ '1' :: before.reverse := by
    simp
  have hall : ∀ c ∈ symbols.reverse, (c != '1') = true := by
    intro c hc
    exact bne_iff_ne.2 fun hone => h (hone ▸ List.mem_reverse.1 hc)
  have htake : (before ++ '1' :: symbols).reverse.takeWhile (· != '1') = symbols.reverse := by
    rw [hreverse, List.takeWhile_append_of_pos hall]
    simp
  have hdrop : (before ++ '1' :: symbols).reverse.dropWhile (· != '1') = '1' :: before.reverse := by
    rw [hreverse, List.dropWhile_append_of_pos hall]
    simp
  simp only [splitLast?, htake, hdrop, List.reverse_reverse]

/-! ## Text -/

section

variable {humanPart : List Char} (data : List Group)

theorem encode_class {P : Char → Prop} (hhuman : ∀ c ∈ humanPart, P c) (hone : P '1')
    (hsymbol : ∀ group, P (symbol group)) : ∀ c ∈ encode humanPart data, P c := by
  intro c hc
  rw [encode, List.mem_append, List.mem_cons, List.mem_map] at hc
  rcases hc with hc | rfl | ⟨group, _, rfl⟩
  · exact hhuman c hc
  · exact hone
  · exact hsymbol group

theorem length_encode :
    (encode humanPart data).length = humanPart.length + data.length + 7 := by
  simp only [encode, List.length_append, List.length_cons, List.length_map, length_checksum]
  omega

theorem verify_checksum :
    verify humanPart (data ++ checksum humanPart data) = some data := by
  have hcut : (data ++ checksum humanPart data).length - checksumGroups = data.length := by
    rw [List.length_append, length_checksum, checksumGroups]
    omega
  have hcount : checksumGroups ≤ (data ++ checksum humanPart data).length := by
    rw [List.length_append, length_checksum, checksumGroups]
    omega
  rw [verify, if_pos ⟨hcount, polymod_checksum humanPart data⟩, hcut, List.take_left' rfl]

theorem decode_encode (h : IsHumanPart humanPart)
    (hlength : humanPart.length + data.length + 7 ≤ textLimit) :
    decode (encode humanPart data) = some (humanPart, data) := by
  have hprintable : (encode humanPart data).all isPrintable = true :=
    List.all_eq_true.2 (encode_class data (List.all_eq_true.1 h.printable) rfl fun group =>
      (symbol_class group).2.2.1)
  have hupper : (encode humanPart data).any Char.isUpper = false :=
    List.any_eq_false.2 (encode_class data (List.any_eq_false.1 h.lower) (by decide) fun group =>
      ne_true_of_eq_false (symbol_class group).2.2.2)
  have hfold := foldCase?_of_not_upper hupper
  have hsplit : splitLast? (encode humanPart data)
      = some (humanPart, (data ++ checksum humanPart data).map symbol) := by
    apply splitLast?_append
    intro hmem
    obtain ⟨group, _, hgroup⟩ := List.mem_map.1 hmem
    exact (symbol_class group).2.1 hgroup
  rw [decode, if_pos ⟨length_encode data ▸ hlength, hprintable⟩, hfold]
  simp only [Option.bind_eq_bind, Option.bind_some, hsplit, if_neg h.nonempty, mapM_symbolValue?,
    verify_checksum]
  rfl

end

/-! ## Witness addresses -/

theorem decodeWitness_encodeWitness {humanPart : List Char} {program : Bytes}
    (h : IsHumanPart humanPart) (hhuman : humanPart.length ≤ 30) (hprogram : program.length = 32) :
    decodeWitness (encodeWitness humanPart program) = some ⟨humanPart, 0, program⟩ := by
  have hlength : humanPart.length + (0 :: regroup program).length + 7 ≤ textLimit := by
    rw [List.length_cons, length_regroup, hprogram, textLimit]
    omega
  have hvalid : WitnessAddress.isValid ⟨humanPart, 0, program⟩ = true := by
    simp [WitnessAddress.isValid, hprogram]
  rw [decodeWitness, encodeWitness, decode_encode _ h hlength]
  simp only [Option.bind_eq_bind, Option.bind_some, ungroup_regroup]
  exact if_pos hvalid

example : (Hex.decode "1863143c14c5166804bd19203356da136c985678cd4d27a1b8c6329604903262").map
      (encodeWitness ['t', 'b'])
    = some "tb1qrp33g0q5c5txsp9arysrx4k6zdkfs4nce4xj0gdcccefvpysxf3q0sl5k7".toList := by
  decide +kernel

end TwoOfThree.Bech32
