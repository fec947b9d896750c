-- SUMMARY: What the reader of string literals takes is a literal of the text that it reads.
import TwoOfThree.Proofs.Json.Literals
import TwoOfThree.Proofs.Text.Utf8Faults

/-!
# Recognised literals

The reader goes from one spelling of a character to the next and stops behind the
closing quotation mark, so what it has taken is a literal of the text that it
gives back. It reads literals and nothing else, and whether one text is a literal
of another can be decided by reading it.
-/

namespace TwoOfThree.JsonString

/-! ## Read characters -/

theorem cons_eq_some_iff {c : Char} {read : Option (List Char × List Char)}
    {text rest : List Char} :
    cons c read = some (text, rest) ↔ ∃ text', text = c :: text' ∧ read = some (text', rest) := by
  cases read with
  | none => simp [cons]
  | some result => simp [cons, Prod.ext_iff, eq_comm, and_comm, and_assoc]

theorem IsUnit.lt {digits : List Char} {n : Nat} (h : IsUnit digits n) : n < 0x10000 := by
  cases h with
  | digits hx hy hz hw =>
    have ha := hx.1
    have hb := hy.1
    have hc := hz.1
    have hd := hw.1
    omega

theorem spelling_ofNat {x y z w : Char} {n : Nat} (h : unit? x y z w = some n)
    (hlow : ¬ isLowHalf n = true) (hhigh : ¬ isHighHalf n = true) :
    Spelling (Char.ofNat n) ['\\', 'u', x, y, z, w] := by
  have hunit := unit?_eq_some_iff.1 h
  have hlt := hunit.lt
  simp only [isLowHalf, isHighHalf, Bool.and_eq_true, decide_eq_true_eq] at hlow hhigh
  apply Spelling.unit
  rw [Utf8.toNat_ofNat (by omega)]
  exact hunit

theorem spelling_joinHalves {x y z w x' y' z' w' : Char} {n m : Nat} (h : unit? x y z w = some n)
    (h' : unit? x' y' z' w' = some m) (hhigh : isHighHalf n = true) (hlow : isLowHalf m = true) :
    Spelling (joinHalves n m) ['\\', 'u', x, y, z, w, '\\', 'u', x', y', z', w'] := by
  simp only [isLowHalf, isHighHalf, Bool.and_eq_true, decide_eq_true_eq] at hlow hhigh
  obtain ⟨high, rfl⟩ := Nat.exists_eq_add_of_le hhigh.1
  obtain ⟨low, rfl⟩ := Nat.exists_eq_add_of_le hlow.1
  have hjoined : (joinHalves (0xD800 + high) (0xDC00 + low)).toNat
      = 0x10000 + high * 0x400 + low := by
    rw [joinHalves, Nat.add_sub_cancel_left, Nat.add_sub_cancel_left, Utf8.toNat_ofNat (by omega)]
  exact Spelling.halves (by omega) (by omega) hjoined
    (unit?_eq_some_iff.1 h) (unit?_eq_some_iff.1 h')

/-! ## Read literals -/

/-- A spelling of each character of a text, and the closing quotation mark behind them. -/
def IsBody (cs text rest : List Char) : Prop :=
  ∃ pieces, List.Forall₂ Spelling text pieces ∧ cs = pieces.flatten ++ '"' :: rest

theorem IsBody.of_cons {c : Char} {piece cs text rest : List Char} (hpiece : Spelling c piece)
    (hread : cons c (readBody cs) = some (text, rest))
    (ih : ∀ {text}, readBody cs = some (text, rest) → IsBody cs text rest) :
    IsBody (piece ++ cs) text rest := by
  obtain ⟨text', rfl, hbody⟩ := cons_eq_some_iff.1 hread
  obtain ⟨pieces, hpieces, rfl⟩ := ih hbody
  exact ⟨piece :: pieces, .cons hpiece hpieces, by simp⟩

theorem isBody_of_readBody {cs text rest : List Char} (h : readBody cs = some (text, rest)) :
    IsBody cs text rest := by
  -- one case for each way to go on or to stop; where the reader stops without a closing mark,
  -- nothing was read
  fun_induction readBody cs generalizing text with
  | case2 =>
    cases h
    exact ⟨[], .nil, rfl⟩
  | case6 _ _ _ _ _ hunit _ hhigh _ _ _ _ _ _ hunit' hlow ih =>
    exact IsBody.of_cons (spelling_joinHalves hunit hunit' hhigh hlow) h ih
  | case9 _ _ _ _ _ _ hunit hlow hhigh ih =>
    exact IsBody.of_cons (spelling_ofNat hunit hlow hhigh) h ih
  | case11 _ _ _ _ hshort ih =>
    exact IsBody.of_cons (.short (shortEscape?_eq_some_iff.1 hshort)) h ih
  | case13 c _ hquote _ _ hplain ih =>
    obtain ⟨hprintable, hbackslash⟩ := not_or.1 hplain
    exact IsBody.of_cons (.plain hquote hbackslash hprintable) h ih
  | _ => cases h

/-- What is read is what a literal denotes, and every literal is read. -/
theorem read_eq_some_iff {cs text rest : List Char} :
    read cs = some (text, rest) ↔ ∃ literal, Denotes literal text ∧ cs = literal ++ rest := by
  constructor
  · intro h
    unfold read at h
    split at h
    · next body =>
      obtain ⟨pieces, hpieces, rfl⟩ := isBody_of_readBody h
      exact ⟨_, ⟨pieces, hpieces, rfl⟩, by simp⟩
    · cases h
  · rintro ⟨literal, hdenotes, rfl⟩
    exact hdenotes.read rest

theorem denotes_iff_read {literal text : List Char} :
    Denotes literal text ↔ read literal = some (text, []) := by
  simp only [read_eq_some_iff, List.append_nil, exists_eq_right']

instance (literal text : List Char) : Decidable (Denotes literal text) :=
  decidable_of_iff _ denotes_iff_read.symm

end TwoOfThree.JsonString
