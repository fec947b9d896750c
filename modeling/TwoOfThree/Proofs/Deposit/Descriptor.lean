-- SUMMARY: A wallet that imports the descriptor of a deposit comes to its witness script and address.
import Mathlib.Data.List.Nodup
import TwoOfThree.Proofs.Deposit.AddressText
import TwoOfThree.Proofs.Descriptor.Reader
import TwoOfThree.Proofs.Report.Deposit

/-!
# The descriptor of a deposit

The witness script is written from the keys by one way and the descriptor by another,
and a wallet that knows the descriptor alone has to find the script again. It does so
from any order of the keys in the text, and it finds the address as well. So the
descriptor and the witness script tell deposits apart in the same way.
-/

namespace TwoOfThree.Deposit

/-! ## What the text says -/

/-- What the descriptor of a deposit says. -/
def described (deposit : Deposit) : Descriptor :=
  ⟨requiredSignatures, deposit.publicKeys.map PublicKey.bytes⟩

/-- A wallet that reads the text and follows the rules of descriptors, on the network of the deposit,
finds the script and the address of the deposit. -/
def IsFoundFrom (deposit : Deposit) (text : String) : Prop :=
  ∃ descriptor, Descriptor.read text = some descriptor ∧
    descriptor.script? = some deposit.witnessScript ∧
    Descriptor.addressOf deposit.witnessScript deposit.network = deposit.address.render

/-- What is found from a text is found from nothing else. -/
theorem IsFoundFrom.unique {deposit deposit' : Deposit} {text : String}
    (h : deposit.IsFoundFrom text) (h' : deposit'.IsFoundFrom text) :
    deposit.witnessScript = deposit'.witnessScript := by
  obtain ⟨descriptor, hread, hscript, _⟩ := h
  obtain ⟨descriptor', hread', hscript', _⟩ := h'
  rw [hread, Option.some.injEq] at hread'
  rw [hread', hscript', Option.some.injEq] at hscript
  exact hscript.symm

namespace IsCoherent

variable {deposit deposit' : Deposit} (h : deposit.IsCoherent)
include h

theorem descriptor_eq : deposit.descriptor = deposit.described.render := by
  have hhex : deposit.described.keys.map Hex.encode = deposit.publicKeys.map PublicKey.hex := by
    simp only [described, List.map_map]
    rfl
  have hne : deposit.publicKeys.map PublicKey.hex ≠ [] := by
    intro hnil
    have hcount := h.count
    rw [List.map_eq_nil_iff.1 hnil] at hcount
    cases hcount
  have htext (keys : String) : s!"wsh(sortedmulti({requiredSignatures},{keys}))"
      = Descriptor.opening ++ (toString requiredSignatures ++ "," ++ keys) ++
        Descriptor.closing := by
    simp only [Descriptor.opening, Descriptor.closing, String.append_assoc]
    rfl
  rw [Descriptor.render, hhex, String.intercalate_cons_of_ne_nil hne]
  exact htext _

theorem render_address :
    Descriptor.addressOf deposit.witnessScript deposit.network = deposit.address.render := by
  rw [h.address, ← String.toList_inj, Address.toList_render, Descriptor.addressOf,
    String.toList_ofList]
  rfl

/-- The keys of the descriptor may be listed in any order. -/
theorem isFoundFrom {keys : List Bytes} (hperm : keys.Perm deposit.described.keys) :
    deposit.IsFoundFrom (Descriptor.render ⟨deposit.described.required, keys⟩) := by
  have hlength : keys.length = 3 := by
    rw [hperm.length_eq, described, List.length_map, h.count]
  have hvalid : Descriptor.IsValid ⟨deposit.described.required, keys⟩ := by
    simp only [Descriptor.IsValid, described, requiredSignatures, hlength]
    refine ⟨by decide, by decide, by decide, ?_⟩
    intro key hkey
    exact h.length_bytes key (hperm.mem_iff.1 hkey)
  refine ⟨_, Descriptor.read_render _, ?_, h.render_address⟩
  rw [Descriptor.script?_eq_of_pairwise hvalid hperm h.ascending, h.witnessScript,
    multisigScript_eq]
  rfl

theorem isFoundFrom_descriptor : deposit.IsFoundFrom deposit.descriptor := by
  rw [h.descriptor_eq]
  exact h.isFoundFrom (.refl _)

/-- The text of the descriptor leads to the script, and the script shows the keys that the text
lists. -/
theorem descriptor_eq_iff (h' : deposit'.IsCoherent) :
    deposit'.descriptor = deposit.descriptor ↔ deposit'.witnessScript = deposit.witnessScript := by
  constructor
  · intro htext
    have hfound := h.isFoundFrom_descriptor
    rw [← htext] at hfound
    exact h'.isFoundFrom_descriptor.unique hfound
  · intro hscript
    have hread := h.read_witnessScript
    rw [← hscript, h'.read_witnessScript] at hread
    have hpushes := List.append_cancel_right (List.cons.inj (Option.some.inj hread)).2
    have hpush : Function.Injective Script.Instruction.push := fun a b heq =>
      Script.Instruction.push.inj heq
    exact descriptor_congr (hpush.list_map hpushes)

end IsCoherent

/-! ## The descriptor -/

theorem hexOnGenerator_one : hexOnGenerator 1
    = some "03699e3b56681d1de1e3525956f3a2ecd05457ef5349804f591ec3048d68395743" := by
  decide +kernel

theorem hexOnGenerator_two : hexOnGenerator 2
    = some "03c31c6a2f7947591e18319768c8b0df2fd08daf2af6e74ca8c320a4159abbb873" := by
  decide +kernel

/-- What the descriptor of a deposit says is enough to find its witness script and its address, in
whatever order the text lists the keys, and no other witness script has the same descriptor. The
script can also be read from its own text. -/
theorem derive_descriptor {keys : List ExtendedKey} {passphrase : String} {network : Network}
    {deposit : Deposit} (h : derive keys passphrase network = .ok deposit) :
    deposit.network = network ∧ deposit.IsFoundFrom deposit.descriptor ∧
      (∃ descriptor : Descriptor, deposit.descriptor = descriptor.render ∧
        descriptor.keys.length = 3 ∧
        ∀ permuted, permuted.Perm descriptor.keys →
          deposit.IsFoundFrom (Descriptor.render ⟨descriptor.required, permuted⟩)) ∧
      (∀ keys' passphrase' network' deposit', derive keys' passphrase' network' = .ok deposit' →
        (deposit'.descriptor = deposit.descriptor ↔
          deposit'.witnessScript = deposit.witnessScript)) ∧
      Hex.decode deposit.witnessScriptHex = some deposit.witnessScript := by
  have hcoherent := isCoherent_of_derive h
  refine ⟨?_, hcoherent.isFoundFrom_descriptor, ⟨_, hcoherent.descriptor_eq, ?_, ?_⟩, ?_, ?_⟩
  · obtain ⟨publicKeys, _, rfl⟩ := derive_eq_ok_iff.1 h
    rfl
  · simp only [described, List.length_map, hcoherent.count]
  · intro permuted hperm
    exact hcoherent.isFoundFrom hperm
  · intro keys' passphrase' network' deposit' h'
    exact hcoherent.descriptor_eq_iff (isCoherent_of_derive h')
  · exact Hex.decode_encode _

/-- A descriptor of three different keys, and the text with these keys in reverse. -/
theorem derive_descriptor_reversed :
    let keys := [ExtendedKey.onGenerator 0 0, ExtendedKey.onGenerator 0 1,
      ExtendedKey.onGenerator 0 2]
    ∃ (deposit : Deposit) (descriptor : Descriptor),
      derive keys "" .main = .ok deposit ∧
      deposit.descriptor = descriptor.render ∧
      descriptor.keys.length = 3 ∧ descriptor.keys.Nodup ∧
      deposit.IsFoundFrom (Descriptor.render ⟨descriptor.required, descriptor.keys.reverse⟩) := by
  intro keys
  obtain ⟨a, ha, hatext⟩ := exists_publicKeyAt_onGenerator hexOnGenerator_zero
  obtain ⟨b, hb, hbtext⟩ := exists_publicKeyAt_onGenerator hexOnGenerator_one
  obtain ⟨c, hc, hctext⟩ := exists_publicKeyAt_onGenerator hexOnGenerator_two
  have hkeys : Cosigners.publicKeysAt keys (Path.ofPassphrase "") = .ok [a, b, c] :=
    Cosigners.publicKeysAt_eq_ok_iff.2
      ⟨rfl, by simp only [keys, List.map_cons, List.map_nil, ha, hb, hc]⟩
  have h : derive keys "" .main = .ok _ := derive_eq_ok_iff.2 ⟨_, hkeys, rfl⟩
  obtain ⟨_, _, ⟨descriptor, htext, hlength, hpermuted⟩, _⟩ := derive_descriptor h
  have hnodup : descriptor.keys.Nodup := by
    have hread := Descriptor.read_render descriptor
    rw [← htext, (isCoherent_of_derive h).descriptor_eq, Descriptor.read_render,
      Option.some.injEq] at hread
    have hhex : (([a, b, c].map PublicKey.bytes).map Hex.encode).Nodup := by
      show [a.hex, b.hex, c.hex].Nodup
      rw [hatext, hbtext, hctext]
      decide
    rw [← hread]
    exact ((PublicKey.sort_perm [a, b, c]).map PublicKey.bytes).nodup_iff.2 (hhex.of_map _)
  exact ⟨_, descriptor, h, htext, hlength, hnodup, hpermuted _ (List.reverse_perm _)⟩

end TwoOfThree.Deposit
