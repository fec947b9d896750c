-- SUMMARY: A selector names the same network as text and as a JSON literal, however the literal is spelled.
import TwoOfThree.Json.Selector
import TwoOfThree.Proofs.Json.Reader
import TwoOfThree.Proofs.Json.Recognition
import TwoOfThree.Proofs.Network.Refusal

/-!
# Selectors and their literals

A network is read from its selector, and from the JSON name of its constructor.
The two names are the same, so a string names the same network both ways or none
in either, whichever of its many literals it comes as. What is written for a
network is read back as the network both ways.
-/

namespace TwoOfThree.Network

open JsonObject (Blanks)
open JsonString (Denotes)

/-! ## Names -/

theorem jsonName_eq_selector (network : Network) : network.jsonName = network.selector := by
  have hlower (text : String) : text.toLower = text.map Char.toLower := rfl
  apply String.toList_inj.1
  rw [jsonName, hlower, String.toList_map]
  cases network with
  | main => decide
  | test => decide

theorem ofJsonName?_eq_ofSelector? (name : String) : ofJsonName? name = ofSelector? name := by
  by_cases hmain : name = "main"
  · simp [ofJsonName?, ofSelector?, jsonName_eq_selector, selector, hmain]
  · by_cases htest : name = "test"
    · simp [ofJsonName?, ofSelector?, jsonName_eq_selector, selector, htest]
    · simp [ofJsonName?, ofSelector?, jsonName_eq_selector, selector, hmain, htest]

theorem toOption_parse (selector : String) : (parse selector).toOption = ofSelector? selector := by
  rw [parse]
  cases ofSelector? selector <;> rfl

/-! ## Literals -/

section

variable {literal : List Char} {name : String} (hliteral : Denotes literal name.toList)
include hliteral

theorem readName_literal (rest : List Char) :
    readName (literal ++ rest) = some (name.toList, rest) := by
  have hread := hliteral.read rest
  obtain ⟨pieces, _, rfl⟩ := hliteral
  exact hread

theorem skipBlanks_literal (rest : List Char) :
    JsonString.skipBlanks (literal ++ rest) = literal ++ rest := by
  obtain ⟨pieces, _, rfl⟩ := hliteral
  exact JsonObject.skipBlanks_cons rfl _

theorem ofJson?_literal {before after : List Char} (hbefore : Blanks before)
    (hafter : Blanks after) :
    ofJson? (String.ofList (before ++ literal ++ after)) = ofSelector? name := by
  rw [ofJson?, String.toList_ofList, List.append_assoc, JsonObject.skipBlanks_append hbefore,
    skipBlanks_literal hliteral, readName_literal hliteral]
  simp only [Option.bind_eq_bind, Option.bind_some, JsonObject.skipBlanks_eq_nil hafter, if_true,
    String.ofList_toList, ofJsonName?_eq_ofSelector?]

end

/-! ## Written networks -/

theorem denotes_json (network : Network) :
    Denotes network.json.toList network.selector.toList := by
  rw [json, jsonName_eq_selector, String.toList_ofList]
  exact JsonString.denotes_encode network.selector.toList

theorem ofJson?_json (network : Network) : ofJson? network.json = some network := by
  have hblanks : Blanks [] := rfl
  have hread := ofJson?_literal (denotes_json network) hblanks hblanks
  rwa [List.nil_append, List.append_nil, String.ofList_toList, ofSelector?_selector] at hread

/-- A string that comes as a JSON literal, in any spelling and between any blanks, is read as the
network that its text is read as, and refused where the text is refused. What is written for a
network, as text or as a literal of this text, is read back as the network, and no other text is. -/
theorem readings_agree :
    (∀ (name : String) (literal before after : List Char), Denotes literal name.toList →
      Blanks before → Blanks after →
        ofJson? (String.ofList (before ++ literal ++ after)) = (parse name).toOption) ∧
    ∀ network : Network,
      Denotes network.json.toList network.selector.toList ∧
      ofJson? network.json = some network ∧
      ∀ name, parse name = .ok network ↔ name = network.selector := by
  constructor
  · intro name literal before after hliteral hbefore hafter
    rw [toOption_parse]
    exact ofJson?_literal hliteral hbefore hafter
  · intro network
    exact ⟨denotes_json network, ofJson?_json network, fun _ => parse_eq_ok_iff⟩

/-- A literal that spells three of its letters by their code units, between blanks. -/
theorem readings_agree_code_units :
    let literal := "\"\\u006da\\u0069\\u006E\"".toList
    Denotes literal "main".toList ∧ Blanks ['\n', ' '] ∧ Blanks ['\t'] ∧
      ofJson? (String.ofList (['\n', ' '] ++ literal ++ ['\t'])) = some .main := by
  intro literal
  have hliteral : Denotes literal "main".toList := by decide +kernel
  have hbefore : Blanks ['\n', ' '] := by decide
  have hafter : Blanks ['\t'] := by decide
  have hread := readings_agree.1 "main" literal _ _ hliteral hbefore hafter
  have hparse : parse "main" = .ok .main := parse_eq_ok_iff.2 rfl
  rw [hparse] at hread
  exact ⟨hliteral, hbefore, hafter, hread⟩

end TwoOfThree.Network
