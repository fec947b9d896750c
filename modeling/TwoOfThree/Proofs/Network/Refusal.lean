-- SUMMARY: A selector that is refused can be read off the message, exactly as it was given.
import Mathlib.Data.List.Basic
import TwoOfThree.Proofs.Text.Quoted
import TwoOfThree.Settings

/-!
# Refused selectors

Any text but the two selectors is refused with an error that holds the text. The
message of this error quotes it in the middle of a fixed sentence. Whatever the
text is, a quotation mark, an escape or the end of the sentence itself, the quoted
part ends where the text ends, and undoing its escapes gives the text back. So
every refused text has a message of its own, and the message is a single line
without control characters.
-/

namespace TwoOfThree

/-! ## Reading selectors -/

namespace Network

variable {selector : String}

theorem parse_eq_ok_iff {network : Network} :
    parse selector = .ok network ↔ selector = network.selector := by
  rw [← ofSelector?_eq_some_iff, parse]
  cases ofSelector? selector <;> simp

theorem parse_eq_unsupported (hmain : selector ≠ "main") (htest : selector ≠ "test") :
    parse selector = .error (.unsupportedNetwork selector) := by
  rw [parse, ofSelector?_eq_none_iff.2 ⟨hmain, htest⟩]

end Network

/-- Keys and a network that are given as text have their network read after the keys are counted and
before they are read. -/
theorem Deposit.readTexts_eq_bind (keys : List String) (selector : String) :
    readTexts keys selector = (do
      let keys ← Cosigners.checkCount keys
      let network ← Network.parse selector
      return (← Cosigners.parse keys, network)) := by
  unfold readTexts Network.parse
  cases Cosigners.checkCount keys with
  | error error => rfl
  | ok keys => cases Network.ofSelector? selector <;> rfl

/-- Settings have the selector in effect read before their keys. -/
theorem Settings.resolve_eq_bind (file : SettingsFile) (overrides : Overrides) :
    resolve file overrides = (do
      let network ← (Network.parse (selector file overrides)).mapError .network
      let keys ← (Cosigners.parse (keyTexts file overrides)).mapError .cosigners
      return ⟨network, keys, concurrencyOf file⟩) := by
  unfold resolve Network.parse
  cases Network.ofSelector? (selector file overrides) with
  | none => rfl
  | some network => cases Cosigners.parse (keyTexts file overrides) <;> rfl

namespace Error

/-! ## The message -/

/-- What the message says in front of the quoted selector. -/
def refusalOpening : String := "unsupported network: "

/-- What the message says behind the quoted selector. -/
def refusalClosing : String := " (expected \"main\" or \"test\")"

/-- The selector that a message quotes, if the message is the one for a refused selector. -/
def refusedSelector? (message : String) : Option String := do
  let rest ← message.toList.dropPrefix? refusalOpening.toList
  let (selector, rest) ← Quoted.read rest
  if rest = refusalClosing.toList then some (String.ofList selector) else none

variable (selector : String)

theorem message_unsupportedNetwork :
    (unsupportedNetwork selector).message
      = refusalOpening ++ Quoted.encode selector ++ refusalClosing := rfl

theorem toList_message_unsupportedNetwork :
    (unsupportedNetwork selector).message.toList
      = refusalOpening.toList
        ++ (Quoted.encodeChars selector.toList ++ refusalClosing.toList) := by
  rw [message_unsupportedNetwork, String.toList_append, String.toList_append, Quoted.encode,
    String.toList_ofList, List.append_assoc]

theorem refusedSelector?_message :
    refusedSelector? (unsupportedNetwork selector).message = some selector := by
  have hopening : (unsupportedNetwork selector).message.toList.dropPrefix? refusalOpening.toList
      = some (Quoted.encodeChars selector.toList ++ refusalClosing.toList) := by
    rw [toList_message_unsupportedNetwork]
    exact List.dropPrefix?_append_of_beq _ (beq_self_eq_true _)
  simp only [refusedSelector?, hopening, Option.bind_eq_bind, Option.bind_some,
    Quoted.read_encodeChars, if_true, String.ofList_toList]

theorem message_unsupportedNetwork_inj {selector selector' : String}
    (h : (unsupportedNetwork selector').message = (unsupportedNetwork selector).message) :
    selector' = selector := by
  apply Option.some.inj
  rw [← refusedSelector?_message, ← refusedSelector?_message, h]

/-- Every character of the message shows as itself. -/
theorem isHidden_message_unsupportedNetwork :
    ∀ c ∈ (unsupportedNetwork selector).message.toList, Quoted.isHidden c = false := by
  have hopening : refusalOpening.toList.all Quoted.isAsciiGraphic = true := by decide
  have hclosing : refusalClosing.toList.all Quoted.isAsciiGraphic = true := by decide
  intro c hc
  rw [toList_message_unsupportedNetwork, List.mem_append, List.mem_append] at hc
  rcases hc with hc | hc | hc
  · exact Quoted.isHidden_of_isAsciiGraphic (List.all_eq_true.1 hopening c hc)
  · exact Quoted.isHidden_encodeChars _ c hc
  · exact Quoted.isHidden_of_isAsciiGraphic (List.all_eq_true.1 hclosing c hc)

end Error

/-- Every text but the two selectors is refused with an error that holds it. The message of the
error has no control character in it and nothing that ends a line, undoing the escapes of its
quoted part gives back the text, and no other text has the same message. -/
theorem Network.parse_refuses {selector : String} (hmain : selector ≠ "main")
    (htest : selector ≠ "test") :
    parse selector = .error (.unsupportedNetwork selector) ∧
    (∀ c ∈ (Error.unsupportedNetwork selector).message.toList,
      Quoted.isControl c = false ∧ c ∉ Quoted.lineEnds) ∧
    Error.refusedSelector? (Error.unsupportedNetwork selector).message = some selector ∧
    ∀ selector', (Error.unsupportedNetwork selector').message
      = (Error.unsupportedNetwork selector).message ↔ selector' = selector := by
  refine ⟨parse_eq_unsupported hmain htest, ?_, Error.refusedSelector?_message selector, ?_⟩
  · intro c hc
    have hshown := Error.isHidden_message_unsupportedNetwork selector c hc
    exact Quoted.plain_of_isHidden_eq_false hshown
  · intro selector'
    constructor
    · exact Error.message_unsupportedNetwork_inj
    · rintro rfl
      rfl

/-- A selector that goes on like the message does, with an escape and a line end in it. -/
theorem Network.parse_refuses_imitation :
    let selector := "main\" (expected \"main\" or \"test\")\\n\\u\x7b41\x7d\n"
    parse selector = .error (.unsupportedNetwork selector) ∧
    Error.refusedSelector? (Error.unsupportedNetwork selector).message = some selector := by
  intro selector
  have hrefused := parse_refuses (by decide : selector ≠ "main") (by decide : selector ≠ "test")
  exact ⟨hrefused.1, hrefused.2.2.1⟩

example : (Error.unsupportedNetwork "a\"\n\\n").message
    = "unsupported network: \"a\\\"\\n\\\\n\" (expected \"main\" or \"test\")" := by decide +kernel

end TwoOfThree
