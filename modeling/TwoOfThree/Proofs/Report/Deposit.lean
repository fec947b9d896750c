-- SUMMARY: What the object of a deposit shows: its path, and its keys twice over.
import TwoOfThree.Proofs.Deposit.Basic
import TwoOfThree.Proofs.Script.Reader
import TwoOfThree.Report

/-!
# The object of a deposit

The object shows the path as it is printed by itself. The sorted keys stand in it
twice, as text in the descriptor and as pushes in the witness script, and both
times in the same order.
-/

namespace TwoOfThree

namespace Report

theorem keyLines_eq (keys : List PublicKey) :
    keyLines keys = (keys.map PublicKey.bytes).mapIdx fun position key =>
      s!"{position} {Hex.encode key}" := by
  apply List.ext_getElem?
  intro i
  rw [keyLines, List.getElem?_mapIdx, List.getElem?_mapIdx, List.getElem?_map, Option.map_map]
  rfl

/-- The descriptor and the witness script of an object are those of these keys, in this order. -/
structure ShowsKeys (object : JsonObject) (keys : List Bytes) : Prop where
  descriptor : object.lookup "descriptor"
    = some ("wsh(sortedmulti(2," ++ ",".intercalate (keys.map Hex.encode) ++ "))")
  witnessScript : ∃ text script, object.lookup "witness_script" = some text ∧
    Hex.decode text = some script ∧
    Script.read script = some (.number 2 :: keys.map .push ++ [.number 3, .checkMultisig])

theorem read_multisigScript {keys : List PublicKey} (hcount : keys.length = 3) :
    Script.read (multisigScript keys) = some (.number 2 :: (keys.map PublicKey.bytes).map .push
      ++ [.number 3, .checkMultisig]) := by
  have hlength : (keys.map PublicKey.bytes).length = 3 := by rw [List.length_map, hcount]
  rw [multisigScript_eq, hlength]
  apply Script.read_encode
  intro instruction hmem
  rw [List.mem_append, List.mem_cons, List.map_map, List.mem_map] at hmem
  rcases hmem with (rfl | ⟨key, hkey, rfl⟩) | hmem
  · exact ⟨by decide, by decide⟩
  · show 1 ≤ key.bytes.length ∧ key.bytes.length ≤ Script.pushLimit
    rcases PublicKey.length_bytes key with hlong | hshort
    · rw [hlong]
      decide
    · rw [hshort]
      decide
  · rw [List.mem_cons, List.mem_singleton] at hmem
    rcases hmem with rfl | rfl
    · exact ⟨by decide, by decide⟩
    · trivial

theorem showsKeys_depositObject (passphrase : String) (path : Path) (network : Network)
    {keys : List PublicKey} (hcount : keys.length = 3) :
    ShowsKeys (depositObject passphrase (Deposit.ofPublicKeys path network keys))
      ((PublicKey.sort keys).map PublicKey.bytes) where
  descriptor := by
    have hhex : ((PublicKey.sort keys).map PublicKey.bytes).map Hex.encode
        = (PublicKey.sort keys).map PublicKey.hex := by
      rw [List.map_map]
      rfl
    rw [hhex]
    rfl
  witnessScript := by
    have hsorted : (PublicKey.sort keys).length = 3 := by rw [PublicKey.length_sort, hcount]
    exact ⟨_, _, rfl, Hex.decode_encode _, read_multisigScript hsorted⟩

end Report

theorem Deposit.IsCoherent.read_witnessScript {deposit : Deposit} (h : deposit.IsCoherent) :
    Script.read deposit.witnessScript
      = some (.number 2 :: (deposit.publicKeys.map PublicKey.bytes).map .push ++
        [.number 3, .checkMultisig]) := by
  rw [h.witnessScript]
  exact Report.read_multisigScript h.count

end TwoOfThree
