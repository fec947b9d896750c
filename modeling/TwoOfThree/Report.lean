-- SUMMARY: What is printed of paths, deposits, keys and batches.
import TwoOfThree.Batch
import TwoOfThree.Json.Object
import TwoOfThree.Json.Selector

/-!
# Reports

A report is a list of lines. A deposit is reported by its address alone or as an
object with all that was worked out; a batch is reported by one object for each
passphrase, with its address or with the message of its error.
-/

namespace TwoOfThree.Report

/-- Lines as one text, each with its line end. -/
def text (lines : List String) : String :=
  String.join (lines.map fun line => line ++ "\n")

/-- A deposit and its passphrase as an object. -/
def depositObject (passphrase : String) (deposit : Deposit) : JsonObject := [
  ("passphrase", passphrase),
  ("path", Path.render deposit.path),
  ("address", deposit.address.render),
  ("script_type", scriptType),
  ("witness_script", deposit.witnessScriptHex),
  ("descriptor", deposit.descriptor),
  ("network", deposit.network.selector)]

/-- The object of a passphrase of a batch, with the members that there are. -/
def batchObject (passphrase : String) (address error : Option String) : JsonObject :=
  ("passphrase", passphrase) ::
    ((address.map fun text => ("address", text)).toList ++
      (error.map fun text => ("error", text)).toList)

def entryObject (entry : Batch.Entry) : JsonObject :=
  match entry.result with
  | .ok address => batchObject entry.passphrase (some address.render) none
  | .error error => batchObject entry.passphrase none (some error.message)

/-- The public keys of the cosigners, each behind its position. -/
def keyLines (keys : List PublicKey) : List String :=
  keys.mapIdx fun position key => s!"{position} {key.hex}"

end TwoOfThree.Report
