-- SUMMARY: Deposit addresses that any two of three cosigners can spend from, named by passphrases.
import TwoOfThree.Bytes.BigEndianLaws
import TwoOfThree.Main
import TwoOfThree.Proofs.Cosigners.FirstFailure
import TwoOfThree.Proofs.Deposit.Basic
import TwoOfThree.Proofs.Deposit.OrderIndependence
import TwoOfThree.Proofs.Batch.Invariant
import TwoOfThree.Proofs.Batch.Result
import TwoOfThree.Proofs.Bech32.Reader
import TwoOfThree.Proofs.Bech32.Checksum
import TwoOfThree.Proofs.Bech32.Regrouping
import TwoOfThree.Proofs.Bech32.RoundTrip
import TwoOfThree.Proofs.Deposit.AddressText
import TwoOfThree.Proofs.Json.Literals
import TwoOfThree.Proofs.Json.Reader
import TwoOfThree.Proofs.Text.Utf8Encoding
import TwoOfThree.Proofs.Batch.Lines
import TwoOfThree.Proofs.Script.Reader
import TwoOfThree.Proofs.CommandLine.Words
import TwoOfThree.Proofs.Report.Reading
import TwoOfThree.Proofs.Settings.Accepted
import TwoOfThree.Proofs.CommandLine.Agreement
import TwoOfThree.Proofs.Deposit.Precedence
import TwoOfThree.Proofs.Deposit.NetworkSeparation
import TwoOfThree.Proofs.Deposit.KeyOrder
import TwoOfThree.Proofs.CommandLine.Items
import TwoOfThree.Proofs.CommandLine.Lines
import TwoOfThree.Proofs.CommandLine.Placement
import TwoOfThree.Proofs.Base58.Radix
import TwoOfThree.Proofs.Base58.Reading
import TwoOfThree.Proofs.CommandLine.TextEntry
import TwoOfThree.Proofs.ExtendedKey.Spelling
import TwoOfThree.Proofs.Text.Utf8Faults
import TwoOfThree.Proofs.Text.Utf8Reading
import TwoOfThree.Proofs.Batch.Encoding
import TwoOfThree.Call
import TwoOfThree.Proofs.Log.Emission
import TwoOfThree.Proofs.Batch.Secrecy
import TwoOfThree.Proofs.CommandLine.Secrecy
import TwoOfThree.Proofs.Descriptor.Reader
import TwoOfThree.Proofs.Deposit.Descriptor
import TwoOfThree.Proofs.ExtendedKey.Descent
import TwoOfThree.Proofs.Deposit.Origin
import TwoOfThree.Proofs.Batch.Progress
import TwoOfThree.Proofs.CommandLine.Failures
import TwoOfThree.Proofs.Curve.FieldPrime
import TwoOfThree.Proofs.Curve.Encoding
import TwoOfThree.Proofs.PublicKey.Stability
import TwoOfThree.Proofs.Deposit.ScriptOrder
import TwoOfThree.Proofs.Report.Telling
import TwoOfThree.Proofs.CommandLine.Readable
import TwoOfThree.Proofs.CommandLine.Concurrency
import TwoOfThree.Proofs.CommandLine.NamedFiles
import TwoOfThree.Proofs.CommandLine.Shadowing
import TwoOfThree.Proofs.Deposit.Record
import TwoOfThree.Proofs.Deposit.ScriptContent
import TwoOfThree.Proofs.Path.Segments
import TwoOfThree.Proofs.Cosigners.Walks
import TwoOfThree.Proofs.Settings.Precedence
import TwoOfThree.Proofs.Settings.Source
import TwoOfThree.Proofs.Batch.LineEnds
import TwoOfThree.Proofs.Batch.Accounts
import TwoOfThree.Proofs.CommandLine.Accounts
import TwoOfThree.Proofs.Path.Text
import TwoOfThree.Proofs.PublicKey.Arrangement
import TwoOfThree.Proofs.Text.Quoted
import TwoOfThree.Proofs.Network.Refusal
import TwoOfThree.Proofs.Json.Recognition
import TwoOfThree.Proofs.Network.Selectors
