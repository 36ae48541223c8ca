import Remit.Address
import Remit.Amount.Basic
import Remit.Amount.Decimal
import Remit.Amount.Machine
import Remit.Bytes.Base64
import Remit.Bytes.Sha256
import Remit.Bytes.Utf8
import Remit.Command.Arguments
import Remit.Command.Failure
import Remit.Command.Files
import Remit.Command.FlagError
import Remit.Command.Operator
import Remit.Command.Order
import Remit.Command.Program
import Remit.Command.Report
import Remit.Command.Session
import Remit.Composition.Basic
import Remit.Composition.InPlace
import Remit.Composition.Outcome
import Remit.Composition.View
import Remit.Composition.Warning
import Remit.Config
import Remit.Csv
import Remit.Draft
import Remit.Engine.Call
import Remit.Engine.Error
import Remit.Engine.Rehearsal
import Remit.Fault
import Remit.Fee
import Remit.Flow.Basic
import Remit.Flow.Driver
import Remit.Flow.Stage
import Remit.Import.Csv
import Remit.Import.Error
import Remit.Import.Json
import Remit.Import.Row
import Remit.Json.Number
import Remit.Json.Record
import Remit.Json.Token
import Remit.Json.Tree
import Remit.Json.Value
import Remit.Main
import Remit.Memo
import Remit.Network
import Remit.Payment
import Remit.Problems
import Remit.Proofs.Address.Grammar
import Remit.Proofs.Address.Refusal
import Remit.Proofs.Amount.Exactness
import Remit.Proofs.Amount.Flooring
import Remit.Proofs.Amount.Machine
import Remit.Proofs.Amount.Reading
import Remit.Proofs.Amount.Sum
import Remit.Proofs.Amount.Writing
import Remit.Proofs.Bytes.Base64
import Remit.Proofs.Bytes.Utf8
import Remit.Proofs.Command.Agreement
import Remit.Proofs.Command.Composing
import Remit.Proofs.Command.Rendering
import Remit.Proofs.Composition.Addressing
import Remit.Proofs.Composition.Determinacy
import Remit.Proofs.Composition.Diagnosis
import Remit.Proofs.Composition.History
import Remit.Proofs.Composition.InPlace
import Remit.Proofs.Composition.Most
import Remit.Proofs.Composition.Notices
import Remit.Proofs.Composition.Omission
import Remit.Proofs.Composition.Rearrangement
import Remit.Proofs.Composition.Removal
import Remit.Proofs.Composition.Repeats
import Remit.Proofs.Composition.Totals
import Remit.Proofs.Composition.Validity
import Remit.Proofs.Driver.Course
import Remit.Proofs.Driver.Loss
import Remit.Proofs.Driver.Order
import Remit.Proofs.Driver.Refinement
import Remit.Proofs.Driver.Schedule
import Remit.Proofs.Except
import Remit.Proofs.Fee.Bounds
import Remit.Proofs.Fee.Formula
import Remit.Proofs.Flow.Account
import Remit.Proofs.Flow.Accounted
import Remit.Proofs.Flow.Atomicity
import Remit.Proofs.Flow.Coherence
import Remit.Proofs.Flow.Composing
import Remit.Proofs.Flow.Conclusion
import Remit.Proofs.Flow.Confirming
import Remit.Proofs.Flow.Endings
import Remit.Proofs.Flow.Funding
import Remit.Proofs.Flow.Landmarks
import Remit.Proofs.Flow.Paying
import Remit.Proofs.Flow.Publishing
import Remit.Proofs.Flow.Refreshing
import Remit.Proofs.Flow.Replay
import Remit.Proofs.Flow.Run
import Remit.Proofs.Flow.Sending
import Remit.Proofs.Flow.Signing
import Remit.Proofs.Flow.Stages
import Remit.Proofs.Flow.Staleness
import Remit.Proofs.Flow.Watching
import Remit.Proofs.Import.Columns
import Remit.Proofs.Import.Formula
import Remit.Proofs.Import.Location
import Remit.Proofs.Import.Reading
import Remit.Proofs.Json.Fields
import Remit.Proofs.Payment.CanonicalText
import Remit.Proofs.Payment.Sameness
import Remit.Proofs.Recipient.Validity
import Remit.Proofs.Scope.Choice
import Remit.Proofs.Scope.Coverage
import Remit.Proofs.Scope.Origin
import Remit.Proofs.Scope.Text
import Remit.Proofs.Scope.Toggling
import Remit.Proofs.Text.Digits
import Remit.Proofs.Text.Separated
import Remit.Proofs.Text.Signed
import Remit.Proofs.Wallet.Fewest
import Remit.Proofs.Wallet.Selection
import Remit.Recipient
import Remit.Scope.Basic
import Remit.Scope.IdSet
import Remit.Scope.Text
import Remit.SendError
import Remit.Shortfall
import Remit.Stored.Money
import Remit.Stored.Payment
import Remit.Stored.View
import Remit.Table
import Remit.Taxonomy
import Remit.Text.Blank
import Remit.Text.Numeral
import Remit.Text.Search
import Remit.Text.Width.Basic
import Remit.Text.Width.Ligature
import Remit.Text.Width.Picture
import Remit.Text.Width.Ranges
import Remit.Time
import Remit.Wallet.Basic
import Remit.Wallet.Error
import Remit.Wallet.Offline
