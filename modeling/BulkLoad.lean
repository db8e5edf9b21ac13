import BulkLoad.Files.Tree
import BulkLoad.Main
import BulkLoad.Scripted
import BulkLoad.Proofs.Payload.Escape
import BulkLoad.Proofs.Payload.Literal
import BulkLoad.Proofs.Batch.Content
import BulkLoad.Proofs.Payload.RoundTrip
import BulkLoad.Proofs.Batch.Partition
import BulkLoad.Proofs.Database.Client
import BulkLoad.Proofs.Database.Records
import BulkLoad.Proofs.Insert.Durable
import BulkLoad.Proofs.Insert.Rejection
import BulkLoad.Proofs.Database.Gather
import BulkLoad.Proofs.Insert.Ledger
import BulkLoad.Proofs.Insert.Threshold
import BulkLoad.Proofs.Calendar.ReadBack
import BulkLoad.Proofs.Database.Invariant
import BulkLoad.Proofs.Payload.Decode
import BulkLoad.Proofs.Database.Visible
import BulkLoad.Proofs.Database.Admitted
import BulkLoad.Proofs.Insert.Lossless
import BulkLoad.Proofs.Database.Elsewhere
import BulkLoad.Proofs.Database.Uniqueness
import BulkLoad.Proofs.Database.References
import BulkLoad.Proofs.Insert.Shared
import BulkLoad.Proofs.Insert.LongTransaction
import BulkLoad.Proofs.Insert.Autocommit
import BulkLoad.Proofs.Database.Declared
import BulkLoad.Proofs.Writer.Handoff
import BulkLoad.Proofs.Database.KeyColumn
import BulkLoad.Proofs.Database.Answers
import BulkLoad.Proofs.Database.Redo
import BulkLoad.Proofs.Database.Transactions
import BulkLoad.Proofs.Database.Serial
import BulkLoad.Proofs.Database.Alike
import BulkLoad.Proofs.Database.Uncommitted
import BulkLoad.Proofs.Database.Immediate
import BulkLoad.Proofs.Policy.Calls
import BulkLoad.Proofs.Policy.Rollback
import BulkLoad.Threads
import BulkLoad.Proofs.Insert.InStep
import BulkLoad.Proofs.Writer.Threads
import BulkLoad.Proofs.Insert.CallOrder
import BulkLoad.Proofs.Number.Decimal
import BulkLoad.Proofs.Policy.Settling
import BulkLoad.Proofs.Command.Load
import BulkLoad.Proofs.Database.Statement
import BulkLoad.Proofs.Batch.History
import BulkLoad.Proofs.Insert.Handed
import BulkLoad.Proofs.Database.DecimalKey
import BulkLoad.Proofs.Json.Decimal
import BulkLoad.Proofs.Writer.Progress
import BulkLoad.Proofs.Payload.Concatenation
import BulkLoad.Proofs.Log.Filter
