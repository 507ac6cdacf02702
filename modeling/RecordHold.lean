import RecordHold.Config.File
import RecordHold.Hold
import RecordHold.Pattern.Syntax
import RecordHold.Proofs.BinaryForms
import RecordHold.Proofs.Building
import RecordHold.Proofs.ChangingBuckets
import RecordHold.Proofs.ConfigText
import RecordHold.Proofs.ExactOrder
import RecordHold.Proofs.FullScans
import RecordHold.Proofs.Gathering
import RecordHold.Proofs.IndexScans
import RecordHold.Proofs.Isolation
import RecordHold.Proofs.JsonForms
import RecordHold.Proofs.KeyCriteria
import RecordHold.Proofs.Neighbours
import RecordHold.Proofs.Portions
import RecordHold.Proofs.Pulling
import RecordHold.Proofs.RangeScans
import RecordHold.Proofs.Readers
import RecordHold.Proofs.Refining
import RecordHold.Proofs.Sessions
import RecordHold.Proofs.SetHistories
import RecordHold.Proofs.StoredFloats
import RecordHold.Query.Build
import RecordHold.Sample.People
import RecordHold.Sample.Predicate
import RecordHold.Sample.Records
import RecordHold.SlowQuery
import RecordHold.Store.Transactions
