import SortableId.Identifier.Json
import SortableId.Main
import SortableId.Options.Json
import SortableId.Proofs.BlindSpot
import SortableId.Proofs.Buckets
import SortableId.Proofs.Demonstration
import SortableId.Proofs.Distance
import SortableId.Proofs.Failures
import SortableId.Proofs.Inspections
import SortableId.Proofs.Orders
import SortableId.Proofs.Records
import SortableId.Proofs.Refusals
import SortableId.Proofs.Stamps
import SortableId.Proofs.Tampering
import SortableId.Proofs.Typing
import SortableId.Proofs.Uniformity
import SortableId.Proofs.Verdicts
import SortableId.Proofs.KindOrder
import SortableId.Identifier.Bytes
import SortableId.Payload.Accumulator
import SortableId.Proofs.ByteLayout
import SortableId.Proofs.Counting
import SortableId.Proofs.Regrouping
import SortableId.Proofs.Shards
import SortableId.Payload.Lookup
import SortableId.Proofs.Culprits
import SortableId.Proofs.RandomField
import SortableId.Proofs.Diagnoses
import SortableId.Proofs.Superposition
