import Triage.Main
import Triage.Proofs.Filter.Recompilation
import Triage.Proofs.Filter.Selection
import Triage.Proofs.Text.Slice
import Triage.Proofs.Token.Coverage
import Triage.Proofs.Filter.Placement
import Triage.Proofs.Filter.Diagnosis
import Triage.Proofs.Qualifier.Change
import Triage.Proofs.Qualifier.Fulfilment
import Triage.Proofs.Filter.Application
import Triage.Proofs.Filter.Atomicity
import Triage.Proofs.Label.Exclusivity
import Triage.Proofs.Filter.Interruption
import Triage.Proofs.Filter.Spelling
import Triage.Proofs.Filter.Rearrangement
import Triage.Proofs.Filter.Location
import Triage.Proofs.Text.Numeral
import Triage.Proofs.Milestone.Reference
import Triage.Proofs.CommandLine.CurrentMilestone
import Triage.Proofs.Comparison.Operand
import Triage.Proofs.Qualifier.Identifier
import Triage.Proofs.Filter.Composition
import Triage.Proofs.Filter.BoundedWork
import Triage.Proofs.Calendar.Written
import Triage.Proofs.Snapshot.Field
import Triage.Proofs.Snapshot.RoundTrip
import Triage.Proofs.Milestone.Resolution
import Triage.Proofs.Qualifier.Application
import Triage.Proofs.Text.Lowering
import Triage.Proofs.Label.Rivalry
import Triage.Proofs.Qualifier.Search
import Triage.Proofs.Filter.Viability
import Triage.Proofs.Filter.LeadingKey
import Triage.Proofs.Filter.Footprint
import Triage.Proofs.Filter.Repetition
import Triage.Proofs.Qualifier.Range
import Triage.Proofs.Qualifier.Age
import Triage.Proofs.Report.Labelling
import Triage.Proofs.Filter.FaultyToken
import Triage.Proofs.CommandLine.ResultLine
import Triage.Proofs.SortKey.Listing
import Triage.Proofs.Comparison.Written
import Triage.Proofs.Token.Fault
import Triage.Proofs.Filter.StreamShape
import Triage.Proofs.Token.BareWord
