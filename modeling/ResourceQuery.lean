import ResourceQuery.Counting
import ResourceQuery.Pipeline
import ResourceQuery.Proofs.Asked
import ResourceQuery.Proofs.Reading
import ResourceQuery.Proofs.AllowList
import ResourceQuery.Proofs.ConditionShape
import ResourceQuery.Proofs.Satisfaction
import ResourceQuery.Proofs.Retention
import ResourceQuery.Proofs.Inert
import ResourceQuery.Proofs.PlainPattern
import ResourceQuery.Proofs.SearchFields
import ResourceQuery.Proofs.FieldFlow
import ResourceQuery.Proofs.Breakdown
import ResourceQuery.Proofs.Refusal
import ResourceQuery.Proofs.FieldByField
import ResourceQuery.Proofs.LengthStages
import ResourceQuery.Proofs.Pages
import ResourceQuery.Proofs.Rearrangement
import ResourceQuery.Proofs.SwitchedOff
import ResourceQuery.Proofs.Caps
import ResourceQuery.Proofs.Executions
import ResourceQuery.Proofs.PageBounds
import ResourceQuery.Proofs.PageEnvelope
import ResourceQuery.Proofs.PossessivePatterns
import ResourceQuery.Proofs.ComparedValues
import ResourceQuery.Proofs.RequestedOrder
import ResourceQuery.Proofs.ListOperands
import ResourceQuery.Proofs.LengthBounds
import ResourceQuery.Proofs.CalendarDays
import ResourceQuery.Proofs.Identifiers
import ResourceQuery.Proofs.Numerals
import ResourceQuery.Proofs.Timestamps
import ResourceQuery.Proofs.LiteralForm
import ResourceQuery.Proofs.LiteralValues
import ResourceQuery.Proofs.ExactNumbers
import ResourceQuery.Proofs.KeptEquality
import ResourceQuery.Proofs.KeySplits
import ResourceQuery.Proofs.SettingOwners
import ResourceQuery.Proofs.RequestedProjection
import ResourceQuery.Proofs.Enumerations
import ResourceQuery.Proofs.Dispatch
