import DeliveryAudit.Main
import DeliveryAudit.Proofs.Delivery.Layout
import DeliveryAudit.Proofs.Destination.Cursor
import DeliveryAudit.Proofs.Destination.Listing
import DeliveryAudit.Proofs.Retry.Transparency
import DeliveryAudit.Proofs.Tally.Operations
import DeliveryAudit.Proofs.Destination.Handles
import DeliveryAudit.Proofs.Delivery.RoundTrip
import DeliveryAudit.Proofs.CommandLine.Operands
import DeliveryAudit.Proofs.Destination.Ending
import DeliveryAudit.Proofs.Report.Figures
import DeliveryAudit.Proofs.Run.Completion
import DeliveryAudit.Proofs.CommandLine.Reporting
import DeliveryAudit.Proofs.Destination.Pieces
import DeliveryAudit.Proofs.Delivery.Defects
import DeliveryAudit.Proofs.Delivery.Malformed
import DeliveryAudit.Proofs.Roster.Counters
import DeliveryAudit.Proofs.Roster.Range
import DeliveryAudit.Proofs.Tally.Loss
import DeliveryAudit.Proofs.Tally.CrossTalk
import DeliveryAudit.Proofs.Tally.Accounting
import DeliveryAudit.Proofs.Number.Range
import DeliveryAudit.Proofs.Settings.Totality
import DeliveryAudit.Proofs.CommandLine.Guards
import DeliveryAudit.Proofs.Envelope.Acceptance
import DeliveryAudit.Proofs.Settings.Precedence
import DeliveryAudit.Proofs.Retry.Attempts
import DeliveryAudit.Proofs.Retry.Limits
import DeliveryAudit.Proofs.Audit.Interruption
import DeliveryAudit.Proofs.Delivery.Framing
import DeliveryAudit.Proofs.Settings.Fractions
import DeliveryAudit.Proofs.Report.Reading
import DeliveryAudit.Proofs.CommandLine.Refusals
import DeliveryAudit.Proofs.Settings.Shapes
import DeliveryAudit.Proofs.CommandLine.Files
import DeliveryAudit.Proofs.Audit.Remarks
