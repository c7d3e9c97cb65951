import PageAudit.Main
import PageAudit.Library
import PageAudit.Report.Editing
import PageAudit.Proofs.Dom.Outline
import PageAudit.Proofs.Rule.Inertness
import PageAudit.Proofs.Charset.Refusal
import PageAudit.Proofs.Document.Bytes
import PageAudit.Proofs.Audit.Agreement
import PageAudit.Proofs.Rule.Filled
import PageAudit.Proofs.CommandLine.Entries
import PageAudit.Proofs.Document.Failures
import PageAudit.Proofs.CommandLine.JsonReport
import PageAudit.Proofs.Report.Severity
import PageAudit.Proofs.CommandLine.Status
import PageAudit.Proofs.Report.Grouping
import PageAudit.Proofs.Rule.Order
import PageAudit.Proofs.Json.Grammar
import PageAudit.Proofs.Report.Written
import PageAudit.Proofs.Rule.Blindness
import PageAudit.Proofs.Rule.Growth
import PageAudit.Proofs.CommandLine.Manner
import PageAudit.Proofs.Audit.Encoding
import PageAudit.Proofs.Audit.Progress
import PageAudit.Proofs.Audit.Delay
import PageAudit.Proofs.Audit.Blame
import PageAudit.Proofs.Log.Setups
import PageAudit.Proofs.CommandLine.Output
import PageAudit.Proofs.Dom.Selection
import PageAudit.Proofs.Rule.Blocking
import PageAudit.Proofs.Rule.Headings
import PageAudit.Proofs.Rule.Counting
import PageAudit.Proofs.Rule.Title
import PageAudit.Proofs.Charset.Declaration
import PageAudit.Proofs.Report.Layout
import PageAudit.Proofs.Charset.Replacement
import PageAudit.Proofs.Charset.Ascii
import PageAudit.Proofs.Charset.Window
import PageAudit.Proofs.Dom.Passage
import PageAudit.Proofs.Document.Chain
import PageAudit.Proofs.Report.Acceptance
import PageAudit.Proofs.Charset.Spelling
import PageAudit.Proofs.Report.Views
import PageAudit.Proofs.Number.Duration
import PageAudit.Proofs.Number.Overflow
import PageAudit.Proofs.Number.Reading
import PageAudit.Proofs.Log.Failure
import PageAudit.Proofs.Text.Trimming
