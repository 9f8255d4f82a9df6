import MetricAudit.Main
import MetricAudit.Metric.Divisor
import MetricAudit.Rendering.Color
import MetricAudit.Text.ControlSequence
import MetricAudit.Text.LowerCase
import MetricAudit.Proofs.Threshold.Reading
import MetricAudit.Proofs.Threshold.Check
import MetricAudit.Proofs.Threshold.RoundTrip
import MetricAudit.Proofs.Threshold.Magnitude
import MetricAudit.Proofs.Threshold.Identity
import MetricAudit.Proofs.Threshold.Case
import MetricAudit.Proofs.Threshold.Zero
import MetricAudit.Proofs.Metric.Results
import MetricAudit.Proofs.Metric.Declaration
import MetricAudit.Proofs.Metric.Fixed
import MetricAudit.Proofs.Metric.Derived
import MetricAudit.Proofs.Metric.Case
import MetricAudit.Proofs.Metric.Blanks
import MetricAudit.Proofs.Metric.Settings
import MetricAudit.Proofs.Metric.Agreement
import MetricAudit.Proofs.Metric.Divisor
import MetricAudit.Proofs.Metric.Inference
import MetricAudit.Proofs.Metric.Outline
import MetricAudit.Proofs.Metric.Symbol
import MetricAudit.Proofs.Metric.Note
import MetricAudit.Proofs.Formula.Tokens
import MetricAudit.Proofs.Formula.Spacing
import MetricAudit.Proofs.Formula.Division
import MetricAudit.Proofs.Formula.Denominators
import MetricAudit.Proofs.Formula.Search
import MetricAudit.Proofs.Formula.Leftmost
import MetricAudit.Proofs.Formula.Check
import MetricAudit.Proofs.Formula.Arithmetic
import MetricAudit.Proofs.Rendering.Human
import MetricAudit.Proofs.Rendering.Markup
import MetricAudit.Proofs.Document.Load
import MetricAudit.Proofs.Document.Shape
import MetricAudit.Proofs.Document.Metrics
import MetricAudit.Proofs.Project
import MetricAudit.Proofs.Settings
import MetricAudit.Proofs.Command.Check
import MetricAudit.Proofs.Command.Inspect
import MetricAudit.Proofs.Number.Shown
import MetricAudit.Proofs.Json.Grammar
import MetricAudit.Proofs.Json.Printer
import MetricAudit.Proofs.Rendering.Payload
