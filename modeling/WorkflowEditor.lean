import WorkflowEditor.Command.Report
import WorkflowEditor.Command.Run
import WorkflowEditor.CommandLine.Grammar
import WorkflowEditor.CommandLine.Invocation
import WorkflowEditor.CommandLine.Stop
import WorkflowEditor.CommandLine.Usage
import WorkflowEditor.Config
import WorkflowEditor.Decimal.Double
import WorkflowEditor.Decimal.Layout
import WorkflowEditor.Decimal.Shortest
import WorkflowEditor.Decode.Decoder
import WorkflowEditor.Decode.Error
import WorkflowEditor.Document
import WorkflowEditor.Editor.Header
import WorkflowEditor.Editor.Parameter
import WorkflowEditor.Editor.State
import WorkflowEditor.FieldPath.Basic
import WorkflowEditor.FieldPath.Codec
import WorkflowEditor.FieldPath.Order
import WorkflowEditor.FieldPath.Pointer
import WorkflowEditor.Issue.Basic
import WorkflowEditor.Json.Basic
import WorkflowEditor.Json.Parser
import WorkflowEditor.Json.Printer
import WorkflowEditor.Json.Reader
import WorkflowEditor.Json.SyntaxError
import WorkflowEditor.Log.Entry
import WorkflowEditor.Log.Filter
import WorkflowEditor.Main
import WorkflowEditor.Parameter.Basic
import WorkflowEditor.Parameter.Check
import WorkflowEditor.Parameter.Codec
import WorkflowEditor.Program
import WorkflowEditor.Schema.Basic
import WorkflowEditor.Schema.Workflow
import WorkflowEditor.Text.Blank
import WorkflowEditor.Text.Printable
import WorkflowEditor.Text.Quoted
import WorkflowEditor.Text.Similarity
import WorkflowEditor.Text.Size
import WorkflowEditor.Workflow.Basic
import WorkflowEditor.Workflow.Document
import WorkflowEditor.Workflow.File
import WorkflowEditor.Workflow.FileFormat
import WorkflowEditor.Workflow.ProxyLocation
import WorkflowEditor.Workflow.Settings
import WorkflowEditor.Yaml.Document
import WorkflowEditor.Yaml.Event
import WorkflowEditor.Yaml.Failure
import WorkflowEditor.Yaml.Scalar
import WorkflowEditor.Yaml.Scan
import WorkflowEditor.Yaml.Token
import WorkflowEditor.Yaml.Token.Scalar
import WorkflowEditor.Yaml.Token.Stream
import WorkflowEditor.Yaml.Tree
import WorkflowEditor.Proofs.Issue.Order
import WorkflowEditor.Proofs.Parameter.Order
import WorkflowEditor.Proofs.Parameter.Report
import WorkflowEditor.Proofs.Workflow.Phases
import WorkflowEditor.Proofs.Decode.Value
import WorkflowEditor.Proofs.Decode.Record
import WorkflowEditor.Proofs.Parameter.Shape
import WorkflowEditor.Proofs.Schema.Conformance
import WorkflowEditor.Proofs.Workflow.Gate
import WorkflowEditor.Proofs.Workflow.Shape
import WorkflowEditor.Proofs.FieldPath.Pointer
import WorkflowEditor.Proofs.Schema.Report
import WorkflowEditor.Proofs.Editor.View
import WorkflowEditor.Proofs.Workflow.File
import WorkflowEditor.Proofs.Command.Agreement
import WorkflowEditor.Proofs.Decode.Written
import WorkflowEditor.Proofs.Issue.Stable
import WorkflowEditor.Proofs.Parameter.Written
import WorkflowEditor.Proofs.Workflow.Written
import WorkflowEditor.Proofs.Editor.Hidden
import WorkflowEditor.Proofs.Command.Credential
import WorkflowEditor.Proofs.Decimal.Digits
import WorkflowEditor.Proofs.FieldPath.RoundTrip
import WorkflowEditor.Proofs.Text.Mention
import WorkflowEditor.Proofs.Yaml.Reference
import WorkflowEditor.Proofs.Text.Lines
import WorkflowEditor.Proofs.Json.OneLine
import WorkflowEditor.Proofs.Issue.OneLine
import WorkflowEditor.Proofs.Command.Records
import WorkflowEditor.Proofs.Decimal.Canonical
import WorkflowEditor.Proofs.Decimal.Interval
import WorkflowEditor.Proofs.Decimal.Shortest
import WorkflowEditor.Proofs.Decimal.Text
import WorkflowEditor.Proofs.Json.Overwriting
import WorkflowEditor.Proofs.Yaml.Sound
import WorkflowEditor.Proofs.Yaml.KeyNames
import WorkflowEditor.Proofs.Yaml.Kept
import WorkflowEditor.Proofs.Parameter.Reordered
import WorkflowEditor.Proofs.Editor.Written
import WorkflowEditor.Proofs.Json.Blank
import WorkflowEditor.Proofs.Command.Protection
import WorkflowEditor.Proofs.Workflow.Places
import WorkflowEditor.Proofs.FieldPath.Render
import WorkflowEditor.Proofs.CommandLine.Reading
import WorkflowEditor.Proofs.CommandLine.Silent
import WorkflowEditor.Proofs.CommandLine.Verbosity
