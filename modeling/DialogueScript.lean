import DialogueScript.Codec.Findings
import DialogueScript.Codec.Line
import DialogueScript.Codec.Script
import DialogueScript.Codec.Variables
import DialogueScript.Decimal.Notation
import DialogueScript.Decimal.Shortest
import DialogueScript.Export
import DialogueScript.Flow.Edge
import DialogueScript.Flow.Path
import DialogueScript.Flow.Reach
import DialogueScript.Json.Decoder
import DialogueScript.Json.Fault
import DialogueScript.Json.Numeral
import DialogueScript.Json.Printer
import DialogueScript.Json.Reader
import DialogueScript.Json.Strings
import DialogueScript.Json.Value
import DialogueScript.Script.Assembly
import DialogueScript.Script.Basic
import DialogueScript.Script.Defect
import DialogueScript.Script.Stats
import DialogueScript.Session
import DialogueScript.Source.Builder
import DialogueScript.Source.Fence
import DialogueScript.Source.Line
import DialogueScript.Source.Option
import DialogueScript.Source.Parse
import DialogueScript.Source.Printer
import DialogueScript.Source.Template
import DialogueScript.Text.Basic
import DialogueScript.Text.Blank
import DialogueScript.Text.Lines
import DialogueScript.Text.Order
import DialogueScript.Text.Quoted
import DialogueScript.Text.UnseenRanges
import DialogueScript.Text.Word
import DialogueScript.Text.WordRanges
import DialogueScript.Variable.Assignment
import DialogueScript.Variable.Extract
import DialogueScript.Variable.Kind
import DialogueScript.Variable.Placeholder
import DialogueScript.Variable.Store
import DialogueScript.Proofs.ClosedGraph
import DialogueScript.Proofs.Assembling
import DialogueScript.Proofs.SimplePaths
import DialogueScript.Proofs.Steps
import DialogueScript.Proofs.Sections
import DialogueScript.Proofs.LineBreaks
import DialogueScript.Proofs.OptionGrammar
import DialogueScript.Proofs.OptionSpelling
import DialogueScript.Proofs.LineForms
import DialogueScript.Proofs.WrittenLines
import DialogueScript.Proofs.SourceRoundTrip
import DialogueScript.Proofs.Reachability
import DialogueScript.Proofs.ReachedSearches
import DialogueScript.Proofs.TidyScripts
import DialogueScript.Proofs.Traces
import DialogueScript.Proofs.ErrorLocation
import DialogueScript.Proofs.JsonText
import DialogueScript.Proofs.Decoding
import DialogueScript.Proofs.JsonRoundTrip
import DialogueScript.Proofs.CanonicalScripts
import DialogueScript.Proofs.VariableNames
import DialogueScript.Proofs.Interpolation
import DialogueScript.Proofs.JoinedTexts
import DialogueScript.Proofs.StrayContent
import DialogueScript.Proofs.CodeBlocks
import DialogueScript.Proofs.Encodings
import DialogueScript.Proofs.ReachedBuilders
import DialogueScript.Proofs.CollapsedSpace
import DialogueScript.Proofs.StarterScript
