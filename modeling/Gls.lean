import Gls.Casing
import Gls.Catalog
import Gls.Cli.Arguments
import Gls.Cli.Batch
import Gls.Cli.Config
import Gls.Cli.Failure
import Gls.Cli.Files
import Gls.Cli.Log
import Gls.Cli.Path
import Gls.Cli.Report
import Gls.Cli.Run
import Gls.Command
import Gls.Document
import Gls.Fragment
import Gls.Indent
import Gls.Json.Basic
import Gls.Json.Decode
import Gls.Json.Lexer
import Gls.Json.Parser
import Gls.Json.Printer
import Gls.Main
import Gls.Options
import Gls.OrderedMap
import Gls.Program
import Gls.Program.Codec
import Gls.Text.Blank
import Gls.Text.CaseRuns
import Gls.Text.Comment
import Gls.Text.CommentBytes
import Gls.Text.Letter
import Gls.Text.LetterRuns
import Gls.Text.LineMap
import Gls.Text.Quoted
import Gls.Text.Span
import Gls.Text.Split
import Gls.Text.Utf8
import Gls.Transform
import Gls.Traversal.Basic
import Gls.Traversal.Declaration
import Gls.Traversal.Expression
import Gls.Traversal.Route
import Gls.Traversal.Statement
import Gls.Traversal.Value
import Gls.Tree.Arena
import Gls.Tree.Builder
import Gls.Tree.Codec
import Gls.Tree.Flags
import Gls.Tree.Kind
import Gls.Tree.Node
import Gls.TypeName.Raw
import Gls.TypeName.Resolve
import Gls.TypeName.Returns
import Gls.Types.Codec
import Gls.Types.Table
import Gls.Usage
import Gls.Proofs.Document.RoundTrip
import Gls.Proofs.Json.Decode
import Gls.Proofs.Json.Escape
import Gls.Proofs.Json.Reading
import Gls.Proofs.Layout.Blocks
import Gls.Proofs.Layout.Comments
import Gls.Proofs.Layout.Fragments
import Gls.Proofs.Layout.Rendered
import Gls.Proofs.Layout.RunningDepth
import Gls.Proofs.Text.CommentBody
import Gls.Proofs.Text.CommentBytes
import Gls.Proofs.Text.CommentGaps
import Gls.Proofs.Text.Comments
import Gls.Proofs.Text.SourcePieces
import Gls.Proofs.Text.Unbroken
import Gls.Proofs.Tree.Codec
import Gls.Proofs.Tree.Flags
import Gls.Proofs.Tree.Parents
import Gls.Proofs.Tree.Renumber
import Gls.Proofs.Tree.Shape
import Gls.Proofs.TypeName.Built
import Gls.Proofs.TypeName.Renumber
import Gls.Proofs.Types.Codec
import Gls.Proofs.Usage.Writes
import Gls.Proofs.Visit.Complaints
import Gls.Proofs.Visit.Footprint
import Gls.Proofs.Visit.History
import Gls.Proofs.Visit.LoopVariable
import Gls.Proofs.Visit.Loops
import Gls.Proofs.Visit.Mirrors
import Gls.Proofs.Visit.Parts
import Gls.Proofs.Visit.Plan
import Gls.Proofs.Visit.Progress
import Gls.Proofs.Visit.Renumber
import Gls.Proofs.Visit.Rules
import Gls.Proofs.Visit.Silence
import Gls.Proofs.Visit.WellFormed
import Gls.Proofs.Vocabulary.Arity
import Gls.Proofs.Vocabulary.Conformance
import Gls.Proofs.Layout.Classes
import Gls.Proofs.Output.Location
import Gls.Proofs.Output.Written
import Gls.Proofs.TypeName.Grammar
import Gls.Proofs.Text.Requoted
import Gls.Proofs.Text.LiteralValue
import Gls.Proofs.TypeName.Depth
import Gls.Proofs.TypeName.WellFormed
import Gls.Proofs.TypeName.Unambiguous
import Gls.Proofs.TypeName.Nesting
import Gls.Proofs.TypeName.Notations
import Gls.Proofs.TypeName.AnnotationTree
import Gls.Proofs.Visit.Chains
import Gls.Proofs.Text.Lines
import Gls.Proofs.Output.Reports
import Gls.Proofs.Casing.Words
import Gls.Proofs.Casing.Rejoined
import Gls.Proofs.Tree.Preorder
import Gls.Proofs.Usage.Partition
import Gls.Proofs.Tree.Ways
import Gls.Proofs.TypeName.OwnReturns
import Gls.Proofs.TypeName.Agreement
import Gls.Proofs.Tree.Ancestors
import Gls.Proofs.Tree.Linked
import Gls.Proofs.Tree.BottomUp
import Gls.Proofs.Visit.Inherited
import Gls.Proofs.Visit.Refused
import Gls.Proofs.Output.Climbing
import Gls.Proofs.Layout.Flattened
import Gls.Proofs.Tree.BuiltSpans
import Gls.Proofs.Output.CountedFromOne
