import LinksBinding.Analysis
import LinksBinding.BindingIndex
import LinksBinding.Checks
import LinksBinding.CommandLine.Arguments
import LinksBinding.CommandLine.Files
import LinksBinding.CommandLine.Run
import LinksBinding.CommandLine.Setting
import LinksBinding.Coordinate
import LinksBinding.Diagnostic
import LinksBinding.Highlight.Classification
import LinksBinding.Highlight.Classify
import LinksBinding.Highlight.Narrow
import LinksBinding.Highlight.Tokens
import LinksBinding.Hover
import LinksBinding.Identifier
import LinksBinding.Interpreter
import LinksBinding.Json.Basic
import LinksBinding.Json.Place
import LinksBinding.Json.Printer
import LinksBinding.Json.Reader
import LinksBinding.Json.Record
import LinksBinding.Library
import LinksBinding.LogFormat
import LinksBinding.Message
import LinksBinding.NameRange
import LinksBinding.Navigation
import LinksBinding.Options
import LinksBinding.Outline
import LinksBinding.ParserSpan
import LinksBinding.Position
import LinksBinding.Rename
import LinksBinding.Report
import LinksBinding.Runs
import LinksBinding.RuntimeReport
import LinksBinding.Sample
import LinksBinding.Scope
import LinksBinding.SourceView
import LinksBinding.Store
import LinksBinding.Syntax.Kind
import LinksBinding.Syntax.Label
import LinksBinding.Syntax.Layout
import LinksBinding.Syntax.Raw
import LinksBinding.Syntax.Repair
import LinksBinding.Syntax.Tree
import LinksBinding.Syntax.TreeError
import LinksBinding.Table
import LinksBinding.Traffic
import LinksBinding.Text.CharClass
import LinksBinding.Text.CharTable
import LinksBinding.Text.Columns
import LinksBinding.Text.Decimal
import LinksBinding.Text.Lines
import LinksBinding.Text.Numeral
import LinksBinding.Text.Search
import LinksBinding.Text.Trim
import LinksBinding.Text.Utf8
import LinksBinding.Main
import LinksBinding.Proofs.Ancestry
import LinksBinding.Proofs.Agreement
import LinksBinding.Proofs.Traversal
import LinksBinding.Proofs.Layout
import LinksBinding.Proofs.Repair
import LinksBinding.Proofs.Resolution
import LinksBinding.Proofs.Splitting
import LinksBinding.Proofs.Lexical
import LinksBinding.Proofs.Index
import LinksBinding.Proofs.Coherence
import LinksBinding.Proofs.ArgumentCount
import LinksBinding.Proofs.Renaming
import LinksBinding.Proofs.Extension
import LinksBinding.Proofs.Transparency
import LinksBinding.Proofs.Visibility
import LinksBinding.Proofs.Interleaving
import LinksBinding.Proofs.Confluence
import LinksBinding.Proofs.Encoding
import LinksBinding.Proofs.FirstFault
import LinksBinding.Proofs.Refusal
import LinksBinding.Proofs.LaterBinders
import LinksBinding.Proofs.Grouping
import LinksBinding.Proofs.RangeOrder
import LinksBinding.Proofs.Findings
import LinksBinding.Proofs.Silencing
import LinksBinding.Proofs.Navigation
import LinksBinding.Proofs.Words
import LinksBinding.Proofs.Coverage
import LinksBinding.Proofs.Editing
import LinksBinding.Proofs.Tokens
import LinksBinding.Proofs.Renamable
import LinksBinding.Proofs.Correspondence
import LinksBinding.Proofs.Lines
import LinksBinding.Proofs.Expansion
import LinksBinding.Proofs.Outline
import LinksBinding.Proofs.Tiling
import LinksBinding.Proofs.Narrowing
import LinksBinding.Proofs.Pieces
import LinksBinding.Proofs.Offsets
import LinksBinding.Proofs.NameEdges
import LinksBinding.Proofs.Callees
import LinksBinding.Proofs.Reencoding
import LinksBinding.Proofs.Locating
import LinksBinding.Proofs.Underlining
import LinksBinding.Proofs.ShownLine
import LinksBinding.Proofs.PlainRepair
import LinksBinding.Proofs.LineStarts
import LinksBinding.Proofs.Room
import LinksBinding.Proofs.PublishedRanges
import LinksBinding.Proofs.ScopeScan
import LinksBinding.Proofs.Boundaries
import LinksBinding.Proofs.WordSearch
