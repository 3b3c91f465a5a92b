import Outline.Text.Ranges
import Outline.Text.Blank
import Outline.Text.Digits
import Outline.Text.Printable
import Outline.Text.Quoted
import Outline.Text.Casing.Table
import Outline.Text.Casing
import Outline.Text.Encoding.Fault
import Outline.Text.Utf8
import Outline.Text.Utf16
import Outline.Text.Encoding
import Outline.Text.Breaks
import Outline.Text.Sequence
import Outline.Text.Name
import Outline.Source.Lines
import Outline.Text.Stamp
import Outline.Source.Span
import Outline.Source.Column
import Outline.Tree.Node
import Outline.Source.View
import Outline.Tree.Listing
import Outline.Double
import Outline.Reading
import Outline.Json.Basic
import Outline.Json.Literal
import Outline.Json.Misfit
import Outline.Json.Key
import Outline.Json.Index
import Outline.Source.Given
import Outline.Json.Printer
import Outline.Json.Reader
import Outline.Supplied
import Outline.Context.Record
import Outline.Context.Part
import Outline.Context.Shape
import Outline.Context.Store
import Outline.Context.Tree
import Outline.Language
import Outline.Traversal.Role
import Outline.Traversal.Fact
import Outline.Traversal.Visit
import Outline.Log
import Outline.Files.Name
import Outline.Files.Tree
import Outline.Registry
import Outline.Settings.Basic
import Outline.Dotenv
import Outline.Toml.Value
import Outline.Toml.Reader
import Outline.Settings.Source
import Outline.Text.Identifier
import Outline.Settings.Keywords
import Outline.Settings.Options.Fault
import Outline.Settings.Options.Table
import Outline.Settings.Options.Folding
import Outline.Settings.Options.Joined
import Outline.Settings.Options.Reading
import Outline.Settings.Options.Asked
import Outline.Settings.Search
import Outline.Settings.Load
import Outline.Summary
import Outline.Command.Arguments
import Outline.Command.Run
import Outline.Main
import Outline.Proofs.Context.Forest
import Outline.Proofs.Context.Navigation
import Outline.Proofs.Context.History
import Outline.Proofs.Traversal.Recursion
import Outline.Proofs.Traversal.Address
import Outline.Proofs.Traversal.Route
import Outline.Proofs.Traversal.Ownership
import Outline.Proofs.Source.ByteSpans
import Outline.Proofs.Traversal.Reads
import Outline.Proofs.Traversal.Failure
import Outline.Proofs.Source.Range
import Outline.Proofs.Traversal.Range
import Outline.Proofs.Json.Grammar
import Outline.Proofs.Json.Printer
import Outline.Proofs.Context.Report
import Outline.Proofs.Command.Output
import Outline.Proofs.Traversal.Upkeep
import Outline.Proofs.Traversal.Graft
import Outline.Proofs.Context.Layout
import Outline.Proofs.Traversal.Agreement
import Outline.Proofs.Traversal.Returns
import Outline.Proofs.Traversal.OneLine
import Outline.Proofs.Traversal.Notices
import Outline.Proofs.Registry.History
import Outline.Proofs.Command.EntryPoints
import Outline.Proofs.Settings.References
import Outline.Proofs.Settings.Sources
import Outline.Proofs.Settings.Precedence
import Outline.Proofs.Settings.Shadowing
import Outline.Proofs.Traversal.Transparency
import Outline.Proofs.Source.Acceptance
import Outline.Proofs.Source.Joining
import Outline.Proofs.Traversal.Calls
import Outline.Proofs.Traversal.Callee
import Outline.Proofs.Traversal.Declarations
import Outline.Proofs.Source.Concatenation
import Outline.Proofs.Source.Reslicing
import Outline.Proofs.Source.Columns
import Outline.Proofs.Tree.Listing
