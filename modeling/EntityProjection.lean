import EntityProjection.CommandLine.Command
import EntityProjection.CommandLine.Execution
import EntityProjection.CommandLine.Parameter
import EntityProjection.CommandLine.Parsing
import EntityProjection.CommandLine.Program
import EntityProjection.Declaration.Basic
import EntityProjection.Declaration.Container
import EntityProjection.Declaration.Generation
import EntityProjection.Declaration.Projection
import EntityProjection.Declaration.Render
import EntityProjection.Entity.Basic
import EntityProjection.Entity.KeyIndex
import EntityProjection.Entity.Model
import EntityProjection.Error
import EntityProjection.Failure
import EntityProjection.Files.Disk
import EntityProjection.Files.Output
import EntityProjection.Files.Path
import EntityProjection.Files.Settings
import EntityProjection.Files.Tree
import EntityProjection.Files.Units
import EntityProjection.Graph.Analysis
import EntityProjection.Graph.Basic
import EntityProjection.Graph.Broken
import EntityProjection.Graph.Cycle
import EntityProjection.Graph.Order
import EntityProjection.Graph.Report
import EntityProjection.Graph.Residual
import EntityProjection.Graph.Schedule
import EntityProjection.Graph.Search
import EntityProjection.Json.Draft
import EntityProjection.Json.Unit
import EntityProjection.Json.Value
import EntityProjection.Lint.Checks
import EntityProjection.Lint.Finding
import EntityProjection.Lint.Report
import EntityProjection.Log.Directive
import EntityProjection.Log.Event
import EntityProjection.Log.Filter
import EntityProjection.Log.Pattern
import EntityProjection.Log.Settings
import EntityProjection.Log.Traced
import EntityProjection.Names
import EntityProjection.Options.Basic
import EntityProjection.Options.Settings
import EntityProjection.Options.Target
import EntityProjection.Text.Alphanumeric
import EntityProjection.Text.Blank
import EntityProjection.Text.CodePoint
import EntityProjection.Text.GraphemeExtend
import EntityProjection.Text.Identifier
import EntityProjection.Text.Passage
import EntityProjection.Text.Printable
import EntityProjection.Text.Quoted
import EntityProjection.Toml.Quantity
import EntityProjection.Toml.Reader
import EntityProjection.Toml.Value
import EntityProjection.Unit.Basic
import EntityProjection.Unit.Collection
import EntityProjection.Unit.Document
import EntityProjection.Unit.Extraction
import EntityProjection.Unit.Fault
import EntityProjection.Unit.Record
import EntityProjection.Yaml.Cursor
import EntityProjection.Yaml.Lexer
import EntityProjection.Yaml.Node
import EntityProjection.Yaml.Scalar
import EntityProjection.Yaml.Tag
import EntityProjection.Yaml.Token
import EntityProjection.Yaml.Unit
import EntityProjection.Main
import EntityProjection.Proofs.Preliminaries
import EntityProjection.Proofs.Entity.Acceptance
import EntityProjection.Proofs.Entity.Normal
import EntityProjection.Proofs.Entity.Collection
import EntityProjection.Proofs.Entity.Arrivals
import EntityProjection.Proofs.Entity.Refusal
import EntityProjection.Proofs.Unit.Extraction
import EntityProjection.Proofs.Graph.Relations
import EntityProjection.Proofs.Graph.SearchMoves
import EntityProjection.Proofs.Graph.Breaking
import EntityProjection.Proofs.Graph.BrokenTable
import EntityProjection.Proofs.Graph.GreedyBreaking
import EntityProjection.Proofs.Graph.SearchCycles
import EntityProjection.Proofs.Graph.SearchEnd
import EntityProjection.Proofs.Graph.CycleBreaking
import EntityProjection.Proofs.Graph.SearchTrace
import EntityProjection.Proofs.Graph.FoundCycles
import EntityProjection.Proofs.Graph.Emission
import EntityProjection.Proofs.Graph.Readiness
import EntityProjection.Proofs.Graph.EmissionOrder
import EntityProjection.Proofs.Graph.Residual
import EntityProjection.Proofs.Graph.Restriction
import EntityProjection.Proofs.Graph.SearchRestriction
import EntityProjection.Proofs.Text.ByteOrder
import EntityProjection.Proofs.Text.PropertyName
import EntityProjection.Proofs.Text.PascalCase
import EntityProjection.Proofs.Text.Words
import EntityProjection.Proofs.Text.StringLiteral
import EntityProjection.Proofs.Graph.Representation
import EntityProjection.Proofs.Declaration.Members
import EntityProjection.Proofs.Declaration.Generation
import EntityProjection.Proofs.Declaration.References
import EntityProjection.Proofs.Declaration.ArrivalOrder
import EntityProjection.Proofs.Declaration.Separation
import EntityProjection.Proofs.Declaration.Conformance
import EntityProjection.Proofs.Declaration.Sequence
import EntityProjection.Proofs.Declaration.Stubs
import EntityProjection.Proofs.Declaration.Flattening
import EntityProjection.Proofs.Declaration.Reading
import EntityProjection.Proofs.Declaration.Decoding
import EntityProjection.Proofs.Lint.Findings
import EntityProjection.Proofs.Lint.Degradation
import EntityProjection.Proofs.Lint.Prediction
import EntityProjection.Proofs.Lint.Suggestions
import EntityProjection.Proofs.Files.Contents
import EntityProjection.Proofs.Files.Walk
import EntityProjection.Proofs.Files.Units
import EntityProjection.Proofs.CommandLine.Preservation
import EntityProjection.Proofs.CommandLine.Settings
