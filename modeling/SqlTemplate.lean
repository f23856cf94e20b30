import SqlTemplate.Text.Ascii
import SqlTemplate.Text.Blank
import SqlTemplate.Text.LetterCase
import SqlTemplate.Text.Quoted
import SqlTemplate.Text.Search
import SqlTemplate.Number.Decimal
import SqlTemplate.Path
import SqlTemplate.Json.Printer
import SqlTemplate.Json.Reader
import SqlTemplate.Token
import SqlTemplate.Expr.Parser
import SqlTemplate.Expr.Evaluate
import SqlTemplate.Markup.Parser
import SqlTemplate.Error
import SqlTemplate.Placeholder
import SqlTemplate.Template.Build
import SqlTemplate.Rendering.Apply
import SqlTemplate.Typing.Aliases
import SqlTemplate.Typing.SqlType
import SqlTemplate.Calendar.Date
import SqlTemplate.Calendar.Moment
import SqlTemplate.Calendar.Reader
import SqlTemplate.Conversion.Converter
import SqlTemplate.Conversion.Registry
import SqlTemplate.Mapping.Basic
import SqlTemplate.Mapping.Convert
import SqlTemplate.Config.Basic
import SqlTemplate.Engine
import SqlTemplate.Catalog.Basic
import SqlTemplate.Catalog.Include
import SqlTemplate.Catalog.Load
import SqlTemplate.Catalog.Source
import SqlTemplate.Proofs.Computation
import SqlTemplate.Proofs.Template.Tree
import SqlTemplate.Proofs.Text.Blank
import SqlTemplate.Proofs.Text.Search
import SqlTemplate.Proofs.Text.Reading
import SqlTemplate.Proofs.Text.Edge
import SqlTemplate.Proofs.Token.Enclosed
import SqlTemplate.Proofs.Token.Glyph
import SqlTemplate.Proofs.Token.Contents
import SqlTemplate.Proofs.Token.Tidy
import SqlTemplate.Proofs.Token.Shrink
import SqlTemplate.Proofs.Token.Clear
import SqlTemplate.Proofs.Token.Leading
import SqlTemplate.Proofs.Token.Walk
import SqlTemplate.Proofs.Token.Pieces
import SqlTemplate.Proofs.Token.Edited
import SqlTemplate.Proofs.Rendering.Turn
import SqlTemplate.Proofs.Rendering.Decisions
import SqlTemplate.Proofs.Mapping.Extraction
import SqlTemplate.Proofs.Mapping.Values
import SqlTemplate.Proofs.Mapping.Spelling
import SqlTemplate.Proofs.Mapping.Path
import SqlTemplate.Proofs.Mapping.Content
import SqlTemplate.Proofs.Mapping.Placeholder
import SqlTemplate.Proofs.Mapping.Markers
import SqlTemplate.Proofs.Mapping.Shrunk
import SqlTemplate.Proofs.Rendering.Substitution
import SqlTemplate.Proofs.Rendering.Alias
import SqlTemplate.Proofs.Rendering.Renaming
import SqlTemplate.Proofs.Rendering.Nested
import SqlTemplate.Proofs.Rendering.Emission
import SqlTemplate.Proofs.Rendering.Emitted
import SqlTemplate.Proofs.Rendering.Disturbance
import SqlTemplate.Proofs.Rendering.Closure
import SqlTemplate.Proofs.Rendering.Growth
import SqlTemplate.Proofs.Rendering.Scope
import SqlTemplate.Proofs.Rendering.Ownership
import SqlTemplate.Proofs.Rendering.Checked
import SqlTemplate.Proofs.Rendering.Errors
import SqlTemplate.Proofs.Template.Static
import SqlTemplate.Proofs.Template.Overrides
import SqlTemplate.Proofs.Rendering.Conditions
import SqlTemplate.Proofs.Engine.Success
import SqlTemplate.Proofs.Engine.Fixed
import SqlTemplate.Proofs.Engine.Iterations
import SqlTemplate.Proofs.Engine.Later
import SqlTemplate.Proofs.Conversion.Agreement
import SqlTemplate.Proofs.Conversion.Lookups
import SqlTemplate.Proofs.Conversion.Named
import SqlTemplate.Proofs.Mapping.Converted
import SqlTemplate.Proofs.Mapping.WellFormed
import SqlTemplate.Proofs.Typing.Declarations
import SqlTemplate.Proofs.Typing.Resolution
import SqlTemplate.Proofs.Engine.Steady
import SqlTemplate.Proofs.Engine.Malformed
import SqlTemplate.Proofs.Engine.Shrunk
import SqlTemplate.Proofs.Dict
import SqlTemplate.Proofs.Catalog.Include
import SqlTemplate.Proofs.Catalog.Change
import SqlTemplate.Proofs.Catalog.Loading
import SqlTemplate.Proofs.Catalog.Compiled
import SqlTemplate.Proofs.Catalog.History
import SqlTemplate.Proofs.Catalog.Keys
import SqlTemplate.Proofs.Catalog.Rejected
import SqlTemplate.Proofs.Catalog.Expansion
import SqlTemplate.Proofs.Catalog.Expanded
import SqlTemplate.Proofs.Template.Sources
import SqlTemplate.Proofs.Template.Flag
import SqlTemplate.Proofs.Catalog.Variant
import SqlTemplate.Proofs.Catalog.Order
import SqlTemplate.Proofs.Catalog.Duplicates
import SqlTemplate.Proofs.Catalog.Count
import SqlTemplate.Proofs.Expr.Words
import SqlTemplate.Proofs.Expr.Levels
import SqlTemplate.Proofs.Expr.Legible
import SqlTemplate.Proofs.Expr.Grouping
import SqlTemplate.Proofs.Expr.RoundTrip
import SqlTemplate.Proofs.Expr.Chains
import SqlTemplate.Proofs.Expr.Navigation
import SqlTemplate.Proofs.Number.Rounding
import SqlTemplate.Proofs.Number.Whole
import SqlTemplate.Proofs.Value.Numeral
import SqlTemplate.Proofs.Value.Exact
import SqlTemplate.Proofs.Expr.Integers
import SqlTemplate.Proofs.Json.Integer
import SqlTemplate.Proofs.Conversion.Integral
import SqlTemplate.Proofs.Number.Plain
import SqlTemplate.Proofs.Number.Shortest
import SqlTemplate.Proofs.Number.Grammar
import SqlTemplate.Proofs.Conversion.Represented
import SqlTemplate.Proofs.Conversion.Stable
import SqlTemplate.Proofs.Markup.Entity
import SqlTemplate.Proofs.Markup.Written
import SqlTemplate.Proofs.Markup.RoundTrip
import SqlTemplate.CommandLine.Arguments
import SqlTemplate.CommandLine.Listing
import SqlTemplate.CommandLine.Run
import SqlTemplate.Main
