import CorpusQuery.Attribute
import CorpusQuery.Command
import CorpusQuery.Command.Arguments
import CorpusQuery.Command.Outcome
import CorpusQuery.Comparison
import CorpusQuery.Fault
import CorpusQuery.Json.Value
import CorpusQuery.Main
import CorpusQuery.Manual
import CorpusQuery.Pattern
import CorpusQuery.Pattern.Expression
import CorpusQuery.Pattern.Property
import CorpusQuery.Pattern.Reader
import CorpusQuery.Pattern.Search
import CorpusQuery.Pattern.Standard
import CorpusQuery.Pattern.Tree
import CorpusQuery.Proofs.Comparison.Spelling
import CorpusQuery.Proofs.Query.Built
import CorpusQuery.Proofs.Query.Completion
import CorpusQuery.Proofs.Query.Grammar
import CorpusQuery.Proofs.Query.Reading
import CorpusQuery.Proofs.Query.RoundTrip
import CorpusQuery.Proofs.Query.Terms
import CorpusQuery.Proofs.Query.Unfinished
import CorpusQuery.Proofs.Query.Agreement
import CorpusQuery.Proofs.Selection.Aliases
import CorpusQuery.Proofs.Selection.Conditions
import CorpusQuery.Proofs.Selection.Fields
import CorpusQuery.Proofs.Selection.Positions
import CorpusQuery.Proofs.Selection.Reading
import CorpusQuery.Proofs.Selection.Written
import CorpusQuery.Proofs.Store.Evaluation
import CorpusQuery.Proofs.Store.Lexeme
import CorpusQuery.Proofs.Store.Literal
import CorpusQuery.Proofs.Store.Statement
import CorpusQuery.Proofs.Token.Layout
import CorpusQuery.Proofs.Token.Spaced
import CorpusQuery.Proofs.Token.Recognition
import CorpusQuery.Proofs.Token.Stream
import CorpusQuery.Query
import CorpusQuery.Query.Canonical
import CorpusQuery.Query.Outline
import CorpusQuery.Query.Parser
import CorpusQuery.Selection
import CorpusQuery.Selection.Condition
import CorpusQuery.Selection.Printer
import CorpusQuery.Selection.Scope
import CorpusQuery.Selection.Shape
import CorpusQuery.Selection.TagSet
import CorpusQuery.Settings
import CorpusQuery.Settings.File
import CorpusQuery.Text.Ascii
import CorpusQuery.Text.Blank
import CorpusQuery.Text.Decimal
import CorpusQuery.Text.Escaped
import CorpusQuery.Text.Hexadecimal
import CorpusQuery.Text.Join
import CorpusQuery.Text.Literal
import CorpusQuery.Text.LowerCase
import CorpusQuery.Text.Quoted
import CorpusQuery.Token
import CorpusQuery.Token.Scanner
import CorpusQuery.Toml.Document
import CorpusQuery.Toml.Quoted
import CorpusQuery.Toml.Reader
import CorpusQuery.Toml.Scalar
import CorpusQuery.Toml.Writer
import CorpusQuery.Unicode.Age
import CorpusQuery.Unicode.Boundary
import CorpusQuery.Unicode.Case
import CorpusQuery.Unicode.Category
import CorpusQuery.Unicode.CodeSet
import CorpusQuery.Unicode.Property
import CorpusQuery.Unicode.Script
import CorpusQuery.Proofs.Selection.Meaning
import CorpusQuery.Proofs.Selection.Shapes
import CorpusQuery.Proofs.Query.Behind
import CorpusQuery.Proofs.Query.Composition
import CorpusQuery.Proofs.Query.Trimmed
import CorpusQuery.Proofs.Toml.Lines
import CorpusQuery.Proofs.Settings.RoundTrip
import CorpusQuery.Proofs.Selection.Alternatives
import CorpusQuery.Proofs.Selection.Verdicts
import CorpusQuery.Proofs.Selection.Expansion
import CorpusQuery.Proofs.Selection.Complement
import CorpusQuery.Proofs.Selection.Branches
import CorpusQuery.Proofs.Selection.Bindings
import CorpusQuery.Proofs.Token.Cursor
import CorpusQuery.Proofs.Query.Successive
import CorpusQuery.Proofs.Token.Offsets
import CorpusQuery.Proofs.Token.Bounds
import CorpusQuery.Proofs.Query.Context
import CorpusQuery.Proofs.Selection.Listing
import CorpusQuery.Proofs.Selection.Lines
import CorpusQuery.Proofs.Json.Reader
import CorpusQuery.Proofs.Json.Layout
import CorpusQuery.Proofs.Json.ReadBack
import CorpusQuery.Proofs.Selection.Interchange
import CorpusQuery.Proofs.Text.Quoted
import CorpusQuery.Proofs.Text.Escaped
import CorpusQuery.Proofs.Query.Outline
