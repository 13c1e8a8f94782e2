import MailMerge.Command.Arguments
import MailMerge.Command.Basic
import MailMerge.Command.Run
import MailMerge.Document.Basic
import MailMerge.Document.Fields
import MailMerge.Document.Json.Number
import MailMerge.Document.Json.Reader
import MailMerge.Document.Json.Writer
import MailMerge.Document.Plain
import MailMerge.Document.Sorted
import MailMerge.Document.Yaml.Node
import MailMerge.Document.Yaml.Place
import MailMerge.Document.Yaml.Reader
import MailMerge.Document.Yaml.Scalar
import MailMerge.Document.Yaml.Tag
import MailMerge.Document.Yaml.Token
import MailMerge.Document.Yaml.Writer
import MailMerge.Double.Arithmetic
import MailMerge.Double.Basic
import MailMerge.Double.Reading
import MailMerge.Double.Rounded
import MailMerge.Double.Shortest
import MailMerge.Double.Writing
import MailMerge.Formula.Basic
import MailMerge.Formula.Describe
import MailMerge.Formula.Operator
import MailMerge.Formula.RuleBuilder.Node
import MailMerge.Formula.RuleBuilder.Writer
import MailMerge.Formula.Truth
import MailMerge.Instant.Basic
import MailMerge.Instant.Reading
import MailMerge.Instant.Writing
import MailMerge.Main
import MailMerge.Predicate.Basic
import MailMerge.Predicate.Compile
import MailMerge.Predicate.Text
import MailMerge.Predicate.Truth
import MailMerge.Proofs.Document.Json.Scalar
import MailMerge.Proofs.Document.Json.Written
import MailMerge.Proofs.Double.Decimal
import MailMerge.Proofs.Double.Nearest
import MailMerge.Proofs.Double.Order
import MailMerge.Proofs.Double.Rounding
import MailMerge.Proofs.Double.Whole
import MailMerge.Proofs.Formula.Check
import MailMerge.Proofs.Formula.Described
import MailMerge.Proofs.Formula.Failing
import MailMerge.Proofs.Formula.Fold
import MailMerge.Proofs.Formula.Leafless
import MailMerge.Proofs.Formula.Opposite
import MailMerge.Proofs.Formula.Range
import MailMerge.Proofs.Formula.Renaming
import MailMerge.Proofs.Formula.Retold
import MailMerge.Proofs.Formula.RuleBuilder.Accepted
import MailMerge.Proofs.Formula.RuleBuilder.Written
import MailMerge.Proofs.Formula.Shape
import MailMerge.Proofs.Formula.Substitution
import MailMerge.Proofs.Formula.Variables
import MailMerge.Proofs.Instant.Calendar
import MailMerge.Proofs.Instant.Clock
import MailMerge.Proofs.Instant.Offset
import MailMerge.Proofs.Instant.Written
import MailMerge.Proofs.Instant.Years
import MailMerge.Proofs.Letter.Basic
import MailMerge.Proofs.Letter.Bindings
import MailMerge.Proofs.Letter.Confined
import MailMerge.Proofs.Letter.Depth
import MailMerge.Proofs.Letter.Legible
import MailMerge.Proofs.Letter.Lexing
import MailMerge.Proofs.Letter.Meaning
import MailMerge.Proofs.Letter.Mentions
import MailMerge.Proofs.Letter.Names
import MailMerge.Proofs.Letter.Quotes
import MailMerge.Proofs.Letter.Reading
import MailMerge.Proofs.Letter.Renaming
import MailMerge.Proofs.Letter.Rendering
import MailMerge.Proofs.Letter.Running
import MailMerge.Proofs.Letter.Scanning
import MailMerge.Proofs.Letter.Segments
import MailMerge.Proofs.Letter.Undisturbed
import MailMerge.Proofs.Letter.Words
import MailMerge.Proofs.Name.Context
import MailMerge.Proofs.Name.Identifier
import MailMerge.Proofs.Name.Markup
import MailMerge.Proofs.Name.PrefixCode
import MailMerge.Proofs.Name.Renaming
import MailMerge.Proofs.Name.Reserved
import MailMerge.Proofs.Name.Stored
import MailMerge.Proofs.Predicate.Across
import MailMerge.Proofs.Predicate.Agreement
import MailMerge.Proofs.Predicate.Comparison
import MailMerge.Proofs.Predicate.Declared
import MailMerge.Proofs.Predicate.Leaf
import MailMerge.Proofs.Predicate.Lexing
import MailMerge.Proofs.Predicate.Places
import MailMerge.Proofs.Predicate.Query
import MailMerge.Proofs.Predicate.Renaming
import MailMerge.Proofs.Predicate.Search
import MailMerge.Proofs.Predicate.Timed
import MailMerge.Proofs.Predicate.Written
import MailMerge.Proofs.Reference.Anatomy
import MailMerge.Proofs.Reference.Marked
import MailMerge.Proofs.Reference.Renaming
import MailMerge.Proofs.Reference.Settled
import MailMerge.Proofs.Store.Database
import MailMerge.Proofs.Store.Failing
import MailMerge.Proofs.Store.Filled
import MailMerge.Proofs.Store.Filtered
import MailMerge.Proofs.Store.Growing
import MailMerge.Proofs.Store.Import
import MailMerge.Proofs.Store.Lawful
import MailMerge.Proofs.Store.Numbered
import MailMerge.Proofs.Store.Placement
import MailMerge.Proofs.Store.Reachable
import MailMerge.Proofs.Store.Reading
import MailMerge.Proofs.Store.Renaming
import MailMerge.Proofs.Store.Runs
import MailMerge.Proofs.Store.Single
import MailMerge.Proofs.Store.Truths
import MailMerge.Proofs.Table.Dated
import MailMerge.Proofs.Table.Pattern
import MailMerge.Proofs.Table.Retained
import MailMerge.Proofs.Table.Stored
import MailMerge.Proofs.Text.Bytes
import MailMerge.Proofs.Text.Digits
import MailMerge.Proofs.Text.Passages
import MailMerge.Proofs.Traversal
import MailMerge.Proofs.Value.Coercion
import MailMerge.Proofs.Value.Numeral
import MailMerge.Proofs.Value.Order
import MailMerge.Proofs.Value.Truth
import MailMerge.Proofs.Workflow.Counting
import MailMerge.Proofs.Workflow.Exclusion
import MailMerge.Proofs.Workflow.Merging
import MailMerge.Proofs.Workflow.Names
import MailMerge.Proofs.Workflow.Picked
import MailMerge.Proofs.Workflow.Preview
import MailMerge.Proofs.Workflow.Renaming
import MailMerge.Proofs.Workflow.Stored
import MailMerge.Proofs.Workflow.Validity
import MailMerge.Proofs.Workflow.Written
import MailMerge.Settings.Basic
import MailMerge.Settings.Literal
import MailMerge.Store.Basic
import MailMerge.Store.Database
import MailMerge.Store.Error
import MailMerge.Store.Import
import MailMerge.Table.Basic
import MailMerge.Table.Cell
import MailMerge.Table.Column
import MailMerge.Table.Pattern
import MailMerge.Template.Datum.Arithmetic
import MailMerge.Template.Datum.Basic
import MailMerge.Template.Datum.Order
import MailMerge.Template.Datum.Part
import MailMerge.Template.Datum.Written
import MailMerge.Template.Expr.Basic
import MailMerge.Template.Expr.Evaluate
import MailMerge.Template.Expr.Reader
import MailMerge.Template.Filter.Arguments
import MailMerge.Template.Filter.Basic
import MailMerge.Template.Filter.Layout
import MailMerge.Template.Filter.List
import MailMerge.Template.Filter.Number
import MailMerge.Template.Filter.Test
import MailMerge.Template.Filter.Text
import MailMerge.Template.Function
import MailMerge.Template.Name
import MailMerge.Template.Node.Basic
import MailMerge.Template.Node.Names
import MailMerge.Template.Node.Reader
import MailMerge.Template.Node.Run
import MailMerge.Template.Reference
import MailMerge.Template.Render
import MailMerge.Template.State
import MailMerge.Template.Token
import MailMerge.Text.Blank
import MailMerge.Text.Html
import MailMerge.Text.LetterCase
import MailMerge.Text.LetterClass
import MailMerge.Text.Printable
import MailMerge.Text.Quoted
import MailMerge.Text.Search
import MailMerge.Value.Basic
import MailMerge.Value.DataType
import MailMerge.Value.Sorted
import MailMerge.Workflow.Basic
import MailMerge.Workflow.Document
import MailMerge.Workflow.Error
import MailMerge.Workflow.Evaluate
import MailMerge.Workflow.Names
import MailMerge.Workflow.Selection
