import QueryText.Calendar
import QueryText.Condition
import QueryText.Config
import QueryText.Config.Settings
import QueryText.Decimal.Digits
import QueryText.Decimal.Nearest
import QueryText.Decimal.Notation
import QueryText.Decimal.Reading
import QueryText.Decimal.Shortest
import QueryText.Descriptor
import QueryText.Dialect.Basic
import QueryText.Dialect.Literal
import QueryText.Dialect.Presets
import QueryText.Dialect.Rules
import QueryText.Entity
import QueryText.Error
import QueryText.Event
import QueryText.Execute.Backend
import QueryText.Execute.Bind
import QueryText.Execute.Guard
import QueryText.Execute.Run
import QueryText.Execute.Script
import QueryText.Expr.Basic
import QueryText.Expr.Equality
import QueryText.Expr.Named
import QueryText.Expr.Operations
import QueryText.Failure
import QueryText.Fingerprint
import QueryText.Fingerprint.Sha256
import QueryText.Join
import QueryText.Metrics
import QueryText.Operator
import QueryText.Order
import QueryText.Param
import QueryText.Path
import QueryText.Pattern
import QueryText.Query
import QueryText.Query.AnyPath
import QueryText.Query.Builder
import QueryText.Render.Chunk
import QueryText.Render.Expr
import QueryText.Render.Operand
import QueryText.Render.Preview
import QueryText.Render.Select
import QueryText.Select
import QueryText.Statement.Change
import QueryText.Statement.Clause
import QueryText.Statement.Delete
import QueryText.Statement.Insert
import QueryText.Statement.Update
import QueryText.Statement.Written
import QueryText.Text.Blank
import QueryText.Text.Cluster
import QueryText.Text.ClusterTable
import QueryText.Text.CodeRanges
import QueryText.Text.Escaped
import QueryText.Text.LetterCase
import QueryText.Text.LetterTable
import QueryText.Text.PrintTable
import QueryText.Text.Quoted
import QueryText.Text.Words
import QueryText.Value.Basic
import QueryText.Value.Kind
import QueryText.Value.Spelling
import QueryText.Window
import QueryText.Proofs.Coupling
import QueryText.Proofs.Coupling.Operand
import QueryText.Proofs.Coupling.Select
import QueryText.Proofs.Coupling.Expr
import QueryText.Proofs.Slots
import QueryText.Proofs.ValueIndependence
import QueryText.Proofs.Alignment
import QueryText.Proofs.Deferral
import QueryText.Proofs.InnermostBinding
import QueryText.Proofs.Reading.Notation
import QueryText.Proofs.Reading.Reader
import QueryText.Proofs.Reading.Layout
import QueryText.Proofs.Reading.Spelling
import QueryText.Proofs.Reading.Table
import QueryText.Proofs.Reading.Lexing
import QueryText.Proofs.Reading.Regrouping
import QueryText.Proofs.Reading.Recognition
import QueryText.Proofs.Reading.ReadBack
import QueryText.Proofs.Reading.Precedence
import QueryText.Proofs.AnyPath.Paths
import QueryText.Proofs.AnyPath.Table
import QueryText.Proofs.AnyPath.Filling
import QueryText.Proofs.AnyPath.Faithful
import QueryText.Proofs.AnyPath.Model
import QueryText.Proofs.AnyPath.Predicate
import QueryText.Proofs.AnyPath.Meaning
import QueryText.Proofs.Building.Call
import QueryText.Proofs.Building.Origin
import QueryText.Proofs.Building.Scoping
import QueryText.Proofs.Columns.Ambiguity
import QueryText.Proofs.Resolution
import QueryText.Proofs.Inlining
import QueryText.Proofs.Building.Ledger
import QueryText.Proofs.Searching.Like
import QueryText.Proofs.Searching.Searches
import QueryText.Proofs.Searching.Following
import QueryText.Proofs.Searching.Statement
import QueryText.Proofs.Running.Course
import QueryText.Proofs.Running.Protocol
import QueryText.Proofs.Inserting.Pairing
import QueryText.Proofs.Counting.Agreement
import QueryText.Proofs.Paging.Clauses
import QueryText.Proofs.Paging.Tail
import QueryText.Proofs.Paging.Pages
import QueryText.Proofs.Places.Address
import QueryText.Proofs.Places.Windowing
import QueryText.Proofs.Places.Around
import QueryText.Proofs.Places.Parts
import QueryText.Proofs.Places.Spots
import QueryText.Proofs.Places.Request
import QueryText.Proofs.Places.Pagination
import QueryText.Proofs.Comparing.Ambient
import QueryText.Proofs.Comparing.Alone
import QueryText.Proofs.Comparing.Filtering
import QueryText.Proofs.Comparing.Composition
import QueryText.Proofs.Objects.Closed
import QueryText.Proofs.Objects.Declared
import QueryText.Proofs.Running.Numbering
import QueryText.Proofs.Display
import QueryText.Proofs.Objects.Receivers
import QueryText.Proofs.Comments.Scan
import QueryText.Proofs.Literals.Characters
import QueryText.Proofs.Comments.Literals
import QueryText.Proofs.Comments.Writers
import QueryText.Proofs.Comments.Patterns
import QueryText.Proofs.Comments.Operations
import QueryText.Proofs.Comments.Queries
import QueryText.Proofs.Comments.Dashes
import QueryText.Proofs.Searching.Known
import QueryText.Proofs.Literals.Quotes
import QueryText.Proofs.Literals.Values
import QueryText.Proofs.Building.SelfReference
import QueryText.Proofs.Running.Binding
import QueryText.Proofs.Building.Interruption
import QueryText.Proofs.Populating
import QueryText.Proofs.Patterns.Parsing
import QueryText.Proofs.Patterns.Fragments
import QueryText.Proofs.Objects.Joins
import QueryText.Proofs.Patterns.OneLine
import QueryText.Proofs.OneLine.Words
import QueryText.Proofs.OneLine.Writers
import QueryText.Proofs.OneLine.Operands
import QueryText.Proofs.OneLine.Queries
import QueryText.Proofs.OneLine.Statements
import QueryText.Proofs.Building.Elements
import QueryText.Proofs.Building.Reporting
import QueryText.Proofs.Updating
import QueryText.Proofs.Columns.Splitting
import QueryText.Proofs.Fingerprints
import QueryText.Proofs.Counters
import QueryText.Proofs.Visiting.Session
import QueryText.Proofs.Visiting.Operands
import QueryText.Proofs.Visiting.Clauses
import QueryText.Proofs.Visiting.Queries
import QueryText.Proofs.Visiting.Expressions
