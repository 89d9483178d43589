import Sift.Catalog
import Sift.Catalog.Declaration
import Sift.Catalog.Naming
import Sift.Catalog.Problem
import Sift.Condition
import Sift.Config
import Sift.Config.Expansion
import Sift.Decimal.Binary64
import Sift.Decimal.Layout
import Sift.Decimal.Numeral
import Sift.Decimal.Shortest
import Sift.Decimal.Stepwise
import Sift.Dialect
import Sift.Engine
import Sift.Environment
import Sift.Event
import Sift.Fault
import Sift.Filter
import Sift.Inspect
import Sift.Json
import Sift.Json.Reader
import Sift.Json.Writer
import Sift.Keyed
import Sift.Logging
import Sift.Model
import Sift.Operator
import Sift.Operator.Arguments
import Sift.Operator.Build
import Sift.Operator.Pattern
import Sift.Path
import Sift.Plan
import Sift.Proofs.Catalog.Checked
import Sift.Proofs.Catalog.Integrity
import Sift.Proofs.Catalog.Inverse
import Sift.Proofs.Catalog.LinkColumns
import Sift.Proofs.Catalog.Relations
import Sift.Proofs.Catalog.Report
import Sift.Proofs.Config.Expansion
import Sift.Proofs.Config.OnePass
import Sift.Proofs.Engine.Atomic
import Sift.Proofs.Engine.Authorization
import Sift.Proofs.Engine.Confinement
import Sift.Proofs.Engine.Filter
import Sift.Proofs.Engine.Narrowing
import Sift.Proofs.Filter.Decoding
import Sift.Proofs.Filter.Distinct
import Sift.Proofs.Filter.RoundTrip
import Sift.Proofs.Json.Reader
import Sift.Proofs.Keyed
import Sift.Proofs.Meaning.Database
import Sift.Proofs.Meaning.Filter
import Sift.Proofs.Operator.Arguments
import Sift.Proofs.Operator.Build
import Sift.Proofs.Operator.Contract
import Sift.Proofs.Operator.Opposites
import Sift.Proofs.Operator.Shape
import Sift.Proofs.Operator.Template
import Sift.Proofs.Operator.Twins
import Sift.Proofs.Pattern.Escapes
import Sift.Proofs.Pattern.Matching
import Sift.Proofs.Pattern.Translation
import Sift.Proofs.Plan.Clauses
import Sift.Proofs.Plan.Insertion
import Sift.Proofs.Plan.Occupied
import Sift.Proofs.Plan.Paths
import Sift.Proofs.Plan.Recording
import Sift.Proofs.Plan.Shape
import Sift.Proofs.Registry.Changes
import Sift.Proofs.Registry.Selection
import Sift.Proofs.Reported
import Sift.Proofs.Resolver.Acceptance
import Sift.Proofs.Resolver.Batch
import Sift.Proofs.Resolver.Calls
import Sift.Proofs.Resolver.Document
import Sift.Proofs.Resolver.Gather
import Sift.Proofs.Resolver.Outline
import Sift.Proofs.Resolver.Reordering
import Sift.Proofs.Resolver.Sequence
import Sift.Proofs.Resolver.Tracing
import Sift.Proofs.Resolver.Truthful
import Sift.Proofs.Resolver.Vetted
import Sift.Proofs.Resolver.Violation
import Sift.Proofs.Scope.Conjunction
import Sift.Proofs.Scope.Names
import Sift.Proofs.Scope.Pieces
import Sift.Proofs.Scope.Placeholders
import Sift.Proofs.Scope.Program
import Sift.Proofs.Scope.Reading
import Sift.Proofs.Scope.Regular
import Sift.Proofs.Scope.Shape
import Sift.Proofs.Scope.Signs
import Sift.Proofs.Scope.Tokens
import Sift.Proofs.Scope.Transactions
import Sift.Proofs.Scope.Unambiguous
import Sift.Proofs.Sql.Alike
import Sift.Proofs.Sql.Columns
import Sift.Proofs.Sql.Formula
import Sift.Proofs.Sql.Identifiers
import Sift.Proofs.Sql.Lexer
import Sift.Proofs.Sql.Scan
import Sift.Proofs.Sql.Test
import Sift.Registry
import Sift.Relation
import Sift.Resolver
import Sift.Scope
import Sift.Scope.Render
import Sift.Sql.Fragment
import Sift.Sql.Identifier
import Sift.Sql.Template
import Sift.Text.Case
import Sift.Text.CaseTable
import Sift.Text.Hex
import Sift.Text.Parser
import Sift.Text.Ranges
import Sift.Text.Split
import Sift.Text.VisibleTable
import Sift.Toml
import Sift.Toml.Moment
import Sift.Toml.Number
import Sift.Toml.Reader
import Sift.Toml.Tree
import Sift.Value
