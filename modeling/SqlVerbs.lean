import SqlVerbs.Bindings
import SqlVerbs.Calendar.Date
import SqlVerbs.Calendar.Fields
import SqlVerbs.Calendar.Reader
import SqlVerbs.Calendar.Template
import SqlVerbs.Dialect.Arity
import SqlVerbs.Dialect.Basic
import SqlVerbs.Dialect.Registry
import SqlVerbs.Dialect.Rule
import SqlVerbs.Dialect.StandardRules
import SqlVerbs.Double.Layout
import SqlVerbs.Double.Parts
import SqlVerbs.Double.Reader
import SqlVerbs.Double.Shortest
import SqlVerbs.Error
import SqlVerbs.Host.Deparse
import SqlVerbs.Host.Expr
import SqlVerbs.Host.JsonForm
import SqlVerbs.Host.Literal
import SqlVerbs.Json.Reader
import SqlVerbs.Json.Value
import SqlVerbs.Json.Writer
import SqlVerbs.Local.Arithmetic
import SqlVerbs.Local.Coercion
import SqlVerbs.Local.Dates
import SqlVerbs.Local.Eval
import SqlVerbs.Local.Fold
import SqlVerbs.Local.Functions
import SqlVerbs.Local.Reason
import SqlVerbs.Local.Strings
import SqlVerbs.Local.Value
import SqlVerbs.Local.Vectors
import SqlVerbs.Lowering.Call
import SqlVerbs.Lowering.Expr
import SqlVerbs.Lowering.Noted
import SqlVerbs.Lowering.Placement
import SqlVerbs.Lowering.Shape
import SqlVerbs.Lowering.Window
import SqlVerbs.Pattern.AsciiClass
import SqlVerbs.Pattern.Blanks
import SqlVerbs.Pattern.Bracket
import SqlVerbs.Pattern.Class.Age
import SqlVerbs.Pattern.Class.Break
import SqlVerbs.Pattern.Class.Derived
import SqlVerbs.Pattern.Class.Edition
import SqlVerbs.Pattern.Class.Listed
import SqlVerbs.Pattern.Class.Name
import SqlVerbs.Pattern.Class.Script
import SqlVerbs.Pattern.Escape
import SqlVerbs.Pattern.Failure
import SqlVerbs.Pattern.Flags
import SqlVerbs.Pattern.Form
import SqlVerbs.Pattern.Meaning
import SqlVerbs.Pattern.Reader
import SqlVerbs.Pattern.Regex
import SqlVerbs.Pattern.Replacement
import SqlVerbs.Pattern.Search
import SqlVerbs.Pattern.Size
import SqlVerbs.Pattern.Tree
import SqlVerbs.Proofs.Bindings
import SqlVerbs.Proofs.Dialect.Quoting
import SqlVerbs.Proofs.Double.Integers
import SqlVerbs.Proofs.Double.Nearest
import SqlVerbs.Proofs.Double.Order
import SqlVerbs.Proofs.Double.ReadBack
import SqlVerbs.Proofs.Double.Rounding
import SqlVerbs.Proofs.Double.UnitSteps
import SqlVerbs.Proofs.Double.Values
import SqlVerbs.Proofs.Double.WholeSums
import SqlVerbs.Proofs.Host.OperatorTrees
import SqlVerbs.Proofs.Host.Pieces
import SqlVerbs.Proofs.Host.RoundTrip
import SqlVerbs.Proofs.Local.Agreement
import SqlVerbs.Proofs.Local.Evaluation
import SqlVerbs.Proofs.Local.ExactIntegers
import SqlVerbs.Proofs.Local.Failures
import SqlVerbs.Proofs.Local.IntegerArithmetic
import SqlVerbs.Proofs.Local.Machine
import SqlVerbs.Proofs.Local.NamedArguments
import SqlVerbs.Proofs.Local.Names
import SqlVerbs.Proofs.Local.NoPanics
import SqlVerbs.Proofs.Local.NormalForms
import SqlVerbs.Proofs.Local.PlainValues
import SqlVerbs.Proofs.Local.Preservation
import SqlVerbs.Proofs.Local.ReadNames
import SqlVerbs.Proofs.Local.Results
import SqlVerbs.Proofs.Local.Sequences
import SqlVerbs.Proofs.Local.Sums
import SqlVerbs.Proofs.Local.UniformValues
import SqlVerbs.Proofs.Lowering.ArgumentPlaces
import SqlVerbs.Proofs.Lowering.Congruence
import SqlVerbs.Proofs.Lowering.Errors
import SqlVerbs.Proofs.Lowering.Names
import SqlVerbs.Proofs.Lowering.Nodes
import SqlVerbs.Proofs.Lowering.OpenedWindows
import SqlVerbs.Proofs.Lowering.Parentheses
import SqlVerbs.Proofs.Lowering.Placement
import SqlVerbs.Proofs.Lowering.Runs
import SqlVerbs.Proofs.Lowering.Shapes
import SqlVerbs.Proofs.Lowering.Slices
import SqlVerbs.Proofs.Lowering.Strictness
import SqlVerbs.Proofs.Lowering.Termination
import SqlVerbs.Proofs.Lowering.WindowRules
import SqlVerbs.Proofs.Lowering.Windowing
import SqlVerbs.Proofs.Pattern.BackReferences
import SqlVerbs.Proofs.Query.CarriedColumns
import SqlVerbs.Proofs.Query.Comparison
import SqlVerbs.Proofs.Query.Extraction
import SqlVerbs.Proofs.Query.FrozenStatements
import SqlVerbs.Proofs.Query.Groups
import SqlVerbs.Proofs.Query.Having
import SqlVerbs.Proofs.Query.Hoisting
import SqlVerbs.Proofs.Query.JoinColumns
import SqlVerbs.Proofs.Query.Levels
import SqlVerbs.Proofs.Query.LiveTerms
import SqlVerbs.Proofs.Query.Ordering
import SqlVerbs.Proofs.Query.Outcomes
import SqlVerbs.Proofs.Query.Outlines
import SqlVerbs.Proofs.Query.Pipelines
import SqlVerbs.Proofs.Query.Plans
import SqlVerbs.Proofs.Query.Preservation
import SqlVerbs.Proofs.Query.ReadLevels
import SqlVerbs.Proofs.Query.Renaming
import SqlVerbs.Proofs.Query.Rows
import SqlVerbs.Proofs.Query.Schemas
import SqlVerbs.Proofs.Query.ScopedLevels
import SqlVerbs.Proofs.Query.Scoping
import SqlVerbs.Proofs.Query.Semantics
import SqlVerbs.Proofs.Query.SortKeys
import SqlVerbs.Proofs.Query.Statements
import SqlVerbs.Proofs.Query.StrictMode
import SqlVerbs.Proofs.Query.TemporaryTables
import SqlVerbs.Proofs.Query.WindowClauses
import SqlVerbs.Proofs.Query.WindowOrder
import SqlVerbs.Proofs.Query.WindowSupport
import SqlVerbs.Proofs.Sql.Capture
import SqlVerbs.Proofs.Sql.CarriedValues
import SqlVerbs.Proofs.Sql.Columns
import SqlVerbs.Proofs.Sql.Engine
import SqlVerbs.Proofs.Sql.Grammar
import SqlVerbs.Proofs.Sql.Grouping
import SqlVerbs.Proofs.Sql.InjectionSafety
import SqlVerbs.Proofs.Sql.Lexemes
import SqlVerbs.Proofs.Sql.NestedLoops
import SqlVerbs.Proofs.Sql.NestedStatements
import SqlVerbs.Proofs.Sql.Nesting
import SqlVerbs.Proofs.Sql.Scanner
import SqlVerbs.Proofs.Sql.Scopes
import SqlVerbs.Proofs.Sql.Substitution
import SqlVerbs.Proofs.Sql.Token
import SqlVerbs.Proofs.Sql.Traversal
import SqlVerbs.Proofs.Sql.Unambiguous
import SqlVerbs.Query.Basic
import SqlVerbs.Query.Compile
import SqlVerbs.Query.Hoist
import SqlVerbs.Query.Join
import SqlVerbs.Query.Level
import SqlVerbs.Query.Run
import SqlVerbs.Query.Stage
import SqlVerbs.Query.Verb
import SqlVerbs.Settings.Basic
import SqlVerbs.Settings.Document
import SqlVerbs.Sql.Expr
import SqlVerbs.Sql.Frame
import SqlVerbs.Sql.Operator
import SqlVerbs.Sql.Printer
import SqlVerbs.Sql.Select
import SqlVerbs.Sql.Statement
import SqlVerbs.Text.Alphabetic
import SqlVerbs.Text.Casing
import SqlVerbs.Text.Category
import SqlVerbs.Text.CharSet
import SqlVerbs.Text.Hex
import SqlVerbs.Text.Lines
import SqlVerbs.Text.Property
import SqlVerbs.Text.Quoted
