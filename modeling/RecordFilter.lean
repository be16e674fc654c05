import RecordFilter.Binary64.Arithmetic
import RecordFilter.Binary64.Basic
import RecordFilter.Binary64.Printer
import RecordFilter.Binary64.Reader
import RecordFilter.Binary64.Shortest
import RecordFilter.Coercion
import RecordFilter.Coercion.Document
import RecordFilter.Coercion.Native
import RecordFilter.Compiler
import RecordFilter.Condition.Basic
import RecordFilter.Condition.Scalar
import RecordFilter.Decimal.Basic
import RecordFilter.Decimal.Conversion
import RecordFilter.Decimal.Reader
import RecordFilter.Diagnostic
import RecordFilter.Error
import RecordFilter.FieldType
import RecordFilter.Integer
import RecordFilter.Json.Basic
import RecordFilter.Json.Mismatch
import RecordFilter.Json.NumberObject
import RecordFilter.Json.Parser
import RecordFilter.Json.Printer
import RecordFilter.Json.Punctuation
import RecordFilter.Json.Report
import RecordFilter.Json.Scanner
import RecordFilter.Json.Skipper
import RecordFilter.Json.SyntaxError
import RecordFilter.Matrix.Basic
import RecordFilter.Matrix.Document.Reading
import RecordFilter.Matrix.Document.Value
import RecordFilter.Matrix.Document.Writing
import RecordFilter.Matrix.Draft
import RecordFilter.Operator.Basic
import RecordFilter.Operator.Logical
import RecordFilter.Options.Basic
import RecordFilter.Options.Numeral
import RecordFilter.Options.Reader
import RecordFilter.Predicate.Basic
import RecordFilter.Predicate.Comparison
import RecordFilter.Predicate.FieldTest
import RecordFilter.Predicate.Text
import RecordFilter.Proofs.Binary64.JsonNumber
import RecordFilter.Proofs.Binary64.Nearest
import RecordFilter.Proofs.Binary64.Order
import RecordFilter.Proofs.Binary64.Range
import RecordFilter.Proofs.Binary64.ReadBack
import RecordFilter.Proofs.Binary64.Shortest
import RecordFilter.Proofs.Binary64.Text
import RecordFilter.Proofs.Binary64.Whole
import RecordFilter.Proofs.CarryOver
import RecordFilter.Proofs.Coercion.Acceptance
import RecordFilter.Proofs.Coercion.Agreement
import RecordFilter.Proofs.Coercion.Basic
import RecordFilter.Proofs.Coercion.Narrowing
import RecordFilter.Proofs.Coercion.Numbers
import RecordFilter.Proofs.Coercion.ReadBack
import RecordFilter.Proofs.Coercion.Shape
import RecordFilter.Proofs.Coercion.Spelling
import RecordFilter.Proofs.Coercion.Typing
import RecordFilter.Proofs.Coercion.Written
import RecordFilter.Proofs.Compiler.Acceptance
import RecordFilter.Proofs.Compiler.CaseFolding
import RecordFilter.Proofs.Compiler.Choices
import RecordFilter.Proofs.Compiler.Columns
import RecordFilter.Proofs.Compiler.Conditions
import RecordFilter.Proofs.Compiler.Errors
import RecordFilter.Proofs.Compiler.Extension
import RecordFilter.Proofs.Compiler.Layout
import RecordFilter.Proofs.Compiler.Meaning
import RecordFilter.Proofs.Compiler.Membership
import RecordFilter.Proofs.Compiler.NativeConstants
import RecordFilter.Proofs.Compiler.Rearrangement
import RecordFilter.Proofs.Compiler.Registration
import RecordFilter.Proofs.Compiler.Single
import RecordFilter.Proofs.Compiler.Typing
import RecordFilter.Proofs.Compiler.Widening
import RecordFilter.Proofs.Condition
import RecordFilter.Proofs.Decimal.Conversion
import RecordFilter.Proofs.Decimal.Exactness
import RecordFilter.Proofs.Decimal.Numeral
import RecordFilter.Proofs.Decimal.Spelling
import RecordFilter.Proofs.Decimal.Text
import RecordFilter.Proofs.Decimal.Value
import RecordFilter.Proofs.Failure
import RecordFilter.Proofs.Integer
import RecordFilter.Proofs.Json.Canonical
import RecordFilter.Proofs.Json.Numeral
import RecordFilter.Proofs.Json.ReadBack
import RecordFilter.Proofs.Json.Strings
import RecordFilter.Proofs.Json.Tree
import RecordFilter.Proofs.Matrix.DepthLimit
import RecordFilter.Proofs.Matrix.Draft
import RecordFilter.Proofs.Matrix.Elements
import RecordFilter.Proofs.Matrix.Grammar
import RecordFilter.Proofs.Matrix.ReadBack
import RecordFilter.Proofs.Matrix.Repeats
import RecordFilter.Proofs.Matrix.RoundTrip
import RecordFilter.Proofs.Matrix.Selection
import RecordFilter.Proofs.Matrix.Stability
import RecordFilter.Proofs.Matrix.TextRoundTrip
import RecordFilter.Proofs.Matrix.Tree
import RecordFilter.Proofs.Matrix.Writing
import RecordFilter.Proofs.Predicate.Leaves
import RecordFilter.Proofs.Predicate.Narrowing
import RecordFilter.Proofs.Rounding
import RecordFilter.Proofs.Schema.Extension
import RecordFilter.Proofs.Schema.Index
import RecordFilter.Proofs.Schema.Lookup
import RecordFilter.Proofs.Selection
import RecordFilter.Proofs.Text.Digits
import RecordFilter.Proofs.Text.Lowercase
import RecordFilter.Proofs.Timestamp.Order
import RecordFilter.Proofs.Timestamp.Text
import RecordFilter.Proofs.Traversal
import RecordFilter.Proofs.Uuid
import RecordFilter.Proofs.Value.Order
import RecordFilter.Proofs.Value.PartialOrder
import RecordFilter.Proofs.Value.Places
import RecordFilter.Rounding
import RecordFilter.Schema.Basic
import RecordFilter.Schema.Choices
import RecordFilter.Schema.FieldIndex
import RecordFilter.Schema.Session
import RecordFilter.Selection
import RecordFilter.Strategy.Basic
import RecordFilter.Strategy.Registry
import RecordFilter.Text.Blank
import RecordFilter.Text.CaseRuns
import RecordFilter.Text.Cased
import RecordFilter.Text.CharSet
import RecordFilter.Text.Digits
import RecordFilter.Text.Lowercase
import RecordFilter.Text.Printable
import RecordFilter.Text.Quoted
import RecordFilter.Text.Search
import RecordFilter.Timestamp.Basic
import RecordFilter.Timestamp.Date
import RecordFilter.Timestamp.Printer
import RecordFilter.Timestamp.Reader
import RecordFilter.Uuid
import RecordFilter.Value.Basic
import RecordFilter.Value.Text
