import RecordFilter.Predicate.Comparison
import RecordFilter.Text.Lowercase
import RecordFilter.Text.Search
import RecordFilter.Value.Text

/-! Tests of one field against constants and of two fields against each other. -/

namespace RecordFilter

/-- A test of the value of one field. -/
inductive ValueTest where
  | compare (comparison : Comparison) (constant : Value)
  /-- The value is among these. -/
  | among (items : List Value)
  /-- The text holds the pattern, which is in lowercase when case is ignored. -/
  | contains (pattern : String) (ignoresCase : Bool)
  | not (test : ValueTest)

/-- A test of the values of two fields. -/
inductive ColumnTest where
  | compare (comparison : Comparison)
  /-- The left text holds the right one. -/
  | contains (ignoresCase : Bool)

/-- The word for a search in text. -/
def searchKeyword (ignoresCase : Bool) : String :=
  if ignoresCase then "ilike" else "like"

namespace ValueTest

def accepts : ValueTest → Value → Bool
  | .compare comparison constant, value => comparison.holds value constant
  | .among items, value => items.any fun item => item.equals value
  | .contains pattern ignoresCase, value =>
      match value.string? with
      | some text => Text.contains (if ignoresCase then Text.lowercase text else text) pattern
      | none => false
  | .not test, value => !test.accepts value

/-- The test as a formula about a field. -/
def text (field : String) : ValueTest → String
  | .compare comparison constant =>
      field ++ " " ++ comparison.symbol ++ " " ++ constant.text
  | .among items => field ++ " in " ++ Value.text (.array items)
  | .contains pattern ignoresCase =>
      field ++ " " ++ searchKeyword ignoresCase ++ " " ++ Text.quote pattern
  | .not test => "!(" ++ test.text field ++ ")"

def diagnostic : ValueTest → String
  | .compare comparison constant =>
      Diagnostic.application "Compare" [comparison.name, constant.diagnostic]
  | .among items =>
      Diagnostic.application "In" [Diagnostic.list (items.map Value.diagnostic)]
  | .contains pattern ignoresCase =>
      Diagnostic.record "Contains" [
        ("pattern", Text.quote pattern),
        ("ignore_case", Diagnostic.bool ignoresCase)
      ]
  | .not test => Diagnostic.application "Not" [test.diagnostic]

end ValueTest

namespace ColumnTest

def accepts : ColumnTest → Value → Value → Bool
  | .compare comparison, left, right => comparison.holds left right
  | .contains ignoresCase, left, right =>
      match left.string?, right.string? with
      | some text, some pattern =>
          if ignoresCase then
            Text.contains (Text.lowercase text) (Text.lowercase pattern)
          else
            Text.contains text pattern
      | _, _ => false

def symbol : ColumnTest → String
  | .compare comparison => comparison.symbol
  | .contains ignoresCase => searchKeyword ignoresCase

def diagnostic : ColumnTest → String
  | .compare comparison => Diagnostic.application "Compare" [comparison.name]
  | .contains ignoresCase =>
      Diagnostic.record "Contains" [("ignore_case", Diagnostic.bool ignoresCase)]

end ColumnTest

end RecordFilter
