import RecordFilter.Json.Printer
import RecordFilter.Json.Report
import RecordFilter.Matrix.Document.Reading
import RecordFilter.Matrix.Document.Writing

/-! Matrices as the values of JSON texts, within the usual depth limit. What is wrong is reported
without the kind of the error.
-/

namespace RecordFilter

def Error.report (error : Error) : Json.Report :=
  .ofMessage error.message

namespace Matrix

/-- The matrix that is the value of a text. What follows the value is looked at after the matrix. -/
def ofValueText (text : String) : Except Json.Report Matrix := do
  let (json, rest) ← (Json.leading text).mapError .ofSyntaxError
  let m ← (ofJson json.canonical defaultMaxDepth).mapError Error.report
  (Json.checkEnd text rest).mapError .ofSyntaxError
  return m

/-- The compact text whose value is the matrix. -/
def toValueText (m : Matrix) : Except Json.Report String :=
  ((m.toJson defaultMaxDepth).map Json.text).mapError Error.report

end Matrix

end RecordFilter
