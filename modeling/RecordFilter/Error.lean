import RecordFilter.Condition.Scalar
import RecordFilter.FieldType
import RecordFilter.Json.SyntaxError
import RecordFilter.Operator.Logical

/-! Everything that can fail, as causes, and the words for each cause. -/

namespace RecordFilter

/-- Why a condition or a matrix is not valid. -/
inductive ConditionFault where
  | notLogical (op : Operator)
  | blankField
  | logicalOperator (op : Operator) (field : String)
  | strayColumn (column : String) (op : Operator)
  | blankColumn
  | missingColumn (op : Operator) (field : String)
  | notColumnOperator (op : Operator)
  | unorderedField (op : Operator) (field : Field)
  | notTextField (op : Operator) (field : Field)
  | differentTypes (left right : Field)
  | notArrayConstant (op : Operator) (kind : String)
  | nullPattern (op : Operator) (field : String)
  | notTextPattern (op : Operator) (kind : String)
  | notArrayOperand (op : Operator) (field kind : String)
  | arrayOperand (op : Operator) (field : String)
  | operandCount (op : LogicalOperator) (count : Nat)
  /-- What a strategy of the caller finds wrong, in its own words. -/
  | reported (text : String)

/-- A part of a message between single quotes. -/
def quoted (text : String) : String :=
  "'" ++ text ++ "'"

def ConditionFault.message : ConditionFault → String
  | notLogical op => "Operator " ++ quoted op.code ++ " is not a logical operator"
  | blankField => "Field name cannot be empty"
  | logicalOperator op field =>
      "Logical operator " ++ quoted op.code ++ " cannot be used in a condition on "
      ++ quoted field
  | strayColumn column op =>
      "Column reference " ++ quoted column ++ " requires a column operator, got "
      ++ quoted op.code
  | blankColumn => "Compared column name cannot be empty"
  | missingColumn op field =>
      "Operator " ++ quoted op.code ++ " on " ++ quoted field
      ++ " requires a column to compare to"
  | notColumnOperator op =>
      "Operator " ++ quoted op.code ++ " is not a column comparison operator"
  | unorderedField op field =>
      "Operator " ++ quoted op.code ++ " requires an ordered field, but " ++ quoted field.name
      ++ " is " ++ field.type.text
  | notTextField op field =>
      "Operator " ++ quoted op.code ++ " requires a string field, but " ++ quoted field.name
      ++ " is " ++ field.type.text
  | differentTypes left right =>
      "Cannot compare " ++ quoted left.name ++ " (" ++ left.type.text ++ ") with "
      ++ quoted right.name ++ " (" ++ right.type.text ++ ")"
  | notArrayConstant op kind =>
      "Operator " ++ quoted op.code ++ " requires an array value, got " ++ kind
  | nullPattern op field =>
      "Operator " ++ quoted op.code ++ " on " ++ quoted field ++ " requires a non-null pattern"
  | notTextPattern op kind =>
      "Operator " ++ quoted op.code ++ " requires a string pattern, got " ++ kind
  | notArrayOperand op field kind =>
      "Operator " ++ quoted op.code ++ " on " ++ quoted field
      ++ " requires an array value, got " ++ kind
  | arrayOperand op field =>
      "Array values are not valid with operator " ++ quoted op.code ++ " on " ++ quoted field
  | operandCount op count =>
      quoted op.code ++ " requires exactly one operand, found " ++ toString count
  | reported text => text

/-- Why the members of an object are no options. -/
inductive OptionsFault where
  | duplicateField
  | negative (value : Int)

def OptionsFault.message : OptionsFault → String
  | duplicateField => "duplicate field `max_depth`"
  | negative value => "invalid value: integer `" ++ toString value ++ "`, expected usize"

/-- Why a document cannot be read or written. -/
inductive DocumentFault where
  | blankText
  | malformed (error : Json.SyntaxError)
  | notFinite (value : Binary64)
  | notMatrix (found : Json)
  | notOneKey
  | notOperands (code : String)
  | notElement (found : Json)
  | notOneField
  | notFieldTest (field : String)
  | notOneOperator (field : String)
  | notColumnName (code : String)
  | notNullCheck (code field : String) (found : Json)
  | objectValue (op : Operator)
  | options (fault : OptionsFault) (place : Json.Position)

def DocumentFault.message : DocumentFault → String
  | blankText => "JSON text cannot be empty"
  | malformed error => error.message
  | notFinite value => "Cannot encode non-finite number " ++ value.text
  | notMatrix found => "expected a matrix object, found " ++ found.text
  | notOneKey => "a matrix object must have exactly one logical operator key"
  | notOperands code => "operands of " ++ quoted code ++ " must be an array"
  | notElement found => "expected an object element, found " ++ found.text
  | notOneField => "a condition must name exactly one field"
  | notFieldTest field => "condition on " ++ quoted field ++ " must be an object"
  | notOneOperator field => "condition on " ++ quoted field ++ " must have exactly one operator"
  | notColumnName code =>
      "operator " ++ quoted code ++ " expects a single-element array naming a field"
  | notNullCheck code field found =>
      "operator " ++ quoted code ++ " on " ++ quoted field ++ " only accepts true, found "
      ++ found.text
  | objectValue op => "operator " ++ quoted op.code ++ " cannot take an object value"
  | options fault place => fault.message ++ " at " ++ place.text

/-- What an operator is compared with: a constant or another field. -/
inductive Context where
  | value
  | column
deriving DecidableEq

def Context.text : Context → String
  | value => "value"
  | column => "column"

inductive Error where
  | unknownField (field record : String)
  | unknownOperator (code : String)
  | unsupportedOperator (op : Operator) (context : Context)
  | invalidCondition (fault : ConditionFault)
  | valueConversion (source : Scalar) (target : FieldType)
  | unsupportedValue (kind : String) (target : FieldType)
  | depthExceeded (limit : Nat)
  | serialization (fault : DocumentFault)

def Error.message : Error → String
  | unknownField field record =>
      "Unknown field " ++ quoted field ++ " on record " ++ quoted record
  | unknownOperator code => "Unknown operator: " ++ code
  | unsupportedOperator op context =>
      "No " ++ context.text ++ " strategy registered for operator " ++ quoted op.code
  | invalidCondition fault => "Invalid condition: " ++ fault.message
  | valueConversion source target => "Cannot convert " ++ source.text ++ " to " ++ target.text
  | unsupportedValue kind target =>
      "Unsupported value of type " ++ kind ++ " for target " ++ target.text
  | depthExceeded limit => "Maximum matrix depth of " ++ toString limit ++ " exceeded"
  | serialization fault => "Serialization error: " ++ fault.message

/-- The operator of a code. -/
def Operator.resolve (code : String) : Except Error Operator :=
  match ofCode? code with
  | some op => .ok op
  | none => .error (.unknownOperator code)

/-- An operator as a logical one. -/
def LogicalOperator.ofOperator (op : Operator) : Except Error LogicalOperator :=
  match ofOperator? op with
  | some op => .ok op
  | none => .error (.invalidCondition (.notLogical op))

/-- The logical operator of a code. -/
def LogicalOperator.resolve (code : String) : Except Error LogicalOperator := do
  ofOperator (← Operator.resolve code)

end RecordFilter
