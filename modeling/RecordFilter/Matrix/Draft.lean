import RecordFilter.Matrix.Basic

/-! Matrices under construction. A draft keeps its first fault and ignores the steps after it. -/

namespace RecordFilter

structure Draft where
  operator : LogicalOperator
  conditions : List Condition
  nested : List Matrix
  fault? : Option Error

namespace Draft

def empty : Draft :=
  ⟨.and, [], [], none⟩

/-- Keeps the fault unless there is one already. -/
def fail (draft : Draft) (fault : Error) : Draft :=
  { draft with fault? := draft.fault?.or (some fault) }

/-- Sets how the parts are combined; an operator that combines nothing is a fault. -/
def withOperator (draft : Draft) (op : Operator) : Draft :=
  match LogicalOperator.ofOperator op with
  | .ok op => { draft with operator := op }
  | .error fault => draft.fail fault

/-- Adds a condition or the fault of one. -/
def add (draft : Draft) (condition : Except Error Condition) : Draft :=
  match condition with
  | .ok condition =>
      if draft.fault?.isNone then
        { draft with conditions := draft.conditions ++ [condition] }
      else
        draft
  | .error fault => draft.fail fault

/-- Compares a field with an operand. -/
def addOperand (draft : Draft) (field : String) (op : Operator) (operand : Operand) : Draft :=
  draft.add (Condition.make field op operand)

def addCondition (draft : Draft) (field : String) (op : Operator) (value : Scalar) : Draft :=
  draft.addOperand field op (.single value)

def addPattern (draft : Draft) (field : String) (op : Operator) (pattern : String) : Draft :=
  draft.addOperand field op (.pattern pattern)

def addValues (draft : Draft) (field : String) (op : Operator) (values : List Scalar) : Draft :=
  draft.addOperand field op (.array values)

/-- Compares two fields. -/
def addColumn (draft : Draft) (field : String) (op : Operator) (other : String) : Draft :=
  draft.add (Condition.column field op other)

def addNullCheck (draft : Draft) (field : String) : Draft :=
  draft.add (Condition.isNull field)

def addNested (draft : Draft) (m : Matrix) : Draft :=
  if draft.fault?.isNone then { draft with nested := draft.nested ++ [m] } else draft

/-- The finished matrix, or the first fault. -/
def build (draft : Draft) : Except Error Matrix :=
  match draft.fault? with
  | some fault => .error fault
  | none => .ok (.node draft.operator draft.conditions draft.nested)

end Draft

end RecordFilter
