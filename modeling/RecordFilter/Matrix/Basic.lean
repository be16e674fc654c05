import RecordFilter.Condition.Basic

/-! Filters as trees: each node combines conditions and further nodes by one operator. -/

namespace RecordFilter

inductive Matrix where
  | node (operator : LogicalOperator) (conditions : List Condition) (nested : List Matrix)

/-- The depth of matrices that is allowed unless another one is asked for. -/
def defaultMaxDepth : Nat := 10

namespace Matrix

/-- The matrix without conditions, which accepts everything. -/
def empty : Matrix :=
  node .and [] []

def operator : Matrix → LogicalOperator
  | node operator _ _ => operator

def conditions : Matrix → List Condition
  | node _ conditions _ => conditions

def nested : Matrix → List Matrix
  | node _ _ nested => nested

def isEmpty (m : Matrix) : Bool :=
  m.conditions.isEmpty && m.nested.isEmpty

mutual

/-- The levels of the tree, its root included. -/
def depth : Matrix → Nat
  | node _ _ nested => 1 + maxDepth nested

def maxDepth : List Matrix → Nat
  | [] => 0
  | m :: rest => max m.depth (maxDepth rest)

end

def equalConditions : List Condition → List Condition → Bool
  | [], [] => true
  | x :: xs, y :: ys => x.equals y && equalConditions xs ys
  | _, _ => false

mutual

/-- Equality node by node. -/
def equals : Matrix → Matrix → Bool
  | node op conditions nested, node op' conditions' nested' =>
      op == op' && equalConditions conditions conditions' && equalNested nested nested'

def equalNested : List Matrix → List Matrix → Bool
  | [], [] => true
  | x :: xs, y :: ys => x.equals y && equalNested xs ys
  | _, _ => false

end

end Matrix

end RecordFilter
