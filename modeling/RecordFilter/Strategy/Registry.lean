import RecordFilter.Strategy.Basic

/-! Strategies in the order in which they are asked; the first that handles an operator builds. -/

namespace RecordFilter

structure StrategyRegistry where
  value : List ValueStrategy
  column : List ColumnStrategy

namespace StrategyRegistry

def empty : StrategyRegistry :=
  ⟨[], []⟩

/-- Adds a strategy for constants after the others. -/
def registerValue (registry : StrategyRegistry) (strategy : ValueStrategy) : StrategyRegistry :=
  { registry with value := registry.value ++ [strategy] }

/-- Adds a strategy for two fields after the others. -/
def registerColumn (registry : StrategyRegistry) (strategy : ColumnStrategy)
    : StrategyRegistry :=
  { registry with column := registry.column ++ [strategy] }

/-- The six comparisons, membership and its opposite, and patterns. -/
def standard : StrategyRegistry where
  value := ComparisonRule.all.map .comparison ++ [.membership, .exclusion, .pattern]
  column := ComparisonRule.all.map .comparison ++ [.pattern]

/-- The strategy for an operator and a constant. -/
def valueFor (registry : StrategyRegistry) (op : Operator) : Except Error ValueStrategy :=
  if op.kind == .comparison || op.isText then
    match registry.value.find? (·.handles op) with
    | some strategy => .ok strategy
    | none => .error (.unsupportedOperator op .value)
  else
    .error (.unsupportedOperator op .value)

/-- The strategy for an operator and another field. -/
def columnFor (registry : StrategyRegistry) (op : Operator) : Except Error ColumnStrategy :=
  if op.isColumn then
    match registry.column.find? (·.handles op) with
    | some strategy => .ok strategy
    | none => .error (.unsupportedOperator op .column)
  else
    .error (.unsupportedOperator op .column)

def diagnostic (registry : StrategyRegistry) : String :=
  Diagnostic.record "StrategyProvider" [
    ("value", Diagnostic.list (registry.value.map fun strategy => Text.quote strategy.name)),
    ("column", Diagnostic.list (registry.column.map fun strategy => Text.quote strategy.name))
  ]

end StrategyRegistry

end RecordFilter
