import RecordFilter.Predicate.FieldTest
import RecordFilter.Schema.Basic

/-! Predicates on records: tests of fields and their combinations. -/

namespace RecordFilter

inductive Predicate (ρ : Type) where
  | constant (holds : Bool)
  | value (field : Accessor ρ) (test : ValueTest)
  | column (left right : Accessor ρ) (test : ColumnTest)
  | isNull (field : Accessor ρ)
  | and (parts : List (Predicate ρ))
  | or (parts : List (Predicate ρ))
  | not (part : Predicate ρ)

namespace Predicate

mutual

/-- Whether a record is accepted. -/
def accepts (record : ρ) : Predicate ρ → Bool
  | .constant holds => holds
  | .value field test => test.accepts (field.read record)
  | .column left right test => test.accepts (left.read record) (right.read record)
  | .isNull field => (field.read record).isNull
  | .and parts => allAccept record parts
  | .or parts => someAccepts record parts
  | .not part => !part.accepts record

def allAccept (record : ρ) : List (Predicate ρ) → Bool
  | [] => true
  | part :: rest => part.accepts record && allAccept record rest

def someAccepts (record : ρ) : List (Predicate ρ) → Bool
  | [] => false
  | part :: rest => part.accepts record || someAccepts record rest

end

mutual

/-- The number of tests, where constants count as tests. -/
def leafCount : Predicate ρ → Nat
  | .and parts => leafCounts parts
  | .or parts => leafCounts parts
  | .not part => part.leafCount
  | .constant _ => 1
  | .value _ _ => 1
  | .column _ _ _ => 1
  | .isNull _ => 1

def leafCounts : List (Predicate ρ) → Nat
  | [] => 0
  | part :: rest => part.leafCount + leafCounts rest

end

end Predicate

end RecordFilter
