import RecordFilter.Compiler

/-! The records that a matrix selects, one at a time or all at once. -/

namespace RecordFilter

/-- The records that are still to be examined, and the predicate for them. -/
structure Selection (ρ : Type) where
  remaining : List ρ
  predicate : Predicate ρ

namespace Selection

variable {ρ : Type}

/-- The next record that is accepted and the selection after it; without one, nothing remains. -/
def next (selection : Selection ρ) : Option ρ × Selection ρ :=
  match selection.remaining.dropWhile fun record => !selection.predicate.accepts record with
  | [] => (none, { selection with remaining := [] })
  | record :: rest => (some record, { selection with remaining := rest })

/-- Least and greatest number of records that may still come. -/
def sizeHint (selection : Selection ρ) : Nat × Option Nat :=
  (0, some selection.remaining.length)

/-- All records that are still to come. -/
def toList (selection : Selection ρ) : List ρ :=
  selection.remaining.filter fun record => selection.predicate.accepts record

end Selection

namespace Compiler

variable {ρ : Type}

/-- The selection of a matrix among records, in their order. -/
def select (compiler : Compiler) (fields : FieldIndex ρ) (m : Matrix) (records : List ρ)
    : Except Error (Selection ρ) := do
  return ⟨records, ← compiler.compile fields m⟩

/-- All records that a matrix accepts. -/
def selectAll (compiler : Compiler) (fields : FieldIndex ρ) (m : Matrix) (records : List ρ)
    : Except Error (List ρ) := do
  return (← compiler.select fields m records).toList

end Compiler

end RecordFilter
