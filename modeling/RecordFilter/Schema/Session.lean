import RecordFilter.Schema.FieldIndex

/-! Field indexes of several record types. An index is built when it is first asked for and kept
until all are dropped, even if its record type is declared anew in the meantime.
-/

namespace RecordFilter

structure Session (κ ρ : Type) where
  schemas : κ → Schema ρ
  indexes : List (κ × FieldIndex ρ)

namespace Session

variable {κ ρ : Type} [DecidableEq κ]

/-- A session without any index. -/
def start (schemas : κ → Schema ρ) : Session κ ρ :=
  ⟨schemas, []⟩

/-- Declares the record type of a key from now on. -/
def declare (session : Session κ ρ) (key : κ) (schema : Schema ρ) : Session κ ρ :=
  { session with schemas := fun other => if other = key then schema else session.schemas other }

/-- The index of a key, and the session that keeps it. -/
def index (session : Session κ ρ) (key : κ) : FieldIndex ρ × Session κ ρ :=
  match session.indexes.lookup key with
  | some index => (index, session)
  | none =>
      let index := FieldIndex.ofSchema (session.schemas key)
      (index, { session with indexes := (key, index) :: session.indexes })

/-- Drops all indexes. -/
def clear (session : Session κ ρ) : Session κ ρ :=
  { session with indexes := [] }

/-- The number of indexes that are kept. -/
def size (session : Session κ ρ) : Nat :=
  session.indexes.length

end Session

end RecordFilter
