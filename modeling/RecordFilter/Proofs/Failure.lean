import RecordFilter.Proofs.Traversal

/-! Computations that fail in some ways only. Steps that do so make up computations that do so, and
so do the steps of a walk over a list.
-/

namespace RecordFilter

variable {ε α β : Type}

/-- Every error that the computation can end with is of this kind. -/
def FailsOnly (kind : ε → Prop) (x : Except ε α) : Prop :=
  ∀ e, x = .error e → kind e

namespace FailsOnly

variable {kind : ε → Prop}

theorem ok (a : α) : FailsOnly kind (.ok a) := by
  intro e failed
  cases failed

theorem error {e : ε} (h : kind e) : FailsOnly kind (.error e : Except ε α) := by
  intro e' failed
  cases failed
  exact h

theorem imp {kind' : ε → Prop} {x : Except ε α} (h : FailsOnly kind x)
    (wider : ∀ e, kind e → kind' e)
    : FailsOnly kind' x :=
  fun e failed => wider e (h e failed)

/-- Of two steps in a row the second one counts for what the first one returns. -/
theorem bind {x : Except ε α} {f : α → Except ε β} (first : FailsOnly kind x)
    (next : ∀ a, x = .ok a → FailsOnly kind (f a))
    : FailsOnly kind (x >>= f) := by
  cases x with
  | ok a => exact next a rfl
  | error e => exact .error (first e rfl)

theorem ite {P : Prop} [Decidable P] {x x' : Except ε α} (pass : P → FailsOnly kind x)
    (fail : ¬P → FailsOnly kind x')
    : FailsOnly kind (if P then x else x') := by
  by_cases h : P
  · rw [if_pos h]
    exact pass h
  · rw [if_neg h]
    exact fail h

/-- A walk over a list ends with an error of one of its steps. -/
theorem mapM {f : α → Except ε β} {items : List α}
    (each : ∀ item ∈ items, FailsOnly kind (f item))
    : FailsOnly kind (items.mapM f) := by
  intro e failed
  rw [← errorOf?_eq_some_iff, errorOf?_mapM] at failed
  obtain ⟨item, member, failed⟩ := List.exists_of_findSome?_eq_some failed
  exact each item member e (errorOf?_eq_some_iff.mp failed)

end FailsOnly

end RecordFilter
