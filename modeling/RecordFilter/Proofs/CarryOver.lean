import RecordFilter.Proofs.Traversal

/-! Computations that are run again in wider circumstances. What succeeds succeeds again, and what
fails fails alike, except for the errors that the new circumstances may cure.
-/

namespace RecordFilter

variable {ε α β γ δ : Type}

/-- How the outcome of a computation goes over into that of another one, where some errors are
curable.
-/
inductive CarriesOver (curable : ε → Prop) (f : α → β) : Except ε α → Except ε β → Prop
  | ok (a : α) : CarriesOver curable f (.ok a) (.ok (f a))
  | error (e : ε) : CarriesOver curable f (.error e) (.error e)
  | cured {e : ε} (cure : curable e) (outcome : Except ε β)
    : CarriesOver curable f (.error e) outcome

namespace CarriesOver

variable {curable : ε → Prop} {f : α → β} {g : γ → δ}

theorem map (f : α → β) (x : Except ε α) : CarriesOver curable f x (x.map f) := by
  cases x with
  | ok a => exact .ok a
  | error e => exact .error e

theorem refl (x : Except ε α) : CarriesOver curable id x x := by
  cases x with
  | ok a => exact .ok a
  | error e => exact .error e

theorem eq_ok {a : α} {y : Except ε β} (h : CarriesOver curable f (.ok a) y) : y = .ok (f a) := by
  cases h
  rfl

theorem eq_error {e : ε} {y : Except ε β} (h : CarriesOver curable f (.error e) y)
    (lasting : ¬curable e)
    : y = .error e := by
  cases h with
  | error => rfl
  | cured cure => exact absurd cure lasting

/-- Two computations in a row carry over when each of them does. -/
theorem bind {x : Except ε α} {y : Except ε β} {left : α → Except ε γ} {right : β → Except ε δ}
    (h : CarriesOver curable f x y) (step : ∀ a, CarriesOver curable g (left a) (right (f a)))
    : CarriesOver curable g (x >>= left) (y >>= right) := by
  cases h with
  | ok a => exact step a
  | error e => exact .error e
  | cured cure => exact .cured cure _

/-- A branching carries over when both branches do. -/
theorem ite {P : Prop} [Decidable P] {x x' : Except ε α} {y y' : Except ε β}
    (pass : P → CarriesOver curable f x y) (fail : ¬P → CarriesOver curable f x' y')
    : CarriesOver curable f (if P then x else x') (if P then y else y') := by
  by_cases h : P
  · rw [if_pos h, if_pos h]
    exact pass h
  · rw [if_neg h, if_neg h]
    exact fail h

/-- A walk over a list carries over when each of its steps does, by list induction. -/
theorem mapM {ι : Type} {left : ι → Except ε α} {right : ι → Except ε β} {items : List ι}
    (each : ∀ item ∈ items, CarriesOver curable f (left item) (right item))
    : CarriesOver curable (List.map f) (items.mapM left) (items.mapM right) := by
  induction items with
  | nil => exact .ok []
  | cons item rest ih =>
      obtain ⟨head, tail⟩ := List.forall_mem_cons.mp each
      rw [List.mapM_cons, List.mapM_cons]
      apply head.bind
      intro result
      apply (ih tail).bind
      intro results
      exact .ok (result :: results)

end CarriesOver

end RecordFilter
