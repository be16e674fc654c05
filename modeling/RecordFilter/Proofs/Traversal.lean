import Mathlib.Data.List.Forall2

/-! Walks that stop at the first error: what they return when every step succeeds, and which error
they end with otherwise.
-/

namespace RecordFilter

variable {ε α β γ δ : Type}

/-- The error of a computation that fails. -/
def errorOf? : Except ε α → Option ε
  | .ok _ => none
  | .error e => some e

@[simp]
theorem errorOf?_ok (a : α) : errorOf? (.ok a : Except ε α) = none :=
  rfl

@[simp]
theorem errorOf?_error (e : ε) : errorOf? (.error e : Except ε α) = some e :=
  rfl

theorem errorOf?_eq_some_iff {x : Except ε α} {e : ε} : errorOf? x = some e ↔ x = .error e := by
  cases x <;> simp [errorOf?]

theorem errorOf?_eq_none_iff {x : Except ε α} : errorOf? x = none ↔ ∃ a, x = .ok a := by
  cases x <;> simp [errorOf?]

theorem toOption_eq_some_iff {x : Except ε α} {a : α} : x.toOption = some a ↔ x = .ok a := by
  cases x <;> simp [Except.toOption]

theorem toOption_bind (x : Except ε α) (f : α → Except ε β)
    : (x >>= f).toOption = x.toOption.bind fun a => (f a).toOption := by
  cases x <;> rfl

theorem toOption_mapError {ε' : Type} (f : ε → ε') (x : Except ε α)
    : (x.mapError f).toOption = x.toOption := by
  cases x <;> rfl

theorem errorOf?_map (f : α → β) (x : Except ε α) : errorOf? (x.map f) = errorOf? x := by
  cases x <;> rfl

/-- Two steps succeed together exactly when the second one succeeds on what the first returns. -/
theorem bind_eq_ok_iff {x : Except ε α} {f : α → Except ε β} {b : β}
    : (x >>= f) = .ok b ↔ ∃ a, x = .ok a ∧ f a = .ok b := by
  cases x <;> simp [bind, Except.bind]

@[simp]
theorem error_bind (e : ε) (f : α → Except ε β) : ((.error e : Except ε α) >>= f) = .error e :=
  rfl

@[simp]
theorem ok_bind (a : α) (f : α → Except ε β) : ((.ok a : Except ε α) >>= f) = f a :=
  rfl

@[simp]
theorem pure_eq_ok (a : α) : (pure a : Except ε α) = .ok a :=
  rfl

/-- A step that depends on a condition hands its result on where the condition holds. -/
theorem ite_bind {P : Prop} [Decidable P] (a : α) (e : ε) (f : α → Except ε β)
    : ((if P then .ok a else .error e : Except ε α) >>= f) = if P then f a else .error e := by
  by_cases h : P
  · rw [if_pos h, if_pos h, ok_bind]
  · rw [if_neg h, if_neg h, error_bind]

/-- A step that is known to succeed hands its result on. -/
theorem bind_of_eq_some {x : Option α} {a : α} (h : x = some a) (f : α → Option β)
    : x.bind f = f a := by
  rw [h, Option.bind_some]

/-- The error of the first step comes before that of the second. -/
theorem errorOf?_bind {x : Except ε α} {f : α → Except ε β} (later : Option ε)
    (h : ∀ a, x = .ok a → errorOf? (f a) = later)
    : errorOf? (x >>= f) = (errorOf? x).or later := by
  cases x with
  | ok a => simpa [bind, Except.bind] using h a rfl
  | error e => rfl

/-- A walk over a list returns the results of its steps one by one, by list induction. -/
theorem mapM_eq_ok_iff {f : α → Except ε β} {items : List α} {results : List β}
    : items.mapM f = .ok results ↔ List.Forall₂ (fun a b => f a = .ok b) items results := by
  induction items generalizing results with
  | nil =>
      rw [List.mapM_nil, List.forall₂_nil_left_iff]
      exact ⟨fun h => (Except.ok.inj h).symm, fun h => by rw [h]; rfl⟩
  | cons a rest ih =>
      rw [List.mapM_cons, bind_eq_ok_iff, List.forall₂_cons_left_iff]
      constructor
      · intro ⟨b, hb, h⟩
        obtain ⟨bs, hbs, h⟩ := bind_eq_ok_iff.mp h
        exact ⟨b, bs, hb, ih.mp hbs, (Except.ok.inj h).symm⟩
      · intro h
        obtain ⟨b, bs, hb, hbs, rfl⟩ := h
        exact ⟨b, hb, bind_eq_ok_iff.mpr ⟨bs, ih.mpr hbs, rfl⟩⟩

/-- Where each step of a walk gives its result or one and the same error, the walk gives all results
unless some step gives the error; by induction on the pairs.
-/
theorem mapM_eq_ite {f : α → Except ε β} {fits : α → Prop} [DecidablePred fits] {e : ε}
    {items : List α} {results : List β}
    (h : List.Forall₂ (fun a b => f a = if fits a then .ok b else .error e) items results)
    : items.mapM f = if ∀ a ∈ items, fits a then .ok results else .error e := by
  induction h with
  | nil => simp
  | @cons a b rest others head _ ih =>
      simp only [List.mapM_cons, head, ih, ite_bind, List.forall_mem_cons, ite_and]
      rfl

/-- A walk over options returns the results of its steps one by one, by list induction. -/
theorem mapM_eq_some_iff {f : α → Option β} {items : List α} {results : List β}
    : items.mapM f = some results ↔ List.Forall₂ (fun a b => f a = some b) items results := by
  induction items generalizing results with
  | nil => simp [eq_comm]
  | cons a rest ih =>
      simp only [List.mapM_cons, Option.bind_eq_bind, Option.bind_eq_some_iff, Option.pure_def,
        Option.some.injEq, List.forall₂_cons_left_iff, ih]
      constructor
      · intro ⟨b, hb, bs, hbs, same⟩
        exact ⟨b, bs, hb, hbs, same.symm⟩
      · intro ⟨b, bs, hb, hbs, same⟩
        exact ⟨b, hb, bs, hbs, same.symm⟩

/-- A walk over a list ends with the error of its first failing step, by list induction. -/
theorem errorOf?_mapM (f : α → Except ε β) (items : List α)
    : errorOf? (items.mapM f) = items.findSome? fun a => errorOf? (f a) := by
  induction items with
  | nil => rfl
  | cons a rest ih =>
      rw [List.mapM_cons, errorOf?_bind (errorOf? (rest.mapM f))]
      · rw [ih, List.findSome?_cons]
        cases errorOf? (f a) <;> rfl
      · -- Whatever the first step returns, only the rest of the walk can still fail.
        intro b _
        cases rest.mapM f <;> rfl

/-- What is found first among the parts of several items is what the first item with a find has. -/
theorem findSome?_flatMap (parts : α → List β) (f : β → Option γ) (items : List α)
    : (items.flatMap parts).findSome? f = items.findSome? fun a => (parts a).findSome? f := by
  induction items with
  | nil => rfl
  | cons a rest ih =>
      rw [List.flatMap_cons, List.findSome?_append, ih, List.findSome?_cons]
      cases (parts a).findSome? f <;> rfl

/-- Each item has a partner when every item has one by itself, by list induction. -/
theorem exists_forall₂_iff {R : α → β → Prop} {items : List α}
    : (∃ results, List.Forall₂ R items results) ↔ ∀ a ∈ items, ∃ b, R a b := by
  induction items with
  | nil => simp
  | cons a rest ih =>
      rw [List.forall_mem_cons, ← ih]
      constructor
      · intro ⟨_, h⟩
        cases h with
        | cons head tail => exact ⟨⟨_, head⟩, ⟨_, tail⟩⟩
      · intro ⟨⟨b, head⟩, ⟨bs, tail⟩⟩
        exact ⟨b :: bs, .cons head tail⟩

theorem exists_forall₂_right_iff {R : α → β → Prop} {results : List β}
    : (∃ items, List.Forall₂ R items results) ↔ ∀ b ∈ results, ∃ a, R a b := by
  have flipped (items : List α)
      : List.Forall₂ R items results ↔ List.Forall₂ (flip R) results items :=
    ⟨List.Forall₂.flip, List.Forall₂.flip⟩
  simp only [flipped]
  exact exists_forall₂_iff

/-- Partners in one relation are partners in another one that follows from it for the items. -/
theorem forall₂_imp_of_mem {R S : α → β → Prop} {items : List α} {results : List β}
    (h : List.Forall₂ R items results) (step : ∀ a ∈ items, ∀ b, R a b → S a b)
    : List.Forall₂ S items results :=
  ((List.forall₂_and_left items results).mpr ⟨step, h⟩).imp fun _ _ both => both.1 _ both.2

/-- What holds of the partners of each item holds of all results. -/
theorem forall_of_forall₂ {R : α → β → Prop} {P : β → Prop} {items : List α} {results : List β}
    (h : List.Forall₂ R items results) (step : ∀ a ∈ items, ∀ b, R a b → P b)
    : ∀ b ∈ results, P b := by
  intro b member
  have each : List.Forall₂ (fun _ b => P b) items results := forall₂_imp_of_mem h step
  obtain ⟨_, holds⟩ := exists_forall₂_right_iff.mp ⟨_, each⟩ b member
  exact holds

/-- Partners that share a feature have lists of features that agree, by induction on the pairs. -/
theorem map_eq_of_forall₂ {R : α → β → Prop} {f : α → γ} {g : β → γ} {items : List α}
    {results : List β} (h : List.Forall₂ R items results)
    (shared : ∀ a ∈ items, ∀ b, R a b → g b = f a)
    : results.map g = items.map f := by
  induction h with
  | nil => rfl
  | cons head _ ih =>
      rw [List.forall_mem_cons] at shared
      rw [List.map_cons, List.map_cons, shared.1 _ head, ih shared.2]

/-- What passes from one partner of an item to another passes from partners to partners, by
induction on the pairs.
-/
theorem forall_of_shared_partners {R : α → β → Prop} {P : β → Prop} {items : List α}
    {results others : List β} (h : List.Forall₂ R items results) (ho : List.Forall₂ R items others)
    (step : ∀ a ∈ items, ∀ b c, R a b → R a c → P c → P b) (all : ∀ c ∈ others, P c)
    : ∀ b ∈ results, P b := by
  induction h generalizing others with
  | nil => simp
  | cons head _ ih =>
      cases ho with
      | cons other ho =>
          rw [List.forall_mem_cons] at step all ⊢
          exact ⟨step.1 _ _ head other all.1, ih ho step.2 all.2⟩

/-- Results of partners are partners when they are so one by one, by induction on the pairs. -/
theorem forall₂_of_partners {R : α → β → Prop} {P : α → γ → Prop} {Q : β → δ → Prop}
    {S : γ → δ → Prop} {items : List α} {others : List β} {left : List γ} {right : List δ}
    (h : List.Forall₂ R items others) (hl : List.Forall₂ P items left)
    (hr : List.Forall₂ Q others right)
    (agree : ∀ a ∈ items, ∀ b, R a b → ∀ c d, P a c → Q b d → S c d)
    : List.Forall₂ S left right := by
  induction h generalizing left right with
  | nil =>
      cases hl
      cases hr
      exact .nil
  | cons head _ ih =>
      cases hl with
      | cons hc hl =>
          cases hr with
          | cons hd hr =>
              rw [List.forall_mem_cons] at agree
              exact .cons (agree.1 _ head _ _ hc hd) (ih hl hr agree.2)

/-- Where each pair of partners carries a result of the first over to one of the second, all results
carry over; by induction on the pairs.
-/
theorem exists_forall₂_of_partners {R : α → β → Prop} {P : α → γ → Prop} {Q : β → δ → Prop}
    {S : γ → δ → Prop} {items : List α} {others : List β} {left : List γ}
    (h : List.Forall₂ R items others) (hl : List.Forall₂ P items left)
    (step : ∀ a b c, R a b → P a c → ∃ d, Q b d ∧ S c d)
    : ∃ right, List.Forall₂ Q others right ∧ List.Forall₂ S left right := by
  induction h generalizing left with
  | nil =>
      cases hl
      exact ⟨[], .nil, .nil⟩
  | cons head _ ih =>
      cases hl with
      | cons hc hl =>
          obtain ⟨d, hd, same⟩ := step _ _ _ head hc
          obtain ⟨right, hr, all⟩ := ih hl
          exact ⟨d :: right, .cons hd hr, .cons same all⟩

end RecordFilter
