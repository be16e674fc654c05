import RecordFilter.Proofs.Traversal
import RecordFilter.Selection

/-! Records one at a time. A call examines record after record until one is accepted, and leaves the
others for later. The records that come are the accepted ones in their order, the same that are
collected all at once, and after the last of them nothing remains.
-/

namespace RecordFilter

variable {ρ : Type}

/-- The records that so many calls leave unexamined, where each record in turn is examined as long
as a call is waiting for one that is accepted.
-/
def Predicate.unexamined (p : Predicate ρ) : Nat → List ρ → List ρ
  | 0, records => records
  | _ + 1, [] => []
  | calls + 1, record :: rest =>
      p.unexamined (if p.accepts record then calls else calls + 1) rest

namespace Predicate

variable (p : Predicate ρ)

@[simp]
theorem unexamined_zero (records : List ρ) : p.unexamined 0 records = records := by
  cases records <;> rfl

@[simp]
theorem unexamined_nil (calls : Nat) : p.unexamined calls [] = [] := by
  cases calls <;> rfl

/-- One more call goes on where the others have stopped, by list induction. -/
theorem unexamined_succ (calls : Nat) (records : List ρ)
    : p.unexamined (calls + 1) records = p.unexamined 1 (p.unexamined calls records) := by
  induction records generalizing calls with
  | nil => simp
  | cons record rest ih =>
      cases calls with
      | zero => rw [unexamined_zero]
      | succ calls =>
          rw [unexamined, unexamined]
          -- An accepted record answers a call, and after a rejected one the call goes on.
          split
          · exact ih calls
          · exact ih (calls + 1)

/-- What is left unexamined stands at the end of the records, by list induction. -/
theorem unexamined_suffix (calls : Nat) (records : List ρ)
    : p.unexamined calls records <:+ records := by
  induction records generalizing calls with
  | nil => simp
  | cons record rest ih =>
      cases calls with
      | zero => simp
      | succ calls => exact (ih _).trans (List.suffix_cons record rest)

/-- Each call takes one record from the front of those that are accepted, by list induction. -/
theorem filter_unexamined (calls : Nat) (records : List ρ)
    : (p.unexamined calls records).filter (fun record => p.accepts record)
      = (records.filter fun record => p.accepts record).drop calls := by
  induction records generalizing calls with
  | nil => simp
  | cons record rest ih =>
      cases calls with
      | zero => simp
      | succ calls =>
          rw [unexamined, List.filter_cons, ih]
          split
          · rw [List.drop_succ_cons]
          · rfl

/-- A call that comes after the last accepted record leaves nothing, by list induction. -/
theorem unexamined_eq_nil {calls : Nat} {records : List ρ}
    (beyond : (records.filter fun record => p.accepts record).length < calls)
    : p.unexamined calls records = [] := by
  induction records generalizing calls with
  | nil => simp
  | cons record rest ih =>
      obtain ⟨calls, rfl⟩ := Nat.exists_eq_succ_of_ne_zero (Nat.ne_zero_of_lt beyond)
      rw [List.filter_cons] at beyond
      rw [unexamined]
      split at beyond
      next accepted =>
        rw [if_pos accepted]
        exact ih (by simpa using beyond)
      next rejected =>
        rw [if_neg rejected]
        exact ih beyond

end Predicate

namespace Selection

/-- A call returns the first accepted record and leaves what comes after it, by induction on the
remaining records.
-/
theorem next_eq (p : Predicate ρ) (records : List ρ)
    : next ⟨records, p⟩
      = ((records.filter fun record => p.accepts record).head?, ⟨p.unexamined 1 records, p⟩) := by
  induction records with
  | nil => rfl
  | cons record rest ih =>
      cases accepted : p.accepts record with
      | true => simp [next, Predicate.unexamined, accepted]
      | false =>
          have passed : next ⟨record :: rest, p⟩ = next ⟨rest, p⟩ := by simp [next, accepted]
          rw [passed, ih]
          simp [Predicate.unexamined, accepted]

/-- The selection after so many calls. -/
def after (selection : Selection ρ) : Nat → Selection ρ
  | 0 => selection
  | calls + 1 => (selection.after calls).next.2

/-- What a call returns that comes after so many others. -/
def answer (selection : Selection ρ) (calls : Nat) : Option ρ :=
  (selection.after calls).next.1

/-- The records that so many calls have returned. -/
def returned (selection : Selection ρ) (calls : Nat) : List ρ :=
  (List.range calls).filterMap selection.answer

theorem length_remaining_next {selection : Selection ρ} {record : ρ}
    (found : selection.next.1 = some record)
    : selection.next.2.remaining.length < selection.remaining.length := by
  obtain ⟨records, p⟩ := selection
  cases records with
  | nil => cases found
  | cons first rest =>
      rw [next_eq, Predicate.unexamined]
      exact Nat.lt_succ_of_le (p.unexamined_suffix _ rest).length_le

/-- The records of a selection, called for one after the other until none is left. -/
def drain (selection : Selection ρ) : List ρ :=
  match _found : selection.next.1 with
  | some record => record :: selection.next.2.drain
  | none => []
termination_by selection.remaining.length
decreasing_by exact length_remaining_next _found

theorem drain_of_found {selection : Selection ρ} {record : ρ}
    (found : selection.next.1 = some record)
    : selection.drain = record :: selection.next.2.drain := by
  rw [drain]
  split
  next record' found' => rw [Option.some_inj.mp (found.symm.trans found')]
  next missing => cases found.symm.trans missing

theorem drain_of_missing {selection : Selection ρ} (missing : selection.next.1 = none)
    : selection.drain = [] := by
  rw [drain]
  split
  next found => cases missing.symm.trans found
  next => rfl

/-- Calling for the records one by one gives all of them, by induction on the calls. -/
theorem drain_eq_toList (selection : Selection ρ) : selection.drain = selection.toList := by
  induction selection using drain.induct with
  | case1 selection record found ih =>
      obtain ⟨records, p⟩ := selection
      rw [drain_of_found found, ih, next_eq, toList, p.filter_unexamined, toList, List.drop_one]
      rw [next_eq] at found
      exact List.cons_head?_tail found
  | case2 selection missing =>
      obtain ⟨records, p⟩ := selection
      rw [drain_of_missing missing]
      rw [next_eq] at missing
      exact (List.head?_eq_none_iff.mp missing).symm

/-- The calls leave what their number lets the predicate examine, by induction on the number. -/
theorem after_eq (p : Predicate ρ) (records : List ρ) (calls : Nat)
    : after ⟨records, p⟩ calls = ⟨p.unexamined calls records, p⟩ := by
  induction calls with
  | zero => rw [after, p.unexamined_zero]
  | succ calls ih => rw [after, ih, next_eq, p.unexamined_succ calls]

theorem answer_eq (p : Predicate ρ) (records : List ρ) (calls : Nat)
    : answer ⟨records, p⟩ calls = (records.filter fun record => p.accepts record)[calls]? := by
  rw [answer, after_eq, next_eq, p.filter_unexamined, List.head?_drop]

/-- The calls return the first accepted records, by induction on their number. -/
theorem returned_eq (p : Predicate ρ) (records : List ρ) (calls : Nat)
    : returned ⟨records, p⟩ calls
      = (records.filter fun record => p.accepts record).take calls := by
  induction calls with
  | zero => rfl
  | succ calls ih =>
      have last : [calls].filterMap (answer ⟨records, p⟩) = (answer ⟨records, p⟩ calls).toList := by
        cases found : answer ⟨records, p⟩ calls <;> simp [found]
      rw [returned, List.range_succ, List.filterMap_append, ← returned, ih, List.take_add_one, last,
        answer_eq]

/-- Once a call has found no record, none remains. -/
theorem unexamined_eq_nil_of_answer {p : Predicate ρ} {records : List ρ} {calls later : Nat}
    (missing : answer ⟨records, p⟩ calls = none) (after : calls < later)
    : p.unexamined later records = [] := by
  rw [answer_eq, List.getElem?_eq_none_iff] at missing
  exact p.unexamined_eq_nil (Nat.lt_of_le_of_lt missing after)

end Selection

namespace Compiler

variable {compiler : Compiler} {fields : FieldIndex ρ} {m : Matrix} {p : Predicate ρ}

/-- Where a matrix compiles, its records come one by one as they are collected all at once: those
that the predicate accepts, in their order. After any number of calls the greatest number of records
that may still come is that of the records not yet examined, which never grows and is no less than
the number of those that do come. Once a call finds no record, no later one does, and nothing
remains.
-/
theorem select_one_by_one (compiled : compiler.compile fields m = .ok p) (records : List ρ)
    : ∃ selection,
        compiler.select fields m records = .ok selection
        ∧ compiler.selectAll fields m records = .ok selection.drain
        ∧ selection.drain = (records.filter fun record => p.accepts record)
        ∧ ∀ calls,
            selection.answer calls = selection.drain[calls]?
            ∧ selection.returned calls = selection.drain.take calls
            ∧ (selection.after calls).drain = selection.drain.drop calls
            ∧ (selection.after calls).sizeHint = (0, some (p.unexamined calls records).length)
            ∧ (selection.after calls).drain.length ≤ (p.unexamined calls records).length
            ∧ (p.unexamined (calls + 1) records).length ≤ (p.unexamined calls records).length
            ∧ (selection.answer calls = none →
                ∀ later,
                  calls < later →
                  selection.answer later = none
                  ∧ (selection.after later).sizeHint = (0, some 0)) := by
  have selected : compiler.select fields m records = .ok ⟨records, p⟩ := by
    rw [select, compiled]
    rfl
  have collected : compiler.selectAll fields m records
      = .ok (records.filter fun record => p.accepts record) := by
    rw [selectAll, selected]
    rfl
  have whole : Selection.drain ⟨records, p⟩ = records.filter fun record => p.accepts record :=
    Selection.drain_eq_toList _
  refine ⟨⟨records, p⟩, selected, by rw [collected, whole], whole, fun calls => ?_⟩
  have stand := Selection.after_eq p records calls
  have rest : (Selection.after ⟨records, p⟩ calls).drain
      = (p.unexamined calls records).filter fun record => p.accepts record := by
    rw [stand, Selection.drain_eq_toList]
    rfl
  refine
    ⟨?answer, ?returned, ?rest, ?hint, ?bound, ?shrinks,
      fun missing later after => ⟨?missing, ?ended⟩⟩
  case answer => rw [whole, Selection.answer_eq]
  case returned => rw [whole, Selection.returned_eq]
  case rest => rw [rest, whole, p.filter_unexamined]
  case hint =>
    rw [stand]
    rfl
  case bound =>
    rw [rest]
    exact List.length_filter_le _ _
  case shrinks =>
    rw [p.unexamined_succ]
    exact (p.unexamined_suffix 1 _).length_le
  case missing =>
    rw [Selection.answer_eq, List.getElem?_eq_none_iff] at missing ⊢
    omega
  case ended =>
    rw [Selection.after_eq, Selection.unexamined_eq_nil_of_answer missing after]
    rfl

/-- Two adults among five records, the last of which is examined by the third call alone. -/
theorem select_one_by_one_of_adults
    : let age : Accessor Value := ⟨⟨"age", .int32, true⟩, id⟩
      let fields : FieldIndex Value := ⟨"Person", [age]⟩
      let adult : Condition := ⟨"AGE", .greaterThan, .single (.int 17), by decide⟩
      let m := Matrix.node .and [adult] []
      let records : List Value := [.int32 3, .int32 40, .null, .int32 18, .int32 5]
      standard.compile fields m = .ok (.value age (.compare .greaterThan (.int32 17)))
      ∧ ∃ selection,
          standard.select fields m records = .ok selection
          ∧ standard.selectAll fields m records = .ok [.int32 40, .int32 18]
          ∧ selection.returned 1 = [.int32 40]
          ∧ (selection.after 1).sizeHint = (0, some 3)
          ∧ (selection.after 2).sizeHint = (0, some 1)
          ∧ selection.answer 2 = none
          ∧ ∀ later,
              2 < later →
              selection.answer later = none ∧ (selection.after later).sizeHint = (0, some 0) := by
  intro age fields adult m records
  have compiled : standard.compile fields m
      = .ok (.value age (.compare .greaterThan (.int32 17))) := by
    dsimp only [age, fields, adult, m]
    rfl
  obtain ⟨selection, selected, collected, whole, calls⟩ := select_one_by_one compiled records
  have adults : selection.drain = [.int32 40, .int32 18] := whole
  have missing : selection.answer 2 = none := by
    rw [(calls 2).1, adults]
    rfl
  have first : selection.returned 1 = [.int32 40] := by
    rw [(calls 1).2.1, adults]
    rfl
  exact ⟨compiled, selection, selected, by rw [collected, adults], first, (calls 1).2.2.2.1,
    (calls 2).2.2.2.1, missing, (calls 2).2.2.2.2.2.2 missing⟩

end Compiler

end RecordFilter
