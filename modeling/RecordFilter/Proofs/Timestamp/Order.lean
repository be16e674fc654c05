import RecordFilter.Timestamp.Basic

/-! Instants in their order. The rank of an instant counts all its parts, each in a range of its
own, so that no two instants have the same rank.
-/

namespace RecordFilter

theorem Date.bounds (date : Date) : 1 ≤ date.month ∧ date.month ≤ 12 ∧ date.day ≤ 31 := by
  obtain ⟨_, _, first, last⟩ := date.valid
  unfold daysIn at last
  split at last
  any_goals omega
  split at last <;> omega

/-- Instants of one rank have the same parts, from the least one on. -/
theorem Timestamp.rank_injective {t u : Timestamp} (same : t.rank = u.rank) : t = u := by
  obtain ⟨low, high, days⟩ := t.date.bounds
  obtain ⟨low', high', days'⟩ := u.date.bounds
  obtain ⟨hours, minutes, seconds, nanos⟩ := t.valid
  obtain ⟨hours', minutes', seconds', nanos'⟩ := u.valid
  simp only [rank] at same
  have nano : t.nano = u.nano := by omega
  have second : t.second = u.second := by omega
  have minute : t.minute = u.minute := by omega
  have hour : t.hour = u.hour := by omega
  have day : t.date.day = u.date.day := by omega
  have month : t.date.month = u.date.month := by omega
  have year : t.date.year = u.date.year := by omega
  obtain ⟨⟨_, _, _, _⟩, _, _, _, _, _⟩ := t
  obtain ⟨⟨_, _, _, _⟩, _, _, _, _, _⟩ := u
  subst nano second minute hour day month year
  rfl

end RecordFilter
