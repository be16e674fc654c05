import RecordFilter.Coercion
import RecordFilter.Proofs.Traversal

/-! When constants take a type. A single constant does so when it stands for a value of the type,
and an array of a document when all of its items take the type of the elements.
-/

namespace RecordFilter

/-- A native constant takes a type when it stands for a value of it. -/
theorem Scalar.convert_eq_ok_iff {scalar : Scalar} {type : FieldType} {value : Value}
    : scalar.convert type = .ok value ↔ scalar.toValue? type = some value := by
  cases type with
  | array element => simp [convert, toValue?]
  | _ =>
      unfold convert
      simp only
      split <;> simp_all

namespace Json

theorem convertSingle_eq_ok_iff {json : Json} {type : FieldType} {value : Value}
    : convertSingle type json = .ok value ↔ json.toValue? type = some value := by
  cases type with
  | array element => cases json <;> simp [convertSingle, toValue?]
  | _ =>
      unfold convertSingle convertScalar
      simp only
      split <;> simp_all

/-- A value of a document that is neither null nor a list takes a type when it stands for a value of
it.
-/
theorem convert_eq_ok_iff {json : Json} {type : FieldType} {value : Value} (h : json ≠ .null)
    (single : ∀ items, json ≠ .array items)
    : json.convert type = .ok value ↔ json.toValue? type = some value := by
  cases json with
  | null => exact absurd rfl h
  | array items => exact absurd rfl (single items)
  | object members => cases type <;> simp [convert, toValue?]
  | bool _ | number _ | string _ => exact convertSingle_eq_ok_iff

theorem convertItems_eq_mapM (type : FieldType) (items : List Json)
    : convertItems type items = items.mapM fun item => item.convert type := by
  induction items with
  | nil => rfl
  | cons item rest ih => rw [convertItems, ih, List.mapM_cons]

/-- A value of a document takes a type in one of three ways: as null, item by item, or as what it
stands for.
-/
theorem convert_eq_ok_cases {json : Json} {type : FieldType} {value : Value}
    (h : json.convert type = .ok value)
    : (json = .null ∧ value = .null)
      ∨ (∃ items element values,
          json = .array items
          ∧ type = .array element
          ∧ value = .array values
          ∧ List.Forall₂ (fun item value => item.convert element = .ok value) items values)
      ∨ json.toValue? type = some value := by
  cases json with
  | null =>
      cases h
      exact .inl ⟨rfl, rfl⟩
  | array items =>
      cases type with
      | array element =>
          rw [convert, convertItems_eq_mapM, bind_eq_ok_iff] at h
          obtain ⟨values, each, same⟩ := h
          cases same
          exact .inr <| .inl ⟨items, element, values, rfl, rfl, rfl, mapM_eq_ok_iff.mp each⟩
      | _ => cases h
  | object _ | bool _ | number _ | string _ =>
      exact .inr <| .inr <| (convert_eq_ok_iff (by simp) (by simp)).mp h

end Json

/-- A number of a document takes a type when it stands for a value of it. -/
theorem Scalar.coerce_number_eq_ok_iff {text : String} {type : FieldType} {value : Value}
    : (Scalar.json (.number text)).coerce type = .ok value
      ↔ (Json.number text).toValue? type = some value :=
  Json.convert_eq_ok_iff (by simp) (by simp)

end RecordFilter
