import RecordFilter.Proofs.Coercion.Typing
import RecordFilter.Proofs.Json.Tree

/-! What constants look like to a type, and what coercion makes of it. A value that is made has the
shape of its constant, null for null and list for list. Where none is made, the first position in
depth-first order that does not fit gives the error, which tells a wrong shape from a constant that
stands for no value of the type.
-/

namespace RecordFilter

/-- A constant as a tree of lists. -/
inductive Shape where
  | null
  /-- A constant that is taken as a whole. -/
  | single (source : Scalar)
  | list (kind : String) (items : List Shape)
  /-- An object of a document or the name of a field, which are constants of no type. -/
  | foreign (kind : String)

mutual

def Json.shape : Json → Shape
  | .null => .null
  | .array items => .list (kind (.array items)) (shapes items)
  | .object members => .foreign (kind (.object members))
  | .bool value => .single (.json (.bool value))
  | .number text => .single (.json (.number text))
  | .string text => .single (.json (.string text))

def Json.shapes : List Json → List Shape
  | [] => []
  | item :: rest => item.shape :: shapes rest

end

theorem Json.shapes_eq_map (items : List Json) : shapes items = items.map shape := by
  induction items with
  | nil => rfl
  | cons item rest ih => rw [shapes, ih, List.map_cons]

def Scalar.shape : Scalar → Shape
  | .json document => document.shape
  | scalar => .single scalar

def Operand.shape (operand : Operand) : Shape :=
  match operand with
  | .null => .null
  | .single value => value.shape
  | .pattern text => .single (.string text)
  | .array items => .list operand.kind (items.map Scalar.shape)
  | .column _ => .foreign operand.kind

/-- The value of a type other than an array that a constant from either side stands for. -/
def Scalar.singleValue? (scalar : Scalar) (type : FieldType) : Option Value :=
  match scalar with
  | .json document => document.toValue? type
  | _ => scalar.toValue? type

theorem Scalar.singleValue?_of_native {scalar : Scalar} (type : FieldType)
    (native : ∀ document, scalar ≠ .json document)
    : scalar.singleValue? type = scalar.toValue? type := by
  cases scalar with
  | json document => exact absurd rfl (native document)
  | _ => rfl

namespace Shape

def kind : Shape → String
  | .null => "null"
  | .single source => source.kind
  | .list kind _ => kind
  | .foreign kind => kind

/-- A part of a constant and the type that it has to take. -/
structure Position where
  shape : Shape
  type : FieldType

/-- The shape fits no value of the type: a list is for arrays only, and arrays are for lists. -/
def Position.clashes (position : Position) : Bool :=
  match position.shape, position.type with
  | .null, _ => false
  | .foreign _, _ => true
  | .list _ _, .array _ => false
  | .list _ _, _ => true
  | .single _, .array _ => true
  | .single _, _ => false

/-- The error of a position by itself, whatever stands below it. -/
def Position.error? (position : Position) : Option Error :=
  if position.clashes then
    some (.unsupportedValue position.shape.kind position.type)
  else
    match position.shape with
    | .single source =>
        if (source.singleValue? position.type).isNone then
          some (.valueConversion source position.type)
        else
          none
    | _ => none

/-- The positions of a constant in depth-first order: a list comes before its items, and these
follow from left to right where the type is an array.
-/
def positions : FieldType → Shape → List Position
  | .array element, .list kind items =>
      ⟨.list kind items, .array element⟩ :: items.flatMap (positions element)
  | type, shape => [⟨shape, type⟩]

/-- The first error among the positions. -/
def firstError? (type : FieldType) (shape : Shape) : Option Error :=
  (positions type shape).findSome? Position.error?

theorem firstError?_null (type : FieldType) : firstError? type .null = none := by
  cases type <;> rfl

theorem firstError?_foreign (type : FieldType) (kind : String)
    : firstError? type (.foreign kind) = some (.unsupportedValue kind type) := by
  cases type <;> rfl

theorem firstError?_single (type : FieldType) (source : Scalar)
    : firstError? type (.single source) = Position.error? ⟨.single source, type⟩ := by
  have alone : positions type (.single source) = [⟨.single source, type⟩] := by cases type <;> rfl
  rw [firstError?, alone, List.findSome?_singleton]

theorem firstError?_list (element : FieldType) (kind : String) (items : List Shape)
    : firstError? (.array element) (.list kind items) = items.findSome? (firstError? element) := by
  exact findSome?_flatMap (positions element) Position.error? items

end Shape

open Shape (firstError?)

section Errors

/-- A list of constants fails with the error of the first of them that fails. -/
theorem errorOf?_array {α : Type} {f : α → Except Error Value} {shape : α → Shape}
    {element : FieldType} {items : List α}
    (each : ∀ item ∈ items, errorOf? (f item) = firstError? element (shape item)) (kind : String)
    : errorOf? (do return Value.array (← items.mapM f))
      = firstError? (.array element) (.list kind (items.map shape)) := by
  have same : (items.map fun item => errorOf? (f item))
      = items.map fun item => firstError? element (shape item) := List.map_congr_left each
  rw [errorOf?_bind none fun _ _ => rfl, Option.or_none, errorOf?_mapM, Shape.firstError?_list]
  simpa only [List.findSome?_map, Function.comp_def, id_eq]
    using congrArg (List.findSome? id) same

theorem Scalar.errorOf?_convert {scalar : Scalar} (type : FieldType)
    (native : ∀ document, scalar ≠ .json document)
    : errorOf? (scalar.convert type) = firstError? type (.single scalar) := by
  have value := singleValue?_of_native type native
  rw [Shape.firstError?_single, Shape.Position.error?]
  cases type with
  | array element => rfl
  | _ =>
      simp only [Shape.Position.clashes, convert, value, Bool.false_eq_true, if_false]
      split <;> simp_all

namespace Json

theorem errorOf?_convertSingle (type : FieldType) (json : Json)
    : errorOf? (convertSingle type json) = firstError? type (.single (.json json)) := by
  rw [Shape.firstError?_single, Shape.Position.error?]
  cases type with
  | array element => rfl
  | _ =>
      simp only [Shape.Position.clashes, convertSingle, convertScalar, Scalar.singleValue?,
        Bool.false_eq_true, if_false]
      split <;> simp_all

/-- The error of a value of a document, by induction on the value. -/
theorem errorOf?_convert (type : FieldType) (json : Json)
    : errorOf? (json.convert type) = firstError? type json.shape := by
  induction json using Json.induction generalizing type with
  | null => exact (Shape.firstError?_null type).symm
  | bool value => exact errorOf?_convertSingle type (.bool value)
  | number text => exact errorOf?_convertSingle type (.number text)
  | string text => exact errorOf?_convertSingle type (.string text)
  | object members _ => exact (Shape.firstError?_foreign type _).symm
  | array items ih =>
      cases type with
      | array element =>
          rw [convert, convertItems_eq_mapM, shape, shapes_eq_map]
          exact errorOf?_array (fun item member => ih item member element) _
      | _ => rfl

end Json

theorem Scalar.errorOf?_coerce (type : FieldType) (scalar : Scalar)
    : errorOf? (scalar.coerce type) = firstError? type scalar.shape := by
  by_cases native : ∀ document, scalar ≠ .json document
  · have outside : scalar.coerce type = scalar.convert type ∧ scalar.shape = .single scalar := by
      cases scalar with
      | json document => exact absurd rfl (native document)
      | _ => exact ⟨rfl, rfl⟩
    rw [outside.1, outside.2, errorOf?_convert type native]
  · simp only [ne_eq, not_forall, not_not] at native
    obtain ⟨document, rfl⟩ := native
    exact document.errorOf?_convert type

/-- The error of an operand is the first one among its positions. -/
theorem Operand.errorOf?_coerce (type : FieldType) (operand : Operand)
    : errorOf? (operand.coerce type) = firstError? type operand.shape := by
  cases operand with
  | null => exact (Shape.firstError?_null type).symm
  | single value => exact value.errorOf?_coerce type
  | pattern text => exact Scalar.errorOf?_convert type (by simp)
  | column name => exact (Shape.firstError?_foreign type _).symm
  | array items =>
      cases type with
      | array element => exact errorOf?_array (fun item _ => item.errorOf?_coerce element) _
      | _ => rfl

end Errors

/-- A value of the type has the shape of a constant: null stands for null, a single constant for the
value that it has by itself, which is neither null nor an array, and a list for an array of as many
values in its order.
-/
inductive Value.Mirrors : Value → Shape → FieldType → Prop
  | null (type : FieldType) : Mirrors .null .null type
  | single {value : Value} {source : Scalar} {type : FieldType}
    (read : source.singleValue? type = some value) (filled : value.isNull = false)
    (typed : value.HasType type) (leaf : type.isFilterable = true)
    : Mirrors value (.single source) type
  | list {values : List Value} {kind : String} {items : List Shape} {element : FieldType}
    (length : values.length = items.length)
    (each
      : ∀ (i : Nat) (hv : i < values.length) (hi : i < items.length),
          Mirrors values[i] items[i] element)
    : Mirrors (.array values) (.list kind items) (.array element)

section Values

variable {type : FieldType} {value : Value}

theorem Value.isNull_of_map {α : Type} {read : Option α} {wrap : α → Value}
    (h : read.map wrap = some value) (each : ∀ a, (wrap a).isNull = false)
    : value.isNull = false := by
  obtain ⟨a, _, rfl⟩ := Option.map_eq_some_iff.mp h
  exact each a

/-- A single constant stands for no null and no array, by cases on the type. -/
theorem Scalar.mirrors_of_toValue? {scalar : Scalar}
    (native : ∀ document, scalar ≠ .json document)
    (h : scalar.toValue? type = some value)
    : value.Mirrors (.single scalar) type := by
  have read : scalar.singleValue? type = some value := (singleValue?_of_native type native).trans h
  have leaf : type.isFilterable = true := by
    cases type with
    | array element => cases h
    | _ => rfl
  refine .single read ?_ (hasType_of_toValue? h) leaf
  cases type with
  | string =>
      cases h
      rfl
  | array element => cases h
  | _ => exact Value.isNull_of_map h fun _ => rfl

theorem Json.mirrors_of_toValue? {json : Json} (h : json.toValue? type = some value)
    : value.Mirrors (.single (.json json)) type := by
  have leaf : type.isFilterable = true := by
    cases type with
    | array element => cases json <;> cases h
    | _ => rfl
  refine .single h ?_ (hasType_of_toValue? h) leaf
  unfold toValue? at h
  split at h
  case h_1 | h_7 =>
    cases h
    rfl
  case h_11 => cases h
  all_goals exact Value.isNull_of_map h fun _ => rfl

/-- A walk over a list makes an array that mirrors it when each step makes a value that does. -/
theorem Value.mirrors_of_forall₂ {α : Type} {f : α → Except Error Value} {shape : α → Shape}
    {element : FieldType} {items : List α} {values : List Value} {kind : String}
    (made : List.Forall₂ (fun item value => f item = .ok value) items values)
    (step : ∀ item ∈ items, ∀ value, f item = .ok value → value.Mirrors (shape item) element)
    : (Value.array values).Mirrors (.list kind (items.map shape)) (.array element) := by
  obtain ⟨length, each⟩ := List.forall₂_iff_get.mp (forall₂_imp_of_mem made step)
  refine .list (by rw [List.length_map, length]) fun i hv hi => ?_
  rw [List.length_map] at hi
  rw [List.getElem_map]
  exact each i hi hv

/-- A value made from a document mirrors it, by induction on the document. -/
theorem Json.mirrors_of_convert {json : Json} (h : json.convert type = .ok value)
    : value.Mirrors json.shape type := by
  induction json using Json.induction generalizing type value with
  | null =>
      cases h
      exact .null _
  | bool b => exact mirrors_of_toValue? (convertSingle_eq_ok_iff.mp h)
  | number text => exact mirrors_of_toValue? (convertSingle_eq_ok_iff.mp h)
  | string text => exact mirrors_of_toValue? (convertSingle_eq_ok_iff.mp h)
  | object members _ => cases h
  | array items ih =>
      cases type with
      | array element =>
          rw [convert, convertItems_eq_mapM, bind_eq_ok_iff] at h
          obtain ⟨values, made, same⟩ := h
          cases same
          rw [shape, shapes_eq_map]
          exact Value.mirrors_of_forall₂ (mapM_eq_ok_iff.mp made) fun item member _ =>
            ih item member
      | _ => cases h

theorem Scalar.mirrors_of_coerce {scalar : Scalar} (h : scalar.coerce type = .ok value)
    : value.Mirrors scalar.shape type := by
  cases scalar with
  | json document => exact Json.mirrors_of_convert h
  | _ => exact mirrors_of_toValue? (by simp) (convert_eq_ok_iff.mp h)

theorem Operand.mirrors_of_coerce {operand : Operand} (h : operand.coerce type = .ok value)
    : value.Mirrors operand.shape type := by
  cases operand with
  | null =>
      cases h
      exact .null _
  | single scalar => exact Scalar.mirrors_of_coerce h
  | pattern text => exact Scalar.mirrors_of_toValue? (by simp) (Scalar.convert_eq_ok_iff.mp h)
  | column name => cases h
  | array items =>
      cases type with
      | array element =>
          obtain ⟨values, made, same⟩ := bind_eq_ok_iff.mp h
          cases same
          exact Value.mirrors_of_forall₂ (mapM_eq_ok_iff.mp made) fun _ _ _ =>
            Scalar.mirrors_of_coerce
      | _ => cases h

end Values

/-- A coercion makes a value of the type in the shape of its operand, or it fails with the error of
the first position, in depth-first order, that has one by itself.
-/
theorem Operand.coerce_mirrors_or_first_error (operand : Operand) (type : FieldType)
    : (∀ value, operand.coerce type = .ok value → value.Mirrors operand.shape type)
      ∧ ∀ e,
          operand.coerce type = .error e
          ↔ (operand.shape.positions type).findSome? Shape.Position.error? = some e := by
  refine ⟨fun value => mirrors_of_coerce, fun e => ?_⟩
  rw [← errorOf?_eq_some_iff, errorOf?_coerce]
  rfl

end RecordFilter
