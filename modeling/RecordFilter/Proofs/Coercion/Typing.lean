import RecordFilter.Proofs.Coercion.Basic

/-! Types of values. Whatever takes a type is a value of it: null, a single value of the very kind,
a declared member of an enumeration, or an array of values of the element type.
-/

namespace RecordFilter

/-- The number belongs to this enumeration and to one of its members. -/
def EnumType.Declares (type : EnumType) (v : EnumValue) : Prop :=
  v.type = type ∧ v.value ∈ type.members.map Prod.snd

/-- The values of each type. Null is a value of all types. -/
inductive Value.HasType : Value → FieldType → Prop
  | null (type : FieldType) : HasType .null type
  | bool (value : Bool) : HasType (.bool value) .bool
  | int32 (value : Int32) : HasType (.int32 value) .int32
  | int64 (value : Int64) : HasType (.int64 value) .int64
  | float64 (value : Binary64) : HasType (.float64 value) .float64
  | decimal (value : Decimal) : HasType (.decimal value) .decimal
  | string (value : String) : HasType (.string value) .string
  | timestamp (value : Timestamp) : HasType (.timestamp value) .timestamp
  | uuid (value : Uuid) : HasType (.uuid value) .uuid
  | enum {type : EnumType} {value : EnumValue} (declared : type.Declares value)
    : HasType (.enum value) (.enum type)
  | array {element : FieldType} {items : List Value}
    (each : ∀ item ∈ items, HasType item element)
    : HasType (.array items) (.array element)

namespace EnumType

variable {type : EnumType} {v : EnumValue}

theorem declares_of_named? {name : String} (h : type.named? name = some v) : type.Declares v := by
  obtain ⟨member, found, rfl⟩ := Option.map_eq_some_iff.mp h
  exact ⟨rfl, List.mem_map_of_mem (List.mem_of_find?_eq_some found)⟩

/-- Members are found by the number that they have. -/
theorem valued?_eq_some_iff {value : Int64}
    : type.valued? value = some v ↔ type.Declares v ∧ v.value = value := by
  unfold valued?
  constructor
  · intro h
    split at h
    next known =>
      cases h
      obtain ⟨member, declared, same⟩ := List.any_eq_true.mp known
      exact ⟨⟨rfl, List.mem_map.mpr ⟨member, declared, eq_of_beq same⟩⟩, rfl⟩
    next => cases h
  · rintro ⟨⟨rfl, declared⟩, rfl⟩
    obtain ⟨member, within, same⟩ := List.mem_map.mp declared
    have known : (v.type.members.any fun member => member.2 == v.value) = true :=
      List.any_eq_true.mpr ⟨member, within, beq_iff_eq.mpr same⟩
    exact if_pos known

theorem declares_of_valued? {value : Int64} (h : type.valued? value = some v)
    : type.Declares v :=
  (valued?_eq_some_iff.mp h).1

/-- The number that a text writes, if there is one, belongs to a member. -/
theorem declares_of_written {number : Option Int64} (h : number.bind type.valued? = some v)
    : type.Declares v := by
  obtain ⟨_, _, known⟩ := Option.bind_eq_some_iff.mp h
  exact declares_of_valued? known

theorem declares_of_ofText? {text : String} (h : type.ofText? text = some v)
    : type.Declares v := by
  rcases Option.or_eq_some_iff.mp h with named | ⟨_, written⟩
  · exact declares_of_named? named
  · exact declares_of_written written

theorem declares_of_toMember? {scalar : Scalar} (h : scalar.toMember? type = some v)
    : type.Declares v := by
  cases scalar with
  | string text => exact declares_of_ofText? h
  | int value => exact declares_of_valued? h
  | _ => cases h

end EnumType

/-- What is read and then wrapped has the type that the wrapping gives to all that is read. -/
theorem Value.hasType_of_map {α : Type} {read : Option α} {wrap : α → Value} {value : Value}
    {type : FieldType} (h : read.map wrap = some value)
    (each : ∀ a, read = some a → (wrap a).HasType type)
    : value.HasType type := by
  obtain ⟨a, found, rfl⟩ := Option.map_eq_some_iff.mp h
  exact each a found

variable {type : FieldType} {value : Value}

/-- A native constant stands for values of the type only, by cases on the type. -/
theorem Scalar.hasType_of_toValue? {scalar : Scalar} (h : scalar.toValue? type = some value)
    : value.HasType type := by
  cases type with
  | bool => exact Value.hasType_of_map h fun b _ => .bool b
  | int32 => exact Value.hasType_of_map h fun n _ => .int32 n
  | int64 => exact Value.hasType_of_map h fun n _ => .int64 n
  | float64 => exact Value.hasType_of_map h fun x _ => .float64 x
  | decimal => exact Value.hasType_of_map h fun d _ => .decimal d
  | string =>
      cases h
      exact .string _
  | timestamp => exact Value.hasType_of_map h fun t _ => .timestamp t
  | uuid => exact Value.hasType_of_map h fun u _ => .uuid u
  | enum type =>
      exact Value.hasType_of_map h fun _ found => .enum (EnumType.declares_of_toMember? found)
  | array element => cases h

namespace Json

variable {json : Json}

/-- A single value of a document stands for values of the type only, by the rules of reading it. -/
theorem hasType_of_toValue? (h : json.toValue? type = some value) : value.HasType type := by
  unfold toValue? at h
  split at h
  · cases h
    exact .bool _
  · exact Value.hasType_of_map h fun n _ => .int32 n
  · exact Value.hasType_of_map h fun n _ => .int64 n
  · exact Value.hasType_of_map h fun x _ => .float64 x
  · exact Value.hasType_of_map h fun d _ => .decimal d
  · exact Value.hasType_of_map h fun _ found => .enum (EnumType.declares_of_written found)
  · cases h
    exact .string _
  · exact Value.hasType_of_map h fun t _ => .timestamp t
  · exact Value.hasType_of_map h fun u _ => .uuid u
  · exact Value.hasType_of_map h fun _ found => .enum (EnumType.declares_of_ofText? found)
  · cases h

/-- A value of a document becomes a value of the type, by induction on the type, since the items of
an array take the element type.
-/
theorem hasType_of_convert (h : json.convert type = .ok value) : value.HasType type := by
  induction type generalizing json value with
  | array element ih =>
      rcases convert_eq_ok_cases h with ⟨_, rfl⟩ | ⟨items, _, values, _, same, rfl, each⟩ | single
      · exact .null _
      · cases same
        refine .array fun value member => ?_
        obtain ⟨item, taken⟩ := exists_forall₂_right_iff.mp ⟨items, each⟩ value member
        exact ih taken
      · exact hasType_of_toValue? single
  | _ =>
      rcases convert_eq_ok_cases h with ⟨_, rfl⟩ | ⟨_, _, _, _, same, _⟩ | single
      · exact .null _
      · cases same
      · exact hasType_of_toValue? single

end Json

theorem Scalar.hasType_of_coerce {scalar : Scalar} (h : scalar.coerce type = .ok value)
    : value.HasType type := by
  cases scalar with
  | json json => exact Json.hasType_of_convert h
  | _ => exact hasType_of_toValue? (convert_eq_ok_iff.mp h)

/-- An operand becomes a value of the type that it takes. -/
theorem Operand.hasType_of_coerce {operand : Operand} (h : operand.coerce type = .ok value)
    : value.HasType type := by
  cases operand with
  | null =>
      cases h
      exact .null _
  | single scalar => exact Scalar.hasType_of_coerce h
  | pattern text => exact Scalar.hasType_of_toValue? (Scalar.convert_eq_ok_iff.mp h)
  | array items =>
      cases type with
      | array element =>
          obtain ⟨values, each, same⟩ := bind_eq_ok_iff.mp h
          cases same
          refine .array fun value member => ?_
          obtain ⟨item, taken⟩ :=
            exists_forall₂_right_iff.mp ⟨items, mapM_eq_ok_iff.mp each⟩ value member
          exact Scalar.hasType_of_coerce taken
      | _ => cases h
  | column name => cases h

end RecordFilter
