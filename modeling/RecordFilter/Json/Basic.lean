/-! JSON values. A number is kept as its text, and an object as the list of its members; in the
canonical form of a value no object repeats a name and its members are sorted by name.
-/

namespace RecordFilter

inductive Json where
  | null
  | bool (value : Bool)
  | number (text : String)
  | string (text : String)
  | array (items : List Json)
  | object (members : List (String × Json))

namespace Json

mutual

/-- Equality member by member; numbers are equal when their texts are. -/
def equals : Json → Json → Bool
  | .null, .null => true
  | .bool x, .bool y => x == y
  | .number x, .number y => x == y
  | .string x, .string y => x == y
  | .array xs, .array ys => equalItems xs ys
  | .object xs, .object ys => equalMembers xs ys
  | _, _ => false

def equalItems : List Json → List Json → Bool
  | [], [] => true
  | x :: xs, y :: ys => x.equals y && equalItems xs ys
  | _, _ => false

def equalMembers : List (String × Json) → List (String × Json) → Bool
  | [], [] => true
  | (name, x) :: xs, (name', y) :: ys => name == name' && x.equals y && equalMembers xs ys
  | _, _ => false

end

instance : BEq Json := ⟨equals⟩

/-- Adds a member to a sorted list; a member of the same name is replaced. -/
def insertMember (name : String) (value : Json) : List (String × Json) → List (String × Json)
  | [] => [(name, value)]
  | (name', value') :: rest =>
      match compare name name' with
      | .lt => (name, value) :: (name', value') :: rest
      | .eq => (name, value) :: rest
      | .gt => (name', value') :: insertMember name value rest

/-- Members sorted by name; of those with one name the last is kept. -/
def sortMembers (members : List (String × Json)) : List (String × Json) :=
  members.foldl (fun sorted member => insertMember member.1 member.2 sorted) []

mutual

/-- The value with the members of every object in canonical form. -/
def canonical : Json → Json
  | .array items => .array (canonicalItems items)
  | .object members => .object (sortMembers (canonicalMembers members))
  | .null => .null
  | .bool value => .bool value
  | .number text => .number text
  | .string text => .string text

def canonicalItems : List Json → List Json
  | [] => []
  | item :: rest => item.canonical :: canonicalItems rest

def canonicalMembers : List (String × Json) → List (String × Json)
  | [] => []
  | (name, value) :: rest => (name, value.canonical) :: canonicalMembers rest

end

/-- What a value is called when it meets a type that it cannot have. -/
def kind : Json → String
  | .null => "null"
  | .bool _ => "json bool"
  | .number _ => "json number"
  | .string _ => "json string"
  | .array _ => "json array"
  | .object _ => "json object"

end Json

end RecordFilter
