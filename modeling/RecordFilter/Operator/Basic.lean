/-! The operators that conditions and matrices carry, each with its code in documents. -/

namespace RecordFilter

/-- What an operator is applied to. -/
inductive OperatorKind where
  | comparison
  | text
  | null
  | column
  | logical
deriving DecidableEq

inductive Operator where
  | equal
  | notEqual
  | greaterThan
  | lessThan
  | greaterThanOrEqual
  | lessThanOrEqual
  | within
  | notWithin
  | like
  | likeIgnoringCase
  | notLike
  | similar
  | notSimilar
  | regex
  | regexIgnoringCase
  | isNull
  | columnEqual
  | columnNotEqual
  | columnGreaterThan
  | columnLessThan
  | columnGreaterThanOrEqual
  | columnLessThanOrEqual
  | columnLike
  | columnLikeIgnoringCase
  | and
  | or
  | not
deriving DecidableEq

namespace Operator

/-- Every operator, in the order of the catalog. -/
def all : List Operator := [
    .equal, .notEqual, .greaterThan, .lessThan, .greaterThanOrEqual, .lessThanOrEqual,
    .within, .notWithin,
    .like, .likeIgnoringCase, .notLike, .similar, .notSimilar, .regex, .regexIgnoringCase,
    .isNull,
    .columnEqual, .columnNotEqual, .columnGreaterThan, .columnLessThan,
    .columnGreaterThanOrEqual, .columnLessThanOrEqual, .columnLike, .columnLikeIgnoringCase,
    .and, .or, .not
  ]

/-- The code of an operator in documents. -/
def code : Operator → String
  | .equal => "_eq"
  | .notEqual => "_neq"
  | .greaterThan => "_gt"
  | .lessThan => "_lt"
  | .greaterThanOrEqual => "_gte"
  | .lessThanOrEqual => "_lte"
  | .within => "_in"
  | .notWithin => "_nin"
  | .like => "_like"
  | .likeIgnoringCase => "_ilike"
  | .notLike => "_nlike"
  | .similar => "_similar"
  | .notSimilar => "_nsimilar"
  | .regex => "_regex"
  | .regexIgnoringCase => "_iregex"
  | .isNull => "_is_null"
  | .columnEqual => "_ceq"
  | .columnNotEqual => "_cne"
  | .columnGreaterThan => "_cgt"
  | .columnLessThan => "_clt"
  | .columnGreaterThanOrEqual => "_cgte"
  | .columnLessThanOrEqual => "_clte"
  | .columnLike => "_clike"
  | .columnLikeIgnoringCase => "_cilike"
  | .and => "_and"
  | .or => "_or"
  | .not => "_not"

/-- What an operator asks, in words. -/
def description : Operator → String
  | .equal => "equals"
  | .notEqual => "not equals"
  | .greaterThan => "greater than"
  | .lessThan => "less than"
  | .greaterThanOrEqual => "greater than or equal"
  | .lessThanOrEqual => "less than or equal"
  | .within => "in array"
  | .notWithin => "not in array"
  | .like => "pattern match"
  | .likeIgnoringCase => "case insensitive pattern match"
  | .notLike => "pattern not match"
  | .similar => "similar to"
  | .notSimilar => "not similar to"
  | .regex => "regex match"
  | .regexIgnoringCase => "case insensitive regex match"
  | .isNull => "is null check"
  | .columnEqual => "column equals"
  | .columnNotEqual => "column not equals"
  | .columnGreaterThan => "column greater than"
  | .columnLessThan => "column less than"
  | .columnGreaterThanOrEqual => "column greater than or equal"
  | .columnLessThanOrEqual => "column less than or equal"
  | .columnLike => "column pattern match"
  | .columnLikeIgnoringCase => "column case insensitive pattern match"
  | .and => "logical and"
  | .or => "logical or"
  | .not => "logical not"

def kind : Operator → OperatorKind
  | .equal | .notEqual | .greaterThan | .lessThan | .greaterThanOrEqual | .lessThanOrEqual
  | .within | .notWithin => .comparison
  | .like | .likeIgnoringCase | .notLike | .similar | .notSimilar | .regex
  | .regexIgnoringCase => .text
  | .isNull => .null
  | .columnEqual | .columnNotEqual | .columnGreaterThan | .columnLessThan
  | .columnGreaterThanOrEqual | .columnLessThanOrEqual | .columnLike
  | .columnLikeIgnoringCase => .column
  | .and | .or | .not => .logical

def isLogical (op : Operator) : Bool := op.kind == .logical

def isText (op : Operator) : Bool := op.kind == .text

/-- The operator asks for null and takes no value. -/
def isNullCheck (op : Operator) : Bool := op.kind == .null

/-- The operator compares a field with another one. -/
def isColumn (op : Operator) : Bool := op.kind == .column

/-- Comparisons that need an order, with a constant or with another field. -/
def isOrdering : Operator → Bool
  | .greaterThan | .lessThan | .greaterThanOrEqual | .lessThanOrEqual
  | .columnGreaterThan | .columnLessThan | .columnGreaterThanOrEqual
  | .columnLessThanOrEqual => true
  | _ => false

/-- The operator of a code, if there is one. -/
def ofCode? (code : String) : Option Operator :=
  all.find? fun op => op.code == code

end Operator

end RecordFilter
