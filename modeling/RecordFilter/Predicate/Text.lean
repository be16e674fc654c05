import RecordFilter.Predicate.Basic

/-! Predicates as formulas, and their diagnostic texts. -/

namespace RecordFilter.Predicate

variable {ρ : Type}

/-- The combination has parentheses of its own. -/
def isGroup : Predicate ρ → Bool
  | .and _ => true
  | .or _ => true
  | _ => false

mutual

/-- The formula of a predicate. -/
def text : Predicate ρ → String
  | .constant holds => Diagnostic.bool holds
  | .value field test => test.text field.name
  | .column left right test => left.name ++ " " ++ test.symbol ++ " " ++ right.name
  | .isNull field => field.name ++ " is null"
  | .and parts => "(" ++ " && ".intercalate (texts parts) ++ ")"
  | .or parts => "(" ++ " || ".intercalate (texts parts) ++ ")"
  | .not part => if part.isGroup then "!" ++ part.text else "!(" ++ part.text ++ ")"

def texts : List (Predicate ρ) → List String
  | [] => []
  | part :: rest => part.text :: texts rest

end

mutual

def diagnostic : Predicate ρ → String
  | .constant holds => Diagnostic.application "Constant" [Diagnostic.bool holds]
  | .value field test =>
      Diagnostic.record "Value" [("field", Text.quote field.name), ("test", test.diagnostic)]
  | .column left right test =>
      Diagnostic.record "Column" [
        ("left", Text.quote left.name),
        ("right", Text.quote right.name),
        ("test", test.diagnostic)
      ]
  | .isNull field => Diagnostic.application "IsNull" [Text.quote field.name]
  | .and parts => Diagnostic.application "And" [Diagnostic.list (diagnostics parts)]
  | .or parts => Diagnostic.application "Or" [Diagnostic.list (diagnostics parts)]
  | .not part => Diagnostic.application "Not" [part.diagnostic]

def diagnostics : List (Predicate ρ) → List String
  | [] => []
  | part :: rest => part.diagnostic :: diagnostics rest

end

end RecordFilter.Predicate
