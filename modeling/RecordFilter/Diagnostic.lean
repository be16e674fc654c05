/-! The layout of diagnostic texts: named records, applications and lists. -/

namespace RecordFilter.Diagnostic

/-- The parts with a comma between them. -/
def commas (parts : List String) : String :=
  ", ".intercalate parts

/-- A name with the parts in parentheses. -/
def application (name : String) (parts : List String) : String :=
  name ++ "(" ++ commas parts ++ ")"

/-- A name with labelled parts in braces. -/
def record (name : String) (parts : List (String × String)) : String :=
  name ++ " \x7b " ++ commas (parts.map fun part => part.1 ++ ": " ++ part.2) ++ " \x7d"

def list (parts : List String) : String :=
  "[" ++ commas parts ++ "]"

def bool (b : Bool) : String :=
  if b then "true" else "false"

end RecordFilter.Diagnostic
