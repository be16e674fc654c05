/-! Finding one text inside another. -/

namespace RecordFilter.Text

/-- The pattern stands somewhere in the characters; the empty pattern stands everywhere. -/
def occursIn (pattern : List Char) : List Char → Bool
  | [] => pattern.isEmpty
  | c :: rest => pattern.isPrefixOf (c :: rest) || occursIn pattern rest

def contains (text pattern : String) : Bool :=
  occursIn pattern.toList text.toList

end RecordFilter.Text
