/-! Sets of characters, given by the closed ranges of their code points. -/

namespace RecordFilter.Text

/-- A character property as a list of closed code point ranges. -/
structure CharSet where
  ranges : List (Nat × Nat)

/-- Membership asks whether some range holds the code point. -/
def CharSet.has (set : CharSet) (c : Char) : Bool :=
  set.ranges.any fun range => range.1 ≤ c.toNat && c.toNat ≤ range.2

end RecordFilter.Text
