import RecordFilter.Text.CharSet

/-! Blank characters, and text with the blanks at its two ends removed. -/

namespace RecordFilter.Text

/-- The property White_Space. -/
def blanks : CharSet where
  ranges := [
    (0x9, 0xd), (0x20, 0x20), (0x85, 0x85), (0xa0, 0xa0), (0x1680, 0x1680), (0x2000, 0x200a),
    (0x2028, 0x2029), (0x202f, 0x202f), (0x205f, 0x205f), (0x3000, 0x3000)
  ]

def isBlank (c : Char) : Bool :=
  blanks.has c

/-- Characters without the blanks in front. -/
def trimStart (cs : List Char) : List Char :=
  cs.dropWhile isBlank

/-- Characters without the blanks at both ends. -/
def trimChars (cs : List Char) : List Char :=
  (trimStart (trimStart cs).reverse).reverse

def trim (text : String) : String :=
  String.ofList (trimChars text.toList)

/-- A text is blank when it holds nothing but blanks. -/
def isBlankText (text : String) : Bool :=
  text.toList.all isBlank

end RecordFilter.Text
