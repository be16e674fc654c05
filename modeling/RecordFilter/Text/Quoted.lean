import RecordFilter.Text.Printable

/-! Text between double quotes, with every character escaped that cannot be read there. -/

namespace RecordFilter.Text

/-- The escape by code point: the hexadecimal digits in braces. -/
def codePointEscape (c : Char) : List Char :=
  '\\' :: 'u' :: '{' :: Nat.toDigits 16 c.toNat ++ ['}']

/-- A single quote stands for itself; an accent that would join the quote is escaped. -/
def quoteChar (c : Char) : List Char :=
  match c with
  | '\x00' => ['\\', '0']
  | '\t' => ['\\', 't']
  | '\r' => ['\\', 'r']
  | '\n' => ['\\', 'n']
  | '\\' => ['\\', '\\']
  | '"' => ['\\', '"']
  | c =>
      if c.toNat < 0x7f && 0x20 ≤ c.toNat then
        [c]
      else if graphemeExtenders.has c || unprintable.has c then
        codePointEscape c
      else
        [c]

def quote (text : String) : String :=
  String.ofList ('"' :: text.toList.flatMap quoteChar ++ ['"'])

end RecordFilter.Text
