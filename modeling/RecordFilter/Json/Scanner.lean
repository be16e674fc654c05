import RecordFilter.Json.SyntaxError
import RecordFilter.Text.Digits

/-! The words, numbers and strings of a JSON text. Each reader returns what it read and the
characters that are left.
-/

namespace RecordFilter.Json

open RecordFilter.Text

/-- Only these four characters may stand between the parts of a text. -/
def isSpace (c : Char) : Bool :=
  c == ' ' || c == '\t' || c == '\n' || c == '\r'

def skipSpace (cs : List Char) : List Char :=
  cs.dropWhile isSpace

/-- The remaining characters of a word whose first one is known. -/
def scanWord : List Char → List Char → Except Fault (List Char)
  | [], cs => .ok cs
  | _ :: _, [] => .error (.before .endInValue [])
  | expected :: word, c :: rest =>
      if c = expected then scanWord word rest else .error (.next .expectedWord (c :: rest))

/-- Splits off the digits in front. -/
def scanDigits (cs : List Char) : List Char × List Char :=
  (cs.takeWhile isDigit, cs.dropWhile isDigit)

/-- The exponent after its mark; a sign is written in any case. -/
def scanExponent (cs : List Char) : Except Fault (List Char × List Char) :=
  let (sign, cs) :=
    match cs with
    | '+' :: rest => ('+', rest)
    | '-' :: rest => ('-', rest)
    | _ => ('+', cs)
  match scanDigits cs with
  | ([], []) => .error (.before .endInValue [])
  | ([], rest) => .error (.next .invalidNumber rest)
  | (digits, rest) => .ok ('e' :: sign :: digits, rest)

/-- What may follow the digits of a number: an exponent or nothing. -/
def scanExponentPart : List Char → Except Fault (List Char × List Char)
  | 'e' :: rest => scanExponent rest
  | 'E' :: rest => scanExponent rest
  | cs => .ok ([], cs)

/-- What may follow the whole part of a number: a point with digits, an exponent, or both. -/
def scanFractionPart : List Char → Except Fault (List Char × List Char)
  | '.' :: rest =>
      match scanDigits rest with
      | ([], []) => .error (.before .endInValue [])
      | ([], rest) => .error (.next .invalidNumber rest)
      | (digits, rest) => do
          let (exponent, rest) ← scanExponentPart rest
          return ('.' :: digits ++ exponent, rest)
  | cs => scanExponentPart cs

/-- The digits before the point: a zero alone, or digits that do not start with zero. -/
def scanWhole : List Char → Except Fault (List Char × List Char)
  | [] => .error (.before .endInValue [])
  | '0' :: rest =>
      match rest with
      | c :: _ => if isDigit c then .error (.next .invalidNumber rest) else .ok (['0'], rest)
      | [] => .ok (['0'], [])
  | c :: rest =>
      if isDigit c then
        .ok (scanDigits (c :: rest))
      else
        .error (.next .invalidNumber (c :: rest))

/-- A number without its sign. -/
def scanUnsigned (cs : List Char) : Except Fault (List Char × List Char) := do
  let (whole, rest) ← scanWhole cs
  let (fraction, rest) ← scanFractionPart rest
  return (whole ++ fraction, rest)

/-- A number; its text is kept, with one spelling of the exponent. -/
def scanNumber : List Char → Except Fault (List Char × List Char)
  | '-' :: rest => do
      let (digits, rest) ← scanUnsigned rest
      return ('-' :: digits, rest)
  | cs => scanUnsigned cs

/-- Four hexadecimal digits. -/
def scanHex (cs : List Char) : Except Fault (Nat × List Char) :=
  match cs.take 4 |>.filterMap hexDigit? with
  | [a, b, c, d] => .ok (((a * 16 + b) * 16 + c) * 16 + d, cs.drop 4)
  | _ =>
      if byteCount cs < 4 then
        .error (.before .endInString [])
      else
        .error { cause := .invalidEscape, rest := cs, bytes := 4 }

/-- The second half of a character beyond 16 bits, after its first half. -/
def scanLowSurrogate (high : Nat) : List Char → Except Fault (Char × List Char)
  | [] => .error (.before .endInString [])
  | '\\' :: [] => .error (.before .endInString [])
  | '\\' :: 'u' :: rest => do
      let (low, rest) ← scanHex rest
      if 0xdc00 ≤ low && low ≤ 0xdfff then
        return (Char.ofNat ((high - 0xd800) * 0x400 + (low - 0xdc00) + 0x10000), rest)
      else
        .error (.before .loneSurrogate rest)
  | '\\' :: rest => .error (.next .unpairedSurrogate rest)
  | rest => .error (.next .unpairedSurrogate rest)

/-- The character of an escape, after its backslash. -/
def scanEscape : List Char → Except Fault (Char × List Char)
  | [] => .error (.before .endInString [])
  | 'u' :: rest => do
      let (code, rest) ← scanHex rest
      if 0xdc00 ≤ code && code ≤ 0xdfff then
        .error (.before .loneSurrogate rest)
      else if 0xd800 ≤ code && code ≤ 0xdbff then
        scanLowSurrogate code rest
      else
        return (Char.ofNat code, rest)
  | c :: rest =>
      match c with
      | '"' => .ok ('"', rest)
      | '\\' => .ok ('\\', rest)
      | '/' => .ok ('/', rest)
      | 'b' => .ok ('\x08', rest)
      | 'f' => .ok ('\x0c', rest)
      | 'n' => .ok ('\n', rest)
      | 'r' => .ok ('\r', rest)
      | 't' => .ok ('\t', rest)
      | _ => .error (.next .invalidEscape (c :: rest))

/-- The characters of a string after its opening quote. Each step takes a character at least, so
fuel for every one of them suffices.
-/
def scanChars : Nat → List Char → Except Fault (List Char × List Char)
  | 0, cs => .error (.before .endInString cs)
  | fuel + 1, cs =>
      match cs with
      | [] => .error (.before .endInString [])
      | '"' :: rest => .ok ([], rest)
      | '\\' :: rest => do
          let (c, rest) ← scanEscape rest
          let (text, rest) ← scanChars fuel rest
          return (c :: text, rest)
      | c :: rest =>
          if c.toNat < 0x20 then
            .error (.next .controlCharacter (c :: rest))
          else do
            let (text, rest) ← scanChars fuel rest
            return (c :: text, rest)

/-- A string after its opening quote. -/
def scanString (cs : List Char) : Except Fault (String × List Char) := do
  let (text, rest) ← scanChars (cs.length + 1) cs
  return (String.ofList text, rest)

end RecordFilter.Json
