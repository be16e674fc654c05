import RecordFilter.Json.Skipper
import RecordFilter.Options.Basic
import RecordFilter.Options.Numeral

/-! Reading options from JSON text: an object with the depth limit by name, or a list that holds it
alone. Without it the limit is the usual one, and other members are passed over.
-/

namespace RecordFilter.Options

open RecordFilter.Json

/-- What is wrong with an option text: its form or the type of a value, or else an option, with the
text that is left.
-/
inductive ReadFault where
  | malformed (fault : Fault)
  | options (fault : OptionsFault) (rest : List Char)

def ReadFault.inText (fault : ReadFault) (text : List Char) : Error :=
  match fault with
  | .malformed fault => .serialization (.malformed (fault.inText text))
  | .options fault rest => .serialization (.options fault (.inText text rest 0))

/-- A step of the reader of JSON text as a step of the reader of options. -/
def scan (result : Except Fault α) : Except ReadFault α :=
  result.mapError .malformed

/-- The depth limit: a natural number below `2 ^ 64`. -/
def readMaxDepth (cs : List Char) : Except ReadFault (Nat × List Char) :=
  let cs := skipSpace cs
  if cs.head?.any fun c => c = '-' || Text.isDigit c then do
    let (numeral, rest) ← scan (readNumeral cs)
    match numeral with
    | .natural n => return (n, rest)
    | .negative n => .error (.options (.negative (-(n : Int))) rest)
    | .real x =>
        let text := Binary64.jsonLayout.render x
        .error (.malformed (.before (.wrongType ("floating point `" ++ text ++ "`") "usize") rest))
  else
    .error (.malformed (mismatch "usize" cs))

/-- The text after the space and the closing brace that follow a repeated name. -/
def afterRepeated (cs : List Char) : List Char :=
  match skipSpace cs with
  | '}' :: rest => rest
  | rest => rest

/-- The members of an object, with the limit that was found so far. -/
def readMembers (first : Bool) (found? : Option Nat)
    : Nat → List Char → Except ReadFault (Option Nat × List Char)
  | 0, cs => .error (.malformed (.before .endInObject cs))
  | fuel + 1, cs => do
      match ← scan (nextMember? first cs) with
      | none => return (found?, (skipSpace cs).drop 1)
      | some next =>
          let (name, rest) ← scan (scanString next)
          if name != maxDepthName then
            readMembers false found? fuel (← scan (afterValue (← scan (afterColon rest))))
          else if found?.isSome then
            .error (.options .duplicateField (afterRepeated rest))
          else
            let (limit, rest) ← readMaxDepth (← scan (afterColon rest))
            readMembers false (some limit) fuel rest

/-- The items of a list, of which there is at most one. -/
def readItems (cs : List Char) : Except ReadFault (Option Nat × List Char) := do
  match ← scan (nextItem? true cs) with
  | none => return (none, (skipSpace cs).drop 1)
  | some next =>
      let (limit, rest) ← readMaxDepth next
      return (some limit, ← scan (endOfList rest))

/-- The limit, if it is given, and the text after the options. -/
def readOptions (cs : List Char) : Except ReadFault (Option Nat × List Char) :=
  match skipSpace cs with
  | '{' :: rest => readMembers true none (readFuel rest) rest
  | '[' :: rest => readItems rest
  | rest => .error (.malformed (mismatch "struct CompileOptions" rest))

/-- The options that a text writes. -/
def ofJsonText (text : String) : Except Error Options :=
  match readOptions text.toList with
  | .error fault => .error (fault.inText text.toList)
  | .ok (limit?, rest) =>
      match Json.checkEnd text rest with
      | .error error => .error (.serialization (.malformed error))
      | .ok () => .ok ⟨limit?.getD defaultMaxDepth⟩

end RecordFilter.Options
