import DevicePanel.Number.Layout

/-!
# Why a JSON text is refused

A `Cause` is either a fault of the text itself or a value of the wrong shape.  A `Fault` is a
cause with the number of bytes that were read before it, from which its line and column follow.
-/

namespace DevicePanel.Json

open DevicePanel.Number (Binary64 Layout)

/-- What was found where something else was wanted. -/
inductive Found where
  | null
  | bool (value : Bool)
  | whole (value : Int)
  | real (value : Binary64)
  | text (value : String)
  | list
  | object
deriving Repr, DecidableEq

namespace Found

def describe : Found → String
  | .null => "null"
  | .bool true => "boolean `true`"
  | .bool false => "boolean `false`"
  | .whole n => "integer `" ++ toString n ++ "`"
  | .real x => "floating point `" ++ Layout.document.write x ++ "`"
  | .text s => "string " ++ s
  | .list => "sequence"
  | .object => "map"

end Found

inductive Cause where
  | listUnfinished
  | objectUnfinished
  | textUnfinished
  | valueUnfinished
  | colonExpected
  | listCommaExpected
  | objectCommaExpected
  | wordExpected
  | valueExpected
  | badEscape
  | badNumber
  | numberOutOfRange
  | controlCharacter
  | keyNotText
  | loneSurrogate
  | hexEscapeUnfinished
  | trailingComma
  | trailingCharacters
  | nestedTooDeep
  /-- A value of another type; `shown` tells what was found. -/
  | wrongType (shown expected : String)
  /-- A value of the right type that is not allowed; `shown` tells what was found. -/
  | wrongValue (shown expected : String)
  | fieldMissing (name : String)
  | fieldRepeated (name : String)
  | wrongLength (count : Nat) (expected : String)
  | unknownChoice (name : String) (choices : List String)
  | noAlternative (type : String)
deriving Repr, DecidableEq

namespace Cause

def choicesPhrase : List String → String
  | [] => "there are no variants"
  | [a] => "expected `" ++ a ++ "`"
  | [a, b] => "expected `" ++ a ++ "` or `" ++ b ++ "`"
  | choices => "expected one of " ++ String.intercalate ", " (choices.map fun c => "`" ++ c ++ "`")

def message : Cause → String
  | .listUnfinished => "EOF while parsing a list"
  | .objectUnfinished => "EOF while parsing an object"
  | .textUnfinished => "EOF while parsing a string"
  | .valueUnfinished => "EOF while parsing a value"
  | .colonExpected => "expected `:`"
  | .listCommaExpected => "expected `,` or `]`"
  | .objectCommaExpected => "expected `,` or `\x7d`"
  | .wordExpected => "expected ident"
  | .valueExpected => "expected value"
  | .badEscape => "invalid escape"
  | .badNumber => "invalid number"
  | .numberOutOfRange => "number out of range"
  | .controlCharacter =>
      "control character (\\u0000-\\u001F) found while parsing a string"
  | .keyNotText => "key must be a string"
  | .loneSurrogate => "lone leading surrogate in hex escape"
  | .hexEscapeUnfinished => "unexpected end of hex escape"
  | .trailingComma => "trailing comma"
  | .trailingCharacters => "trailing characters"
  | .nestedTooDeep => "recursion limit exceeded"
  | .wrongType shown expected => "invalid type: " ++ shown ++ ", expected " ++ expected
  | .wrongValue shown expected => "invalid value: " ++ shown ++ ", expected " ++ expected
  | .fieldMissing name => "missing field `" ++ name ++ "`"
  | .fieldRepeated name => "duplicate field `" ++ name ++ "`"
  | .wrongLength count expected =>
      "invalid length " ++ toString count ++ ", expected " ++ expected
  | .unknownChoice name choices =>
      "unknown variant `" ++ name ++ "`, " ++ choicesPhrase choices
  | .noAlternative type => "data did not match any variant of untagged enum " ++ type

end Cause

/-- A cause and the number of bytes read before it, where that is known. -/
structure Fault where
  cause : Cause
  offset : Option Nat
deriving Repr, DecidableEq

namespace Fault

def placeAt (fault : Fault) (offset : Nat) : Fault :=
  match fault.offset with
  | some _ => fault
  | none => ⟨fault.cause, some offset⟩

/-- The line and the column of a byte offset: lines count from one, the column is the number
of bytes since the last line break before the offset. -/
def position (text : List Char) (offset : Nat) : Nat × Nat :=
  go text offset 1 0
where
  /-- Walk over the text, holding the line and the column reached. -/
  go : List Char → Nat → Nat → Nat → Nat × Nat
    | [], remaining, line, column => (line, column + remaining)
    | c :: rest, remaining, line, column =>
        if remaining < c.utf8Size then (line, column + remaining)
        else if c = '\n' then go rest (remaining - 1) (line + 1) 0
        else go rest (remaining - c.utf8Size) line (column + c.utf8Size)

def message (document : String) (fault : Fault) : String :=
  match fault.offset with
  | none => fault.cause.message
  | some offset =>
      let (line, column) := position document.toList offset
      fault.cause.message ++ " at line " ++ toString line ++ " column " ++ toString column

end Fault

end DevicePanel.Json
