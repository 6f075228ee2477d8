import DevicePanel.Json.Value
import DevicePanel.Number.Layout

/-!
# Writing JSON

Two forms: compact, on one line without blanks, and indented, two blanks a level with every
item on a line of its own.  Both escape the same characters of a text.
-/

namespace DevicePanel.Json

open DevicePanel.Number (Layout)

/-- A digit of base sixteen, in small letters. -/
def hexDigit (n : Nat) : Char := Nat.digitChar (n % 16)

def escapeChar (c : Char) : List Char :=
  if c = '"' then ['\\', '"']
  else if c = '\\' then ['\\', '\\']
  else if c = '\n' then ['\\', 'n']
  else if c = '\r' then ['\\', 'r']
  else if c = '\t' then ['\\', 't']
  else if c = '\x08' then ['\\', 'b']
  else if c = '\x0c' then ['\\', 'f']
  else if c.toNat < 32 then
    ['\\', 'u', '0', '0', hexDigit (c.toNat / 16), hexDigit c.toNat]
  else [c]

/-- A text between quotes. -/
def quote (text : List Char) : List Char := '"' :: text.flatMap escapeChar ++ ['"']

def wholeText (n : Int) : List Char :=
  if n < 0 then '-' :: Nat.toDigits 10 n.natAbs else Nat.toDigits 10 n.natAbs

/-- The text of a number; what no JSON number can say is `null`. -/
def numeralText : Numeral → List Char
  | .whole n => wholeText n
  | .real (.finite negative mantissa exponent) =>
      (Layout.document.write (.finite negative mantissa exponent)).toList
  | .real _ => "null".toList

mutual

/-- A value on one line without blanks. -/
def compact : Value → List Char
  | .null => "null".toList
  | .bool true => "true".toList
  | .bool false => "false".toList
  | .number n => numeralText n
  | .text s => quote s.toList
  | .list [] => ['[', ']']
  | .list (item :: items) => '[' :: (compact item ++ compactItems items)
  | .object [] => ['\x7b', '\x7d']
  | .object ((key, value) :: members) =>
      '\x7b' :: (quote key.toList ++ ':' :: (compact value ++ compactMembers members))

/-- The items after the first one, and the closing bracket. -/
def compactItems : List Value → List Char
  | [] => [']']
  | item :: items => ',' :: (compact item ++ compactItems items)

/-- The members after the first one, and the closing brace. -/
def compactMembers : List (String × Value) → List Char
  | [] => ['\x7d']
  | (key, value) :: members =>
      ',' :: (quote key.toList ++ ':' :: (compact value ++ compactMembers members))

end

def lineBreak (level : Nat) : List Char := '\n' :: List.replicate (2 * level) ' '

mutual

/-- A value with every item on a line of its own, below `level` open brackets. -/
def indented (level : Nat) : Value → List Char
  | .null => "null".toList
  | .bool true => "true".toList
  | .bool false => "false".toList
  | .number n => numeralText n
  | .text s => quote s.toList
  | .list [] => ['[', ']']
  | .list (item :: items) =>
      '[' :: (lineBreak (level + 1) ++ indented (level + 1) item ++ indentedItems level items)
  | .object [] => ['\x7b', '\x7d']
  | .object ((key, value) :: members) =>
      '\x7b' :: (lineBreak (level + 1) ++ quote key.toList ++ ':' :: ' ' ::
        (indented (level + 1) value ++ indentedMembers level members))

/-- The items after the first one, and the closing bracket. -/
def indentedItems (level : Nat) : List Value → List Char
  | [] => lineBreak level ++ [']']
  | item :: items =>
      ',' :: (lineBreak (level + 1) ++ indented (level + 1) item ++ indentedItems level items)

/-- The members after the first one, and the closing brace. -/
def indentedMembers (level : Nat) : List (String × Value) → List Char
  | [] => lineBreak level ++ ['\x7d']
  | (key, value) :: members =>
      ',' :: (lineBreak (level + 1) ++ quote key.toList ++ ':' :: ' ' ::
        (indented (level + 1) value ++ indentedMembers level members))

end

namespace Value

/-- The value on one line without blanks. -/
def compactText (value : Value) : String := String.ofList (compact value)

def indentedText (value : Value) : String := String.ofList (indented 0 value)

end Value

end DevicePanel.Json
