import DevicePanel.Toml.Tree
import DevicePanel.Number.Decimal

/-!
# Single values and keys of a TOML document

Texts in their four spellings, numbers, truth values, and dates and times.
-/

namespace DevicePanel.Toml

open DevicePanel.Number (Binary64 ofDigits nearest)

/-! ## Blanks -/

def isBlank (c : Char) : Bool := c == ' ' || c == '\t'

def blanks : Scan Unit := do
  let _ ← Scan.run isBlank

/-- A line feed, or a carriage return and a line feed. -/
def lineEnd : Scan Unit := Scan.mark '\n' <|> Scan.word "\r\n"

/-- A character that a comment and a text between single quotes may hold. -/
def isPlain (c : Char) : Bool := c == '\t' || (' ' ≤ c && c != '\x7f')

def comment : Scan Unit := do
  Scan.mark '#'
  let _ ← Scan.run isPlain

/-- Blanks, line ends and comments. -/
def gap : Scan Unit := do
  let _ ← Scan.many ((do let _ ← Scan.someRun isBlank) <|> comment <|> lineEnd)

def emptyLines : Scan Unit := do
  let _ ← Scan.many ((do let _ ← Scan.someRun isBlank) <|> lineEnd)

/-! ## Texts -/

def isHexDigit (c : Char) : Bool :=
  c.isDigit || ('a' ≤ c && c ≤ 'f') || ('A' ≤ c && c ≤ 'F')

/-- A character told by a certain number of digits of base sixteen. -/
def numbered (count : Nat) : Scan Char := fun text =>
  let digits := text.take count
  let number := ofDigits 16 digits
  if digits.length = count ∧ digits.all isHexDigit ∧ number.isValidChar then
    some (Char.ofNat number, text.drop count)
  else none

def escape : Scan Char := do
  Scan.mark '\\'
  let c ← Scan.one fun _ => true
  match c with
  | '"' => return '"'
  | '\\' => return '\\'
  | 'b' => return '\x08'
  | 't' => return '\t'
  | 'n' => return '\n'
  | 'f' => return '\x0c'
  | 'r' => return '\r'
  | 'u' => numbered 4
  | 'U' => numbered 8
  | _ => failure

/-- A character between double quotes that stands for itself. -/
def isBasic (c : Char) : Bool := isPlain c && c != '"' && c != '\\'

/-- A character between single quotes. -/
def isLiteral (c : Char) : Bool := isPlain c && c != '\''

/-- A text between double quotes. -/
def basicText : Scan (List Char) := do
  Scan.mark '"'
  let found ← Scan.many (Scan.one isBasic <|> escape)
  Scan.mark '"'
  return found

/-- A text between single quotes. -/
def literalText : Scan (List Char) := do
  Scan.mark '\''
  let found ← Scan.run isLiteral
  Scan.mark '\''
  return found

/-- The end of a text of many lines: three quotes, before which one or two more belong to the
text. -/
def closing (quote : Char) : Scan (List Char) := do
  let quotes ← Scan.run (· == quote)
  Scan.require (3 ≤ quotes.length && quotes.length ≤ 5)
  return quotes.drop 3

/-- One or two quotes inside a text of many lines. -/
def innerQuotes (quote : Char) : Scan (List Char) := do
  let quotes ← Scan.someRun (· == quote)
  Scan.require (quotes.length < 3)
  return quotes

/-- A line end inside a text of many lines counts as a line feed. -/
def innerLineEnd : Scan (List Char) := do
  lineEnd
  return ['\n']

/-- A backslash at the end of a line takes away all blanks and line ends after it. -/
def continuation : Scan (List Char) := do
  Scan.mark '\\'
  blanks
  lineEnd
  emptyLines
  return []

/-- A text of many lines between three double quotes. -/
def basicLines : Scan (List Char) := do
  Scan.word "\"\"\""
  let _ ← Scan.option lineEnd
  let pieces ← Scan.many (Scan.someRun isBasic <|> innerLineEnd <|> continuation <|>
    (do return [← escape]) <|> innerQuotes '"')
  let last ← closing '"'
  return pieces.flatten ++ last

/-- A text of many lines between three single quotes. -/
def literalLines : Scan (List Char) := do
  Scan.word "'''"
  let _ ← Scan.option lineEnd
  let pieces ← Scan.many (Scan.someRun isLiteral <|> innerLineEnd <|> innerQuotes '\'')
  let last ← closing '\''
  return pieces.flatten ++ last

def text : Scan String := do
  return String.ofList (← basicLines <|> literalLines <|> basicText <|> literalText)

/-! ## Keys -/

/-- A character of a key without quotes. -/
def isBare (c : Char) : Bool := c.isAlphanum || c == '_' || c == '-'

def key : Scan String := do
  return String.ofList (← basicText <|> literalText <|> Scan.someRun isBare)

/-- How deep keys, lists and tables may go. -/
def deepest : Nat := 80

/-- Keys with points between them, and blanks around each. -/
def path : Scan (List String) := do
  let keys ← Scan.separated (do blanks; let k ← key; blanks; return k) (Scan.mark '.')
  Scan.require (keys.length < deepest)
  return keys

/-! ## Numbers -/

/-- Digits, with an underscore allowed between two of them. -/
def digits (isDigit : Char → Bool) : Scan (List Char) := do
  let groups ← Scan.separated (Scan.someRun isDigit) (Scan.mark '_')
  return groups.flatten

/-- A whole number of 64 bits with a sign. -/
def within64 (n : Int) : Scan Int := do
  Scan.require (-0x8000000000000000 ≤ n && n < 0x8000000000000000)
  return n

/-- A whole number of base sixteen, eight or two. -/
def basedWhole : Scan Int :=
  let based (mark : String) (base : Nat) (isDigit : Char → Bool) : Scan Int := do
    Scan.word mark
    within64 (ofDigits base (← digits isDigit))
  based "0x" 16 isHexDigit <|>
    based "0o" 8 (fun c => '0' ≤ c && c ≤ '7') <|>
    based "0b" 2 (fun c => c == '0' || c == '1')

/-- The sign and the digits of a decimal number, which has no needless zero in front. -/
def signedDigits : Scan (Bool × List Char) := do
  let negative ← Number.Decimal.sign
  let found ← digits Char.isDigit
  Scan.require (found.head? != some '0' || found.length = 1)
  return (negative, found)

def decimalWhole : Scan Int := do
  let (negative, found) ← signedDigits
  within64 (if negative then -(ofDigits 10 found : Int) else ofDigits 10 found)

/-- The digits after a point. -/
def fraction : Scan (List Char) := do
  Scan.mark '.'
  digits Char.isDigit

/-- The power of ten after the letter `e`. -/
def power : Scan Int := do
  let _ ← Scan.one fun c => c == 'e' || c == 'E'
  let negative ← Number.Decimal.sign
  let found ← digits Char.isDigit
  return if negative then -(ofDigits 10 found : Int) else ofDigits 10 found

/-- A number with a point or a power of ten; it must not be larger than all numbers. -/
def decimalReal : Scan Binary64 := do
  let (negative, before) ← signedDigits
  let after ← Scan.option fraction
  let scale ← Scan.option power
  Scan.require (after.isSome || scale.isSome)
  let number := nearest negative before (after.getD []) (scale.getD 0)
  Scan.require (number != .infinite false)
  return number

/-- Infinity, or what is no number. -/
def namedReal : Scan Binary64 := do
  let negative ← Number.Decimal.sign
  (do Scan.word "inf"; return .infinite negative) <|> (do Scan.word "nan"; return .notANumber)

/-! ## Dates and times -/

/-- Two digits that write a number between two bounds. -/
def pair (least greatest : Nat) : Scan (List Char × Nat) := do
  let tens ← Scan.one Char.isDigit
  let ones ← Scan.one Char.isDigit
  let number := ofDigits 10 [tens, ones]
  Scan.require (least ≤ number && number ≤ greatest)
  return ([tens, ones], number)

def monthLength (year month : Nat) : Nat :=
  if month = 2 then
    if year % 4 = 0 ∧ (year % 100 ≠ 0 ∨ year % 400 = 0) then 29 else 28
  else if month = 4 ∨ month = 6 ∨ month = 9 ∨ month = 11 then 30
  else 31

def date : Scan (List Char) := do
  let (century, high) ← pair 0 99
  let (years, low) ← pair 0 99
  Scan.mark '-'
  let (month, monthNumber) ← pair 1 12
  Scan.mark '-'
  let (day, _) ← pair 1 (monthLength (high * 100 + low) monthNumber)
  return century ++ years ++ '-' :: month ++ '-' :: day

def time : Scan (List Char) := do
  let (hour, _) ← pair 0 23
  Scan.mark ':'
  let (minute, _) ← pair 0 59
  Scan.mark ':'
  let (second, _) ← pair 0 60
  let parts ← Scan.option (do Scan.mark '.'; Scan.someRun Char.isDigit)
  return hour ++ ':' :: minute ++ ':' :: second ++ (parts.map ('.' :: ·)).getD []

/-- How far a time is from the time of the zero meridian. -/
def offset : Scan (List Char) :=
  (do let _ ← Scan.one fun c => c == 'Z' || c == 'z'; return ['Z']) <|>
  (do
    let sign ← Scan.one fun c => c == '+' || c == '-'
    let (hour, _) ← pair 0 23
    Scan.mark ':'
    let (minute, _) ← pair 0 59
    return sign :: hour ++ ':' :: minute)

/-- A date, a time, or a date with a time and its offset. -/
def moment : Scan String := do
  let found ← (do
      let date ← date
      let rest ← Scan.option do
        let _ ← Scan.one fun c => c == 'T' || c == 't' || c == ' '
        let time ← time
        let offset ← Scan.option offset
        return 'T' :: time ++ offset.getD []
      return date ++ rest.getD []) <|> time
  return String.ofList found

/-! ## All of them -/

def scalar : Scan Value :=
  (do return .text (← text)) <|>
  (do Scan.word "true"; return .bool true) <|>
  (do Scan.word "false"; return .bool false) <|>
  (do return .moment (← moment)) <|>
  (do return .real (← decimalReal)) <|>
  (do return .real (← namedReal)) <|>
  (do return .whole (← basedWhole)) <|>
  (do return .whole (← decimalWhole))

end DevicePanel.Toml
