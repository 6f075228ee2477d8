import DevicePanel.Settings.Datum
import DevicePanel.Toml.Scalar
import DevicePanel.Text.Classes

/-!
# Settings in the environment

A variable whose name begins with `DEVGRID_` sets the value at a path of keys.  Its text is read
as a value of some type if it looks like one, and stays a text otherwise.
-/

namespace DevicePanel

/-- The variables of the environment in the order of their names. -/
abbrev Environment := Keyed String

namespace Settings.Variable

/-! ## The value of a variable -/

def blanks : Scan Unit := do
  let _ ← Scan.run Text.isAsciiBlank

/-- A character of a key without quotes. -/
def isKeyChar (c : Char) : Bool := c.isAlphanum || c == '_' || c == '-'

/-- A character that ends a value without quotes. -/
def isBracket (c : Char) : Bool :=
  c == ',' || c == '\x7b' || c == '\x7d' || c == '[' || c == ']'

/-- A character between double quotes, or what an escape stands for. -/
def quotedChar : Scan Char :=
  Scan.one (fun c => c != '"' && c != '\\') <|> (do
    Scan.mark '\\'
    let c ← Scan.one fun _ => true
    match c with
    | '"' => return '"'
    | '\\' => return '\\'
    | 'b' => return '\x08'
    | 'f' => return '\x0c'
    | 'n' => return '\n'
    | 'r' => return '\r'
    | 't' => return '\t'
    | 'u' => Toml.numbered 4
    | 'U' => Toml.numbered 8
    | _ => failure)

/-- A text between double quotes. -/
def quoted : Scan String := do
  Scan.mark '"'
  let found ← Scan.many quotedChar
  Scan.mark '"'
  return String.ofList found

/-- A value without quotes and brackets: a number if it looks like one. -/
def plainDatum (text : String) : Datum :=
  let real := if text.toList.contains '.' then Number.Decimal.real? text else none
  match real with
  | some value => .real .environment value
  | none =>
      match Number.Decimal.natural? text with
      | some value =>
          if value ≤ 0xFFFFFFFFFFFFFFFF then .unsigned .environment value
          else .text .environment text
      | none =>
          match Number.Decimal.whole? text with
          | some value =>
              if -0x8000000000000000 ≤ value then .signed .environment value else .text .environment text
          | none => .text .environment text

def plain : Scan Datum := do
  let found ← Scan.run fun c => !isBracket c
  return plainDatum (String.ofList (Text.trim found))

/-- Values between two brackets, with commas between them; one may also end them. -/
def collection {α : Type} (start stop : Char) (item : Scan α) : Scan (List α) := do
  let more : Scan Unit := do Scan.require ((← Scan.ahead) != some stop)
  Scan.mark start
  let items ← Scan.option do
    more
    let items ← Scan.separated item (do Scan.mark ','; more)
    let _ ← Scan.option (Scan.mark ',')
    return items
  Scan.mark stop
  return items.getD []

/-- A key with a value. -/
def pair (item : Scan Datum) : Scan (String × Datum) := do
  blanks
  let key ← if (← Scan.ahead) = some '"' then quoted
    else (return String.ofList (← Scan.someRun isKeyChar))
  blanks
  Scan.mark '='
  blanks
  let value ← item
  blanks
  return (key, value)

/-- A value in which fewer than `depth` brackets are open at any place. -/
def datum : (depth : Nat) → Scan Datum
  | 0 => failure
  | depth + 1 => do
      blanks
      let value ←
        (do Scan.word "true"; return .bool .environment true) <|>
        (do Scan.word "false"; return .bool .environment false) <|>
        (do
          match ← Scan.ahead with
          | some '\x7b' =>
              let members ← collection '\x7b' '\x7d' (pair (datum depth))
              return .table .environment (Keyed.ofPairs members)
          | some '[' => return .list .environment (← collection '[' ']' (datum depth))
          | some '"' => return .text .environment (← quoted)
          | some '\'' =>
              Scan.mark '\''
              let c ← Scan.one fun _ => true
              Scan.mark '\''
              return .text .environment (String.singleton c)
          | _ => plain)
      blanks
      return value

/-- What the text of a variable sets; a text that breaks the rules of values is itself. -/
def datumOf (text : String) : Datum :=
  (Scan.whole? (datum (text.length + 1)) text).getD (.text .environment text)

/-! ## The path of a variable -/

/-- How the names of the variables begin. -/
def start : String := "devgrid_"

/-- A character in small letters, if it is one of the first 128 characters. -/
def small (text : List Char) : List Char := text.map Char.toLower

/-- The keys in a name: two underscores and a point both stand between keys. -/
def keysOf : (name : List Char) → (key : List Char) → List String
  | [], key => [String.ofList key.reverse]
  | '_' :: '_' :: rest, key => String.ofList key.reverse :: keysOf rest []
  | '.' :: rest, key => String.ofList key.reverse :: keysOf rest []
  | c :: rest, key => keysOf rest (c :: key)

/-- The path of keys that a variable of a name sets, if it sets any. -/
def path? (name : String) : Option (List String) :=
  let name := small (Text.trim name.toList)
  if start.toList.isPrefixOf name then
    let keys := keysOf (name.drop start.length) []
    if keys.any String.isEmpty then none else some keys
  else none

def nest (value : Datum) : (path : List String) → Datum
  | [] => value
  | key :: path => .table .environment [(key, nest value path)]

/-- All that the variables of an environment set, later ones over earlier ones. -/
def layer (environment : Environment) : Datum :=
  environment.foldl (fun below (name, text) =>
    match path? name with
    | none => below
    | some path => below.overlay (nest (datumOf text) path)) (.table .environment [])

end Settings.Variable

end DevicePanel
