import DevicePanel.Toml.Scalar
import DevicePanel.Toml.Tree

/-!
# Reading a TOML document

A document is a sequence of lines, each of which is empty, begins a table or gives a key its
value.  `Toml.ofText?` answers the table of all keys, or nothing when the text breaks a rule.
-/

namespace DevicePanel.Toml

/-- A list; line ends and comments may stand between its items, and a comma after the last. -/
def list (item : Scan Value) : Scan Value := do
  Scan.mark '['
  gap
  let items ← Scan.option do
    let items ← Scan.separated (do let v ← item; gap; return v) (do Scan.mark ','; gap)
    let _ ← Scan.option (do Scan.mark ','; gap)
    return items
  Scan.mark ']'
  return .list (items.getD [])

def pairOf (item : Scan Value) : Scan (List String × Value) := do
  let keys ← path
  Scan.mark '='
  blanks
  let value ← item
  blanks
  return (keys, value)

/-- Put pairs into a table one after the other. -/
def putAll : List (List String × Value) → Growth.Members → Option Growth.Members
  | [], members => some members
  | (keys, value) :: others, members => (Growth.putPair value keys members).bind (putAll others)

def inlineTable (item : Scan Value) : Scan Value := do
  Scan.mark '\x7b'
  blanks
  let pairs ← Scan.option (Scan.separated (pairOf item) (Scan.mark ','))
  Scan.mark '\x7d'
  match putAll (pairs.getD []) [] with
  | some members => return .table (Growth.toMembers members)
  | none => failure

/-- A value in which fewer than `depth` lists and tables are open at any place. -/
def value : (depth : Nat) → Scan Value
  | 0 => failure
  | 1 => scalar
  | depth + 1 => list (value depth) <|> inlineTable (value depth) <|> scalar

/-- One line of a document. -/
inductive Line where
  | empty
  | table (path : List String)
  | item (path : List String)
  | pair (path : List String) (value : Value)
deriving Inhabited

/-- The header of a table, or of one more table of a list. -/
def header : Scan Line :=
  (do
    Scan.word "[["
    let keys ← path
    Scan.word "]]"
    return .item keys) <|>
  (do
    Scan.mark '['
    let keys ← path
    Scan.mark ']'
    return .table keys)

/-- One line, without its end. -/
def line : Scan Line := do
  blanks
  let found ← header <|> (do
    let (keys, value) ← pairOf (value deepest)
    return .pair keys value) <|> pure .empty
  blanks
  let _ ← Scan.option comment
  return found

/-- All lines; a byte order mark may stand in front. -/
def lines : Scan (List Line) := do
  let _ ← Scan.option (Scan.mark '\uFEFF')
  let found ← Scan.many (do let l ← line; lineEnd; return l)
  let last ← line
  Scan.finish
  return found ++ [last]

/-- Take in one line; `place` is the path of the table that is open. -/
def takeIn (line : Line) (place : List String) (members : Growth.Members) :
    Option (List String × Growth.Members) :=
  match line with
  | .empty => some (place, members)
  | .pair keys value => (Growth.within (Growth.putPair value keys) place members).map (place, ·)
  | .table keys =>
      match keys.getLast? with
      | none => none
      | some key =>
          (Growth.within (Growth.openTable key) keys.dropLast members).map (keys, ·)
  | .item keys =>
      match keys.getLast? with
      | none => none
      | some key =>
          (Growth.within (Growth.openItem key) keys.dropLast members).map (keys, ·)

def takeInAll : List Line → List String → Growth.Members → Option Growth.Members
  | [], _, members => some members
  | line :: others, place, members =>
      (takeIn line place members).bind fun (place, members) => takeInAll others place members

def ofText? (text : String) : Option Table :=
  ((Scan.whole? lines text).bind (takeInAll · [] [])).map Growth.toMembers

end DevicePanel.Toml
