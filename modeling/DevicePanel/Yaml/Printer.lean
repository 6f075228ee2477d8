import DevicePanel.Json.Printer
import DevicePanel.Text.LetterCase

/-!
# Writing YAML

Lists and objects are written in block form, one item or member a line, and empty ones between
brackets.  A text is written plainly where no reader could take it for anything else, between
single quotes where it could, by lines where it has several, and between double quotes with
escapes where it holds what no other form can hold.
-/

namespace DevicePanel.Yaml

open DevicePanel.Json (Value wholeText numeralText hexDigit)

/-! ## Which form a text is written in -/

/-- A text that some reader takes for a truth value, a number or nothing. -/
def isAmbiguous (text : List Char) : Bool :=
  let words := ["true", "false", "null", "~", "y", "yes", "n", "no", "on", "off", "nil", "nan"]
  match (Text.lower (String.ofList text)).toList with
  | [] => true
  | c :: rest =>
      c.isDigit || c == '-' || c == '.' || c == '+' || words.contains (String.ofList (c :: rest))

def isBreak (c : Char) : Bool :=
  c == '\n' || c == '\r' || c.toNat == 0x85 || c.toNat == 0x2028 || c.toNat == 0x2029

/-- A character that can stand outside double quotes. -/
def isPrintable (c : Char) : Bool :=
  let n := c.toNat
  n == 10 || (32 ≤ n && n ≤ 126) || (0xA0 ≤ n && n != 0xFEFF && n != 0xFFFE && n != 0xFFFF)

/-- A blank, the end of a line or the end of the text. -/
def isGap : Option Char → Bool
  | none => true
  | some c => c == ' ' || c == '\t' || c == '\x00' || isBreak c

def startsSyntax (c : Char) : Bool :=
  "#,[]\x7b\x7d&*!|>'\"%@`".toList.contains c

/-- Whether marks of the language stand in a text: at its start, as a colon before a gap or as a
hash after one. -/
def hasMarks (text : List Char) : Bool :=
  match text with
  | [] => false
  | first :: rest =>
      startsSyntax first || ((first == '?' || first == ':' || first == '-') && isGap rest.head?) ||
        (text.take 3 == ['-', '-', '-'] || text.take 3 == ['.', '.', '.']) || inside first rest
where
  /-- Look for marks after a character. -/
  inside (before : Char) : List Char → Bool
    | [] => false
    | c :: rest =>
        (c == ':' && isGap rest.head?) || (c == '#' && isGap (some before)) || inside c rest

/-- Two neighbours satisfy two tests. -/
def hasPair (first second : Char → Bool) : List Char → Bool
  | a :: b :: rest => (first a && second b) || hasPair first second (b :: rest)
  | _ => false

inductive Form where
  | plain
  | single
  | double
  | lines
deriving Repr, DecidableEq

/-- The form of a text; `asKey` tells that it is a key before a colon on the same line. -/
def formOf (asKey : Bool) (text : List Char) : Form :=
  let blank (c : Char) : Bool := c == ' '
  let special := text.any (fun c => !isPrintable c) || hasPair blank isBreak text
  let afterBreak := hasPair isBreak blank text
  let several := text.any isBreak
  let edge (c : Option Char) : Bool := c.any fun c => blank c || isBreak c
  let single := !special && !afterBreak && !(asKey && several)
  if text.contains '\n' then
    if special || text.getLast? == some ' ' || asKey then .double else .lines
  else if isAmbiguous text then if single then .single else .double
  else if special || afterBreak || several || edge text.head? || edge text.getLast? ||
      hasMarks text then
    if single then .single else .double
  else .plain

/-! ## The forms -/

/-- A number in so many digits of base sixteen. -/
def hexDigits : (count : Nat) → Nat → List Char
  | 0, _ => []
  | count + 1, n => hexDigits count (n / 16) ++ [(hexDigit n).toUpper]

/-- The characters that are written by a letter between double quotes. -/
def escapeLetters : List (Nat × Char) :=
  [(0, '0'), (7, 'a'), (8, 'b'), (9, 't'), (10, 'n'), (11, 'v'), (12, 'f'), (13, 'r'),
    (27, 'e'), (34, '"'), (92, '\\'), (0x85, 'N'), (0x2028, 'L'), (0x2029, 'P')]

/-- How a character is written between double quotes. -/
def escaped (c : Char) : List Char :=
  let n := c.toNat
  match escapeLetters.lookup n with
  | some letter => ['\\', letter]
  | none =>
      if isPrintable c then [c]
      else if n ≤ 0xFF then '\\' :: 'x' :: hexDigits 2 n
      else if n ≤ 0xFFFF then '\\' :: 'u' :: hexDigits 4 n
      else '\\' :: 'U' :: hexDigits 8 n

/-- How a character is written between single quotes. -/
def doubled (c : Char) : List Char := if c = '\'' then ['\'', '\''] else [c]

def blanks (indent : Nat) : List Char := List.replicate indent ' '

/-- A text with its lines indented, but for those that are empty. -/
def indentLines (indent : Nat) : (atStart : Bool) → List Char → List Char
  | _, [] => []
  | atStart, c :: rest =>
      if isBreak c then c :: indentLines indent true rest
      else if atStart then blanks indent ++ c :: indentLines indent false rest
      else c :: indentLines indent false rest

/-- The sign of a text written by lines: whether it begins with a blank, and how it ends. -/
def linesSign (text : List Char) : List Char :=
  let hint := if text.head?.any fun c => c == ' ' || isBreak c then ['2'] else []
  let ending :=
    match text.reverse with
    | last :: before =>
        if !isBreak last then ['-']
        else if before.head?.all isBreak then ['+']
        else []
    | [] => ['-']
  '|' :: hint ++ ending

/-- A text in its form; its lines are indented by `indent` where it has several. -/
def scalarText (asKey : Bool) (indent : Nat) (text : List Char) : List Char :=
  match formOf asKey text with
  | .plain => text
  | .single => '\'' :: indentLines indent false (text.flatMap doubled ++ ['\''])
  | .double => '"' :: text.flatMap escaped ++ ['"']
  | .lines => linesSign text ++ '\n' :: indentLines indent true text

/-- End the line of a text, unless the text does so itself. -/
def endLine (text : List Char) : List Char :=
  if text.getLast?.any isBreak then text else text ++ ['\n']

def longestKey : Nat := 128

/-- A key that can stand on one line with its value. -/
def isSimpleKey (key : List Char) : Bool :=
  (key.map Char.utf8Size).foldr (· + ·) 0 ≤ longestKey && !key.any isBreak

/-- A key, up to where its value begins. -/
def keyText (indent : Nat) (key : List Char) : List Char :=
  if isSimpleKey key then scalarText true (indent + 2) key ++ [':']
  else endLine ('?' :: ' ' :: scalarText false (indent + 2) key) ++ blanks indent ++ [':', ' ']

/-- A value that is not written in block form, where its line has begun or after a key. -/
def inline (afterKey : Bool) (text : List Char) : List Char :=
  endLine (if afterKey then ' ' :: text else text)

mutual

/-- A value in a block with an indentation, where its line has begun or after a key, up to the end
of its last line. -/
def node (afterKey : Bool) (indent : Nat) : Value → List Char
  | .null => inline afterKey "null".toList
  | .bool true => inline afterKey "true".toList
  | .bool false => inline afterKey "false".toList
  | .number n => inline afterKey (numeralText n)
  | .text s =>
      inline afterKey (scalarText false (if afterKey then indent + 2 else indent) s.toList)
  | .list [] => inline afterKey ['[', ']']
  | .list (item :: items) =>
      let lead := if afterKey then '\n' :: blanks indent else []
      lead ++ '-' :: ' ' :: (node false (indent + 2) item ++ otherItems indent items)
  | .object [] => inline afterKey ['\x7b', '\x7d']
  | .object ((key, value) :: members) =>
      let inner := if afterKey then indent + 2 else indent
      let lead := if afterKey then '\n' :: blanks inner else []
      let simple := isSimpleKey key.toList
      lead ++ keyText inner key.toList ++
        (node simple (if simple then inner else inner + 2) value ++ otherMembers inner members)

/-- The items of a list after the first one. -/
def otherItems (indent : Nat) : List Value → List Char
  | [] => []
  | item :: items =>
      blanks indent ++ '-' :: ' ' :: (node false (indent + 2) item ++ otherItems indent items)

/-- The members of an object after the first one. -/
def otherMembers (indent : Nat) : List (String × Value) → List Char
  | [] => []
  | (key, value) :: members =>
      let simple := isSimpleKey key.toList
      blanks indent ++ keyText indent key.toList ++
        (node simple (if simple then indent else indent + 2) value ++ otherMembers indent members)

end

def document (value : Value) : String := String.ofList (node false 0 value)

end DevicePanel.Yaml
