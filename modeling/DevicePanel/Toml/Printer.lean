import DevicePanel.Toml.Tree
import DevicePanel.Json.Printer

/-!
# Writing a TOML document

A text is written in the first of its spellings that needs no escapes, and between double quotes
with escapes when there is none.
-/

namespace DevicePanel.Toml

/-! ## Spellings of a text -/

def longestRun (c : Char) (text : List Char) : Nat :=
  go text 0 0
where
  /-- Walk over the text, holding the length of the run so far and the longest one seen. -/
  go : List Char → Nat → Nat → Nat
    | [], current, longest => max current longest
    | d :: rest, current, longest =>
        if d = c then go rest (current + 1) longest else go rest 0 (max current longest)

/-- A character that only an escape can write. -/
def needsEscape (c : Char) : Bool :=
  (c.toNat < 32 && c != '\t' && c != '\n') || c == '\x7f'

/-- A way of writing a text. -/
inductive Spelling where
  | basic
  | literal
  | basicLines
  | literalLines
deriving Repr, DecidableEq

def spellingOf (text : List Char) : Spelling :=
  let escapes := text.any needsEscape
  let backslash := text.contains '\\'
  let double := longestRun '"' text
  let single := longestRun '\'' text
  let lines := text.contains '\n'
  if !escapes && !backslash && double = 0 && !lines then .basic
  else if !escapes && single = 0 && !lines then .literal
  else if !escapes && !backslash && double ≤ 2 then .basicLines
  else if !escapes && single ≤ 2 then .literalLines
  else if lines then .basicLines
  else .basic

def keySpellingOf (key : List Char) : Spelling :=
  let escapes := key.any needsEscape || key.contains '\n'
  if !escapes && !key.contains '\\' && !key.contains '"' then .basic
  else if !escapes && !key.contains '\'' then .literal
  else .basic

/-- How a character other than a double quote is written between double quotes. -/
def escaped (inLines : Bool) (c : Char) : List Char :=
  if c = '\x08' then ['\\', 'b']
  else if c = '\t' then ['\\', 't']
  else if c = '\n' then (if inLines then ['\n'] else ['\\', 'n'])
  else if c = '\x0c' then ['\\', 'f']
  else if c = '\r' then ['\\', 'r']
  else if c = '\\' then ['\\', '\\']
  else if needsEscape c then
    ['\\', 'u', '0', '0', (Json.hexDigit (c.toNat / 16)).toUpper, (Json.hexDigit c.toNat).toUpper]
  else [c]

/-- The inside of a text between double quotes; up to `allowed` quotes may follow one another
without escape, and `open` of them stand right before. -/
def basicBody (inLines : Bool) (allowed : Nat) : List Char → (before : Nat) → List Char
  | [], _ => []
  | c :: rest, before =>
      if c = '"' then
        if before < allowed then '"' :: basicBody inLines allowed rest (before + 1)
        else '\\' :: '"' :: basicBody inLines allowed rest 0
      else escaped inLines c ++ basicBody inLines allowed rest 0

/-- A text in a spelling; one that has many lines begins on a new one. -/
def spell (spelling : Spelling) (text : List Char) : List Char :=
  let start := if text.contains '\n' then ['\n'] else []
  match spelling with
  | .basic => '"' :: basicBody false 0 text 0 ++ ['"']
  | .literal => '\'' :: text ++ ['\'']
  | .basicLines =>
      ['"', '"', '"'] ++ start ++ basicBody true 2 text 0 ++ ['"', '"', '"']
  | .literalLines => ['\'', '\'', '\''] ++ start ++ text ++ ['\'', '\'', '\'']

def writeText (text : String) : List Char := spell (spellingOf text.toList) text.toList

/-- A key, without quotes where it may do without. -/
def writeKey (key : String) : List Char :=
  let plain (c : Char) : Bool := c.isAlphanum || c == '_' || c == '-'
  if !key.isEmpty && key.toList.all plain then key.toList
  else spell (keySpellingOf key.toList) key.toList

/-! ## Documents of sections -/

/-- A value that a section gives to a key. -/
inductive Scalar where
  | text (value : String)
  | natural (value : Nat)
  | bool (value : Bool)
deriving Repr, DecidableEq

/-- The pairs below one header; those of the document itself have no path. -/
structure Section where
  path : List String
  pairs : List (String × Scalar)
deriving Repr, DecidableEq

def Scalar.write : Scalar → List Char
  | .text value => writeText value
  | .natural value => Nat.toDigits 10 value
  | .bool true => "true".toList
  | .bool false => "false".toList

def writePair (pair : String × Scalar) : List Char :=
  writeKey pair.1 ++ " = ".toList ++ pair.2.write ++ ['\n']

/-- A header and the lines below it. -/
def Section.write (given : Section) : List Char :=
  let keys := (given.path.map writeKey).intersperse ['.']
  let header := if given.path.isEmpty then [] else '[' :: keys.flatten ++ [']', '\n']
  header ++ given.pairs.flatMap writePair

/-- A document, with an empty line between its sections. -/
def writeDocument (sections : List Section) : List Char :=
  ((sections.map Section.write).intersperse ['\n']).flatten

end DevicePanel.Toml
