/-!
# Scanning a text

A scan reads characters from the front of a text and either answers a value or fails.  A failed
alternative gives back all that it read, so `first <|> second` tries `second` at the same place.
-/

namespace DevicePanel

/-- A way of reading a value from the front of a text. -/
abbrev Scan (α : Type) := StateT (List Char) Option α

namespace Scan

/-- The next character, which stays unread. -/
def ahead : Scan (Option Char) := fun text => some (text.head?, text)

def one (test : Char → Bool) : Scan Char
  | c :: rest => if test c then some (c, rest) else none
  | [] => none

def mark (c : Char) : Scan Unit := fun text => (one (· == c) text).map fun (_, rest) => ((), rest)

def word (expected : String) : Scan Unit := fun text =>
  if expected.toList.isPrefixOf text then some ((), text.drop expected.length) else none

def run (test : Char → Bool) : Scan (List Char) := fun text =>
  some (text.takeWhile test, text.dropWhile test)

/-- Read the longest run of characters that satisfy a test, at least one. -/
def someRun (test : Char → Bool) : Scan (List Char) := fun text =>
  match text.takeWhile test with
  | [] => none
  | found => some (found, text.dropWhile test)

/-- Read a value if there is one. -/
def option {α : Type} (scan : Scan α) : Scan (Option α) := fun text =>
  match scan text with
  | some (value, rest) => some (some value, rest)
  | none => some (none, text)

/-- Read values as long as there are any, at most `limit` of them. -/
def manyUpTo {α : Type} (scan : Scan α) : (limit : Nat) → Scan (List α)
  | 0, text => some ([], text)
  | limit + 1, text =>
      match scan text with
      | none => some ([], text)
      | some (value, rest) =>
          (manyUpTo scan limit rest).map fun (values, rest) => (value :: values, rest)

/-- Read values as long as there are any; each one takes up a character at least. -/
def many {α : Type} (scan : Scan α) : Scan (List α) := fun text =>
  manyUpTo scan text.length text

/-- Read values with a separator between them, at least one. -/
def separated {α : Type} (scan : Scan α) (separator : Scan Unit) : Scan (List α) := do
  let first ← scan
  let others ← many do
    separator
    scan
  return first :: others

/-- Succeed at the end of the text only. -/
def finish : Scan Unit
  | [] => some ((), [])
  | _ => none

/-- Fail unless a condition holds. -/
def require (condition : Bool) : Scan Unit := if condition then pure () else failure

def whole? {α : Type} (scan : Scan α) (text : String) : Option α :=
  match scan text.toList with
  | some (value, []) => some value
  | _ => none

end Scan

end DevicePanel
