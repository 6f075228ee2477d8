/-!
# Texts as bytes

The bytes of a character, and how bytes are read as a text.  Bytes that belong to no character
are replaced: each longest run that could have begun a character becomes one U+FFFD.
-/

namespace DevicePanel.Text.Utf8

/-- The bytes of a character. -/
def encodeChar (c : Char) : List Nat :=
  let n := c.toNat
  if n < 0x80 then [n]
  else if n < 0x800 then [0xC0 + n / 64, 0x80 + n % 64]
  else if n < 0x10000 then [0xE0 + n / 4096, 0x80 + n / 64 % 64, 0x80 + n % 64]
  else [0xF0 + n / 262144, 0x80 + n / 4096 % 64, 0x80 + n / 64 % 64, 0x80 + n % 64]

/-- The bytes of a text. -/
def encode (text : List Char) : List Nat := text.flatMap encodeChar

/-- A character of which the first bytes were read: the value so far, how many bytes are
missing, and the bounds of the next one. -/
structure Open where
  value : Nat
  missing : Nat
  low : Nat
  high : Nat
deriving Repr, DecidableEq

/-- What a byte begins: a whole character, a character with more bytes, or nothing. -/
def opening (byte : Nat) : Option (Char ⊕ Open) :=
  if byte < 0x80 then some (.inl (Char.ofNat byte))
  else if 0xC2 ≤ byte ∧ byte ≤ 0xDF then some (.inr ⟨byte - 0xC0, 1, 0x80, 0xBF⟩)
  else if byte = 0xE0 then some (.inr ⟨0, 2, 0xA0, 0xBF⟩)
  else if byte = 0xED then some (.inr ⟨0xD, 2, 0x80, 0x9F⟩)
  else if 0xE1 ≤ byte ∧ byte ≤ 0xEF then some (.inr ⟨byte - 0xE0, 2, 0x80, 0xBF⟩)
  else if byte = 0xF0 then some (.inr ⟨0, 3, 0x90, 0xBF⟩)
  else if 0xF1 ≤ byte ∧ byte ≤ 0xF3 then some (.inr ⟨byte - 0xF0, 3, 0x80, 0xBF⟩)
  else if byte = 0xF4 then some (.inr ⟨4, 3, 0x80, 0x8F⟩)
  else none

/-- The character that stands for bytes that are none. -/
def replacement : Char := '\ufffd'

/-- What a list of bytes is read as: characters, and in the place of a run of bytes that is no
character nothing. -/
def parts : Option Open → List Nat → List (Option Char)
  | none, [] => []
  | some _, [] => [none]
  | none, byte :: bytes =>
      match opening byte with
      | some (.inl c) => some c :: parts none bytes
      | some (.inr start) => parts (some start) bytes
      | none => none :: parts none bytes
  | some start, byte :: bytes =>
      if start.low ≤ byte ∧ byte ≤ start.high then
        let value := start.value * 64 + (byte - 0x80)
        if start.missing = 1 then some (Char.ofNat value) :: parts none bytes
        else parts (some ⟨value, start.missing - 1, 0x80, 0xBF⟩) bytes
      else
        match opening byte with
        | some (.inl c) => none :: some c :: parts none bytes
        | some (.inr start) => none :: parts (some start) bytes
        | none => none :: none :: parts none bytes

/-- The text of bytes, with replacements. -/
def decodeLossy (bytes : List Nat) : List Char :=
  (parts none bytes).map fun part => part.getD replacement

/-- The text of bytes that all belong to characters. -/
def decode? (bytes : List Nat) : Option (List Char) := (parts none bytes).mapM id

end DevicePanel.Text.Utf8
