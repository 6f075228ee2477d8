import DevicePanel.Text.Utf8

/-!
# Percent-encoding

A byte is written as `%` and two capital digits of base sixteen.  Which characters are written
so depends on the part of a URL; characters beyond ASCII and control characters always are.
-/

namespace DevicePanel.Url.Percent

open DevicePanel.Text

/-- A capital digit of base sixteen. -/
def hexDigit (n : Nat) : Char := (Nat.digitChar (n % 16)).toUpper

def encodeByte (byte : Nat) : List Char := ['%', hexDigit (byte / 16), hexDigit byte]

/-- Control characters and characters beyond ASCII. -/
def isControl (c : Char) : Bool := c.toNat < 0x20 || 0x7E < c.toNat

def inFragment (c : Char) : Bool := isControl c || " \"<>`".toList.contains c

def inQuery (c : Char) : Bool := isControl c || " \"#<>".toList.contains c

def inSpecialQuery (c : Char) : Bool := inQuery c || c == '\''

def inPath (c : Char) : Bool := inFragment c || "#?\x7b\x7d".toList.contains c

def inUserInfo (c : Char) : Bool := inPath c || "/:;=@[\\]^|".toList.contains c

def inSegment (c : Char) : Bool := inPath c || c == '/' || c == '%'

def inSpecialSegment (c : Char) : Bool := inSegment c || c == '\\'

def encode (isEncoded : Char → Bool) (text : List Char) : List Char :=
  text.flatMap fun c => if isEncoded c then (Utf8.encodeChar c).flatMap encodeByte else [c]

/-- The value of a digit of base sixteen. -/
def hexValue? (c : Char) : Option Nat :=
  if c.isDigit then some (c.toNat - '0'.toNat)
  else if 'a' ≤ c ∧ c ≤ 'f' then some (c.toNat - 'a'.toNat + 10)
  else if 'A' ≤ c ∧ c ≤ 'F' then some (c.toNat - 'A'.toNat + 10)
  else none

/-- The bytes of a text; `%` without two digits stands for itself. -/
def decodeBytes : List Char → List Nat
  | [] => []
  | '%' :: high :: low :: rest =>
      match hexValue? high, hexValue? low with
      | some h, some l => (h * 16 + l) :: decodeBytes rest
      | _, _ => '%'.toNat :: decodeBytes (high :: low :: rest)
  | c :: rest => Utf8.encodeChar c ++ decodeBytes rest

/-- The text that a percent-encoded text stands for, if its bytes are one. -/
def decode? (text : List Char) : Option (List Char) := Utf8.decode? (decodeBytes text)

end DevicePanel.Url.Percent
