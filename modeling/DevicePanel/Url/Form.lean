import DevicePanel.Url.Percent
import DevicePanel.Url.Address

/-!
# Form encoding

Pairs of a name and a value stand between ampersands, with an equals sign between the two.
Letters, digits and `*-._` stand for themselves, a blank is a plus sign, and every other byte
is percent-encoded.
-/

namespace DevicePanel.Url.Form

open DevicePanel.Text

def isPlain (c : Char) : Bool := c.isAlphanum || "*-._".toList.contains c

def encode (text : List Char) : List Char :=
  text.flatMap fun c =>
    if isPlain c then [c]
    else if c = ' ' then ['+']
    else (Utf8.encodeChar c).flatMap Percent.encodeByte

def encodePairs (pairs : List (List Char × List Char)) : List Char :=
  ((pairs.map fun (name, value) => encode name ++ '=' :: encode value).intersperse ['&']).flatten

def decode (text : List Char) : List Char :=
  Utf8.decodeLossy (Percent.decodeBytes (text.map fun c => if c = '+' then ' ' else c))

/-- Decode pairs; a piece without an equals sign is a name without a value. -/
def decodePairs (text : List Char) : List (List Char × List Char) :=
  ((splitAt '&' text).filter fun piece => !piece.isEmpty).map fun piece =>
    (decode (piece.takeWhile (· != '=')), decode ((piece.dropWhile (· != '=')).drop 1))

end DevicePanel.Url.Form
