import DevicePanel.Text.Hidden
import DevicePanel.Text.LetterCase
import DevicePanel.Url.Address
import DevicePanel.Url.Percent
import DevicePanel.Url.Punycode

/-!
# Host names

A host name is brought to small letters and split at its points.  A label with characters
beyond ASCII is written in Punycode behind the mark `xn--`; a label that has the mark already
must be the written form of some label.
-/

namespace DevicePanel.Url.Domain

open DevicePanel.Text

def isForbidden (c : Char) : Bool :=
  c.toNat ≤ 0x20 || c.toNat = 0x7F || "%#/:<>?@[\\]^|".toList.contains c

def isIgnored (c : Char) : Bool :=
  c = '\u00ad' || c = '\u200b' || c = '\u2060' || c = '\ufeff' || c = '\u034f' ||
    ('\ufe00' ≤ c && c ≤ '\ufe0f')

def mapChar (c : Char) : List Char :=
  if isIgnored c then []
  else if c = '\u3002' || c = '\uff0e' || c = '\uff61' then ['.']
  else if '\uff01' ≤ c && c ≤ '\uff5e' then lowerChar (Char.ofNat (c.toNat - 0xFEE0))
  else if c = '\u1e9e' then ['ß']
  else lowerChar c

/-- A label as it is written, if it is valid. -/
def writeLabel? (label : List Char) : Option (List Char) :=
  match label with
  | 'x' :: 'n' :: '-' :: '-' :: rest =>
      if !label.all (fun c => c.toNat < 0x80) then none
      else
        match Punycode.decode? rest with
        | none => none
        | some decoded =>
            if decoded.isEmpty || decoded.all (fun c => c.toNat < 0x80) ||
                decoded.any (fun c => isForbidden c || isHidden c) ||
                decoded.flatMap mapChar ≠ decoded || Punycode.encode decoded ≠ rest then none
            else some label
  | _ =>
      if label.all fun c => c.toNat < 0x80 then some label
      else if label.any isHidden then none
      else some ("xn--".toList ++ Punycode.encode label)

/-- A host name as it is written, from its bytes. -/
def write (bytes : List Nat) : Except Fault (List Char) :=
  match Utf8.decode? bytes with
  | none => .error .badDomain
  | some name =>
      let mapped := name.flatMap mapChar
      if mapped.any isForbidden then .error .badDomain
      else
        match (splitAt '.' mapped).mapM writeLabel? with
        | none => .error .badDomain
        | some labels => .ok ((labels.intersperse ['.']).flatten)

end DevicePanel.Url.Domain
