import DevicePanel.Url.Domain

/-!
# Hosts

A host is a name or an address.
-/

namespace DevicePanel.Url

inductive Host where
  | domain (name : List Char)
  | ipv4 (address : Nat)
  | ipv6 (groups : List Nat)
deriving Repr, DecidableEq, Inhabited

namespace Host

def write : Host → List Char
  | .domain name => name
  | .ipv4 address => Ipv4.write address
  | .ipv6 groups => '[' :: Ipv6.write groups ++ [']']

/-- Read an address between brackets. -/
def readBracketed (text : List Char) : Except Fault Host :=
  if text.getLast? = some ']' ∧ 1 < text.length then
    match Ipv6.read (text.drop 1).dropLast with
    | .ok groups => .ok (.ipv6 groups)
    | .error fault => .error fault
  else .error .badIpv6

def readSpecial (text : List Char) : Except Fault Host :=
  if text.head? = some '[' then readBracketed text
  else
    match Domain.write (Percent.decodeBytes text) with
    | .error fault => .error fault
    | .ok name =>
        if name.isEmpty then .error .emptyHost
        else if Ipv4.endsInNumber name then
          match Ipv4.read name with
          | .ok address => .ok (.ipv4 address)
          | .error fault => .error fault
        else .ok (.domain name)

def isForbidden (c : Char) : Bool := "\x00\t\n\r #/:<>?@[\\]^|".toList.contains c

/-- Read the host of another scheme; it is not looked into. -/
def readOpaque (text : List Char) : Except Fault Host :=
  if text.head? = some '[' then readBracketed text
  else if text.any isForbidden then .error .badHostCharacter
  else .ok (.domain (Percent.encode Percent.isControl text))

end Host

end DevicePanel.Url
