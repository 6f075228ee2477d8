/-!
# Addresses of hosts

A host name whose last part is a number is an address of four bytes.  Its parts may be written
in base eight, ten or sixteen, and the last one fills the bytes that are left.  An address of
eight groups stands between brackets; its longest run of zero groups is written as `::`.
-/

namespace DevicePanel.Url

/-- Why a text is no URL. -/
inductive Fault where
  | emptyHost
  | badDomain
  | badPort
  | badIpv4
  | badIpv6
  | badHostCharacter
  /-- There is no scheme, so the text could only continue another URL. -/
  | relative
deriving Repr, DecidableEq, Inhabited

namespace Fault

def message : Fault → String
  | .emptyHost => "empty host"
  | .badDomain => "invalid international domain name"
  | .badPort => "invalid port number"
  | .badIpv4 => "invalid IPv4 address"
  | .badIpv6 => "invalid IPv6 address"
  | .badHostCharacter => "invalid domain character"
  | .relative => "relative URL without a base"

end Fault

/-- Split at a separator; there is always at least one part. -/
def splitAt (separator : Char) : List Char → List (List Char)
  | [] => [[]]
  | c :: rest =>
      if c = separator then [] :: splitAt separator rest
      else
        match splitAt separator rest with
        | [] => [[c]]
        | part :: parts => (c :: part) :: parts

namespace Ipv4

/-- The value of digits of a base, if they all are. -/
def digitsValue? (base : Nat) (digits : List Char) : Option Nat :=
  digits.foldlM (fun value c =>
    let digit? : Option Nat :=
      if c.isDigit then some (c.toNat - '0'.toNat)
      else if 'a' ≤ c ∧ c ≤ 'f' then some (c.toNat - 'a'.toNat + 10)
      else if 'A' ≤ c ∧ c ≤ 'F' then some (c.toNat - 'A'.toNat + 10)
      else none
    match digit? with
    | some digit => if digit < base then some (value * base + digit) else none
    | none => none) 0

/-- The value of a part; its first characters tell the base. -/
def number? : List Char → Option Nat
  | [] => none
  | '0' :: 'x' :: digits => digitsValue? 16 digits
  | '0' :: 'X' :: digits => digitsValue? 16 digits
  | '0' :: digit :: digits => digitsValue? 8 (digit :: digits)
  | digits => digitsValue? 10 digits

/-- The parts of a name, an empty last one left out. -/
def parts (name : List Char) : List (List Char) :=
  let all := splitAt '.' name
  if all.getLast? = some [] then all.dropLast else all

def endsInNumber (name : List Char) : Bool :=
  match (parts name).getLast? with
  | none => false
  | some last => (!last.isEmpty && last.all Char.isDigit) || (number? last).isSome

def read (name : List Char) : Except Fault Nat :=
  let parts := parts name
  if 4 < parts.length then .error .badIpv4
  else
    match parts.mapM number? with
    | none => .error .badIpv4
    | some numbers =>
        let before := numbers.dropLast
        let last := numbers.getLast?.getD 0
        let room := Nat.pow 256 (4 - before.length)
        if before.any (255 < ·) || room ≤ last then .error .badIpv4
        else .ok (before.foldl (fun value byte => value * 256 + byte) 0 * room + last)

def write (address : Nat) : List Char :=
  let part (power : Nat) : List Char := Nat.toDigits 10 (address / Nat.pow 256 power % 256)
  part 3 ++ '.' :: part 2 ++ '.' :: part 1 ++ '.' :: part 0

end Ipv4

namespace Ipv6

/-- A group of up to four digits of base sixteen. -/
def group? (digits : List Char) : Option Nat :=
  if digits.isEmpty || 4 < digits.length then none else Ipv4.digitsValue? 16 digits

/-- A byte in base ten without needless zeros. -/
def byte? (digits : List Char) : Option Nat :=
  if digits.isEmpty || !digits.all Char.isDigit || (1 < digits.length && digits.head? == some '0')
  then none
  else
    match Ipv4.digitsValue? 10 digits with
    | some value => if value < 256 then some value else none
    | none => none

/-- Groups between single colons; the last may be four bytes with points if `mayEndInBytes`. -/
def groups? (mayEndInBytes : Bool) (text : List Char) : Option (List Nat) :=
  if text.isEmpty then some []
  else
    let parts := splitAt ':' text
    match parts.dropLast.mapM group?, parts.getLast? with
    | some first, some last =>
        match group? last with
        | some value => some (first ++ [value])
        | none =>
            match (splitAt '.' last).mapM byte? with
            | some [a, b, c, d] =>
                if mayEndInBytes then some (first ++ [a * 256 + b, c * 256 + d]) else none
            | _ => none
    | _, _ => none

/-- Cut a text at the first two colons in a row. -/
def cutDouble : List Char → Option (List Char × List Char)
  | [] => none
  | ':' :: ':' :: rest => some ([], rest)
  | c :: rest => (cutDouble rest).map fun (before, after) => (c :: before, after)

/-- The eight groups of an address. -/
def read (text : List Char) : Except Fault (List Nat) :=
  match cutDouble text with
  | none =>
      match groups? true text with
      | some groups => if groups.length = 8 then .ok groups else .error .badIpv6
      | none => .error .badIpv6
  | some (before, after) =>
      match groups? false before, groups? true after with
      | some first, some last =>
          if first.length + last.length < 8 then
            .ok (first ++ List.replicate (8 - first.length - last.length) 0 ++ last)
          else .error .badIpv6
      | _, _ => .error .badIpv6

/-- The number of zeros that a list begins with. -/
def zeroRun (groups : List Nat) : Nat := (groups.takeWhile (· == 0)).length

/-- Where the longest run of at least two zeros begins, and its length; of runs of one length
the first. -/
def longestRun (groups : List Nat) : Nat × Nat :=
  (List.range groups.length).foldl (fun best start =>
    let length := zeroRun (groups.drop start)
    if best.2 < length && 1 < length then (start, length) else best) (groups.length, 0)

/-- Groups between colons. -/
def writeGroups (groups : List Nat) : List Char :=
  (groups.map (Nat.toDigits 16)).intersperse [':'] |>.flatten

def write (groups : List Nat) : List Char :=
  let (start, length) := longestRun groups
  if length = 0 then writeGroups groups
  else writeGroups (groups.take start) ++ [':', ':'] ++ writeGroups (groups.drop (start + length))

end Ipv6

end DevicePanel.Url
