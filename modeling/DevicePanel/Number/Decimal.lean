import DevicePanel.Number.Binary64
import DevicePanel.Text.Scan

/-!
# Reading decimal numbers

Texts of digits are read as natural numbers of any size; texts with a point or an exponent are
read as the binary number nearest to them.
-/

namespace DevicePanel.Number

/-- The value of a digit of any base up to sixteen. -/
def digitValue (c : Char) : Nat :=
  if c.isDigit then c.toNat - '0'.toNat
  else if 'a' ≤ c ∧ c ≤ 'f' then c.toNat - 'a'.toNat + 10
  else if 'A' ≤ c ∧ c ≤ 'F' then c.toNat - 'A'.toNat + 10
  else 0

/-- The number that digits write in a base. -/
def ofDigits (base : Nat) (digits : List Char) : Nat :=
  digits.foldl (fun number digit => number * base + digitValue digit) 0

/-- How many places to the left or to the right of its digits a number may reach before it is
certainly too large or too small. -/
def farthestPlace : Nat := 400

/-- The number nearest to the digits around a point, times a power of ten. -/
def nearest (negative : Bool) (before after : List Char) (power : Int) : Binary64 :=
  let digits := (before ++ after).dropWhile (· == '0')
  let place := power - after.length
  if digits.isEmpty then .finite negative 0 0
  else if farthestPlace < place + digits.length then .infinite negative
  else if place + digits.length < -farthestPlace then .finite negative 0 0
  else Binary64.ofDecimal negative (ofDigits 10 digits) place

namespace Decimal

/-- A sign, and whether it is negative. -/
def sign : Scan Bool := do
  match ← Scan.option (Scan.one fun c => c == '+' || c == '-') with
  | some c => return c == '-'
  | none => return false

/-- The power of ten after the letter `e`. -/
def power : Scan Int := do
  let _ ← Scan.one fun c => c == 'e' || c == 'E'
  let negative ← sign
  let digits ← Scan.someRun Char.isDigit
  return if negative then -(ofDigits 10 digits : Int) else ofDigits 10 digits

/-- A number with digits before or after a point that may be missing, and a power of ten that
may be missing. -/
def real : Scan Binary64 := do
  let negative ← sign
  let before ← Scan.run Char.isDigit
  let after ← Scan.option do
    Scan.mark '.'
    Scan.run Char.isDigit
  let after := after.getD []
  Scan.require !(before.isEmpty && after.isEmpty)
  let power ← Scan.option power
  return nearest negative before after (power.getD 0)

def real? (text : String) : Option Binary64 := Scan.whole? real text

def natural? (text : String) : Option Nat :=
  Scan.whole? (do
    let _ ← Scan.option (Scan.mark '+')
    let digits ← Scan.someRun Char.isDigit
    return ofDigits 10 digits) text

def whole? (text : String) : Option Int :=
  Scan.whole? (do
    let negative ← sign
    let digits ← Scan.someRun Char.isDigit
    return if negative then -(ofDigits 10 digits : Int) else ofDigits 10 digits) text

end Decimal

end DevicePanel.Number
