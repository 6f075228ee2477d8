import DevicePanel.Number.Binary64

/-!
# JSON values

Objects keep their members in the order in which they were written.
-/

namespace DevicePanel.Json

open DevicePanel.Number (Binary64)

def greatestNatural : Nat := 0xFFFFFFFFFFFFFFFF

/-- The greatest number of which the negative is kept digit by digit. -/
def greatestNegative : Nat := 0x8000000000000000

/-- A number: a whole number of 64 bits, or a binary floating-point number. -/
inductive Numeral where
  | whole (value : Int)
  | real (value : Binary64)
deriving Repr, DecidableEq, Inhabited

inductive Value where
  | null
  | bool (value : Bool)
  | number (value : Numeral)
  | text (value : String)
  | list (items : List Value)
  | object (members : List (String × Value))
deriving Repr, Inhabited

namespace Value

def whole (n : Int) : Value := .number (.whole n)

def texts (items : List String) : Value := .list (items.map .text)

/-- Change the value under a key of an object. -/
def changeUnder (key : String) (change : Value → Value) : Value → Value
  | .object members => .object (members.map fun (name, value) =>
      (name, if name = key then change value else value))
  | other => other

/-- Change every value of an object. -/
def changeAll (change : Value → Value) : Value → Value
  | .object members => .object (members.map fun (name, value) => (name, change value))
  | other => other

end Value

end DevicePanel.Json
