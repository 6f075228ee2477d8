/-!
# Natural numbers of 64 bits, digit by digit

The first digit that is none, or that makes the number too large, is the one that is blamed.
-/

namespace DevicePanel.Number

/-- Why a text is no natural number of 64 bits. -/
inductive NaturalFault where
  | empty
  | badDigit
  | tooLarge
deriving Repr, DecidableEq

def NaturalFault.message : NaturalFault → String
  | .empty => "cannot parse integer from empty string"
  | .badDigit => "invalid digit found in string"
  | .tooLarge => "number too large to fit in target type"

/-- Read on after the digits of `number`. -/
def natural64After (number : Nat) : List Char → Except NaturalFault Nat
  | [] => .ok number
  | c :: rest =>
      if !c.isDigit then .error .badDigit
      else
        let next := number * 10 + (c.toNat - '0'.toNat)
        if 0xFFFFFFFFFFFFFFFF < next then .error .tooLarge else natural64After next rest

/-- The natural number of 64 bits that a text writes, maybe with a plus sign. -/
def natural64 (text : String) : Except NaturalFault Nat :=
  match text.toList with
  | [] => .error .empty
  | ['+'] => .error .badDigit
  | '+' :: digits => natural64After 0 digits
  | digits => natural64After 0 digits

end DevicePanel.Number
