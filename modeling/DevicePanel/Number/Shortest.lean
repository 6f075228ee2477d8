import DevicePanel.Number.Binary64

/-!
# The shortest decimal digits that read back

For one digit, two digits and so on up to seventeen, the two neighbours of a number on the
grid of decimals with that many digits are tried.  The first grid with a neighbour that reads
back wins, and of two such neighbours the nearer one.
-/

namespace DevicePanel.Number

/-- A positive decimal `coefficient * 10 ^ power`. -/
structure Digits where
  coefficient : Nat
  power : Int
deriving Repr, DecidableEq, Inhabited

namespace Digits

/-- Move trailing zeros of the coefficient into the power, at most `fuel` of them. -/
def trim : (fuel : Nat) → Digits → Digits
  | 0, digits => digits
  | fuel + 1, digits =>
      if digits.coefficient ≠ 0 ∧ digits.coefficient % 10 = 0 then
        trim fuel ⟨digits.coefficient / 10, digits.power + 1⟩
      else digits

/-- The digits of the coefficient, as characters. -/
def characters (digits : Digits) : List Char := Nat.toDigits 10 digits.coefficient

end Digits

namespace Binary64

/-- The power of ten just above a positive quotient: the `p` with
`10 ^ (p - 1) ≤ numerator / denominator < 10 ^ p`. -/
def decimalMagnitude (numerator denominator : Nat) : Int :=
  if denominator ≤ numerator then
    ((Nat.toDigits 10 (numerator / denominator)).length : Int)
  else
    -- The quotient of the turned-over fraction, rounded up, tells the number of leading zeros.
    let turned := (denominator + numerator - 1) / numerator
    1 - ((Nat.toDigits 10 (turned - 1)).length : Int)

/-- The neighbours of a quotient on the grid of multiples of `10 ^ power`, nearest first, a tie
to the even one. -/
def neighbours (numerator denominator : Nat) (power : Int) : List Nat :=
  let (above, below) :=
    if 0 ≤ power then (numerator, denominator * Nat.pow 10 power.toNat)
    else (numerator * Nat.pow 10 (-power).toNat, denominator)
  let low := above / below
  let twiceRest := 2 * (above % below)
  if twiceRest = 0 then [low]
  else if twiceRest < below ∨ (twiceRest = below ∧ low % 2 = 0) then [low, low + 1]
  else [low + 1, low]

/-- The shortest digits among grids of `count`, `count + 1`, … digits that read back as the
given number, with `grids` grids left to try. -/
def shortestFrom (mantissa : Nat) (exponent : Int) (magnitude : Int) :
    (grids : Nat) → (count : Nat) → Digits
  | 0, _ => ⟨0, 0⟩
  | grids + 1, count =>
      let (numerator, denominator) := ratio mantissa exponent
      let power := magnitude - count
      match (neighbours numerator denominator power).find? fun coefficient =>
          ofDecimal false coefficient power == .finite false mantissa exponent with
      | some coefficient => Digits.trim 400 ⟨coefficient, power⟩
      | none => shortestFrom mantissa exponent magnitude grids (count + 1)

/-- The shortest digits that read back as `mantissa * 2 ^ exponent`. -/
def shortestDigits (mantissa : Nat) (exponent : Int) : Digits :=
  let (numerator, denominator) := ratio mantissa exponent
  shortestFrom mantissa exponent (decimalMagnitude numerator denominator) 18 1

end Binary64

end DevicePanel.Number
