/-!
# Binary floating point of 64 bits, by exact arithmetic

A finite number is a sign, a mantissa and a power of two.  Every rounding in this file goes
through `Binary64.ofRatio`, which rounds a quotient of natural numbers to the nearest
representable number and a tie to the even mantissa.  Nothing here uses the machine's own
floating point, so that each value can be computed inside a proof.
-/

namespace DevicePanel.Number

/-- A number of the 64-bit binary format. -/
inductive Binary64 where
  /-- The number `mantissa * 2 ^ exponent`, negated if `negative`. -/
  | finite (negative : Bool) (mantissa : Nat) (exponent : Int)
  | infinite (negative : Bool)
  | notANumber
deriving Repr, DecidableEq, Inhabited

namespace Binary64

/-- The least power of two that a mantissa may be scaled by. -/
def leastExponent : Int := -1074

/-- The greatest power of two that a full mantissa may be scaled by. -/
def greatestExponent : Int := 971

/-- Round `numerator / denominator` to a whole number, a tie to the even one. -/
def roundToEven (numerator denominator : Nat) : Nat :=
  let quotient := numerator / denominator
  let twiceRest := 2 * (numerator % denominator)
  if twiceRest < denominator then quotient
  else if denominator < twiceRest then quotient + 1
  else if quotient % 2 = 0 then quotient
  else quotient + 1

/-- Round `numerator * 2 ^ (-shift) / denominator` to a whole number. -/
def scaledRound (numerator denominator : Nat) (shift : Int) : Nat :=
  if 0 ≤ shift then roundToEven numerator (denominator * Nat.pow 2 shift.toNat)
  else roundToEven (numerator * Nat.pow 2 (-shift).toNat) denominator

/-- Put a mantissa that rounding carried to `2 ^ 53` back into 53 bits, and answer infinity
when the number is too large. -/
def normalize (negative : Bool) (mantissa : Nat) (exponent : Int) : Binary64 :=
  let carried := Nat.pow 2 53 ≤ mantissa
  let mantissa' := if carried then mantissa / 2 else mantissa
  let exponent' := if carried then exponent + 1 else exponent
  if greatestExponent < exponent' then .infinite negative
  else .finite negative mantissa' exponent'

/-- The number nearest to `numerator / denominator`, a tie to the even mantissa. -/
def ofRatio (negative : Bool) (numerator denominator : Nat) : Binary64 :=
  if numerator = 0 then .finite negative 0 0
  else
    let estimate : Int := (numerator.log2 : Int) - (denominator.log2 : Int) - 52
    -- The quotient lies between `2 ^ (estimate + 51)` and `2 ^ (estimate + 53)`.
    let small : Bool :=
      if 0 ≤ estimate then numerator < denominator * Nat.pow 2 (52 + estimate.toNat)
      else numerator * Nat.pow 2 (-estimate).toNat < denominator * Nat.pow 2 52
    let exponent := max leastExponent (if small then estimate - 1 else estimate)
    let mantissa := scaledRound numerator denominator exponent
    if mantissa = 0 then .finite negative 0 0 else normalize negative mantissa exponent

/-- The number nearest to `coefficient * 10 ^ power`. -/
def ofDecimal (negative : Bool) (coefficient : Nat) (power : Int) : Binary64 :=
  if 0 ≤ power then ofRatio negative (coefficient * Nat.pow 10 power.toNat) 1
  else ofRatio negative coefficient (Nat.pow 10 (-power).toNat)

/-- A finite number as a quotient of natural numbers, its sign left out. -/
def ratio (mantissa : Nat) (exponent : Int) : Nat × Nat :=
  if 0 ≤ exponent then (mantissa * Nat.pow 2 exponent.toNat, 1)
  else (mantissa, Nat.pow 2 (-exponent).toNat)

/-- The product of the size of a number with `10 ^ power`, rounded. -/
def scaleUp (number : Binary64) (power : Nat) : Binary64 :=
  match number with
  | .finite negative mantissa exponent =>
      let (numerator, denominator) := ratio mantissa exponent
      -- `10 ^ power` is itself rounded before it multiplies.
      match ofDecimal false 1 power with
      | .finite _ factorMantissa factorExponent =>
          let (above, below) := ratio factorMantissa factorExponent
          ofRatio negative (numerator * above) (denominator * below)
      | other => other
  | other => other

/-- The quotient of a number by `10 ^ power`, rounded. -/
def scaleDown (number : Binary64) (power : Nat) : Binary64 :=
  match number with
  | .finite negative mantissa exponent =>
      let (numerator, denominator) := ratio mantissa exponent
      match ofDecimal false 1 power with
      | .finite _ factorMantissa factorExponent =>
          let (above, below) := ratio factorMantissa factorExponent
          ofRatio negative (numerator * below) (denominator * above)
      | other => other
  | other => other

def isZero : Binary64 → Bool
  | .finite _ mantissa _ => mantissa == 0
  | _ => false

def isInfinite : Binary64 → Bool
  | .infinite _ => true
  | _ => false

/-- A whole number up to `2 ^ 64`, rounded. -/
def ofNat (negative : Bool) (n : Nat) : Binary64 := ofRatio negative n 1

end Binary64

end DevicePanel.Number
