import DevicePanel.Number.Shortest

/-!
# How a floating-point number is written

A `Layout` says which numbers are written by position and how an exponent looks.  The digits
are always the shortest that read back.
-/

namespace DevicePanel.Number

/-- The choices of one way of writing floating-point numbers. -/
structure Layout where
  /-- With the decimal point after this many digits or fewer, write all digits by position. -/
  mostWhole : Option Nat
  /-- With at most this many zeros just after the point, write by position. -/
  mostZeros : Option Nat
  /-- Whole numbers written by position end in `.0`. -/
  pointZero : Bool
  /-- A positive exponent has a plus sign. -/
  exponentPlus : Bool
  infinity : String
  notANumber : String
deriving Repr

namespace Layout

/-- Digits by position, never an exponent and no ending `.0`. -/
def plain : Layout := ⟨none, none, false, false, "inf", "NaN"⟩

/-- Numbers in documents: an exponent from `10 ^ 16` on and below `10 ^ -5`. -/
def document : Layout := ⟨some 16, some 4, true, true, "inf", "NaN"⟩

/-- Write positive digits whose first digit stands just before position `point`, the place of
the decimal point counted from the first digit. -/
def writeDigits (layout : Layout) (digits : List Char) (point : Int) : List Char :=
  let count : Int := digits.length
  let positionalWhole := 0 < point ∧ (layout.mostWhole.all fun most => point ≤ most)
  let positionalFraction := point ≤ 0 ∧ (layout.mostZeros.all fun most => -point ≤ most)
  if positionalWhole then
    if count ≤ point then
      digits ++ List.replicate (point - count).toNat '0' ++
        (if layout.pointZero then ['.', '0'] else [])
    else digits.take point.toNat ++ ['.'] ++ digits.drop point.toNat
  else if positionalFraction then
    ['0', '.'] ++ List.replicate (-point).toNat '0' ++ digits
  else
    let exponent := point - 1
    let mantissa :=
      match digits with
      | [single] => [single]
      | first :: others => first :: '.' :: others
      | [] => []
    let sign :=
      if exponent < 0 then ['-'] else if layout.exponentPlus then ['+'] else []
    mantissa ++ ['e'] ++ sign ++ Nat.toDigits 10 exponent.natAbs

/-- The text of a number. -/
def write (layout : Layout) : Binary64 → String
  | .notANumber => layout.notANumber
  | .infinite negative => (if negative then "-" else "") ++ layout.infinity
  | .finite negative mantissa exponent =>
      let sign := if negative then "-" else ""
      if mantissa = 0 then sign ++ (if layout.pointZero then "0.0" else "0")
      else
        let digits := Binary64.shortestDigits mantissa exponent
        let characters := digits.characters
        sign ++ String.ofList
          (layout.writeDigits characters (characters.length + digits.power))

end Layout

end DevicePanel.Number
