/-!
# Areas of a terminal

Columns and rows are numbered from zero, from the left and from the top.  No number on a terminal
is greater than `Coordinate.greatest`.
-/

namespace DevicePanel.Terminal

namespace Coordinate

/-- Numbers on a terminal have 16 bits. -/
def greatest : Nat := 0xFFFF

/-- A sum, if it is a number on a terminal. -/
def sum? (a b : Nat) : Option Nat := if a + b ≤ greatest then some (a + b) else none

/-- A sum, or the greatest number if the sum is too great. -/
def boundedSum (a b : Nat) : Nat := min greatest (a + b)

/-- A number, or the greatest number on a terminal if it is too great. -/
def bounded (n : Nat) : Nat := min greatest n

end Coordinate

structure Area where
  left : Nat
  top : Nat
  width : Nat
  height : Nat
deriving Repr, DecidableEq

namespace Area

/-- The first column behind an area. -/
def right (area : Area) : Nat := area.left + area.width

def bottom (area : Area) : Nat := area.top + area.height

def isEmpty (area : Area) : Bool := area.width = 0 || area.height = 0

def Fits (area : Area) : Prop :=
  area.right ≤ Coordinate.greatest ∧ area.bottom ≤ Coordinate.greatest

/-- One area lies inside another. -/
def Inside (inner outer : Area) : Prop :=
  outer.left ≤ inner.left ∧ outer.top ≤ inner.top ∧
    inner.right ≤ outer.right ∧ inner.bottom ≤ outer.bottom

/-- The area without the cells at its four sides. -/
def inner (area : Area) : Area where
  left := min (area.left + 1) area.right
  top := min (area.top + 1) area.bottom
  width := area.width - 2
  height := area.height - 2

/-- A number of columns cut off on the left. -/
def dropLeft (area : Area) (columns : Nat) : Area :=
  { area with left := area.left + columns, width := area.width - columns }

/-- The row of an area, as an area. -/
def row (area : Area) (index : Nat) : Area :=
  { area with top := area.top + index, height := min 1 (area.height - index) }

/-- An area without its last row; the only row stays. -/
def body (area : Area) : Area := { area with height := max (min 1 area.height) (area.height - 1) }

/-- What `body` leaves of an area. -/
def footer (area : Area) : Area :=
  { area with top := area.body.bottom, height := area.height - area.body.height }

/-- The cells of an area, row by row. -/
def cells (area : Area) : List (Nat × Nat) :=
  (List.range area.height).flatMap fun dy =>
    (List.range area.width).map fun dx => (area.left + dx, area.top + dy)

end Area

end DevicePanel.Terminal
