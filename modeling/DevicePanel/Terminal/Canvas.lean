import DevicePanel.Terminal.Area
import DevicePanel.Terminal.Style
import DevicePanel.Text.Cluster

/-!
# What is drawn on a terminal

A canvas holds a symbol and a style for each cell.  A symbol that fills two columns hides the
cell after it.
-/

namespace DevicePanel.Terminal

structure Cell where
  symbol : List Char
  style : Style
deriving Repr, DecidableEq

namespace Cell

/-- The cell of an empty canvas. -/
def blank : Cell := ⟨[' '], .plain⟩

def dress (style : Style) (cell : Cell) : Cell := { cell with style := style.atop cell.style }

def put (symbol : List Char) (style : Style) (cell : Cell) : Cell :=
  ⟨symbol, style.atop cell.style⟩

def append (symbol : List Char) (style : Style) (cell : Cell) : Cell :=
  ⟨cell.symbol ++ symbol, style.atop cell.style⟩

end Cell

/-- The cells of a terminal, row by row. -/
structure Canvas where
  width : Nat
  height : Nat
  cells : Array Cell

namespace Canvas

def empty (width height : Nat) : Canvas := ⟨width, height, Array.replicate (width * height) .blank⟩

def area (canvas : Canvas) : Area := ⟨0, 0, canvas.width, canvas.height⟩

/-- Change the cell of a column and a row. -/
def change (column row : Nat) (edit : Cell → Cell) (canvas : Canvas) : Canvas :=
  if column < canvas.width ∧ row < canvas.height then
    { canvas with cells := canvas.cells.modify (row * canvas.width + column) edit }
  else canvas

def changeArea (area : Area) (edit : Cell → Cell) (canvas : Canvas) : Canvas :=
  area.cells.foldl (fun canvas (column, row) => canvas.change column row edit) canvas

def dress (area : Area) (style : Style) : Canvas → Canvas := changeArea area (Cell.dress style)

def erase (area : Area) : Canvas → Canvas := changeArea area fun _ => .blank

/-! ## What is seen -/

def isMarkedPicture (symbol : List Char) : Bool := symbol.contains Text.pictureMark

/-- What is seen of cells, where `hidden` tells of the first cell that it lies behind a wide
symbol and whether that hides its look as well. -/
def seen : (hidden : Option Bool) → List Cell → List Cell
  | _, [] => []
  | some true, cell :: cells => .blank :: seen (next cell) cells
  | some false, cell :: cells => cell :: seen (next cell) cells
  | none, cell :: cells => cell :: seen (next cell) cells
where
  /-- What a cell hides of the one after it. -/
  next (cell : Cell) : Option Bool :=
    if 1 < Text.width cell.symbol then some (!isMarkedPicture cell.symbol) else none

def pieces {α : Type} (length : Nat) : (count : Nat) → List α → List (List α)
  | 0, _ => []
  | count + 1, items => items.take length :: pieces length count (items.drop length)

def rows (canvas : Canvas) : List (List Cell) :=
  pieces canvas.width canvas.height (seen none canvas.cells.toList)

/-- The symbols of a row; the blanks at its end are left out. -/
def rowText (cells : List Cell) : String :=
  String.ofList (Text.trimEnd (cells.flatMap Cell.symbol))

/-- A number of cells side by side with one style. -/
structure Stretch where
  column : Nat
  length : Nat
  style : Style
deriving Repr, DecidableEq

/-- The longest stretches of cells with one style, from a column on. -/
def stretches (column : Nat) : List Cell → List Stretch
  | [] => []
  | cell :: cells =>
      match stretches (column + 1) cells with
      | [] => [⟨column, 1, cell.style⟩]
      | next :: others =>
          if next.style = cell.style then ⟨column, next.length + 1, cell.style⟩ :: others
          else ⟨column, 1, cell.style⟩ :: next :: others

end Canvas

end DevicePanel.Terminal
