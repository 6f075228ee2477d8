import DevicePanel.Terminal.Phrase

/-!
# Panels

A panel is an area with a line around it, which holds a title.
-/

namespace DevicePanel.Terminal

structure Panel where
  title : String
  titleStyle : Style
  borderStyle : Style
  /-- The look of the whole panel. -/
  fill : Style
deriving Repr, DecidableEq

namespace Panel

/-- The symbol of the line at a cell of an area; the corner on top and left wins over the others,
and those on the left over those on the right. -/
def borderSymbol? (area : Area) (column row : Nat) : Option Char :=
  let atLeft := column = area.left
  let atTop := row = area.top
  let atRight := column + 1 = area.right
  let atBottom := row + 1 = area.bottom
  if atLeft && atTop then some '╭'
  else if atLeft && atBottom then some '╰'
  else if atRight && atTop then some '╮'
  else if atRight && atBottom then some '╯'
  else if atTop || atBottom then some '─'
  else if atLeft || atRight then some '│'
  else none

def titleArea (area : Area) : Area := ⟨area.left + 1, area.top, area.width - 2, 1⟩

def drawBorder (panel : Panel) (area : Area) (canvas : Canvas) : Canvas :=
  area.cells.foldl (fun canvas (column, row) =>
    match borderSymbol? area column row with
    | some symbol => canvas.change column row (Cell.put [symbol] panel.borderStyle)
    | none => canvas) canvas

def drawTitle (panel : Panel) (area : Area) (canvas : Canvas) : Canvas :=
  let phrase : Phrase := ⟨panel.title, .plain⟩
  let room := titleArea area
  let room := { room with width := min phrase.width room.width }
  if room.isEmpty then canvas
  else (canvas.dress room panel.titleStyle).writePhrases room [phrase]

def draw (panel : Panel) (area : Area) (canvas : Canvas) : Canvas :=
  if area.isEmpty then canvas
  else panel.drawTitle area (panel.drawBorder area (canvas.dress area panel.fill))

end Panel

end DevicePanel.Terminal
