import DevicePanel.Terminal.Phrase

/-!
# Sheets

A sheet shows entries in columns under a heading.  It has four columns with one empty column
between them: the first and the third one have a fixed width, and the second and the fourth one
share what is left.
-/

namespace DevicePanel.Terminal

/-! ## The columns -/

/-- The widths of the columns: what a fixed one fills, and what another one fills at least. -/
structure ColumnPlan where
  first : Nat
  second : Nat
  third : Nat
  fourth : Nat
deriving Repr, DecidableEq

/-- A column of a sheet: where it begins and how wide it is. -/
structure Column where
  start : Nat
  width : Nat
deriving Repr, DecidableEq

namespace ColumnPlan

/-- The number of empty columns. -/
def gaps : Nat := 3

/-- The widths of four columns in half columns, for a sheet of a width.  Where there is not room
for all, the first column gives way, then the third one, then the fourth one down to the width of
the second one, and then both. -/
def halves (plan : ColumnPlan) (width : Nat) : Nat × Nat × Nat × Nat :=
  let room := width - gaps
  let flexible := plan.second + plan.fourth
  let fixed := min (plan.first + plan.third) (room - flexible)
  let third := min plan.third fixed
  let first := fixed - third
  let shared := room - fixed
  -- Two halves, unless the fourth column alone would be below its least width.
  let second :=
    if 2 * plan.second ≤ shared ∧ shared < 2 * plan.fourth then
      2 * max plan.second (shared - plan.fourth)
    else shared
  (2 * first, second, 2 * third, 2 * shared - second)

/-- A number of half columns as columns; a half counts as one. -/
def rounded (halves : Nat) : Nat := (halves + 1) / 2

/-- The columns of a sheet of a width. -/
def columns (plan : ColumnPlan) (width : Nat) : List Column :=
  let (first, second, third, fourth) := plan.halves width
  let column (start size : Nat) : Column :=
    ⟨rounded start, rounded (start + size) - rounded start⟩
  let secondStart := first + 2
  let thirdStart := secondStart + second + 2
  let fourthStart := thirdStart + third + 2
  [column 0 first, column secondStart second, column thirdStart third,
    column fourthStart fourth]

end ColumnPlan

/-! ## Entries -/

/-- What stands in a column of an entry. -/
structure Field where
  line : Line
  style : Style
deriving Repr, DecidableEq

structure SheetRow where
  fields : List Field
  style : Style
deriving Repr, DecidableEq

namespace Canvas

def writeField (area : Area) (field : Field) (canvas : Canvas) : Canvas :=
  if area.isEmpty then canvas
  else (canvas.dress area field.style).writePhrases area field.line

def writeSheetRow (columns : List Column) (area : Area) (entry : SheetRow) (canvas : Canvas) :
    Canvas :=
  (columns.zip entry.fields).foldl (fun canvas (column, field) =>
    canvas.writeField { area with left := area.left + column.start, width := column.width } field)
    (canvas.dress area entry.style)

end Canvas

/-- The first of a number of entries that is shown where so many have room: the selected one is
always shown. -/
def firstShown (room : Nat) (selected : Option Nat) : Nat :=
  match selected with
  | none => 0
  | some place => place + 1 - room

/-- Draw a sheet: its heading and below it as many entries as have room. -/
def Canvas.writeSheet (plan : ColumnPlan) (heading : SheetRow) (entries : List SheetRow)
    (selected : Option Nat) (area : Area) (canvas : Canvas) : Canvas :=
  if area.isEmpty then canvas
  else
    let columns := plan.columns area.width
    let room := area.height - 1
    let shown := (entries.drop (firstShown room selected)).take room
    (shown.zipIdx).foldl
      (fun canvas (entry, index) => canvas.writeSheetRow columns (area.row (index + 1)) entry)
      (canvas.writeSheetRow columns (area.row 0) heading)

end DevicePanel.Terminal
