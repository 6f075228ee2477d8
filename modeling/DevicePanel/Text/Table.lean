import DevicePanel.Text.Cluster

/-!
# Tables of text

A table has a line around it, with round corners, a line below its heading and lines between its
columns.  A cell may have several lines; every column is as wide as its widest line.
-/

namespace DevicePanel.Text

namespace Table

def splitLines (text : List Char) : List (List Char) :=
  go text []
where
  /-- Walk over the text, holding the line so far in reverse order. -/
  go : List Char → List Char → List (List Char)
    | [], line => [line.reverse]
    | '\n' :: rest, line => line.reverse :: go rest []
    | c :: rest, line => go rest (c :: line)

/-- A row of cells, each of them as its lines. -/
abbrev Cells := List (List (List Char))

def cellsOf (row : List String) : Cells := row.map fun text => splitLines text.toList

/-- The columns that a cell fills. -/
def cellWidth (cell : List (List Char)) : Nat := (cell.map width).foldl max 0

/-- The widths of columns, where each row has as many cells as there are widths. -/
def columnWidths (rows : List Cells) (count : Nat) : List Nat :=
  rows.foldl (fun widths row => List.zipWith max widths (row.map cellWidth))
    (List.replicate count 0)

/-- A line between rows, from the characters at its start, in it, between columns and at its
end. -/
def rule (start line cross stop : Char) (widths : List Nat) : List Char :=
  start :: ((widths.map fun w => List.replicate (w + 2) line).intersperse [cross]).flatten ++ [stop]

def pad (line : List Char) (columns : Nat) : List Char :=
  ' ' :: line ++ List.replicate (columns - width line + 1) ' '

/-- The lines of a row; a cell with fewer lines than the others ends with empty ones. -/
def rowLines (widths : List Nat) (row : Cells) : List (List Char) :=
  let height := (row.map List.length).foldl max 0
  (List.range height).map fun place =>
    let pieces := List.zipWith (fun cell w => pad (cell.getD place []) w) row widths
    '│' :: (pieces.intersperse ['│']).flatten ++ ['│']

end Table

open Table in
def table (heading : List String) (rows : List (List String)) : String :=
  let top := cellsOf heading
  let body := rows.map cellsOf
  let widths := columnWidths (top :: body) heading.length
  let separator := if rows.isEmpty then [] else [rule '├' '─' '┼' '┤' widths]
  let lines := [rule '╭' '─' '┬' '╮' widths] ++ rowLines widths top ++ separator ++
    body.flatMap (rowLines widths) ++ [rule '╰' '─' '┴' '╯' widths]
  String.ofList (lines.intersperse ['\n']).flatten

end DevicePanel.Text
