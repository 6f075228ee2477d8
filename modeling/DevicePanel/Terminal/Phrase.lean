import DevicePanel.Terminal.Canvas

/-!
# Lines of text

A line is made of phrases, each with a style.  There are two ways of writing a line into an area.
Written symbol by symbol, a symbol that fills no column is passed over.  Written phrase by phrase,
such a symbol joins the one before it, and a phrase takes as many columns as its text has.
-/

namespace DevicePanel.Terminal

/-- A text with a style. -/
structure Phrase where
  text : String
  style : Style
deriving Repr, DecidableEq

abbrev Line := List Phrase

/-- A symbol with its style. -/
structure Glyph where
  symbol : List Char
  style : Style
deriving Repr, DecidableEq

namespace Glyph

/-- How many columns a glyph fills. -/
def width (glyph : Glyph) : Nat := Text.width glyph.symbol

/-- A character that stands between words. -/
def isBlank (glyph : Glyph) : Bool :=
  glyph.symbol == [Char.ofNat 0x200B] ||
    (glyph.symbol.all Text.isBlank && glyph.symbol != [Char.ofNat 0xA0])

end Glyph

/-- How many columns glyphs fill. -/
def columnsOf (glyphs : List Glyph) : Nat := (glyphs.map Glyph.width).foldr (· + ·) 0

def Phrase.glyphs (phrase : Phrase) : List Glyph :=
  ((Text.clusters phrase.text.toList).filter fun symbol => !symbol.any Text.isControl).map fun symbol =>
    ⟨symbol, phrase.style⟩

/-- How many columns a phrase takes. -/
def Phrase.width (phrase : Phrase) : Nat := Text.width phrase.text.toList

def Line.glyphs (line : Line) : List Glyph := line.flatMap Phrase.glyphs

/-! ## Symbol by symbol -/

/-- The glyphs that have room in a number of columns; one that is too wide for all of them is
passed over. -/
def fitting (columns : Nat) : (used : Nat) → List Glyph → List Glyph
  | _, [] => []
  | used, glyph :: glyphs =>
      if columns < glyph.width then fitting columns used glyphs
      else if columns < used + glyph.width then []
      else glyph :: fitting columns (used + glyph.width) glyphs

namespace Canvas

/-- Write glyphs from a column on. -/
def writeGlyphs (row : Nat) : (column : Nat) → List Glyph → Canvas → Canvas
  | _, [], canvas => canvas
  | column, glyph :: glyphs, canvas =>
      if glyph.width = 0 then writeGlyphs row column glyphs canvas
      else
        writeGlyphs row (column + glyph.width) glyphs
          (canvas.change column row (Cell.put glyph.symbol glyph.style))

/-- Write lines of glyphs into an area, as many as there are rows. -/
def writeRows (area : Area) (lines : List (List Glyph)) (canvas : Canvas) : Canvas :=
  if area.isEmpty then canvas
  else
    ((lines.take area.height).zipIdx).foldl
      (fun canvas (glyphs, index) => canvas.writeGlyphs (area.top + index) area.left glyphs) canvas

/-- Write lines into an area; what has no room in a row is cut off. -/
def writeLines (area : Area) (lines : List Line) (canvas : Canvas) : Canvas :=
  canvas.writeRows area (lines.map fun line => fitting area.width 0 (Line.glyphs line))

/-! ## Phrase by phrase -/

/-- Write the glyphs of a phrase into a row of an area, up to the first one without room;
`first` tells that no glyph was written. -/
def writeJoined (area : Area) (first : Bool) : (column : Nat) → List Glyph → Canvas → Canvas
  | _, [], canvas => canvas
  | column, glyph :: glyphs, canvas =>
      let next := column + glyph.width
      if area.right < next then canvas
      else
        let row := area.top
        let written :=
          if first then canvas.change column row (Cell.put glyph.symbol glyph.style)
          else if column = area.left then
            canvas.change column row (Cell.append glyph.symbol glyph.style)
          else if glyph.width = 0 then
            canvas.change (column - 1) row (Cell.append glyph.symbol glyph.style)
          else canvas.change column row (Cell.put glyph.symbol glyph.style)
        let hidden : Area := ⟨column + 1, row, next - (column + 1), 1⟩
        writeJoined area false next glyphs (written.erase hidden)

def writePhrases (area : Area) : Line → Canvas → Canvas
  | [], canvas => canvas
  | phrase :: phrases, canvas =>
      if phrase.width = 0 then writePhrases area phrases canvas
      else if area.isEmpty then canvas
      else
        writePhrases (area.dropLeft phrase.width) phrases
          (canvas.writeJoined area true area.left phrase.glyphs)

end Canvas

end DevicePanel.Terminal
