import DevicePanel.Terminal.Phrase

/-!
# Breaking a line at its words

A line is broken before a word that has no room.  The blanks before the word stay at the end of
the line before as far as they have room there.
-/

namespace DevicePanel.Terminal

/-- A line being broken. -/
structure Wrap where
  /-- The lines that are complete, last first. -/
  done : List (List Glyph)
  line : List Glyph
  /-- The blanks after the line, and the word after them. -/
  blanks : List Glyph
  word : List Glyph
  /-- Whether the last glyph belongs to a word. -/
  inWord : Bool

namespace Wrap

def start : Wrap := ⟨[], [], [], [], false⟩

/-- Put the word, with the blanks before it, at the end of the line. -/
def attach (wrap : Wrap) : Wrap :=
  { wrap with line := wrap.line ++ wrap.blanks ++ wrap.word, blanks := [], word := [] }

/-- The blanks that are left when those are gone that have room in a number of columns. -/
def dropFitting : (room : Nat) → List Glyph → List Glyph
  | _, [] => []
  | room, glyph :: glyphs =>
      if room < glyph.width then glyph :: glyphs else dropFitting (room - glyph.width) glyphs

def breakLine (columns : Nat) (wrap : Wrap) : Wrap :=
  { wrap with
    done := wrap.line :: wrap.done
    line := []
    blanks := dropFitting (columns - columnsOf wrap.line) wrap.blanks }

def add (columns : Nat) (wrap : Wrap) (glyph : Glyph) : Wrap :=
  if columns < glyph.width then wrap
  else
    let blank := glyph.isBlank
    let tooLong := wrap.line.isEmpty &&
      columns < columnsOf wrap.word + columnsOf wrap.blanks + glyph.width
    let wrap := if (wrap.inWord && blank) || tooLong then wrap.attach else wrap
    let used := columnsOf wrap.line + columnsOf wrap.blanks + columnsOf wrap.word
    let full := columns ≤ columnsOf wrap.line || (0 < glyph.width && columns ≤ used)
    let wrap := if full then wrap.breakLine columns else wrap
    if full && blank && wrap.blanks.isEmpty then wrap
    else if blank then { wrap with blanks := wrap.blanks ++ [glyph], inWord := false }
    else { wrap with word := wrap.word ++ [glyph], inWord := true }

/-- The lines, the first one first. -/
def finish (wrap : Wrap) : List (List Glyph) :=
  let lost := wrap.line.isEmpty && wrap.word.isEmpty && !wrap.blanks.isEmpty
  let done := if lost then [] :: wrap.done else wrap.done
  let last := wrap.attach.line
  let done := if last.isEmpty then done else last :: done
  if done.isEmpty then [[]] else done.reverse

end Wrap

/-- The lines that a line is broken into so that each has room in a number of columns. -/
def wrapped (columns : Nat) (line : Line) : List (List Glyph) :=
  ((Line.glyphs line).foldl (Wrap.add columns) .start).finish

def Canvas.writeWrapped (area : Area) (lines : List Line) (canvas : Canvas) : Canvas :=
  canvas.writeRows area (lines.flatMap (wrapped area.width))

end DevicePanel.Terminal
