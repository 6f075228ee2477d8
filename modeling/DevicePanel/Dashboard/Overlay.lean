import DevicePanel.Dashboard.Action
import DevicePanel.Dashboard.Palette
import DevicePanel.Terminal.Panel
import DevicePanel.Terminal.Wrap

/-!
# What is drawn over the board

A notice stands in the lower right corner above the status bar, help in the middle.  Where an
overlay stands is worked out with numbers of a terminal only: a sum that is no such number would
leave the overlay without a place.
-/

namespace DevicePanel.Dashboard

open Terminal

/-! ## Places -/

/-- How wide a notice of so many characters is where there is room. -/
def noticeWidth (length : Nat) : Nat :=
  min 60 (max 20 (Coordinate.boundedSum (Coordinate.bounded length) 6))

/-- Where a notice of so many characters stands: one column from the right, and two rows from the
bottom. -/
def noticeArea? (area : Area) (length : Nat) : Option Area := do
  let width := min (noticeWidth length) area.width
  let height := min 3 area.height
  let left ← Coordinate.sum? area.left (area.width - (← Coordinate.sum? width 1))
  let top ← Coordinate.sum? area.top (area.height - (← Coordinate.sum? height 2))
  return ⟨left, top, width, height⟩

def helpArea? (area : Area) : Option Area := do
  let width := min 44 (area.width - 4)
  let height := min 12 (area.height - 4)
  let left ← Coordinate.sum? area.left ((area.width - width) / 2)
  let top ← Coordinate.sum? area.top ((area.height - height) / 2)
  return ⟨left, top, width, height⟩

/-! ## Drawing -/

def Notice.Level.mark : Notice.Level → Terminal.Colour × String
  | .success => (Palette.green, "✓")
  | .error => (Palette.red, "✗")
  | .info => (Palette.cyan, "·")

/-- Draw a panel over what is there, and lines in it. -/
def drawOver (panel : Panel) (area : Area) (lines : List Line) (canvas : Canvas) : Canvas :=
  (panel.draw area (canvas.erase area)).writeLines area.inner lines

def drawNotice (notice : Notice) (canvas : Canvas) : Canvas :=
  match noticeArea? canvas.area notice.message.length with
  | none => canvas
  | some area =>
      let (colour, sign) := notice.level.mark
      let line : Line :=
        [⟨" " ++ sign ++ " ", .ofColour colour⟩, ⟨notice.message, Palette.text⟩]
      drawOver ⟨"", .plain, .ofColour colour, .onGround Palette.ground⟩ area [line] canvas

def padded (length : Nat) (text : String) : String :=
  text ++ String.ofList (List.replicate (length - text.length) ' ')

def keyLine (key effect : String) : Line :=
  [⟨"  " ++ padded 10 key, Palette.key⟩, ⟨effect, Palette.hint⟩]

def helpLines : List Line :=
  [[],
    keyLine "j/k ↑/↓" "Previous / next device",
    keyLine "h/l ←/→" "Previous / next command",
    keyLine "Enter" "Send selected command",
    keyLine "?" "Toggle this help",
    keyLine "q Ctrl+c" "Quit",
    [],
    [⟨"  Esc or ? to close", Palette.hint⟩]]

def drawHelp (canvas : Canvas) : Canvas :=
  match helpArea? canvas.area with
  | none => canvas
  | some area =>
      drawOver ⟨" Keyboard Shortcuts ", Palette.title, Palette.border, .onGround Palette.ground⟩
        area helpLines canvas

end DevicePanel.Dashboard
