import DevicePanel.Dashboard.Overlay
import DevicePanel.Dashboard.State
import DevicePanel.Terminal.Sheet
import DevicePanel.Terminal.Wrap

/-!
# The picture of the dashboard
-/

namespace DevicePanel.Dashboard

open Terminal (Area Canvas ColumnPlan Field Line Panel Phrase SheetRow Style)

/-! ## The board as a sheet -/

/-- What stands behind a state that a command under way may change. -/
def pendingMark : String := " …"

def firstLine (text : String) : String :=
  let line := text.toList.takeWhile (· != '\n')
  String.ofList (if line.length < text.length && line.getLast? = some '\r' then line.dropLast
    else line)

def textField (text : String) (style : Style) : Field := ⟨[⟨firstLine text, .plain⟩], style⟩

/-- The buttons of a device; `chosen` is the number of the selected one. -/
def buttonLine (buttons : List Button) (chosen : Option Nat) : Line :=
  buttons.zipIdx.flatMap fun (button, index) =>
    let style := if chosen = some index then Palette.button else Palette.text
    [⟨"[" ++ button.command ++ "]", style⟩, ⟨" ", .plain⟩]

namespace Screen

def deviceEntry (screen : Screen) (place : Nat) (row : Board.DeviceRow) : SheetRow :=
  let selected := decide (screen.selected = some place)
  let state := if screen.snapshot.isPending row.id then
      textField (row.state ++ pendingMark) Palette.pending
    else textField row.state Palette.state
  { fields := [
      textField ((if selected then "▸ " else "  ") ++ row.leading) .plain,
      textField row.name Palette.name,
      state,
      ⟨buttonLine row.buttons (if selected then some screen.button else none), .plain⟩]
    style := if selected then Palette.selected else Palette.text }

def entry (screen : Screen) (place : Nat) : Board.Row → SheetRow
  | .heading typeName => ⟨[textField typeName Palette.heading], .plain⟩
  | .device row => screen.deviceEntry place row

def entries (screen : Screen) : List SheetRow :=
  screen.snapshot.board.rows.zipIdx.map fun (row, place) => screen.entry place row

/-- The columns of the sheet. -/
def plan : ColumnPlan := ⟨12, 14, 14, 20⟩

def columnHeadings : SheetRow :=
  ⟨["Type", "Name", "State", "Commands"].map fun title => textField title Palette.columns, .plain⟩

/-! ## The screen -/

/-- What the keys do. -/
def hints : Line :=
  [⟨"  j/k ", Palette.key⟩, ⟨"device  ", Palette.hint⟩, ⟨"h/l ", Palette.key⟩,
    ⟨"command  ", Palette.hint⟩, ⟨"Enter ", Palette.key⟩, ⟨"send", Palette.hint⟩]

def drawMessage (area : Area) (title message : String) (colour : Terminal.Colour)
    (canvas : Canvas) : Canvas :=
  let style := Style.ofColour colour
  let panel : Panel := ⟨" " ++ title ++ " ", style, style, .plain⟩
  (panel.draw area canvas).writeWrapped area.inner
    [[], [⟨"  " ++ message, Palette.text⟩], [], [⟨"  q ", Palette.key⟩, ⟨"quit", Palette.hint⟩]]

def drawBoard (screen : Screen) (area : Area) (canvas : Canvas) : Canvas :=
  let count := screen.snapshot.board.deviceCount
  let panel : Panel :=
    ⟨" Devices (" ++ toString count ++ ") ", Palette.title, Palette.border, .plain⟩
  let canvas := panel.draw area canvas
  let room := area.inner
  let canvas :=
    if count = 0 then
      canvas.writeLines room.body [[⟨"  No devices reported.", Palette.hint⟩]]
    else canvas.writeSheet plan columnHeadings screen.entries screen.selected room.body
  canvas.writeLines room.footer [hints]

def draw (screen : Screen) (area : Area) (canvas : Canvas) : Canvas :=
  match screen.progress with
  | .loading => drawMessage area "Devices" "Loading devices…" Palette.cyan canvas
  | .failed reason => drawMessage area "Could not load devices" reason Palette.red canvas
  | .loaded => screen.drawBoard area canvas

def picture (screen : Screen) (width height : Nat) : Canvas :=
  let canvas := Canvas.empty width height
  screen.draw canvas.area canvas

end Screen

/-! ## The dashboard -/

def twoDigits (n : Nat) : String := if n < 10 then "0" ++ toString n else toString n

/-- The time of day, of a time in seconds since 1970. -/
def timeOfDay (time : Int) : String :=
  let second := (time % 86400).toNat
  ":".intercalate ([second / 3600, second / 60 % 60, second % 60].map twoDigits)

def statusLine (dashboard : Dashboard) : Line :=
  let count := dashboard.pendingCount
  let work : Phrase := if 0 < count then ⟨toString count ++ " pending", Palette.pending⟩
    else ⟨"idle", .ofColour Palette.green⟩
  let reply := match dashboard.lastReply with
    | some time => [⟨" │ last reply " ++ timeOfDay time, Palette.hint⟩]
    | none => []
  [⟨" devgrid ", Palette.title⟩, ⟨"│ ", Palette.hint⟩, ⟨dashboard.label, Palette.text⟩,
    ⟨" │ ", Palette.hint⟩, work] ++ reply ++ [⟨" │ ? help  q quit", Palette.hint⟩]

def picture (dashboard : Dashboard) (width height : Nat) : Canvas :=
  let canvas := Canvas.empty width height
  let area := canvas.area
  let canvas := dashboard.screen.draw area.body canvas
  let canvas := canvas.writeLines area.footer [dashboard.statusLine]
  let canvas := match dashboard.notice with
    | some notice => drawNotice notice canvas
    | none => canvas
  if dashboard.helpShown then drawHelp canvas else canvas

end DevicePanel.Dashboard
