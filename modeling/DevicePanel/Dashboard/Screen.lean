import DevicePanel.Dashboard.Action

/-!
# The screen

The screen shows a snapshot.  One device is selected, and one of its buttons.
-/

namespace DevicePanel.Dashboard

inductive KeyCode where
  | char (c : Char)
  | up
  | down
  | left
  | right
  | enter
  | escape
  | tab
deriving Repr, DecidableEq

/-- A key with the keys held down with it. -/
structure Key where
  code : KeyCode
  control : Bool
  alt : Bool
  shift : Bool
deriving Repr, DecidableEq

/-- How far the listing of devices is. -/
inductive Progress where
  | loading
  | loaded
  | failed (reason : String)
deriving Repr, DecidableEq

structure Screen where
  snapshot : Snapshot
  progress : Progress
  /-- The place of the selected device's row. -/
  selected : Option Nat
  /-- The number of the selected button. -/
  button : Nat
deriving Repr, DecidableEq

/-- A move to the next or the previous one. -/
inductive Direction where
  | forward
  | backward
deriving Repr, DecidableEq

/-- The number after a move; it is at most `last`. -/
def Direction.move (direction : Direction) (place last : Nat) : Nat :=
  match direction with
  | .forward => min (place + 1) last
  | .backward => min (place - 1) last

namespace Screen

def start : Screen := ⟨.empty, .loading, none, 0⟩

def selectedRow? (screen : Screen) : Option Board.DeviceRow :=
  screen.selected.bind screen.snapshot.board.deviceRow?

/-- The number of buttons of the selected device. -/
def buttonCount (screen : Screen) : Nat :=
  match screen.selectedRow? with
  | some row => row.buttons.length
  | none => 0

def clampButton (screen : Screen) : Screen :=
  { screen with button := min screen.button (screen.buttonCount - 1) }

/-- Keep the selection if there still is a device's row; otherwise the first device is selected. -/
def reconcile (screen : Screen) : Screen :=
  let places := screen.snapshot.board.devicePlaces
  let kept := screen.selected.filter fun place => places.contains place
  { screen with selected := kept.or places.head? }.clampButton

def moveSelection (direction : Direction) (screen : Screen) : Screen :=
  let places := screen.snapshot.board.devicePlaces
  if places.isEmpty then screen
  else
    let current := (screen.selected.bind fun place => places.idxOf? place).getD 0
    let next := places[direction.move current (places.length - 1)]?
    if next = screen.selected then screen else { screen with selected := next, button := 0 }

def moveButton (direction : Direction) (screen : Screen) : Screen :=
  if screen.buttonCount = 0 then screen
  else { screen with button := direction.move screen.button (screen.buttonCount - 1) }

def activation? (screen : Screen) : Option Action :=
  match screen.selected, screen.buttonCount with
  | some row, _ + 1 => some (.activate row screen.button)
  | _, _ => none

def press (screen : Screen) (key : Key) : Screen × Option Action :=
  match key.code with
  | .char 'j' | .down => (screen.moveSelection .forward, none)
  | .char 'k' | .up => (screen.moveSelection .backward, none)
  | .char 'l' | .right => (screen.moveButton .forward, none)
  | .char 'h' | .left => (screen.moveButton .backward, none)
  | .enter => (screen, screen.activation?)
  | _ => (screen, none)

def display (screen : Screen) (snapshot : Snapshot) : Screen :=
  let progress := match screen.progress with
    | .loading => .loaded
    | other => other
  { screen with snapshot, progress }.reconcile

/-- Show that the devices could not be listed. -/
def fail (screen : Screen) (reason : String) : Screen :=
  { screen with snapshot := .empty, progress := .failed reason, selected := none }

def update (screen : Screen) : Action → Screen
  | .refresh snapshot => screen.display snapshot
  | .loadFailed reason => screen.fail reason
  | _ => screen

end Screen

end DevicePanel.Dashboard
