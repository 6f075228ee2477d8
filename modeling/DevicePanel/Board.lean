import DevicePanel.Device

/-!
# The board

The board shows devices in rows.  A heading stands before each run of devices of one type.  A
device's row holds a button for each of its commands.  The board remembers the place of each
identifier from when it was filled, so that a new state is written without a search.
-/

namespace DevicePanel

/-- A button sends one command to one device. -/
structure Button where
  device : String
  command : String
deriving Repr, DecidableEq, Inhabited

namespace Board

/-- The row of a device.  Only its state changes after the board was filled. -/
structure DeviceRow where
  id : String
  /-- The cell under the headings, always empty. -/
  leading : String
  name : String
  state : String
  buttons : List Button
deriving Repr, DecidableEq, Inhabited

inductive Row where
  | heading (typeName : String)
  | device (row : DeviceRow)
deriving Repr, DecidableEq, Inhabited

namespace DeviceRow

def ofDevice (device : Device) : DeviceRow where
  id := device.id
  leading := ""
  name := device.name
  state := device.state
  buttons := device.commands.map fun command => ⟨device.id, command⟩

end DeviceRow

namespace Row

def device? : Row → Option DeviceRow
  | .device row => some row
  | .heading _ => none

end Row

end Board

/-- Rows in their order, and the place of each identifier's first row. -/
structure Board where
  rows : List Board.Row
  places : List (String × Nat)
deriving Repr, DecidableEq, Inhabited

namespace Board

def empty : Board := ⟨[], []⟩

/-- The rows of devices, where `previous` is the type of the device before. -/
def rowsAfter (previous : Option String) : List Device → List Row
  | [] => []
  | device :: devices =>
      let row := Row.device (.ofDevice device)
      let others := rowsAfter (some device.typeName) devices
      if previous = some device.typeName then row :: others
      else .heading device.typeName :: row :: others

/-- Enter the places of rows from number `next` on; an identifier keeps the place it has. -/
def enterPlaces (next : Nat) (places : List (String × Nat)) : List Row → List (String × Nat)
  | [] => places
  | .heading _ :: rows => enterPlaces (next + 1) places rows
  | .device row :: rows =>
      let places' :=
        if (places.lookup row.id).isSome then places else places ++ [(row.id, next)]
      enterPlaces (next + 1) places' rows

def ofDevices (devices : List Device) : Board :=
  let rows := rowsAfter none devices
  ⟨rows, enterPlaces 0 [] rows⟩

def size (board : Board) : Nat := board.rows.length

def isEmpty (board : Board) : Bool := board.rows.isEmpty

/-- The number of identifiers on the board. -/
def deviceCount (board : Board) : Nat := board.places.length

def row? (board : Board) (row : Nat) : Option Row := board.rows[row]?

def place? (board : Board) (id : String) : Option Nat := board.places.lookup id

def deviceRow? (board : Board) (row : Nat) : Option DeviceRow :=
  (board.row? row).bind Row.device?

/-- The row of an identifier. -/
def find? (board : Board) (id : String) : Option DeviceRow :=
  (board.place? id).bind board.deviceRow?

/-- The places of the devices' rows among rows numbered from `next` on. -/
def placesFrom (next : Nat) : List Row → List Nat
  | [] => []
  | .heading _ :: rows => placesFrom (next + 1) rows
  | .device _ :: rows => next :: placesFrom (next + 1) rows

/-- The places of the devices' rows, in their order. -/
def devicePlaces (board : Board) : List Nat := placesFrom 0 board.rows

def button? (board : Board) (row index : Nat) : Option Button :=
  (board.deviceRow? row).bind fun deviceRow => deviceRow.buttons[index]?

/-- Write a device's new state; answers the place of its row, and nothing if the device is not
on the board. -/
def patch? (board : Board) (id state : String) : Option (Nat × Board) :=
  match board.place? id with
  | none => none
  | some place =>
      match board.rows[place]? with
      | some (.device row) =>
          some (place, { board with rows := board.rows.set place (.device { row with state }) })
      | _ => none

end Board

end DevicePanel
