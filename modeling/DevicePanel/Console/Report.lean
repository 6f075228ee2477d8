import DevicePanel.Console.Options
import DevicePanel.Board
import DevicePanel.Json.Printer
import DevicePanel.Text.Table
import DevicePanel.Yaml.Printer

/-!
# How results are written
-/

namespace DevicePanel.Console

/-- Whether results have colours, where `terminal` tells that they go to a terminal. -/
def Colouring.isOn (colouring : Colouring) (terminal : Bool) (environment : Keyed String) : Bool :=
  match colouring with
  | .always => true
  | .never => false
  | .auto => terminal && (environment.find? "NO_COLOR").isNone

def escape (code : String) : String := "\x1b[" ++ code ++ "m"

/-- A heading, bold and cyan where there are colours. -/
def heading (text : String) (colour : Bool) : String :=
  if colour then escape "36" ++ escape "1" ++ text ++ escape "0" ++ escape "39" else text

/-- The headings of the columns of a table of devices. -/
def columns : List String := ["ID", "Name", "State", "Commands"]

def rowCells (row : Board.DeviceRow) : List String :=
  [row.id, row.name, row.state, ", ".intercalate (row.buttons.map Button.command)]

def deviceCells (device : Device) : List String :=
  [device.id, device.name, device.state, ", ".intercalate device.commands]

/-- A part of a grouped listing. -/
inductive Part where
  | heading (typeName : String)
  | table (rows : List (List String))
deriving Repr, DecidableEq

/-- The parts of a board's rows; `waiting` are the rows of the table that has begun. -/
def partsAfter (waiting : List (List String)) : List Board.Row → List Part
  | [] => if waiting.isEmpty then [] else [.table waiting]
  | .heading typeName :: rows =>
      if waiting.isEmpty then .heading typeName :: partsAfter [] rows
      else .table waiting :: .heading typeName :: partsAfter [] rows
  | .device row :: rows => partsAfter (waiting ++ [rowCells row]) rows

def partsOf (devices : List Device) : List Part := partsAfter [] (Board.ofDevices devices).rows

def Part.write (colour : Bool) : Part → String
  | .heading typeName => Console.heading typeName colour
  | .table rows => Text.table columns rows

/-- A table for each type of device, below its name. -/
def grouped (devices : List Device) (colour : Bool) : String :=
  "\n".intercalate ((partsOf devices).map (Part.write colour))

def structured (value : Json.Value) : OutputForm → Option String
  | .json => some value.indentedText
  | .jsonCompact => some value.compactText
  | .yaml => some (Yaml.document value)
  | .table | .plain => none

def listing (form : OutputForm) (devices : List Device) (colour : Bool) : String :=
  match structured (.list (devices.map Device.toJson)) form, form with
  | some text, _ => text
  | none, .plain => "\n".intercalate (devices.map Device.id)
  | none, _ => grouped devices colour

def stateReport (form : OutputForm) (row : Board.DeviceRow) (update : StateUpdate) : String :=
  match structured update.toJson form, form with
  | some text, _ => text
  | none, .plain => update.state
  | none, _ =>
      "ID:       " ++ update.id ++ "\nName:     " ++ row.name ++ "\nState:    " ++ update.state

end DevicePanel.Console
