import DevicePanel.Fault
import DevicePanel.Text.LetterCase

/-!
# The devices in the order of the board

A listing is accepted if no identifier occurs twice.  It is then sorted by type and name in
small letters; devices that agree in both keep the hub's order.
-/

namespace DevicePanel.Listing

def sortKey (device : Device) : String × String :=
  (Text.lower device.typeName, Text.lower device.name)

/-- One key comes no later than another: types first, then names, each by code point. -/
def keyLe (a b : String × String) : Bool :=
  if a.1 = b.1 then !decide (b.2 < a.2) else decide (a.1 < b.1)

def sorted (devices : List Device) : List Device :=
  ((devices.map fun device => (sortKey device, device)).mergeSort
    fun a b => keyLe a.1 b.1).map Prod.snd

/-- The first identifier that occurred before, where `seen` are the identifiers so far. -/
def repeatedId? (seen : List String) : List Device → Option String
  | [] => none
  | device :: devices =>
      if seen.contains device.id then some device.id
      else repeatedId? (device.id :: seen) devices

/-- The devices for the board, or why there are none. -/
def accept (devices : List Device) : Except ListingFault (List Device) :=
  match repeatedId? [] devices with
  | some id => .error (.duplicateId id)
  | none => .ok (sorted devices)

def ofSource (source : Except ListingFault (List Device)) : Except ListingFault (List Device) :=
  match source with
  | .error fault => .error fault
  | .ok devices => accept devices

end DevicePanel.Listing
