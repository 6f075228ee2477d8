import DevicePanel.Json.Decode

/-!
# Devices

A device as last reported by the hub: its identifier, the name and the type it is shown
under, its state as text, and the commands that it offers, in the hub's order.
-/

namespace DevicePanel

structure Device where
  id : String
  name : String
  typeName : String
  state : String
  commands : List String
deriving Repr, DecidableEq, Inhabited

/-- The hub's answer to a command: a device and its new state. -/
structure StateUpdate where
  id : String
  state : String
deriving Repr, DecidableEq, Inhabited

namespace Device

/-- A device as JSON, fields in order of declaration. -/
def toJson (device : Device) : Json.Value :=
  .object [("id", .text device.id), ("name", .text device.name),
    ("type_name", .text device.typeName), ("state", .text device.state),
    ("commands", .texts device.commands)]

/-- The fields of a device in a JSON text; all must be there. -/
def fields : List (Json.Field Device) := [
  .required "id" Json.string fun id device => { device with id },
  .required "name" Json.string fun name device => { device with name },
  .required "type_name" Json.string fun typeName device => { device with typeName },
  .required "state" Json.string fun state device => { device with state },
  .required "commands" (Json.list Json.string) fun commands device => { device with commands }]

def decoder : Json.Decoder Device := Json.record "Device" fields default

end Device

namespace StateUpdate

def toJson (update : StateUpdate) : Json.Value :=
  .object [("id", .text update.id), ("state", .text update.state)]

def fields : List (Json.Field StateUpdate) := [
  .required "id" Json.string fun id update => { update with id },
  .required "state" Json.string fun state update => { update with state }]

def decoder : Json.Decoder StateUpdate := Json.record "StateUpdate" fields default

end StateUpdate

end DevicePanel
