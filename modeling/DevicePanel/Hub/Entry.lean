import DevicePanel.Device
import DevicePanel.Json.Printer

/-!
# What the hub sends

An entry of the hub's listing names its device by a text or a whole number, and tells its state
as a text, a number or a truth value.  Everything past this module knows only texts.
-/

namespace DevicePanel.Hub

open DevicePanel.Number (Binary64 Layout)

/-- The least and the greatest whole number of 64 bits with a sign. -/
def isSigned64 (n : Int) : Bool := -0x8000000000000000 ≤ n ∧ n < 0x8000000000000000

/-- The identifier of a device as the hub sends it. -/
inductive EntryId where
  | number (value : Int)
  | text (value : String)
deriving Repr, DecidableEq, Inhabited

/-- The state of a device as the hub sends it. -/
inductive Reading where
  | flag (value : Bool)
  | whole (value : Int)
  | real (value : Binary64)
  | text (value : String)
deriving Repr, DecidableEq, Inhabited

namespace EntryId

/-- The identifier as text; the number `7` and the text `7` name the same device. -/
def toText : EntryId → String
  | .number n => String.ofList (Json.wholeText n)
  | .text s => s

def toJson : EntryId → Json.Value
  | .number n => .whole n
  | .text s => .text s

/-- The identifier that a value is, if it is one. -/
def ofJson? : Json.Value → Option EntryId
  | .number (.whole n) => if isSigned64 n then some (.number n) else none
  | .text s => some (.text s)
  | _ => none

/-- The whole value is read before it is looked at. -/
def decoder : Json.Decoder EntryId := fun depth node =>
  match Json.anyValue depth node with
  | .error fault => .error fault
  | .ok value =>
      match ofJson? value with
      | some id => .ok id
      | none => .error ⟨.noAlternative "WireId", none⟩

end EntryId

namespace Reading

def toText : Reading → String
  | .flag true => "true"
  | .flag false => "false"
  | .whole n => String.ofList (Json.wholeText n)
  | .real x => Layout.plain.write x
  | .text s => s

def toJson : Reading → Json.Value
  | .flag b => .bool b
  | .whole n => .whole n
  | .real x => .number (.real x)
  | .text s => .text s

/-- The state that a value is, if it is one.  A whole number beyond 64 bits with a sign becomes
a floating-point number. -/
def ofJson? : Json.Value → Option Reading
  | .bool b => some (.flag b)
  | .number (.whole n) =>
      if isSigned64 n then some (.whole n)
      else some (.real (Binary64.ofNat (decide (n < 0)) n.natAbs))
  | .number (.real x) => some (.real x)
  | .text s => some (.text s)
  | _ => none

/-- The whole value is read before it is looked at. -/
def decoder : Json.Decoder Reading := fun depth node =>
  match Json.anyValue depth node with
  | .error fault => .error fault
  | .ok value =>
      match ofJson? value with
      | some state => .ok state
      | none => .error ⟨.noAlternative "WireState", none⟩

end Reading

/-- One entry of the hub's listing. -/
structure Entry where
  id : EntryId
  name : String
  typeName : String
  state : Reading
  commands : List String
deriving Repr, DecidableEq, Inhabited

namespace Entry

def toDevice (entry : Entry) : Device where
  id := entry.id.toText
  name := entry.name
  typeName := entry.typeName
  state := entry.state.toText
  commands := entry.commands

def toJson (entry : Entry) : Json.Value :=
  .object [("id", entry.id.toJson), ("name", .text entry.name),
    ("type_name", .text entry.typeName), ("state", entry.state.toJson),
    ("commands", .texts entry.commands)]

/-- The fields of an entry; no commands are the same as `null` and as the empty list. -/
def fields : List (Json.Field Entry) := [
  .required "id" EntryId.decoder fun id entry => { entry with id },
  .required "name" Json.string fun name entry => { entry with name },
  .required "type_name" Json.string fun typeName entry => { entry with typeName },
  .required "state" Reading.decoder fun state entry => { entry with state },
  .defaulted "commands" (Json.optional (Json.list Json.string)) fun commands entry =>
    { entry with commands := commands.getD [] }]

def decoder : Json.Decoder Entry :=
  Json.record "DeviceRecord" fields ⟨.text "", "", "", .text "", []⟩

/-- The listing: a list of entries. -/
def listDecoder : Json.Decoder (List Entry) := Json.list decoder

end Entry

/-- The body of a command. -/
structure CommandBody where
  command : String
deriving Repr, DecidableEq, Inhabited

namespace CommandBody

def toJson (body : CommandBody) : Json.Value := .object [("command", .text body.command)]

def decoder : Json.Decoder CommandBody :=
  Json.record "CommandRequest"
    [.required "command" Json.string fun command body => { body with command }] default

end CommandBody

/-- The hub's answer to a command before it is known to be complete. -/
structure RawAnswer where
  id : Option EntryId
  state : Option Reading
deriving Repr, DecidableEq, Inhabited

namespace RawAnswer

def decoder : Json.Decoder RawAnswer :=
  Json.record "RawCommandResponse"
    [.defaulted "id" (Json.optional EntryId.decoder) fun id answer => { answer with id },
     .defaulted "state" (Json.optional Reading.decoder) fun state answer => { answer with state }]
    ⟨none, none⟩

end RawAnswer

/-- The complete answer to a command. -/
structure Answer where
  id : EntryId
  state : Reading
deriving Repr, DecidableEq, Inhabited

namespace Answer

def toUpdate (answer : Answer) : StateUpdate := ⟨answer.id.toText, answer.state.toText⟩

end Answer

end DevicePanel.Hub
