import DevicePanel.Board
import DevicePanel.Policy
import DevicePanel.Switchboard.Observer

/-!
# The switchboard

A switchboard holds the board and knows which commands are under way.  Every command that is
sent gets a ticket with a serial number.  What becomes of a command comes back as a
`Completion`, and applying it changes at most one row.  A completion whose command is no
longer under way changes nothing.
-/

namespace DevicePanel

/-- A command that was sent. -/
structure Ticket where
  serial : Nat
  device : String
  command : String
deriving Repr, DecidableEq, Inhabited

/-- What became of a command. -/
structure Completion where
  serial : Nat
  /-- The device that the command was sent to. -/
  device : String
  command : String
  result : Except CommandFault StateUpdate
deriving Repr, Inhabited

/-- What applying a completion did. -/
inductive Verdict where
  | patched (row : Nat) (update : StateUpdate)
  /-- The command was no longer under way. -/
  | discarded
deriving Repr, DecidableEq, Inhabited

/-- The board, the policy for commands to one device, and the commands under way. -/
structure Switchboard where
  board : Board
  policy : OverlapPolicy
  /-- The tickets under way, earliest first. -/
  underWay : List Ticket
  issued : Nat
deriving Repr, Inhabited

namespace Switchboard

/-- A switchboard with an empty board. -/
def start (policy : OverlapPolicy) : Switchboard := ⟨.empty, policy, [], 0⟩

/-- Fill the board. -/
def render (desk : Switchboard) (devices : List Device) : Switchboard :=
  { desk with board := .ofDevices devices }

/-- Fill the board from a listing; without one the board is emptied. -/
def load (desk : Switchboard) : Except ListingFault (List Device) → Switchboard
  | .ok devices => desk.render devices
  | .error _ => { desk with board := .empty }

def isUnderWay (desk : Switchboard) (serial : Nat) : Bool :=
  desk.underWay.any fun ticket => ticket.serial == serial

def isPending (desk : Switchboard) (device : String) : Bool :=
  desk.underWay.any fun ticket => ticket.device == device

def pendingCount (desk : Switchboard) : Nat := desk.underWay.length

def replaced (desk : Switchboard) (device : String) : List Ticket :=
  match desk.policy with
  | .supersede => desk.underWay.filter fun ticket => ticket.device == device
  | .lastResponseWins => []

def supersededEvent (ticket : Ticket) : Event := ⟨ticket.device, ticket.command, .superseded⟩

/-- Send a command.  Answers the new switchboard, the ticket, the tickets that it replaces and
their events. -/
def dispatch (desk : Switchboard) (device command : String) :
    Switchboard × Ticket × List Ticket :=
  let gone := desk.replaced device
  let ticket := ⟨desk.issued + 1, device, command⟩
  let left := desk.underWay.filter fun ticket => !gone.contains ticket
  ({ desk with underWay := left ++ [ticket], issued := desk.issued + 1 }, ticket, gone)

/-- The button at a place, or the fault that there is none. -/
def button (desk : Switchboard) (row index : Nat) : Except CommandFault Button :=
  match desk.board.button? row index with
  | some button => .ok button
  | none => .error (.noButton row index)

/-- Take a ticket off the commands under way. -/
def drop (desk : Switchboard) (serial : Nat) : Switchboard :=
  { desk with underWay := desk.underWay.filter fun ticket => ticket.serial != serial }

/-- The answer of applying a completion, and the event that it publishes. -/
structure Applied where
  desk : Switchboard
  answer : Except CommandFault Verdict
  event : Option Event

/-- Apply what became of a command.  A success changes the state of the device that the hub
named, and nothing else; a failure changes no row. -/
def apply (desk : Switchboard) (completion : Completion) : Applied :=
  if desk.isUnderWay completion.serial then
    let desk := desk.drop completion.serial
    let failed (fault : CommandFault) : Applied :=
      ⟨desk, .error fault, some ⟨completion.device, completion.command, .failed fault⟩⟩
    match completion.result with
    | .error fault => failed fault
    | .ok update =>
        match desk.board.patch? update.id update.state with
        | none => failed (.unknownDevice update.id)
        | some (row, board) =>
            ⟨{ desk with board }, .ok (.patched row update),
              some ⟨update.id, completion.command, .applied update.state⟩⟩
  else ⟨desk, .ok .discarded, none⟩

def cancelAll (desk : Switchboard) : Switchboard := { desk with underWay := [] }

end Switchboard

end DevicePanel
