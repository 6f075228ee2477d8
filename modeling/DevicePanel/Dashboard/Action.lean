import DevicePanel.Switchboard

/-!
# Notices and actions

A notice is a short message that stands over the board for a while.  Whatever changes the
dashboard is an action.
-/

namespace DevicePanel.Dashboard

/-! ## Notices -/

inductive Notice.Level where
  | info
  | success
  | error
deriving Repr, DecidableEq

structure Notice where
  level : Notice.Level
  message : String
deriving Repr, DecidableEq

namespace Notice

/-- How a device is called: by its name if it is on the board. -/
def deviceName (board : Board) (id : String) : String :=
  match board.find? id with
  | some row => row.name
  | none => id

def ofEvent (board : Board) (event : Event) : Notice :=
  let subject := deviceName board event.device ++ ": " ++ event.command
  match event.kind with
  | .applied state => ⟨.success, subject ++ " → " ++ state⟩
  | .failed fault => ⟨.error, subject ++ " failed: " ++ fault.message⟩
  | .superseded => ⟨.info, subject ++ " superseded"⟩

end Notice

/-! ## Actions -/

/-- What the screen shows of a switchboard: its board, and the identifiers on it that have a
command under way. -/
structure Snapshot where
  board : Board
  pending : List String
deriving Repr, DecidableEq, Inhabited

namespace Snapshot

def empty : Snapshot := ⟨.empty, []⟩

/-- The identifiers of the devices' rows, each once. -/
def shownIds (board : Board) : List String :=
  ((board.rows.filterMap Board.Row.device?).map Board.DeviceRow.id).eraseDups

def capture (desk : Switchboard) : Snapshot :=
  ⟨desk.board, (shownIds desk.board).filter desk.isPending⟩

def isPending (snapshot : Snapshot) (id : String) : Bool := snapshot.pending.contains id

end Snapshot

inductive Action where
  | quit
  | tick
  | redraw
  | toggleHelp
  | loaded (devices : List Device)
  | loadFailed (reason : String)
  /-- There is something new to show. -/
  | refresh (snapshot : Snapshot)
  /-- Press the button at a place. -/
  | activate (row index : Nat)
  | completed (completion : Completion)
  /-- An event was published at a time, in seconds since 1970. -/
  | observed (event : Event) (time : Int)
  | notify (notice : Notice)
deriving Repr

end DevicePanel.Dashboard
