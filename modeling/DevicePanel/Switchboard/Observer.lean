import DevicePanel.Fault

/-!
# Events and their observers

What becomes of commands is published as events.  An observer sees the events published since it
began or last looked.  Only a limited number is kept for it: when more have come, the oldest are
lost and it is told how many.
-/

namespace DevicePanel

/-- What is told to observers. -/
inductive Event.Kind where
  | applied (state : String)
  | failed (fault : CommandFault)
  | superseded
deriving Repr, DecidableEq, Inhabited

structure Event where
  device : String
  command : String
  kind : Event.Kind
deriving Repr, DecidableEq, Inhabited

namespace Observer

/-- How many events the switchboard keeps for an observer. -/
def capacity : Nat := 64

/-- What an observer sees: the number of lost items, and the items that are left. -/
def collect {α : Type} (capacity : Nat) (unseen : List α) : Nat × List α :=
  let lost := unseen.length - capacity
  (lost, unseen.drop lost)

end Observer

end DevicePanel
