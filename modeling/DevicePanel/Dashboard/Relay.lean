import DevicePanel.Dashboard.Action
import DevicePanel.Listing

/-!
# The relay

The relay turns what happens in the background into actions.  It begins with the listing of the
devices.  After that it passes on completions and events, completions first; of events only as
many are kept as there is room for, and the oldest are lost.
-/

namespace DevicePanel.Dashboard

/-- An event and the time at which it was published. -/
structure Report where
  event : Event
  time : Int
deriving Repr

structure Relay where
  /-- The answer of the hub to the request for its devices. -/
  source : Except ListingFault (List Device)
  /-- How many events are kept. -/
  capacity : Nat
  listed : Bool
  cancelled : Bool
  finished : Bool
  completions : List Completion
  completionsClosed : Bool
  /-- The events that were not seen; more than `capacity` of them cannot be seen. -/
  reports : List Report
  /-- No event will be published any more. -/
  reportsClosed : Bool

/-- What may happen in the background. -/
inductive Relay.Input where
  | completion (value : Completion)
  | report (value : Report)
  | cancel
  | closeReports
  | closeCompletions

namespace Relay

def start (source : Except ListingFault (List Device)) (capacity : Nat) : Relay :=
  ⟨source, capacity, false, false, false, [], false, [], false⟩

/-- Take note of what happened; nothing comes from where it was said that nothing will. -/
def take (relay : Relay) : Input → Relay
  | .completion value =>
      if relay.completionsClosed then relay
      else { relay with completions := relay.completions ++ [value] }
  | .report value =>
      if relay.reportsClosed then relay else { relay with reports := relay.reports ++ [value] }
  | .cancel => { relay with cancelled := true }
  | .closeReports => { relay with reportsClosed := true }
  | .closeCompletions => { relay with completionsClosed := true }

def listing (source : Except ListingFault (List Device)) : Action :=
  match Listing.ofSource source with
  | .ok devices => .loaded devices
  | .error fault => .loadFailed fault.message

/-- What a step comes to. -/
inductive Step where
  /-- Nothing is there to pass on. -/
  | waits
  | ends
  | passes (action : Action)

/-- Do what is next. -/
def step (relay : Relay) : Step × Relay :=
  if relay.finished then (.ends, relay)
  else if relay.cancelled then (.ends, { relay with finished := true })
  else if !relay.listed then (.passes (listing relay.source), { relay with listed := true })
  else
    match relay.completions with
    | completion :: others =>
        (.passes (.completed completion), { relay with completions := others })
    | [] =>
        match (Observer.collect relay.capacity relay.reports).2 with
        | report :: others =>
            (.passes (.observed report.event report.time), { relay with reports := others })
        | [] =>
            if relay.reportsClosed then (.ends, { relay with finished := true })
            else (.waits, relay)

def backlog (relay : Relay) : Nat :=
  (if relay.listed then 0 else 1) + relay.completions.length + relay.reports.length

theorem backlog_step {relay later : Relay} {action : Action}
    (passed : relay.step = (.passes action, later)) : later.backlog < relay.backlog := by
  unfold step at passed
  split at passed
  · simp at passed
  · split at passed
    · simp at passed
    · split at passed
      · next unlisted =>
          obtain ⟨-, rfl⟩ := Prod.mk.inj passed
          simp only [Bool.not_eq_true'] at unlisted
          simp [backlog, unlisted]
      · split at passed
        · next completion others waiting =>
            obtain ⟨-, rfl⟩ := Prod.mk.inj passed
            simp [backlog, waiting]
        · next waiting =>
            split at passed
            · next report others seen =>
                obtain ⟨-, rfl⟩ := Prod.mk.inj passed
                have length := congrArg List.length seen
                simp only [Observer.collect, List.length_drop, List.length_cons] at length
                simp only [backlog, waiting]
                omega
            · split at passed <;> simp at passed

/-- Pass on all that is there; answers the actions as well. -/
def run (relay : Relay) : List Action × Relay :=
  match _passed : relay.step with
  | (.passes action, later) =>
      let (actions, final) := run later
      (action :: actions, final)
  | (_, later) => ([], later)
termination_by relay.backlog
decreasing_by exact backlog_step _passed

end Relay

end DevicePanel.Dashboard
