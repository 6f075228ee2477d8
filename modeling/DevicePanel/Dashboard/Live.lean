import DevicePanel.Dashboard.Relay
import DevicePanel.Dashboard.State

/-!
# The dashboard at work

The dashboard over a hub, with a relay for what happens in the background.  The background goes
on only while the dashboard waits for an action.
-/

namespace DevicePanel.Dashboard

structure Live where
  dashboard : Dashboard
  /-- There is none without a hub. -/
  relay : Option Relay
  /-- How many events the relay was told of. -/
  told : Nat
  respond : Ticket → Response

namespace Live

/-- Begin with the listing of the devices, or with the reason why there is no hub. -/
def start (dashboard : Dashboard) (source : Except ListingFault (List Device))
    (respond : Ticket → Response) : Live :=
  match dashboard.hub with
  | .ok run =>
      let dashboard := { dashboard with hub := .ok run.take.1 }
      ⟨dashboard, some (.start source Observer.capacity), run.events.length, respond⟩
  | .error reason => ⟨dashboard.send (.loadFailed reason), none, 0, respond⟩

def tell (live : Live) (time : Int) : Live :=
  match live.dashboard.hub, live.relay with
  | .ok run, some relay =>
      let relay := { relay with
        completions := relay.completions ++ run.queue
        reports := relay.reports ++ (run.events.drop live.told).map fun event => ⟨event, time⟩ }
      { live with
        dashboard := { live.dashboard with hub := .ok { run with queue := [] } }
        relay := some relay
        told := run.events.length }
  | _, _ => live

def relayStep (live : Live) : Live × Option Action :=
  match live.relay with
  | none => (live, none)
  | some relay =>
      match relay.step with
      | (.passes action, relay) => ({ live with relay := some relay }, some action)
      | (_, relay) => ({ live with relay := some relay }, none)

/-- Let time pass until the next command ends. -/
def advance (live : Live) : Live :=
  match live.dashboard.hub with
  | .ok run =>
      match run.tasks with
      | task :: _ =>
          { live with dashboard := { live.dashboard with hub := .ok (run.advanceTo task.finish) } }
      | [] => live
  | .error _ => live

/-- Wait for the next action: the first one in the queue, else what the relay passes on, if need
be after some time. -/
def await (live : Live) (time : Int) : Live × Option Action :=
  match live.dashboard.queue with
  | action :: others =>
      ({ live with dashboard := { live.dashboard with queue := others } }, some action)
  | [] =>
      match (live.tell time).relayStep with
      | (live, some action) => (live, some action)
      | (live, none) => (live.advance.tell time).relayStep

/-- Wait for a number of actions and process them; without one the waiting ends. -/
def follow (live : Live) (time : Int) : (count : Nat) → Live × List (Option Action)
  | 0 => (live, [])
  | count + 1 =>
      match live.await time with
      | (live, none) => (live, [none])
      | (live, some action) =>
          let live := { live with dashboard := live.dashboard.process live.respond action }
          let (final, actions) := follow live time count
          (final, some action :: actions)

/-- Press a key; its action goes to the queue. -/
def press (live : Live) (key : Key) : Live :=
  let (dashboard, action) := live.dashboard.press key
  { live with dashboard := match action with
      | some action => dashboard.send action
      | none => dashboard }

end Live

end DevicePanel.Dashboard
