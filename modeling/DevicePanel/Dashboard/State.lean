import DevicePanel.Dashboard.Screen
import DevicePanel.Switchboard.Run

/-!
# The dashboard

Actions wait in a queue and are processed in turn.  Processing an action may put others at the
end of the queue; none of these puts more than one action there, so that the queue runs empty.
-/

namespace DevicePanel

open Dashboard (Action Key KeyCode Notice Screen Snapshot)

/-- A switchboard, or why there is none, the screen, and all that stands around it. -/
structure Dashboard where
  hub : Except String Run
  /-- How the hub is called. -/
  label : String
  screen : Screen
  running : Bool
  helpShown : Bool
  notice : Option Notice
  /-- When the last event was published, in seconds since 1970. -/
  lastReply : Option Int
  queue : List Action

namespace Dashboard

def start (hub : Except String Run) (label : String) : Dashboard :=
  ⟨hub, label, .start, true, false, none, none, []⟩

def send (dashboard : Dashboard) (action : Action) : Dashboard :=
  { dashboard with queue := dashboard.queue ++ [action] }

/-- Send what there is to show of a switchboard. -/
def publish (dashboard : Dashboard) (run : Run) : Dashboard :=
  { dashboard with hub := .ok run }.send (.refresh (.capture run.desk))

/-- The number of commands under way. -/
def pendingCount (dashboard : Dashboard) : Nat :=
  match dashboard.hub with
  | .ok run => run.desk.pendingCount
  | .error _ => 0

/-- Press the button at a place. -/
def activate (respond : Ticket → Response) (dashboard : Dashboard) (run : Run)
    (row index : Nat) : Dashboard :=
  match run.activate respond row index with
  | (_, .error fault) => dashboard.send (.notify ⟨.error, fault.message⟩)
  | (later, .ok _) => dashboard.publish later

def processWith (respond : Ticket → Response) (dashboard : Dashboard) (run : Run) :
    Action → Dashboard
  | .loaded devices => dashboard.publish (run.render devices)
  | .activate row index => dashboard.activate respond run row index
  | .completed completion => dashboard.publish (run.apply completion).1
  | .observed event _ => dashboard.send (.notify (.ofEvent run.desk.board event))
  | _ => dashboard

def process (respond : Ticket → Response) (dashboard : Dashboard) (action : Action) : Dashboard :=
  match action with
  | .quit => { dashboard with running := false }
  | .tick | .redraw => dashboard
  | .toggleHelp => { dashboard with helpShown := !dashboard.helpShown }
  | .notify notice => { dashboard with notice := some notice }
  | .refresh _ | .loadFailed _ => { dashboard with screen := dashboard.screen.update action }
  | .loaded _ | .activate .. | .completed _ | .observed .. =>
      let dashboard := match action with
        | .observed _ time => { dashboard with lastReply := some time }
        | _ => dashboard
      match dashboard.hub with
      | .ok run => dashboard.processWith respond run action
      | .error _ => dashboard

/-! ## The queue -/

/-- How many actions may come of an action, itself included. -/
def weight : Action → Nat
  | .loaded _ | .activate .. | .completed _ | .observed .. => 2
  | _ => 1

def load : List Action → Nat
  | [] => 0
  | action :: others => weight action + load others

theorem load_append (first second : List Action) :
    load (first ++ second) = load first + load second := by
  induction first with
  | nil => simp [load]
  | cons action others ih => simp only [List.cons_append, load, ih, Nat.add_assoc]

@[simp]
theorem queue_send (dashboard : Dashboard) (action : Action) :
    (dashboard.send action).queue = dashboard.queue ++ [action] := rfl

@[simp]
theorem queue_publish (dashboard : Dashboard) (run : Run) :
    (dashboard.publish run).queue = dashboard.queue ++ [.refresh (.capture run.desk)] := rfl

/-- Processing an action only adds to the queue, and what it adds is less than the action. -/
theorem queue_process (respond : Ticket → Response) (dashboard : Dashboard) (action : Action) :
    ∃ added, (dashboard.process respond action).queue = dashboard.queue ++ added ∧
      load added < weight action := by
  cases action with
  | quit | tick | redraw | toggleHelp | notify | refresh | loadFailed =>
      exact ⟨[], by simp [process], by simp [load, weight]⟩
  | loaded | completed | observed =>
      simp only [process]
      split
      · simp only [processWith, queue_publish, queue_send]
        exact ⟨_, rfl, by simp [load, weight]⟩
      · exact ⟨[], by simp, by simp [load, weight]⟩
  | activate row index =>
      simp only [process]
      split
      · simp only [processWith, Dashboard.activate]
        split
        · exact ⟨_, rfl, by simp [load, weight]⟩
        · exact ⟨_, rfl, by simp [load, weight]⟩
      · exact ⟨[], by simp, by simp [load, weight]⟩

/-- Process the queue until it is empty; answers the actions as well. -/
def drain (respond : Ticket → Response) (dashboard : Dashboard) : Dashboard × List Action :=
  match _queued : dashboard.queue with
  | [] => (dashboard, [])
  | action :: others =>
      let (final, actions) := drain respond ({ dashboard with queue := others }.process respond action)
      (final, action :: actions)
termination_by load dashboard.queue
decreasing_by
  obtain ⟨added, queued, smaller⟩ := queue_process respond { dashboard with queue := others } action
  rw [queued, _queued]
  simp only [load_append, load]
  omega

/-! ## Keys -/

/-- What a key does; while help is shown only a few keys do anything. -/
def press (dashboard : Dashboard) (key : Key) : Dashboard × Option Action :=
  if dashboard.helpShown then
    match key.code with
    | .escape | .char '?' => (dashboard, some .toggleHelp)
    | .char 'q' => (dashboard, some .quit)
    | _ => (dashboard, none)
  else
    match key with
    | ⟨.char 'c', true, false, false⟩ | ⟨.char 'q', false, false, false⟩ => (dashboard, some .quit)
    | ⟨.char '?', false, false, _⟩ => (dashboard, some .toggleHelp)
    | _ =>
        let (screen, action) := dashboard.screen.press key
        ({ dashboard with screen }, action)

def stop (dashboard : Dashboard) : Dashboard :=
  match dashboard.hub with
  | .ok run => { dashboard with hub := .ok run.cancelAll }
  | .error _ => dashboard

end Dashboard

end DevicePanel
