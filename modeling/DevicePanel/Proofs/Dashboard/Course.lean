import DevicePanel.Dashboard.State
import DevicePanel.Proofs.Board.Outline

/-!
# The course of a dashboard

Keys are pressed, actions come from outside, the first action of the queue is processed and time
passes in the background, in any order.  `Pressed` says once what a key can do, and `Processed`
what processing an action can do.
-/

namespace DevicePanel

open Dashboard (Action Key Notice Screen Snapshot Direction)

namespace Dashboard

/-- What happens to a dashboard. -/
inductive Happening where
  /-- A key is pressed; its action goes to the queue. -/
  | press (key : Key)
  | arrives (action : Action)
  /-- The first action of the queue is processed. -/
  | proceeds
  /-- Time passes in the background; the switchboard itself stays as it is. -/
  | passes (change : Run → Run)

def happen (respond : Ticket → Response) (dashboard : Dashboard) : Happening → Dashboard
  | .press key =>
      match dashboard.press key with
      | (dashboard, some action) => dashboard.send action
      | (dashboard, none) => dashboard
  | .arrives action => dashboard.send action
  | .proceeds =>
      match dashboard.queue with
      | [] => dashboard
      | action :: others => { dashboard with queue := others }.process respond action
  | .passes change =>
      match dashboard.hub with
      | .ok run => { dashboard with hub := .ok { change run with desk := run.desk } }
      | .error _ => dashboard

/-- The action that is processed. -/
def processed? (dashboard : Dashboard) : Happening → Option Action
  | .proceeds => dashboard.queue.head?
  | _ => none

def after (respond : Ticket → Response) : Dashboard → List Happening → Dashboard
  | dashboard, [] => dashboard
  | dashboard, happening :: happenings =>
      (dashboard.happen respond happening).after respond happenings

/-- The actions that are processed, in their order. -/
def processed (respond : Ticket → Response) : Dashboard → List Happening → List Action
  | _, [] => []
  | dashboard, happening :: happenings => (dashboard.processed? happening).toList ++
      (dashboard.happen respond happening).processed respond happenings

theorem after_append (respond : Ticket → Response) (dashboard : Dashboard)
    (first second : List Happening) :
    dashboard.after respond (first ++ second) =
      (dashboard.after respond first).after respond second := by
  induction first generalizing dashboard with
  | nil => rfl
  | cons happening happenings ih => exact ih (dashboard.happen respond happening)

theorem processed_append (respond : Ticket → Response) (dashboard : Dashboard)
    (first second : List Happening) :
    dashboard.processed respond (first ++ second) =
      dashboard.processed respond first ++
        (dashboard.after respond first).processed respond second := by
  induction first generalizing dashboard with
  | nil => rfl
  | cons happening happenings ih =>
      simp only [List.cons_append, processed, after, ih, List.append_assoc]

theorem proceeds_cases (respond : Ticket → Response) (dashboard : Dashboard) :
    dashboard.happen respond .proceeds = dashboard ∨
    ∃ action others, dashboard.queue = action :: others ∧
      dashboard.processed? .proceeds = some action ∧
      dashboard.happen respond .proceeds =
        { dashboard with queue := others }.process respond action := by
  rw [happen, processed?]
  cases waiting : dashboard.queue with
  | nil => exact Or.inl rfl
  | cons action others => exact Or.inr ⟨action, others, rfl, rfl, rfl⟩

/-- What holds at first and is kept by all that happens holds at the end.  Of the actions of some
kind only so many are processed as there is room for, and each of them takes room. -/
theorem holds_after (respond : Ticket → Response) (kind : Action → Bool)
    (Holds : Nat → Dashboard → Prop) {happenings : List Happening}
    (kept : ∀ room dashboard happening, happening ∈ happenings → Holds room dashboard →
      (dashboard.processed? happening).toList.countP kind ≤ room →
      Holds (room - (dashboard.processed? happening).toList.countP kind)
        (dashboard.happen respond happening))
    {room : Nat} {dashboard : Dashboard} (holds : Holds room dashboard)
    (enough : (dashboard.processed respond happenings).countP kind ≤ room) :
    Holds (room - (dashboard.processed respond happenings).countP kind)
      (dashboard.after respond happenings) := by
  induction happenings generalizing room dashboard with
  | nil => exact holds
  | cons happening happenings ih =>
      rw [processed, List.countP_append] at enough ⊢
      rw [← Nat.sub_sub]
      have next := kept room dashboard happening List.mem_cons_self holds (by omega)
      exact ih (fun room dashboard other member =>
        kept room dashboard other (List.mem_cons_of_mem happening member)) next (by omega)

/-! ## Keys -/

/-- What a key can do to the screen, and its action. -/
inductive Pressed (screen : Screen) : Screen → Option Action → Prop where
  | quits : Pressed screen screen (some .quit)
  | helps : Pressed screen screen (some .toggleHelp)
  | idles : Pressed screen screen none
  | selects (direction : Direction) : Pressed screen (screen.moveSelection direction) none
  | turns (direction : Direction) : Pressed screen (screen.moveButton direction) none
  | activates {row index : Nat} : screen.activation? = some (.activate row index) →
      Pressed screen screen (some (.activate row index))

theorem pressed_screen (screen : Screen) (key : Key) :
    Pressed screen (screen.press key).1 (screen.press key).2 := by
  unfold Screen.press
  split
  · exact .selects .forward
  · exact .selects .forward
  · exact .selects .backward
  · exact .selects .backward
  · exact .turns .forward
  · exact .turns .forward
  · exact .turns .backward
  · exact .turns .backward
  · cases activation : screen.activation? with
    | none => exact .idles
    | some action =>
        have kind := activation
        unfold Screen.activation? at kind
        split at kind <;> cases kind
        exact .activates activation
  · exact .idles

theorem press_cases (dashboard : Dashboard) (key : Key) :
    ∃ screen action, Pressed dashboard.screen screen action ∧
      dashboard.press key = ({ dashboard with screen }, action) := by
  unfold press
  split
  · split
    · exact ⟨_, _, .helps, rfl⟩
    · exact ⟨_, _, .helps, rfl⟩
    · exact ⟨_, _, .quits, rfl⟩
    · exact ⟨_, _, .idles, rfl⟩
  split
  · exact ⟨_, _, .quits, rfl⟩
  · exact ⟨_, _, .quits, rfl⟩
  · exact ⟨_, _, .helps, rfl⟩
  · exact ⟨_, _, pressed_screen dashboard.screen key, rfl⟩

theorem happen_press {dashboard : Dashboard} {key : Key} {screen : Screen} {action : Option Action}
    (pressed : dashboard.press key = ({ dashboard with screen }, action))
    (respond : Ticket → Response) : dashboard.happen respond (.press key) =
      { dashboard with screen, queue := dashboard.queue ++ action.toList } := by
  rw [happen, pressed]
  cases action with
  | none => simp
  | some action => rfl

/-- Keys select; they do not change what is shown. -/
theorem Pressed.snapshot {screen later : Screen} {action : Option Action}
    (pressed : Pressed screen later action) : later.snapshot = screen.snapshot := by
  cases pressed with
  | selects direction =>
      unfold Screen.moveSelection
      dsimp only
      split
      · rfl
      · split <;> rfl
  | turns direction =>
      unfold Screen.moveButton
      split <;> rfl
  | _ => rfl

/-! ## The queue -/

/-- What happens only adds to the end of the queue, and takes from it what is processed. -/
theorem exists_queue_happen (respond : Ticket → Response) (dashboard : Dashboard)
    (happening : Happening) : ∃ added, (dashboard.processed? happening).toList ++
      (dashboard.happen respond happening).queue = dashboard.queue ++ added := by
  cases happening with
  | press key =>
      obtain ⟨screen, action, -, pressed⟩ := dashboard.press_cases key
      exact ⟨action.toList, congrArg Dashboard.queue (happen_press pressed respond)⟩
  | arrives action => exact ⟨[action], rfl⟩
  | proceeds =>
      rw [happen, processed?]
      cases waiting : dashboard.queue with
      | nil => exact ⟨[], by simp [waiting]⟩
      | cons action others =>
          obtain ⟨added, queued, -⟩ :=
            queue_process respond { dashboard with queue := others } action
          exact ⟨added, congrArg (action :: ·) queued⟩
  | passes change =>
      have same : (dashboard.happen respond (.passes change)).queue = dashboard.queue := by
        rw [happen]
        cases dashboard.hub <;> rfl
      exact ⟨[], same.trans (List.append_nil _).symm⟩

/-- What waits is processed in its turn, before all that comes later. -/
theorem queue_leads (respond : Ticket → Response) (dashboard : Dashboard)
    (happenings : List Happening) : dashboard.queue <+:
      dashboard.processed respond happenings ++ (dashboard.after respond happenings).queue := by
  induction happenings generalizing dashboard with
  | nil => exact List.prefix_rfl
  | cons happening happenings ih =>
      obtain ⟨added, queued⟩ := dashboard.exists_queue_happen respond happening
      obtain ⟨rest, later⟩ := ih (dashboard.happen respond happening)
      refine ⟨added ++ rest, ?_⟩
      rw [processed, after, List.append_assoc, ← later, ← List.append_assoc, ← queued,
        List.append_assoc]

/-! ## Processing -/

/-- What processing an action can do where there is a switchboard. -/
inductive Processed (respond : Ticket → Response) (dashboard : Dashboard) (run : Run) :
    Action → Dashboard → Prop where
  | filled {devices : List Device} :
      Processed respond dashboard run (.loaded devices) (dashboard.publish (run.render devices))
  | sent {row index : Nat} {button : Button} : run.desk.board.button? row index = some button →
      Processed respond dashboard run (.activate row index)
        (dashboard.publish (run.dispatch respond button.device button.command).1)
  | refused {row index : Nat} : run.desk.board.button? row index = none →
      Processed respond dashboard run (.activate row index)
        (dashboard.send (.notify ⟨.error, (CommandFault.noButton row index).message⟩))
  | applied {completion : Completion} :
      Processed respond dashboard run (.completed completion)
        (dashboard.publish (run.apply completion).1)
  | told {event : Event} {time : Int} :
      Processed respond dashboard run (.observed event time)
        ({ dashboard with lastReply := some time }.send (.notify (.ofEvent run.desk.board event)))
  | shown {snapshot : Snapshot} :
      Processed respond dashboard run (.refresh snapshot)
        { dashboard with screen := dashboard.screen.display snapshot }
  | failed {reason : String} :
      Processed respond dashboard run (.loadFailed reason)
        { dashboard with screen := dashboard.screen.fail reason }
  | noticed {notice : Notice} :
      Processed respond dashboard run (.notify notice) { dashboard with notice := some notice }
  /-- Neither the screen nor the switchboard is concerned. -/
  | aside {action : Action} (running helpShown : Bool) :
      action ∈ [.quit, .tick, .redraw, .toggleHelp] →
      Processed respond dashboard run action { dashboard with running, helpShown }

theorem processed_process (respond : Ticket → Response) {dashboard : Dashboard} {run : Run}
    (hub : dashboard.hub = .ok run) (action : Action) :
    dashboard.Processed respond run action (dashboard.process respond action) := by
  obtain ⟨_, label, screen, running, helpShown, notice, lastReply, queue⟩ := dashboard
  cases hub
  cases action with
  | quit => exact .aside false helpShown (by simp)
  | tick => exact .aside running helpShown (by simp)
  | redraw => exact .aside running helpShown (by simp)
  | toggleHelp => exact .aside running (!helpShown) (by simp)
  | loaded devices => exact .filled
  | loadFailed reason => exact .failed
  | refresh snapshot => exact .shown
  | activate row index =>
      simp only [process, processWith, activate]
      cases stands : run.desk.board.button? row index with
      | none =>
          rw [Run.activate_of_button?_eq_none stands]
          exact .refused stands
      | some button =>
          rw [Run.activate_of_button? stands]
          exact .sent stands
  | completed completion => exact .applied
  | observed event time => exact .told
  | notify notice => exact .noticed

end Dashboard

end DevicePanel
