import DevicePanel.Dashboard.Live
import DevicePanel.Proofs.Dashboard.Highlight
import DevicePanel.Proofs.Dashboard.Relaying

/-!
# A dashboard at work takes such a course

A dashboard at work waits for actions, its own or those that the relay passes on, and processes
them.  All of this is made of happenings: what is known of every course is known of it.
-/

namespace DevicePanel.Dashboard

/-- Some happenings lead from a dashboard to another, process these actions, and bring from outside
only what may come from there. -/
def Takes (respond : Ticket → Response) (dashboard : Dashboard) (actions : List Action)
    (later : Dashboard) : Prop :=
  ∃ happenings, dashboard.after respond happenings = later ∧
    dashboard.processed respond happenings = actions ∧
    ∀ action, .arrives action ∈ happenings → action.isOutside = true

namespace Takes

variable {respond : Ticket → Response} {first second third : Dashboard}

theorem refl (respond : Ticket → Response) (dashboard : Dashboard) :
    Takes respond dashboard [] dashboard :=
  ⟨[], rfl, rfl, nofun⟩

theorem trans {actions others : List Action} (earlier : Takes respond first actions second)
    (later : Takes respond second others third) :
    Takes respond first (actions ++ others) third := by
  obtain ⟨happenings, rfl, rfl, outside⟩ := earlier
  obtain ⟨more, rfl, rfl, outsideLater⟩ := later
  refine ⟨happenings ++ more, after_append .., processed_append .., ?_⟩
  intro action member
  exact (List.mem_append.mp member).elim (outside action) (outsideLater action)

theorem passing {dashboard : Dashboard} {run : Run} (hub : dashboard.hub = .ok run)
    (change : Run → Run) :
    Takes respond dashboard []
      { dashboard with hub := .ok { change run with desk := run.desk } } := by
  refine ⟨[.passes change], ?_, rfl, by simp⟩
  rw [after, happen, hub]
  rfl

/-- An action that comes while none waits is the next one to be processed. -/
theorem arriving {dashboard : Dashboard} (idle : dashboard.queue = []) {action : Action}
    (outside : action.isOutside = true) :
    Takes respond dashboard [action] (dashboard.process respond action) := by
  have queued : (dashboard.send action).queue = [action] := by
    rw [queue_send, idle]
    rfl
  have rest : ({ dashboard.send action with queue := [] } : Dashboard) = dashboard := by
    rw [← idle]
    rfl
  refine ⟨[.arrives action, .proceeds], ?_, ?_, ?_⟩
  · simp only [after, happen, queued, rest]
  · simp only [processed, processed?, happen, queued]
    rfl
  · simp [outside]

theorem proceeding {dashboard : Dashboard} {action : Action} {others : List Action}
    (waiting : dashboard.queue = action :: others) :
    Takes respond dashboard [action]
      ({ dashboard with queue := others }.process respond action) := by
  refine ⟨[.proceeds], ?_, ?_, by simp⟩
  · simp only [after, happen, waiting]
  · simp only [processed, processed?, waiting]
    rfl

end Takes

/-- The relay passes on only what may come from outside. -/
theorem Relay.isOutside_of_step {relay later : Relay} {action : Action}
    (passed : relay.step = (.passes action, later)) : action.isOutside = true := by
  have stepped := relay.steps_step
  rw [passed] at stepped
  generalize eq : Step.passes action = step at stepped
  cases stepped with
  | lists =>
      cases eq
      unfold listing
      split <;> rfl
  | completes => cases eq; rfl
  | reports => cases eq; rfl
  | _ => cases eq

namespace Live

theorem takes_tell (live : Live) (time : Int) :
    Takes live.respond live.dashboard [] (live.tell time).dashboard ∧
      (live.tell time).dashboard.queue = live.dashboard.queue ∧
      (live.tell time).respond = live.respond := by
  unfold tell
  split
  · next run relay hub _ =>
      exact ⟨.passing hub fun run => { run with queue := [] }, rfl, rfl⟩
  · exact ⟨.refl _ _, rfl, rfl⟩

theorem takes_advance (live : Live) :
    Takes live.respond live.dashboard [] live.advance.dashboard ∧
      live.advance.dashboard.queue = live.dashboard.queue ∧
      live.advance.respond = live.respond := by
  unfold advance
  split
  · next run hub =>
      split
      · next task tasks running =>
          exact ⟨.passing hub fun run => run.advanceTo task.finish, rfl, rfl⟩
      · exact ⟨.refl _ _, rfl, rfl⟩
  · exact ⟨.refl _ _, rfl, rfl⟩

theorem relayStep_keeps (live : Live) :
    live.relayStep.1.dashboard = live.dashboard ∧ live.relayStep.1.respond = live.respond ∧
      ∀ action ∈ live.relayStep.2, action.isOutside = true := by
  unfold relayStep
  split
  · exact ⟨rfl, rfl, nofun⟩
  · split
    · next action later passed =>
        refine ⟨rfl, rfl, ?_⟩
        rintro other ⟨⟩
        exact Relay.isOutside_of_step passed
    · exact ⟨rfl, rfl, nofun⟩

theorem takes_await {live later : Live} {time : Int} {awaited : Option Action}
    (awaits : live.await time = (later, awaited)) : later.respond = live.respond ∧
      Takes live.respond live.dashboard awaited.toList
        (awaited.elim later.dashboard (later.dashboard.process live.respond)) := by
  unfold await at awaits
  split at awaits
  · next action others waiting =>
      cases awaits
      exact ⟨rfl, .proceeding waiting⟩
  next idle =>
  obtain ⟨telling, told, sameTell⟩ := live.takes_tell time
  obtain ⟨dashboard, respond, outside⟩ := (live.tell time).relayStep_keeps
  rw [idle] at told
  split at awaits
  · next present action passed =>
      cases awaits
      rw [passed] at dashboard respond outside
      dsimp only at dashboard respond
      refine ⟨respond.trans sameTell, ?_⟩
      rw [Option.elim_some, dashboard]
      exact telling.trans (.arriving told (outside action rfl))
  next present passed =>
  -- Nothing was there, so time passes until the next command ends.
  rw [passed] at dashboard respond
  dsimp only at dashboard respond
  obtain ⟨advancing, advanced, sameAdvance⟩ := present.takes_advance
  obtain ⟨tellingLater, toldLater, sameLater⟩ := present.advance.takes_tell time
  obtain ⟨final, finalRespond, outsideLater⟩ := (present.advance.tell time).relayStep_keeps
  rw [awaits] at final finalRespond outsideLater
  dsimp only at final finalRespond
  have same : present.respond = live.respond := respond.trans sameTell
  rw [sameAdvance] at tellingLater
  rw [same, dashboard] at advancing
  rw [same] at tellingLater
  have before : Takes live.respond live.dashboard [] later.dashboard :=
    final ▸ (telling.trans advancing).trans tellingLater
  refine ⟨finalRespond.trans (sameLater.trans (sameAdvance.trans same)), ?_⟩
  cases awaited with
  | none => exact before
  | some action =>
      have still : later.dashboard.queue = [] := by
        rw [final, toldLater, advanced, dashboard, told]
      exact before.trans (.arriving still (outsideLater action rfl))

theorem takes_press (live : Live) (key : Key) :
    Takes live.respond live.dashboard [] (live.press key).dashboard := by
  refine ⟨[.press key], ?_, rfl, by simp⟩
  simp only [after, happen, press]
  cases live.dashboard.press key with
  | mk dashboard action => cases action <;> rfl

/-- Waiting for actions and processing them is a course in which just these are processed. -/
theorem takes_follow (live : Live) (time : Int) (count : Nat) :
    Takes live.respond live.dashboard ((live.follow time count).2.filterMap id)
      (live.follow time count).1.dashboard := by
  induction count generalizing live with
  | zero => exact .refl _ _
  | succ count ih =>
      rw [follow]
      split
      · next later awaits =>
          obtain ⟨-, takes⟩ := takes_await awaits
          exact takes
      · next later action awaits =>
          obtain ⟨respond, takes⟩ := takes_await awaits
          have rest := ih { later with
            dashboard := later.dashboard.process later.respond action }
          rw [respond] at rest
          dsimp only at rest
          rw [respond]
          exact takes.trans rest

end Live

end DevicePanel.Dashboard
