import DevicePanel.Proofs.Dashboard.Course

/-!
# The screen is up to date

Whenever the switchboard changes, what there is to show of it goes to the queue.  So the last
snapshot that waits, or the one on the screen if none waits, is always that of the switchboard, and
when the queue is empty it is on the screen.
-/

namespace DevicePanel

namespace Dashboard

/-- The action tells how the listing of devices ended. -/
def Action.lists : Action → Bool
  | .loaded _ | .loadFailed _ => true
  | _ => false

def Action.snapshot? : Action → Option Snapshot
  | .refresh snapshot => some snapshot
  | _ => none

/-- The snapshot that the screen shows when the actions of a queue were processed. -/
def shownAfter (shown : Snapshot) (queue : List Action) : Snapshot :=
  (queue.filterMap Action.snapshot?).getLast?.getD shown

theorem shownAfter_cons (shown : Snapshot) (action : Action) (others : List Action) :
    shownAfter shown (action :: others) = shownAfter (action.snapshot?.getD shown) others := by
  unfold shownAfter
  cases action with
  | refresh snapshot => simp [Action.snapshot?, List.getLast?_cons]
  | _ => rfl

theorem shownAfter_append_of_none (shown : Snapshot) {queue added : List Action}
    (none : ∀ action ∈ added, action.snapshot? = none) :
    shownAfter shown (queue ++ added) = shownAfter shown queue := by
  rw [shownAfter, List.filterMap_append, List.filterMap_eq_nil_iff.mpr none, List.append_nil]
  rfl

theorem shownAfter_refresh (shown snapshot : Snapshot) (queue : List Action) :
    shownAfter shown (queue ++ [.refresh snapshot]) = snapshot := by
  simp [shownAfter, Action.snapshot?]

/-- What is shown at the end may as well be shown before. -/
theorem shownAfter_self {shown last : Snapshot} {queue : List Action}
    (atEnd : shownAfter shown queue = last) : shownAfter last queue = last := by
  unfold shownAfter at *
  cases waiting : (queue.filterMap Action.snapshot?).getLast? with
  | none => rfl
  | some snapshot => rwa [waiting] at atEnd

/-! ## Snapshots -/

namespace Snapshot

theorem capture_of_empty {desk : Switchboard} (empty : desk.board = .empty) :
    capture desk = .empty := by
  rw [capture, empty]
  rfl

/-- What is shown as under way are the devices on the board with a ticket under way. -/
theorem isPending_capture_iff {desk : Switchboard} {id : String} :
    (capture desk).isPending id = true ↔
      (∃ row, .device row ∈ desk.board.rows ∧ row.id = id) ∧
        ∃ ticket ∈ desk.underWay, ticket.device = id := by
  have onBoard : id ∈ shownIds desk.board ↔
      ∃ row, .device row ∈ desk.board.rows ∧ row.id = id := by
    rw [shownIds, List.mem_eraseDups, List.mem_map]
    apply exists_congr
    intro row
    rw [List.mem_filterMap]
    constructor
    · rintro ⟨⟨other, member, isDevice⟩, same⟩
      cases other with
      | heading => cases isDevice
      | device other => cases isDevice; exact ⟨member, same⟩
    · rintro ⟨member, same⟩
      exact ⟨⟨.device row, member, rfl⟩, same⟩
  have pending : desk.isPending id = true ↔ ∃ ticket ∈ desk.underWay, ticket.device = id := by
    simp [Switchboard.isPending]
  rw [isPending, List.contains_iff_mem, capture, List.mem_filter, onBoard, pending]

end Snapshot

/-! ## Keeping up -/

structure Synced (dashboard : Dashboard) (run : Run) : Prop where
  hub : dashboard.hub = .ok run
  shown : shownAfter dashboard.screen.snapshot dashboard.queue = .capture run.desk

namespace Synced

variable {dashboard : Dashboard} {run : Run}

theorem send (synced : dashboard.Synced run) {action : Action} (none : action.snapshot? = none) :
    (dashboard.send action).Synced run := by
  refine ⟨synced.hub, (shownAfter_append_of_none _ ?_).trans synced.shown⟩
  intro other member
  obtain rfl := List.mem_singleton.mp member
  exact none

theorem publish (dashboard : Dashboard) (later : Run) : (dashboard.publish later).Synced later :=
  ⟨rfl, shownAfter_refresh _ _ _⟩

/-- Processing the first action of the queue keeps up; the board must be empty when it could not be
listed. -/
theorem process {action : Action} {others : List Action}
    (synced : { dashboard with queue := action :: others }.Synced run)
    (respond : Ticket → Response) (unlisted : action.lists = true → run.desk.board = .empty) :
    ∃ later : Run, ({ dashboard with queue := others }.process respond action).Synced later ∧
      (action.lists = false → run.desk.board = .empty → later.desk.board = .empty) := by
  obtain ⟨hub, shown⟩ := synced
  rw [shownAfter_cons] at shown
  have working : ({ dashboard with queue := others } : Dashboard).hub = .ok run := hub
  have processed := processed_process respond working action
  generalize ({ dashboard with queue := others } : Dashboard).process respond action = next
    at processed
  cases processed with
  | filled => exact ⟨_, publish _ _, nofun⟩
  | sent => exact ⟨_, publish _ _, fun _ empty => empty⟩
  | applied =>
      exact ⟨_, publish _ _, fun _ empty => Switchboard.board_apply_of_empty empty _⟩
  | refused =>
      have rest : ({ dashboard with queue := others } : Dashboard).Synced run := ⟨hub, shown⟩
      exact ⟨run, rest.send rfl, fun _ empty => empty⟩
  | @told event time =>
      have rest : ({ dashboard with queue := others, lastReply := some time } : Dashboard).Synced
          run := ⟨hub, shown⟩
      exact ⟨run, rest.send rfl, fun _ empty => empty⟩
  | shown => exact ⟨run, ⟨hub, shown⟩, fun _ empty => empty⟩
  | failed =>
      have empty := Snapshot.capture_of_empty (unlisted rfl)
      refine ⟨run, ⟨hub, ?_⟩, fun _ empty => empty⟩
      rw [empty] at shown ⊢
      exact shownAfter_self shown
  | noticed => exact ⟨run, ⟨hub, shown⟩, fun _ empty => empty⟩
  | aside running helpShown kind =>
      have none : action.snapshot? = none := by
        simp only [List.mem_cons, List.not_mem_nil, or_false] at kind
        rcases kind with rfl | rfl | rfl | rfl <;> rfl
      rw [none] at shown
      exact ⟨run, ⟨hub, shown⟩, fun _ empty => empty⟩

theorem happen (synced : dashboard.Synced run) (respond : Ticket → Response)
    {happening : Happening} (own : ∀ snapshot, happening ≠ .arrives (.refresh snapshot))
    (unlisted : (dashboard.processed? happening).toList.countP Action.lists ≠ 0 →
      run.desk.board = .empty) :
    ∃ later : Run, (dashboard.happen respond happening).Synced later ∧
      ((dashboard.processed? happening).toList.countP Action.lists = 0 →
        run.desk.board = .empty → later.desk.board = .empty) := by
  cases happening with
  | press key =>
      obtain ⟨screen, action, does, pressed⟩ := dashboard.press_cases key
      refine ⟨run, ?_, fun _ empty => empty⟩
      rw [happen_press pressed]
      refine ⟨synced.hub, ?_⟩
      rw [shownAfter_append_of_none, does.snapshot]
      · exact synced.shown
      · intro other member
        rw [Option.mem_toList] at member
        cases does <;> cases member <;> rfl
  | arrives action =>
      have none : action.snapshot? = none := by
        cases action with
        | refresh snapshot => exact absurd rfl (own snapshot)
        | _ => rfl
      exact ⟨run, synced.send none, fun _ empty => empty⟩
  | proceeds =>
      obtain same | ⟨action, others, waiting, first, processes⟩ :=
        dashboard.proceeds_cases respond
      · rw [same]
        exact ⟨run, synced, fun _ empty => empty⟩
      · rw [first, Option.toList_some, List.countP_singleton] at unlisted ⊢
        have shown := synced.shown
        rw [waiting] at shown
        have whole : ({ dashboard with queue := action :: others } : Dashboard).Synced run :=
          ⟨synced.hub, shown⟩
        obtain ⟨later, kept, same⟩ :=
          whole.process respond (fun lists => unlisted (by simp [lists]))
        rw [processes]
        exact ⟨later, kept, fun plain => same (by simpa using plain)⟩
  | passes change =>
      refine ⟨{ change run with desk := run.desk }, ?_, fun _ empty => empty⟩
      rw [Dashboard.happen, synced.hub]
      exact ⟨rfl, synced.shown⟩

end Synced

/-- Keys are pressed, any actions but snapshots come from outside, the queue is processed and time
passes, in any order; that devices were listed, or could not be, is processed at most once.  Then
whenever the queue is empty the screen shows what there is to show of the switchboard: its board,
and as under way those devices on it that have a ticket under way. -/
theorem screen_shows_the_switchboard (respond : Ticket → Response) (label : String) (run : Run)
    (unlisted : run.desk.board = .empty) (happenings : List Happening)
    (own : ∀ snapshot, .arrives (.refresh snapshot) ∉ happenings)
    (once : ((start (.ok run) label).processed respond happenings).countP Action.lists ≤ 1)
    (drained : ((start (.ok run) label).after respond happenings).queue = []) :
    let final := (start (.ok run) label).after respond happenings
    ∃ hub, final.hub = .ok hub ∧
      final.screen.snapshot = .capture hub.desk ∧
      final.screen.snapshot.board = hub.desk.board ∧
      ∀ id, final.screen.snapshot.isPending id = true ↔
        (∃ row, .device row ∈ hub.desk.board.rows ∧ row.id = id) ∧
          ∃ ticket ∈ hub.desk.underWay, ticket.device = id := by
  intro final
  have first : (start (.ok run) label).Synced run :=
    ⟨rfl, (Snapshot.capture_of_empty unlisted).symm⟩
  have kept := holds_after respond Action.lists
    (fun room dashboard => room ≤ 1 ∧ ∃ later : Run, dashboard.Synced later ∧
      (room = 1 → later.desk.board = .empty))
    ?_ ⟨Nat.le_refl 1, run, first, fun _ => unlisted⟩ once
  · obtain ⟨-, hub, synced, -⟩ := kept
    have shown : final.screen.snapshot = .capture hub.desk := by
      rw [← synced.shown, drained]
      rfl
    refine ⟨hub, synced.hub, shown, ?_, ?_⟩
    · rw [shown]
      rfl
    · intro id
      rw [shown, Snapshot.isPending_capture_iff]
  · rintro room dashboard happening member ⟨few, present, synced, empty⟩ enough
    obtain ⟨later, kept, still⟩ := synced.happen respond
      (fun snapshot arrives => own snapshot (arrives ▸ member)) (fun lists => empty (by omega))
    exact ⟨by omega, later, kept, fun left => still (by omega) (empty (by omega))⟩

/-- A button of a lamp is pressed, and one that is not there. -/
theorem screen_shows_the_lamp_under_way :
    let respond (ticket : Ticket) : Response := ⟨some 3, .ok ⟨ticket.device, ticket.command⟩⟩
    let lamp : Device := ⟨"lamp", "Lamp", "Light", "off", ["on"]⟩
    let happenings : List Happening := [.arrives (.loaded [lamp]), .proceeds, .proceeds,
      .press ⟨.enter, false, false, false⟩, .arrives (.activate 7 0), .proceeds, .proceeds,
      .proceeds, .proceeds]
    let first := start (.ok (.start .supersede 10)) "hub"
    let final := first.after respond happenings
    (∀ snapshot, .arrives (.refresh snapshot) ∉ happenings) ∧
    (first.processed respond happenings).countP Action.lists ≤ 1 ∧
    final.queue = [] ∧
    final.screen.snapshot.isPending "lamp" = true ∧
    ∃ hub, final.hub = .ok hub ∧ final.screen.snapshot.board = hub.desk.board ∧
      ∃ ticket ∈ hub.desk.underWay, ticket.device = "lamp" := by
  intro respond lamp happenings first final
  have own : ∀ snapshot, .arrives (.refresh snapshot) ∉ happenings := by simp [happenings]
  have once : (first.processed respond happenings).countP Action.lists ≤ 1 := by decide +kernel
  have drained : final.queue = [] := rfl
  have pending : final.screen.snapshot.isPending "lamp" = true := by decide +kernel
  obtain ⟨hub, working, -, board, shown⟩ := screen_shows_the_switchboard respond "hub"
    (.start .supersede 10) rfl happenings own once drained
  exact ⟨own, once, drained, pending, hub, working, board, ((shown "lamp").mp pending).2⟩

end Dashboard

end DevicePanel
