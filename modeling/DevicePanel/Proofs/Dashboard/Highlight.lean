import DevicePanel.Proofs.Dashboard.Course

/-!
# The highlighted button

The screen shows a copy of the board that may be old, and the action of a pressed button waits in
the queue while the board goes on.  As the board is filled only once, all that changes meanwhile are
states: whatever is shown or waits names buttons that still stand where they stood.
-/

namespace DevicePanel

namespace Dashboard

/-- The action fills the board. -/
def Action.fills : Action → Bool
  | .loaded _ => true
  | _ => false

/-- The action may come from outside; the others are the dashboard's own. -/
def Action.isOutside : Action → Bool
  | .refresh _ | .activate .. | .notify _ => false
  | _ => true

/-! ## Notices -/

/-- The notice tells that there is no button at a place. -/
def Notice.MissesButton (notice : Notice) : Prop :=
  ∃ row index, notice.message = (CommandFault.noButton row index).message

theorem colon_notMem_toString (number : Nat) : ':' ∉ (toString number).toList := by
  rw [Nat.toString_eq_ofList_toDigits, String.toList_ofList]
  intro member
  have digit := Nat.isDigit_of_mem_toDigits (by decide) (by decide) member
  exact absurd digit (by decide)

theorem colon_notMem_message (row index : Nat) :
    ':' ∉ (CommandFault.noButton row index).message.toList := by
  have message : (CommandFault.noButton row index).message =
      "No command at row " ++ toString row ++ ", position " ++ toString index := rfl
  rw [message]
  simp only [String.toList_append, List.mem_append, not_or]
  refine ⟨⟨⟨?_, colon_notMem_toString row⟩, ?_⟩, colon_notMem_toString index⟩
  · decide
  · decide

/-- In a notice of an event there is a colon after the device. -/
theorem not_missesButton_ofEvent (board : Board) (event : Event) :
    ¬ (Notice.ofEvent board event).MissesButton := by
  rintro ⟨row, index, same⟩
  have mark : ':' ∈ ": ".toList := by decide
  have colon : ':' ∈ (Notice.ofEvent board event).message.toList := by
    unfold Notice.ofEvent
    cases event.kind <;>
      simp only [String.toList_append, List.mem_append, mark, true_or, or_true]
  rw [same] at colon
  exact colon_notMem_message row index colon

/-! ## The screen -/

/-- If the selected device has buttons, one of them is selected. -/
def Screen.Aimed (screen : Screen) : Prop :=
  screen.buttonCount ≠ 0 → screen.button < screen.buttonCount

namespace Screen

theorem aimed_reconcile (screen : Screen) : screen.reconcile.Aimed := by
  unfold reconcile clampButton Aimed buttonCount selectedRow?
  dsimp only
  intro some
  omega

theorem Aimed.pressed {screen later : Screen} {action : Option Action} (aimed : screen.Aimed)
    (pressed : Pressed screen later action) : later.Aimed := by
  cases pressed with
  | selects direction =>
      unfold moveSelection
      dsimp only
      split
      · exact aimed
      split
      · exact aimed
      · exact Nat.pos_of_ne_zero
  | turns direction =>
      unfold moveButton
      split
      · exact aimed
      · intro some
        have bound : direction.move screen.button (screen.buttonCount - 1) ≤
            screen.buttonCount - 1 := by
          cases direction <;> exact Nat.min_le_right _ _
        change direction.move screen.button (screen.buttonCount - 1) < screen.buttonCount
        omega
  | _ => exact aimed

/-- The action of a pressed button is about the selected one, and it stands on the board that is
shown. -/
theorem Aimed.activation? {screen : Screen} (aimed : screen.Aimed) {row index : Nat}
    (activation : screen.activation? = some (.activate row index)) :
    screen.selected = some row ∧ screen.button = index ∧
      ∃ button, screen.snapshot.board.button? row index = some button := by
  unfold Screen.activation? at activation
  split at activation
  · next row' others selected count =>
      cases activation
      refine ⟨selected, rfl, ?_⟩
      have inside := aimed (by rw [count]; exact Nat.succ_ne_zero others)
      unfold buttonCount selectedRow? at inside
      rw [selected] at inside
      rw [Board.button?]
      simp only [Option.bind_some] at inside
      split at inside
      · next deviceRow shown =>
          exact ⟨_, by rw [shown]; exact List.getElem?_eq_getElem inside⟩
      · exact absurd inside (Nat.not_lt_zero _)
  · cases activation

end Screen

/-! ## What is shown and what waits -/

/-- The action of a queue fits a board: it shows what became this board, it is about a button that
stands on it, and it does not tell that there is none. -/
def Action.Fits (board : Board) : Action → Prop
  | .refresh snapshot => snapshot.board.Becomes board
  | .activate row index => ∃ button, board.button? row index = some button
  | .notify notice => ¬ notice.MissesButton
  | _ => True

theorem Action.Fits.becomes {board later : Board} {action : Action} (fits : action.Fits board)
    (becomes : board.Becomes later) : action.Fits later := by
  cases action with
  | refresh snapshot => exact Board.Becomes.trans fits becomes
  | activate row index =>
      obtain ⟨button, stands⟩ := fits
      exact ⟨button, becomes.button? stands⟩
  | notify notice => exact fits
  | _ => trivial

theorem Action.fits_of_isOutside {action : Action} (outside : action.isOutside = true)
    (board : Board) : action.Fits board := by
  cases action with
  | refresh | activate | notify => cases outside
  | _ => trivial

structure Steady (dashboard : Dashboard) (run : Run) : Prop where
  hub : dashboard.hub = .ok run
  shown : dashboard.screen.snapshot.board.Becomes run.desk.board
  aimed : dashboard.screen.Aimed
  queued : ∀ action ∈ dashboard.queue, action.Fits run.desk.board
  noticed : ∀ notice, dashboard.notice = some notice → ¬ notice.MissesButton

namespace Steady

variable {dashboard : Dashboard} {run later : Run}

theorem send (steady : dashboard.Steady run) {action : Action}
    (fits : action.Fits run.desk.board) : (dashboard.send action).Steady run := by
  refine ⟨steady.hub, steady.shown, steady.aimed, ?_, steady.noticed⟩
  intro waiting member
  rcases List.mem_append.mp member with earlier | added
  · exact steady.queued waiting earlier
  · obtain rfl := List.mem_singleton.mp added
    exact fits

theorem publish (steady : dashboard.Steady run)
    (becomes : run.desk.board.Becomes later.desk.board) :
    (dashboard.publish later).Steady later := by
  have moved : ({ dashboard with hub := .ok later } : Dashboard).Steady later :=
    ⟨rfl, steady.shown.trans becomes, steady.aimed,
      fun action member => (steady.queued action member).becomes becomes, steady.noticed⟩
  exact moved.send (Board.Becomes.refl _)

theorem press (steady : dashboard.Steady run) (respond : Ticket → Response) (key : Key) :
    (dashboard.happen respond (.press key)).Steady run := by
  obtain ⟨screen, action, does, pressed⟩ := dashboard.press_cases key
  rw [happen_press pressed]
  refine ⟨steady.hub, ?_, steady.aimed.pressed does, ?_, steady.noticed⟩
  · rw [does.snapshot]
    exact steady.shown
  · intro waiting member
    rcases List.mem_append.mp member with earlier | added
    · exact steady.queued waiting earlier
    · rw [Option.mem_toList] at added
      cases does with
      | activates activation =>
          cases added
          obtain ⟨-, -, button, stands⟩ := steady.aimed.activation? activation
          exact ⟨button, steady.shown.button? stands⟩
      | quits | helps => cases added; trivial
      | idles | selects | turns => cases added

/-- A board is filled only while it is empty. -/
theorem process (steady : dashboard.Steady run) (respond : Ticket → Response) {action : Action}
    (fits : action.Fits run.desk.board)
    (unfilled : action.fills = true → run.desk.board.rows = []) :
    ∃ later : Run, (dashboard.process respond action).Steady later ∧
      run.desk.board.Becomes later.desk.board ∧
      (action.fills = false → later.desk.board.outline = run.desk.board.outline) := by
  have processed := processed_process respond steady.hub action
  generalize dashboard.process respond action = next at processed
  cases processed with
  | @filled devices =>
      have becomes : run.desk.board.Becomes (run.render devices).desk.board :=
        Or.inl (unfilled rfl)
      exact ⟨_, steady.publish becomes, becomes, nofun⟩
  | @sent row index button stands =>
      have becomes : run.desk.board.Becomes
          (run.dispatch respond button.device button.command).1.desk.board := Or.inr rfl
      exact ⟨_, steady.publish becomes, becomes, fun _ => rfl⟩
  | refused none =>
      obtain ⟨button, stands⟩ := fits
      rw [none] at stands
      cases stands
  | @applied completion =>
      have same := Switchboard.outline_apply run.desk completion
      have becomes : run.desk.board.Becomes (run.apply completion).1.desk.board := Or.inr same
      exact ⟨_, steady.publish becomes, becomes, fun _ => same⟩
  | @told event time =>
      have marked : ({ dashboard with lastReply := some time } : Dashboard).Steady run :=
        ⟨steady.hub, steady.shown, steady.aimed, steady.queued, steady.noticed⟩
      exact ⟨run, marked.send (not_missesButton_ofEvent _ _), .refl _, fun _ => rfl⟩
  | shown =>
      exact ⟨run, ⟨steady.hub, fits, Screen.aimed_reconcile _, steady.queued, steady.noticed⟩,
        .refl _, fun _ => rfl⟩
  | failed =>
      exact ⟨run, ⟨steady.hub, Or.inl rfl, fun some => absurd rfl some, steady.queued,
        steady.noticed⟩, .refl _, fun _ => rfl⟩
  | noticed =>
      refine ⟨run, ⟨steady.hub, steady.shown, steady.aimed, steady.queued, ?_⟩,
        .refl _, fun _ => rfl⟩
      intro notice same
      cases same
      exact fits
  | aside running helpShown =>
      exact ⟨run, ⟨steady.hub, steady.shown, steady.aimed, steady.queued, steady.noticed⟩,
        .refl _, fun _ => rfl⟩

/-- What happens keeps a dashboard steady as long as a filled board is not filled again. -/
theorem happen (steady : dashboard.Steady run) (respond : Ticket → Response)
    {happening : Happening}
    (outside : ∀ action, happening = .arrives action → action.isOutside = true)
    (unfilled : (dashboard.processed? happening).toList.countP Action.fills ≠ 0 →
      run.desk.board.rows = []) :
    ∃ later : Run, (dashboard.happen respond happening).Steady later ∧
      run.desk.board.Becomes later.desk.board ∧
      ((dashboard.processed? happening).toList.countP Action.fills = 0 →
        later.desk.board.outline = run.desk.board.outline) := by
  cases happening with
  | press key => exact ⟨run, steady.press respond key, .refl _, fun _ => rfl⟩
  | arrives action =>
      have fits := Action.fits_of_isOutside (outside action rfl) run.desk.board
      exact ⟨run, steady.send fits, .refl _, fun _ => rfl⟩
  | proceeds =>
      obtain same | ⟨action, others, waiting, first, processes⟩ :=
        dashboard.proceeds_cases respond
      · rw [same]
        exact ⟨run, steady, .refl _, fun _ => rfl⟩
      · rw [first, Option.toList_some, List.countP_singleton] at unfilled ⊢
        have queued := steady.queued
        rw [waiting, List.forall_mem_cons] at queued
        have rest : ({ dashboard with queue := others } : Dashboard).Steady run :=
          ⟨steady.hub, steady.shown, steady.aimed, queued.2, steady.noticed⟩
        obtain ⟨later, kept, becomes, same⟩ :=
          rest.process respond queued.1 (fun fills => unfilled (by simp [fills]))
        rw [processes]
        exact ⟨later, kept, becomes, fun plain => same (by simpa using plain)⟩
  | passes change =>
      refine ⟨{ change run with desk := run.desk }, ?_, .refl _, fun _ => rfl⟩
      rw [Dashboard.happen, steady.hub]
      exact ⟨rfl, steady.shown, steady.aimed, steady.queued, steady.noticed⟩

/-- There is room for filling the board once while it is empty. -/
theorem after (steady : dashboard.Steady run) (respond : Ticket → Response)
    {happenings : List Happening} {room : Nat} (few : room ≤ 1)
    (unfilled : room = 1 → run.desk.board.rows = [])
    (outside : ∀ action, .arrives action ∈ happenings → action.isOutside = true)
    (enough : (dashboard.processed respond happenings).countP Action.fills ≤ room) :
    ∃ later : Run, (dashboard.after respond happenings).Steady later ∧
      run.desk.board.Becomes later.desk.board ∧
      (room - (dashboard.processed respond happenings).countP Action.fills = 1 →
        later.desk.board.rows = []) := by
  have kept := holds_after respond Action.fills
    (fun room dashboard => room ≤ 1 ∧ ∃ later : Run, dashboard.Steady later ∧
      run.desk.board.Becomes later.desk.board ∧ (room = 1 → later.desk.board.rows = []))
    ?_ ⟨few, run, steady, .refl _, unfilled⟩ enough
  · exact kept.2
  rintro room dashboard happening member ⟨few, present, steady, becomes, unfilled⟩ enough
  obtain ⟨later, kept, next, same⟩ := steady.happen respond
    (fun action arrives => outside action (arrives ▸ member)) (fun fills => unfilled (by omega))
  refine ⟨by omega, later, kept, becomes.trans next, fun still => ?_⟩
  rw [← Board.outline_eq_nil_iff, same (by omega), Board.outline_eq_nil_iff]
  exact unfilled (by omega)

end Steady

/-! ## Sending -/

/-- When the dashboard proceeds it presses the button at a place: the command of this button is
sent, its ticket is issued and under way, and nothing comes of it but a fresh copy of the board. -/
structure Sends (respond : Ticket → Response) (dashboard : Dashboard) (run : Run) (row index : Nat)
    (button : Button) : Prop where
  ticket : (run.activate respond row index).2 =
    .ok ⟨run.desk.issued + 1, button.device, button.command⟩
  hub : (dashboard.happen respond .proceeds).hub = .ok (run.activate respond row index).1
  issued : (run.activate respond row index).1.desk.issued = run.desk.issued + 1
  underWay : ⟨run.desk.issued + 1, button.device, button.command⟩ ∈
    (run.activate respond row index).1.desk.underWay
  queue : (dashboard.happen respond .proceeds).queue =
    dashboard.queue.tail ++ [.refresh (.capture (run.activate respond row index).1.desk)]

/-- The first action of the queue is about a button that stands on the board. -/
theorem sends_of_button? {dashboard : Dashboard} {run : Run} (hub : dashboard.hub = .ok run)
    {row index : Nat} (turn : dashboard.queue.head? = some (.activate row index))
    {button : Button} (stands : run.desk.board.button? row index = some button)
    (respond : Ticket → Response) : dashboard.Sends respond run row index button := by
  have pressed := Run.activate_of_button? stands respond
  obtain ⟨others, waiting⟩ := List.head?_eq_some_iff.mp turn
  have proceeds : dashboard.happen respond .proceeds =
      ({ dashboard with queue := others } : Dashboard).publish
        (run.activate respond row index).1 := by
    rw [happen, waiting]
    simp only [process, hub, processWith, activate, pressed]
  exact {
    ticket := congrArg Prod.snd pressed
    hub := congrArg Dashboard.hub proceeds
    issued := by
      rw [pressed]
      rfl
    underWay := by
      rw [pressed]
      exact List.mem_append_right _ (List.mem_singleton.mpr rfl)
    queue := by
      rw [proceeds, waiting]
      rfl }

/-- The action of a pressed button waits behind those that waited already.  As the board only becomes
what it can become, the button stands on it when its turn comes. -/
theorem Steady.sends_pressed {earlier : Dashboard} {present run : Run}
    (steady : earlier.Steady present) {key : Key} {row index : Nat}
    (pressed : (earlier.press key).2 = some (.activate row index)) {respond : Ticket → Response}
    {middle : List Happening} {final : Dashboard}
    (since : final = (earlier.happen respond (.press key)).after respond middle)
    (lastly : final.Steady run) (becomes : present.desk.board.Becomes run.desk.board) :
    earlier.screen.selected = some row ∧ earlier.screen.button = index ∧
      (earlier.queue ++ [.activate row index] <+:
        (earlier.happen respond (.press key)).processed respond middle ++ final.queue) ∧
      ∃ button, earlier.screen.snapshot.board.button? row index = some button ∧
        (run.activate respond row index).2 =
          .ok ⟨run.desk.issued + 1, button.device, button.command⟩ ∧
        (final.queue.head? = some (.activate row index) →
          final.Sends respond run row index button) := by
  obtain ⟨screen, action, does, moved⟩ := earlier.press_cases key
  have queued := (earlier.happen respond (.press key)).queue_leads respond middle
  rw [← since, congrArg Dashboard.queue (happen_press moved respond)] at queued
  rw [moved] at pressed
  cases pressed
  cases does with
  | activates activation =>
      obtain ⟨selected, same, button, stands⟩ := steady.aimed.activation? activation
      have still := becomes.button? (steady.shown.button? stands)
      exact ⟨selected, same, queued, button, stands,
        congrArg Prod.snd (Run.activate_of_button? still respond),
        fun turn => sends_of_button? lastly.hub turn still respond⟩

/-- Keys are pressed, actions come from outside, the queue is processed and time passes, in any
order, and the board is filled at most once.  Whenever a key presses a button, it is the selected
one of the selected device on the board that is shown.  Its action is processed in its turn; and
from then on, when it is processed as at any other time, pressing at that place sends the command
of this very button to its device.  Whenever it is the turn of such an action, a button's command
is sent.  No notice ever tells that a button is not there. -/
theorem highlighted_button_is_sent (respond : Ticket → Response) (label : String) (run : Run)
    (unfilled : run.desk.board = .empty) (happenings : List Happening)
    (outside : ∀ action, .arrives action ∈ happenings → action.isOutside = true)
    (once : ((start (.ok run) label).processed respond happenings).countP Action.fills ≤ 1) :
    let first := start (.ok run) label
    let final := first.after respond happenings
    ∃ hub, final.hub = .ok hub ∧
      (∀ before key middle row index, happenings = before ++ .press key :: middle →
        ((first.after respond before).press key).2 = some (.activate row index) →
        let earlier := first.after respond before
        let screen := earlier.screen
        screen.selected = some row ∧ screen.button = index ∧
          (earlier.queue ++ [.activate row index] <+:
            (earlier.happen respond (.press key)).processed respond middle ++ final.queue) ∧
          ∃ button, screen.snapshot.board.button? row index = some button ∧
            (hub.activate respond row index).2 =
              .ok ⟨hub.desk.issued + 1, button.device, button.command⟩ ∧
            (final.queue.head? = some (.activate row index) →
              final.Sends respond hub row index button)) ∧
      (∀ row index, .activate row index ∈ final.queue →
        ∃ ticket, (hub.activate respond row index).2 = .ok ticket) ∧
      (∀ row index, final.queue.head? = some (.activate row index) →
        ∃ button, final.Sends respond hub row index button) ∧
      ∀ notice, final.notice = some notice ∨ .notify notice ∈ final.queue →
        ¬ notice.MissesButton := by
  intro first final
  have steady : first.Steady run :=
    ⟨rfl, Or.inl rfl, fun some => absurd rfl some, nofun, nofun⟩
  have empty : run.desk.board.rows = [] := congrArg Board.rows unfilled
  obtain ⟨hub, atEnd, -, -⟩ := steady.after respond (Nat.le_refl 1) (fun _ => empty) outside once
  refine ⟨hub, atEnd.hub, ?_, ?_, ?_, ?_⟩
  · rintro before key middle row index rfl pressed earlier screen
    have few : (first.processed respond (before ++ .press key :: middle)).countP
        Action.fills ≤ 1 := once
    rw [processed_append, List.countP_append] at few
    have outsideBefore : ∀ action, .arrives action ∈ before → action.isOutside = true :=
      fun action member => outside action (List.mem_append_left _ member)
    have outsideSince : ∀ action, .arrives action ∈ .press key :: middle →
        action.isOutside = true :=
      fun action member => outside action (List.mem_append_right _ member)
    -- There is no room left since the key if the board was filled before.
    obtain ⟨atKey, present, -, unfilled⟩ :=
      steady.after respond (Nat.le_refl 1) (fun _ => empty) outsideBefore (by omega)
    obtain ⟨last, lastly, becomes, -⟩ :=
      present.after respond (Nat.sub_le 1 _) unfilled outsideSince (by omega)
    have since : final = (earlier.happen respond (.press key)).after respond middle :=
      after_append respond first before (.press key :: middle)
    obtain rfl : last = hub := Except.ok.inj (lastly.hub.symm.trans (since ▸ atEnd.hub))
    exact present.sends_pressed pressed since atEnd becomes
  · intro row index member
    obtain ⟨button, stands⟩ := atEnd.queued _ member
    exact ⟨_, congrArg Prod.snd (Run.activate_of_button? stands respond)⟩
  · intro row index turn
    obtain ⟨button, stands⟩ := atEnd.queued _ (List.mem_of_mem_head? turn)
    exact ⟨button, sends_of_button? atEnd.hub turn stands respond⟩
  · rintro notice (shown | waiting)
    · exact atEnd.noticed notice shown
    · exact atEnd.queued _ waiting

/-- The second button of a lamp is selected and pressed; an answer that comes before its action is
processed does not matter. -/
theorem highlighted_dim_is_sent :
    let respond (ticket : Ticket) : Response := ⟨some 3, .ok ⟨ticket.device, ticket.command⟩⟩
    let key (code : KeyCode) : Key := ⟨code, false, false, false⟩
    let first := start (.ok (.start .supersede 10)) "hub"
    let lamp : Device := ⟨"lamp", "Lamp", "Light", "off", ["on", "dim"]⟩
    let before : List Happening :=
      [.arrives (.loaded [lamp]), .proceeds, .proceeds, .press (key .right)]
    let happenings := before ++
      .press (key .enter) :: [.arrives (.completed ⟨1, "lamp", "on", .ok ⟨"lamp", "on"⟩⟩)]
    (∀ action, .arrives action ∈ happenings → action.isOutside = true) ∧
    (first.processed respond happenings).countP Action.fills ≤ 1 ∧
    (first.after respond before).screen.button = 1 ∧
    (first.after respond happenings).queue.head? = some (.activate 1 1) ∧
    ∃ hub, (first.after respond happenings).hub = .ok hub ∧
      (hub.activate respond 1 1).2 = .ok ⟨hub.desk.issued + 1, "lamp", "dim"⟩ ∧
      (first.after respond happenings).Sends respond hub 1 1 ⟨"lamp", "dim"⟩ := by
  intro respond key first lamp before happenings
  have outside : ∀ action, .arrives action ∈ happenings → action.isOutside = true := by
    simp [happenings, before, Action.isOutside]
  have once : (first.processed respond happenings).countP Action.fills ≤ 1 := by decide +kernel
  obtain ⟨hub, working, sent, -⟩ := highlighted_button_is_sent respond "hub"
    (.start .supersede 10) rfl happenings outside once
  have pressed : ((first.after respond before).press (key .enter)).2 = some (.activate 1 1) := rfl
  have turn : (first.after respond happenings).queue.head? = some (.activate 1 1) := rfl
  have shown : (first.after respond before).screen.snapshot.board.button? 1 1 =
      some ⟨"lamp", "dim"⟩ := by decide +kernel
  obtain ⟨-, button, -, found, stands, answer, sends⟩ := sent before _ _ 1 1 rfl pressed
  obtain rfl : _ = found := Option.some.inj (shown.symm.trans stands)
  exact ⟨outside, once, button, turn, hub, working, answer, sends turn⟩

end Dashboard

end DevicePanel
