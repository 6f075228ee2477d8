import DevicePanel.Proofs.Board.Index
import DevicePanel.Proofs.Switchboard.Turn

/-!
# The board is the replay of the events

An event that tells a new state writes it on the board; all other events leave the board as it
is.  Every move that does not fill the board changes it exactly as the events do that it
publishes, so the board is at every moment the filled board with all later events written on
it.  What these have written is read off row by row: the first row of an identifier shows the
last state that was told for it, and nothing else differs.
-/

namespace DevicePanel

/-- The state that an event tells for an identifier. -/
def Event.stateOf? (id : String) (event : Event) : Option String :=
  match event.kind with
  | .applied state => if event.device = id then some state else none
  | _ => none

/-- The last state that some events tell for an identifier. -/
def Event.lastState? (events : List Event) (id : String) : Option String :=
  (events.filterMap (Event.stateOf? id)).getLast?

theorem Event.lastState?_cons (event : Event) (events : List Event) (id : String) :
    Event.lastState? (event :: events) id =
      (Event.lastState? events id).or (event.stateOf? id) := by
  cases told : event.stateOf? id with
  | none => simp [Event.lastState?, told]
  | some state =>
      simp only [Event.lastState?, List.filterMap_cons, told, List.getLast?_cons]
      cases (events.filterMap (Event.stateOf? id)).getLast? <;> rfl

namespace Board

/-- Write on the board what an event tells. -/
def follow (board : Board) (event : Event) : Board :=
  match event.kind with
  | .applied state => ((board.patch? event.device state).map Prod.snd).getD board
  | _ => board

/-- Write on the board what some events tell. -/
def replay (board : Board) (events : List Event) : Board := events.foldl follow board

theorem replay_append (board : Board) (first second : List Event) :
    board.replay (first ++ second) = (board.replay first).replay second :=
  List.foldl_append

/-- What is superseded writes nothing. -/
theorem replay_superseded (board : Board) (tickets : List Ticket) :
    board.replay (tickets.map Switchboard.supersededEvent) = board := by
  induction tickets with
  | nil => rfl
  | cons ticket tickets ih => exact ih

/-- An event either writes its state at the known place or changes nothing. -/
theorem follow_cases {board : Board} (indexed : board.Indexed) (event : Event) :
    (board.follow event = board ∧
      ∀ id place, board.place? id = some place → event.stateOf? id = none) ∨
    (∃ place row state, event.kind = .applied state ∧
      board.place? event.device = some place ∧ board.deviceRow? place = some row ∧
      row.id = event.device ∧
      board.follow event =
        { board with rows := board.rows.set place (.device { row with state }) }) := by
  obtain ⟨device, command, kind⟩ := event
  cases kind with
  | applied state =>
      cases known : board.place? device with
      | none =>
          left
          refine ⟨by simp [follow, patch?_of_place?_eq_none known], ?_⟩
          intro id place found
          have other : device ≠ id := by
            rintro rfl
            simp [known] at found
          simp [Event.stateOf?, other]
      | some place =>
          right
          obtain ⟨row, found, same, written⟩ := indexed.patch?_of_place? known state
          exact ⟨place, row, state, rfl, rfl, found, same, by simp [follow, written]⟩
  | failed fault => exact Or.inl ⟨rfl, fun _ _ _ => rfl⟩
  | superseded => exact Or.inl ⟨rfl, fun _ _ _ => rfl⟩

@[simp]
theorem place?_follow {board : Board} (indexed : board.Indexed) (event : Event) (id : String) :
    (board.follow event).place? id = board.place? id := by
  obtain ⟨same, -⟩ | ⟨place, row, state, -, -, -, -, written⟩ := follow_cases indexed event
  · rw [same]
  · rw [written]
    rfl

theorem indexed_follow {board : Board} (indexed : board.Indexed) (event : Event) :
    (board.follow event).Indexed := by
  obtain ⟨same, -⟩ | ⟨place, row, state, -, -, found, -, written⟩ := follow_cases indexed event
  · rw [same]
    exact indexed
  · rw [written]
    exact indexed_set indexed found state

theorem length_follow {board : Board} (indexed : board.Indexed) (event : Event) :
    (board.follow event).rows.length = board.rows.length := by
  obtain ⟨same, -⟩ | ⟨place, row, state, -, -, -, -, written⟩ := follow_cases indexed event
  · rw [same]
  · rw [written, List.length_set]

/-- No event changes a heading. -/
theorem row?_follow_heading {board : Board} (indexed : board.Indexed) (event : Event)
    {place : Nat} {typeName : String} (found : board.row? place = some (.heading typeName)) :
    (board.follow event).row? place = some (.heading typeName) := by
  obtain ⟨same, -⟩ | ⟨written, row, state, -, -, inside, -, changed⟩ :=
    follow_cases indexed event
  · rwa [same]
  · have other : written ≠ place := by
      rintro rfl
      rw [deviceRow?_eq_some_iff] at inside
      rw [row?, inside] at found
      simp at found
    rw [changed, row?, List.getElem?_set_ne other]
    exact found

/-- An event changes the state of a device's row only if the row is the first one of its
identifier. -/
theorem row?_follow_device {board : Board} (indexed : board.Indexed) (event : Event)
    {place : Nat} {row : DeviceRow} (found : board.row? place = some (.device row)) :
    (board.follow event).row? place = some (.device
      (if board.place? row.id = some place then
        { row with state := (event.stateOf? row.id).getD row.state } else row)) := by
  obtain ⟨same, silent⟩ | ⟨written, other, state, kind, known, inside, device, changed⟩ :=
    follow_cases indexed event
  · rw [same, found]
    split
    · rename_i first
      rw [silent row.id place first]
      rfl
    · rfl
  · rw [changed, row?]
    by_cases here : written = place
    · subst here
      obtain rfl : row = other := by
        rw [deviceRow?_eq_some_iff] at inside
        rw [row?, inside] at found
        simpa using found.symm
      have bound := (List.getElem?_eq_some_iff.mp found).1
      rw [device, if_pos known, List.getElem?_set_self bound]
      simp [Event.stateOf?, kind]
    · rw [List.getElem?_set_ne here]
      split
      · rename_i first
        have differs : event.device ≠ row.id := by
          intro same
          rw [same, first] at known
          exact here (Option.some.inj known).symm
        simp only [Event.stateOf?, kind, if_neg differs, Option.getD_none]
        exact found
      · exact found

theorem length_replay {board : Board} (indexed : board.Indexed) (events : List Event) :
    (board.replay events).rows.length = board.rows.length := by
  induction events generalizing board with
  | nil => rfl
  | cons event events ih =>
      exact (ih (indexed_follow indexed event)).trans (length_follow indexed event)

theorem row?_replay_heading {board : Board} (indexed : board.Indexed) (events : List Event)
    {place : Nat} {typeName : String} (found : board.row? place = some (.heading typeName)) :
    (board.replay events).row? place = some (.heading typeName) := by
  induction events generalizing board with
  | nil => exact found
  | cons event events ih =>
      exact ih (indexed_follow indexed event) (row?_follow_heading indexed event found)

/-- The first row of an identifier shows the last state that was told for it; every other row
keeps its state. -/
theorem row?_replay_device {board : Board} (indexed : board.Indexed) (events : List Event)
    {place : Nat} {row : DeviceRow} (found : board.row? place = some (.device row)) :
    (board.replay events).row? place = some (.device
      (if board.place? row.id = some place then
        { row with state := (Event.lastState? events row.id).getD row.state } else row)) := by
  induction events generalizing board row with
  | nil =>
      rw [replay, List.foldl_nil, found]
      split <;> rfl
  | cons event events ih =>
      have step := row?_follow_device indexed event found
      by_cases first : board.place? row.id = some place
      · rw [if_pos first] at step ⊢
        have later := ih (indexed_follow indexed event) step
        rw [place?_follow indexed, if_pos first] at later
        rw [Event.lastState?_cons]
        simpa [replay] using later
      · rw [if_neg first] at step ⊢
        have later := ih (indexed_follow indexed event) step
        rw [place?_follow indexed, if_neg first] at later
        simpa [replay] using later

end Board

namespace Switchboard

/-- Applying a completion writes on the board what its event tells. -/
theorem board_apply (desk : Switchboard) (completion : Completion) :
    (desk.apply completion).desk.board =
      desk.board.replay (desk.apply completion).event.toList := by
  cases underWay : desk.isUnderWay completion.serial with
  | false => rw [apply_of_not_isUnderWay underWay]; rfl
  | true =>
      obtain ⟨update, place, board, -, patched, applied⟩ | ⟨fault, applied⟩ :=
        apply_cases underWay
      · rw [applied]
        simp [Board.replay, Board.follow, patched]
      · rw [applied]
        rfl

theorem board_apply_of_unpatched {desk : Switchboard} {completion : Completion}
    (unpatched : ∀ place update,
      (desk.apply completion).answer ≠ .ok (.patched place update)) :
    (desk.apply completion).desk.board = desk.board := by
  rw [board_apply, event_apply]
  cases answer : (desk.apply completion).answer with
  | error fault => rfl
  | ok verdict =>
      cases verdict with
      | patched place update => exact absurd answer (unpatched place update)
      | discarded => rfl

end Switchboard

namespace Run

/-- A turn writes on the board what its events tell. -/
theorem board_turn {run later : Run} {more : List Note} (turn : run.Turn later more) :
    later.desk.board = run.desk.board.replay (more.filterMap Note.event?) := by
  cases turn with
  | sent respond device command =>
      simp only [filterMap_sendingNotes, Note.event?, List.filterMap_eq_map', Option.toList_none,
        List.append_nil]
      exact (Board.replay_superseded _ _).symm
  | applied completion =>
      have written := run.desk.board_apply completion
      rw [Switchboard.event_apply] at written
      exact written
  | calledOff =>
      simp [cancelAll, Switchboard.cancelAll, List.filterMap_map, Function.comp_def, Note.event?,
        Board.replay]
  | waited received stale quiet moved isStale =>
      simp [quiet.desk, List.filterMap_map, Function.comp_def, Note.event?, Board.replay]

/-- Moves that do not fill the board change it as the events tell that they publish. -/
theorem board_play (run : Run) {moves : List Move} (keep : ∀ move ∈ moves, move.fills = false) :
    (run.play moves).events = run.events ++ (run.told moves).filterMap Note.event? ∧
      (run.play moves).desk.board =
        run.desk.board.replay ((run.told moves).filterMap Note.event?) := by
  induction moves generalizing run with
  | nil => simp [play, told, Board.replay]
  | cons move moves ih =>
      obtain ⟨events, board⟩ := ih (run.make move) fun other member => keep other (by simp [member])
      obtain ⟨fills, -⟩ | ⟨-, turn⟩ := run.turn_make move
      · rw [keep move (by simp)] at fills
        exact Bool.noConfusion fills
      · simp only [play, told, List.filterMap_append]
        rw [events, board, events_turn turn, board_turn turn, Board.replay_append,
          List.append_assoc]
        exact ⟨rfl, rfl⟩

/-- The board of a run that was just started or just filled is indexed. -/
theorem indexed_of_fills {run : Run} {operation : Operation} (fills : operation.fills = true) :
    (run.perform operation).desk.board.Indexed := by
  cases operation with
  | once move =>
      cases move with
      | render devices => exact Board.indexed_ofDevices devices
      | load source =>
          simp only [perform, make, load]
          cases Listing.ofSource source with
          | error fault => exact Board.indexed_empty
          | ok devices => exact Board.indexed_ofDevices devices
      | _ => simp [Operation.fills, Move.fills] at fills
  | settle ticket => simp [Operation.fills] at fills
  | drain => simp [Operation.fills] at fills

/-- Since the board was last filled, or since the start, the operations of a run have changed
nothing on it but states: the first row of an identifier shows the last state that was told
for it, if any, and every other row is as it was.  Only a completion that patches a row
changes the board. -/
theorem board_shows_last_states (policy : OverlapPolicy) (limit : Nat)
    (before more : List Operation) (filled : Run)
    (justFilled : filled = start policy limit ∨ ∃ operation, operation.fills = true ∧
      filled = ((start policy limit).after before).perform operation)
    (keep : ∀ operation ∈ more, operation.fills = false) :
    let run := filled.after more
    ∃ events, run.events = filled.events ++ events ∧
      run.desk.board.rows.length = filled.desk.board.rows.length ∧
      (∀ place typeName, filled.desk.board.row? place = some (.heading typeName) →
        run.desk.board.row? place = some (.heading typeName)) ∧
      (∀ place row, filled.desk.board.row? place = some (.device row) →
        (filled.desk.board.FirstAt place row.id → run.desk.board.row? place =
          some (.device { row with state := (Event.lastState? events row.id).getD row.state })) ∧
        (¬ filled.desk.board.FirstAt place row.id →
          run.desk.board.row? place = some (.device row))) ∧
      ∀ completion, (∀ place update, (run.apply completion).2 ≠ .ok (.patched place update)) →
        (run.apply completion).1.desk.board = run.desk.board := by
  intro run
  have indexed : filled.desk.board.Indexed := by
    obtain rfl | ⟨operation, fills, rfl⟩ := justFilled
    · exact Board.indexed_empty
    · exact indexed_of_fills fills
  obtain ⟨moves, played, -, keeps⟩ := filled.exists_moves more
  obtain ⟨events, board⟩ := filled.board_play (keeps keep)
  rw [← played] at events board
  refine ⟨_, events, ?_, ?_, ?_, ?_⟩
  · rw [board]
    exact Board.length_replay indexed _
  · intro place typeName found
    rw [board]
    exact Board.row?_replay_heading indexed _ found
  · intro place row found
    have shown := Board.row?_replay_device indexed
      ((filled.told moves).filterMap Note.event?) found
    have known : filled.desk.board.place? row.id = some place ↔
        filled.desk.board.FirstAt place row.id := by
      rw [indexed.place?_eq_some_iff]
      exact and_iff_right ⟨row, Board.deviceRow?_eq_some_iff.mpr found, rfl⟩
    rw [board]
    constructor
    · intro first
      rwa [if_pos (known.mpr first)] at shown
    · intro later
      rwa [if_neg (mt known.mp later)] at shown
  · intro completion unpatched
    exact Switchboard.board_apply_of_unpatched unpatched

theorem board_shows_last_lamp_state :
    let answers : Ticket → Response := fun _ => ⟨some 3, .ok ⟨"lamp", "dim"⟩⟩
    let lamp (state : String) : Device := ⟨"lamp", "Lamp", "Light", state, ["on"]⟩
    let fill : Operation := .once (.render [lamp "off", lamp "old"])
    let more : List Operation := [.once (.dispatch answers "fan" "spin"), .once .next,
      .once (.apply ⟨1, "fan", "spin", .ok ⟨"lamp", "dim"⟩⟩),
      .once (.apply ⟨1, "fan", "spin", .ok ⟨"lamp", "bright"⟩⟩)]
    let filled := ((start .lastResponseWins 10).after []).perform fill
    let run := filled.after more
    fill.fills = true ∧ (∀ operation ∈ more, operation.fills = false) ∧
    run.desk.board.row? 0 = some (.heading "Light") ∧
    run.desk.board.row? 1 = some (.device (.ofDevice (lamp "dim"))) ∧
    run.desk.board.row? 2 = some (.device (.ofDevice (lamp "old"))) := by
  intro answers lamp fill more filled run
  have keep : ∀ operation ∈ more, operation.fills = false := by decide
  obtain ⟨events, published, -, headings, rows, -⟩ :=
    board_shows_last_states .lastResponseWins 10 [] more filled (Or.inr ⟨fill, rfl, rfl⟩) keep
  have told : [⟨"lamp", "spin", .applied "dim"⟩] = events := published
  have first : filled.desk.board.FirstAt 1 "lamp" := by
    intro earlier below row found
    obtain rfl : earlier = 0 := by omega
    have heading : filled.desk.board.deviceRow? 0 = none := rfl
    simp [heading] at found
  have second : ¬ filled.desk.board.FirstAt 2 "lamp" :=
    fun none => none 1 (by decide) (.ofDevice (lamp "off")) rfl rfl
  have shown := (rows 1 (.ofDevice (lamp "off")) rfl).1 first
  rw [← told] at shown
  exact ⟨rfl, keep, headings 0 "Light" rfl, shown, (rows 2 (.ofDevice (lamp "old")) rfl).2 second⟩

end Run

end DevicePanel
