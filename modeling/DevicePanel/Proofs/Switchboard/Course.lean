import DevicePanel.Proofs.Switchboard.Desk
import DevicePanel.Switchboard.Run

/-!
# The course of a run

A run goes on by moves: what its owner does, the passing of time, and what the background does
of itself.  Beside the state stands what the moves tell: the tickets that were issued, the
completions that were handed out, what each applied completion was answered, and the tickets
that were replaced or called off.

Settling and draining are operations made of many moves; `exists_moves` says that a run of
operations is a run of moves that tells the same.
-/

namespace DevicePanel

/-- What a run tells of itself. -/
inductive Note where
  /-- A ticket was issued, for a command to which the hub responds like this. -/
  | issued (ticket : Ticket) (response : Response)
  /-- A newer command for the device replaced this one. -/
  | replaced (ticket : Ticket)
  | calledOff (ticket : Ticket)
  /-- A completion was given to the owner of the switchboard. -/
  | handedOut (completion : Completion)
  | applied (completion : Completion) (answer : Except CommandFault Verdict)

namespace Note

/-- The event that is published with a note. -/
def event? : Note → Option Event
  | .replaced ticket => some (Switchboard.supersededEvent ticket)
  | .applied completion answer => Event.ofAnswer? completion answer
  | _ => none

/-- The serial number that a note is about. -/
def serial : Note → Nat
  | .issued ticket _ | .replaced ticket | .calledOff ticket => ticket.serial
  | .handedOut completion | .applied completion _ => completion.serial

/-- A note tells that its serial number is no longer under way. -/
def closes : Note → Bool
  | .replaced _ | .calledOff _ => true
  | .applied _ (.ok .discarded) => false
  | .applied _ _ => true
  | _ => false

/-- The serial number that a note takes off the commands under way. -/
def closed? (note : Note) : Option Nat := if note.closes then some note.serial else none

def issued? : Note → Option Ticket
  | .issued ticket _ => some ticket
  | _ => none

/-- The ticket that is given up without an answer. -/
def givenUp? : Note → Option Ticket
  | .replaced ticket | .calledOff ticket => some ticket
  | _ => none

def calledOff? : Note → Option Ticket
  | .calledOff ticket => some ticket
  | _ => none

def handedOut? : Note → Option Completion
  | .handedOut completion => some completion
  | _ => none

theorem closes_applied_iff {completion : Completion} {answer : Except CommandFault Verdict} :
    (Note.applied completion answer).closes = true ↔ answer ≠ .ok .discarded := by
  rcases answer with fault | (_ | _) <;> simp [closes]

theorem closes_of_event? {note : Note} {event : Event} (told : note.event? = some event) :
    note.closes = true := by
  cases note with
  | applied completion answer =>
      rcases answer with fault | (_ | _)
      · rfl
      · rfl
      · simp [event?, Event.ofAnswer?] at told
  | replaced ticket => rfl
  | _ => simp [event?] at told

/-- The notes that tell that a serial number is no longer under way. -/
def closings (notes : List Note) (serial : Nat) : List Note :=
  notes.filter fun note => note.closes && note.serial == serial

/-- The events that are published with the notes about a serial number. -/
def eventsAbout (notes : List Note) (serial : Nat) : List Event :=
  (notes.filter fun note => note.serial == serial).filterMap event?

/-- Only a note that closes a serial number publishes an event. -/
theorem eventsAbout_eq (notes : List Note) (serial : Nat) :
    eventsAbout notes serial = (closings notes serial).filterMap event? := by
  rw [eventsAbout, closings, List.filterMap_filter, List.filterMap_filter]
  apply List.filterMap_congr
  intro note _
  cases told : note.event? with
  | none => simp
  | some event => simp [closes_of_event? told]

/-- Serial numbers are closed by events and by calling off. -/
theorem length_closed (notes : List Note) :
    (notes.filterMap closed?).length =
      (notes.filterMap event?).length + (notes.filterMap calledOff?).length := by
  induction notes with
  | nil => rfl
  | cons note notes ih =>
      cases note with
      | applied completion answer =>
          rcases answer with fault | (_ | _) <;>
            simp [List.filterMap_cons, closed?, closes, event?, Event.ofAnswer?, calledOff?, ih]
              <;> omega
      | _ =>
          simp [List.filterMap_cons, closed?, closes, event?, calledOff?, ih] <;> omega

end Note

/-- One thing that happens in a run. -/
inductive Move where
  | render (devices : List Device)
  | load (source : Except ListingFault (List Device))
  | dispatch (respond : Ticket → Response) (device command : String)
  | activate (respond : Ticket → Response) (row index : Nat)
  | apply (completion : Completion)
  | next
  | receive
  | take
  | cancelAll
  | sleep (milliseconds : Nat)
  /-- A running task ends before its turn. -/
  | finish (serial : Nat)
  /-- A task that was called off had just ended and leaves a completion all the same. -/
  | straggle (completion : Completion)

/-- The moves that fill the board anew. -/
def Move.fills : Move → Bool
  | .render _ | .load _ => true
  | _ => false

/-- The moves of which settling and draining are made. -/
def Move.receives : Move → Bool
  | .next | .apply _ => true
  | _ => false

theorem Move.fills_of_receives {move : Move} (receives : move.receives = true) :
    move.fills = false := by
  cases move <;> simp_all [Move.receives, Move.fills]

/-- What the owner of a switchboard can ask for, and what the background does. -/
inductive Operation where
  | once (move : Move)
  | settle (ticket : Ticket)
  | drain

/-- The operations that fill the board anew. -/
def Operation.fills : Operation → Bool
  | .once move => move.fills
  | _ => false

namespace Run

/-- Let the task of a ticket end at once, whatever its turn. -/
def finish (run : Run) (serial : Nat) : Run :=
  { run with
    tasks := run.tasks.filter fun task => task.completion.serial != serial
    queue := run.queue ++
      (run.tasks.filter fun task => task.completion.serial == serial).map Task.completion }

/-- The serial number was issued and is no longer under way. -/
def Gone (run : Run) (serial : Nat) : Prop :=
  serial ≤ run.desk.issued ∧ run.desk.isUnderWay serial = false

instance (run : Run) (serial : Nat) : Decidable (run.Gone serial) :=
  inferInstanceAs (Decidable (_ ∧ _))

/-- Let a completion come whose ticket is no longer under way. -/
def straggle (run : Run) (completion : Completion) : Run :=
  if run.Gone completion.serial then { run with queue := run.queue ++ [completion] } else run

/-! ## Moves -/

def make (run : Run) : Move → Run
  | .render devices => run.render devices
  | .load source => (run.load source).1
  | .dispatch respond device command => (run.dispatch respond device command).1
  | .activate respond row index => (run.activate respond row index).1
  | .apply completion => (run.apply completion).1
  | .next => run.next.2
  | .receive => run.receive.1
  | .take => run.take.1
  | .cancelAll => run.cancelAll
  | .sleep milliseconds => run.sleep milliseconds
  | .finish serial => run.finish serial
  | .straggle completion => run.straggle completion

/-- What sending a command tells. -/
def sendingNotes (run : Run) (respond : Ticket → Response) (device command : String) :
    List Note :=
  (run.desk.replaced device).map Note.replaced ++
    [.issued (run.dispatch respond device command).2
      (respond (run.dispatch respond device command).2)]

@[simp]
theorem desk_dispatch (run : Run) (respond : Ticket → Response) (device command : String) :
    (run.dispatch respond device command).1.desk = (run.desk.dispatch device command).1 :=
  rfl

@[simp]
theorem events_dispatch (run : Run) (respond : Ticket → Response) (device command : String) :
    (run.dispatch respond device command).1.events =
      run.events ++ (run.desk.replaced device).map Switchboard.supersededEvent :=
  rfl

@[simp]
theorem ticket_dispatch (run : Run) (respond : Ticket → Response) (device command : String) :
    (run.dispatch respond device command).2 = run.desk.nextTicket device command :=
  rfl

@[simp]
theorem desk_apply (run : Run) (completion : Completion) :
    (run.apply completion).1.desk = (run.desk.apply completion).desk :=
  rfl

theorem filterMap_sendingNotes {β : Type} (read : Note → Option β) (run : Run)
    (respond : Ticket → Response) (device command : String) :
    (run.sendingNotes respond device command).filterMap read =
      (run.desk.replaced device).filterMap (fun ticket => read (.replaced ticket)) ++
        (read (.issued (run.desk.nextTicket device command)
          (respond (run.desk.nextTicket device command)))).toList := by
  rw [sendingNotes, List.filterMap_append, List.filterMap_map]
  rfl

/-- What a move tells. -/
def notes (run : Run) : Move → List Note
  | .dispatch respond device command => run.sendingNotes respond device command
  | .activate respond row index =>
      match run.desk.button row index with
      | .ok button => run.sendingNotes respond button.device button.command
      | .error _ => []
  | .apply completion => [.applied completion (run.apply completion).2]
  | .next =>
      match run.next.1 with
      | .completion completion => [.handedOut completion]
      | _ => []
  | .receive => run.receive.2.toList.map Note.handedOut
  | .cancelAll => run.desk.underWay.map Note.calledOff
  | _ => []

/-- The run after some moves. -/
def play : Run → List Move → Run
  | run, [] => run
  | run, move :: moves => (run.make move).play moves

/-- What some moves tell. -/
def told : Run → List Move → List Note
  | _, [] => []
  | run, move :: moves => run.notes move ++ (run.make move).told moves

theorem play_append (run : Run) (first second : List Move) :
    run.play (first ++ second) = (run.play first).play second := by
  induction first generalizing run with
  | nil => rfl
  | cons move moves ih => exact ih (run.make move)

theorem told_append (run : Run) (first second : List Move) :
    run.told (first ++ second) = run.told first ++ (run.play first).told second := by
  induction first generalizing run with
  | nil => rfl
  | cons move moves ih =>
      simp only [List.cons_append, told, play, ih, List.append_assoc]

/-! ## Operations -/

/-- The moves of settling a ticket: completions are received and applied up to its own. -/
def settlingMoves (run : Run) (ticket : Ticket) : List Move :=
  if run.desk.isUnderWay ticket.serial then
    match _received : run.next with
    | (.completion completion, later) =>
        .next :: .apply completion ::
          if completion.serial = ticket.serial then []
          else settlingMoves (later.apply completion).1 ticket
    | _ => [.next]
  else []
termination_by run.backlog
decreasing_by
  rw [backlog_apply]
  have := backlog_next _received
  omega

/-- The moves of draining: completions are received and applied as long as they come. -/
def drainingMoves (run : Run) : List Move :=
  match _received : run.next with
  | (.completion completion, later) =>
      .next :: .apply completion :: drainingMoves (later.apply completion).1
  | _ => [.next]
termination_by run.backlog
decreasing_by
  rw [backlog_apply]
  have := backlog_next _received
  omega

def movesOf (run : Run) : Operation → List Move
  | .once move => [move]
  | .settle ticket => run.settlingMoves ticket
  | .drain => run.drainingMoves

def perform (run : Run) : Operation → Run
  | .once move => run.make move
  | .settle ticket => (run.settle ticket).1
  | .drain => run.drain.1

/-- The run after some operations. -/
def after : Run → List Operation → Run
  | run, [] => run
  | run, operation :: operations => (run.perform operation).after operations

/-- What some operations tell. -/
def journal : Run → List Operation → List Note
  | _, [] => []
  | run, operation :: operations =>
      run.told (run.movesOf operation) ++ (run.perform operation).journal operations

theorem settlingMoves_of_completion {run later : Run} {ticket : Ticket}
    {completion : Completion} (underWay : run.desk.isUnderWay ticket.serial = true)
    (received : run.next = (.completion completion, later)) :
    run.settlingMoves ticket = .next :: .apply completion ::
      if completion.serial = ticket.serial then []
      else (later.apply completion).1.settlingMoves ticket := by
  rw [settlingMoves, if_pos underWay]
  split
  · rename_i again
    simp only [received, Prod.mk.injEq, Next.completion.injEq] at again
    obtain ⟨rfl, rfl⟩ := again
    rfl
  · rename_i none
    exact absurd received (none completion later)

theorem settlingMoves_of_no_completion {run : Run} {ticket : Ticket}
    (underWay : run.desk.isUnderWay ticket.serial = true)
    (none : ∀ completion later, run.next ≠ (.completion completion, later)) :
    run.settlingMoves ticket = [.next] := by
  rw [settlingMoves, if_pos underWay]
  split
  · rename_i completion later received
    exact absurd received (none completion later)
  · rfl

theorem drainingMoves_of_completion {run later : Run} {completion : Completion}
    (received : run.next = (.completion completion, later)) :
    run.drainingMoves =
      .next :: .apply completion :: (later.apply completion).1.drainingMoves := by
  rw [drainingMoves]
  split
  · rename_i again
    simp only [received, Prod.mk.injEq, Next.completion.injEq] at again
    obtain ⟨rfl, rfl⟩ := again
    rfl
  · rename_i none
    exact absurd received (none completion later)

theorem drainingMoves_of_no_completion {run : Run}
    (none : ∀ completion later, run.next ≠ (.completion completion, later)) :
    run.drainingMoves = [.next] := by
  rw [drainingMoves]
  split
  · rename_i completion later received
    exact absurd received (none completion later)
  · rfl

theorem play_settlingMoves (run : Run) (ticket : Ticket) :
    run.play (run.settlingMoves ticket) = (run.settle ticket).1 := by
  fun_induction run.settle ticket with
  | case1 run underWay later received =>
      rw [settlingMoves_of_no_completion underWay (by simp [received])]
      simp [play, make, received]
  | case2 run underWay later received =>
      rw [settlingMoves_of_no_completion underWay (by simp [received])]
      simp [play, make, received]
  | case3 run underWay completion later received applied answer applies own =>
      rw [settlingMoves_of_completion underWay received, if_pos own]
      simp [play, make, received, applies]
  | case4 run underWay completion later received applied answer applies other ih =>
      rw [settlingMoves_of_completion underWay received, if_neg other]
      simpa [play, make, received] using ih
  | case5 run gone => simp [settlingMoves, gone, play]

theorem play_drainingMoves (run : Run) : run.play run.drainingMoves = run.drain.1 := by
  fun_induction Run.drain run with
  | case1 run later received =>
      rw [drainingMoves_of_no_completion (by simp [received])]
      simp [play, make, received]
  | case2 run later received =>
      rw [drainingMoves_of_no_completion (by simp [received])]
      simp [play, make, received]
  | case3 run completion later received answer final others blocks drained ih =>
      rw [drainingMoves_of_completion received]
      simpa [play, make, received, drained] using ih

/-- Performing an operation is making its moves. -/
theorem play_movesOf (run : Run) (operation : Operation) :
    run.play (run.movesOf operation) = run.perform operation := by
  cases operation with
  | once move => rfl
  | settle ticket => exact run.play_settlingMoves ticket
  | drain => exact run.play_drainingMoves

/-- Settling receives and applies completions. -/
theorem receives_settlingMoves (run : Run) (ticket : Ticket) :
    ∀ move ∈ run.settlingMoves ticket, move.receives = true := by
  fun_induction run.settlingMoves ticket with
  | case1 run underWay completion later received ih =>
      intro move member
      rcases List.mem_cons.mp member with rfl | member
      · rfl
      rcases List.mem_cons.mp member with rfl | member
      · rfl
      split at member
      · simp at member
      · exact ih move member
  | case2 run underWay none => simp [Move.receives]
  | case3 run gone => simp

/-- Draining receives and applies completions. -/
theorem receives_drainingMoves (run : Run) :
    ∀ move ∈ run.drainingMoves, move.receives = true := by
  fun_induction Run.drainingMoves run with
  | case1 run completion later received ih =>
      intro move member
      rcases List.mem_cons.mp member with rfl | member
      · rfl
      rcases List.mem_cons.mp member with rfl | member
      · rfl
      exact ih move member
  | case2 run none => simp [Move.receives]

theorem fills_movesOf {run : Run} {operation : Operation} (keeps : operation.fills = false) :
    ∀ move ∈ run.movesOf operation, move.fills = false := by
  intro move member
  cases operation with
  | once only =>
      rw [List.mem_singleton.mp member]
      exact keeps
  | settle ticket => exact Move.fills_of_receives (run.receives_settlingMoves ticket move member)
  | drain => exact Move.fills_of_receives (run.receives_drainingMoves move member)

/-- Some operations are the moves that they are made of. -/
theorem exists_moves (run : Run) (operations : List Operation) :
    ∃ moves, run.after operations = run.play moves ∧ run.journal operations = run.told moves ∧
      ((∀ operation ∈ operations, operation.fills = false) →
        ∀ move ∈ moves, move.fills = false) := by
  induction operations generalizing run with
  | nil => exact ⟨[], rfl, rfl, by simp⟩
  | cons operation operations ih =>
      obtain ⟨moves, played, told, keeps⟩ := ih (run.perform operation)
      refine ⟨run.movesOf operation ++ moves, ?_, ?_, ?_⟩
      · rw [after, played, play_append, play_movesOf]
      · rw [journal, told, told_append, play_movesOf]
      · intro allKeep move member
        rcases List.mem_append.mp member with first | later
        · exact fills_movesOf (allKeep operation (by simp)) move first
        · exact keeps (fun other inside => allKeep other (by simp [inside])) move later

end Run

end DevicePanel
