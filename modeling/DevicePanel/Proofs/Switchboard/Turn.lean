import DevicePanel.Proofs.Switchboard.Coming
import DevicePanel.Proofs.Switchboard.Course

/-!
# What one move can do

A move fills the board, sends a command, applies a completion, calls everything off, or leaves
the switchboard alone while completions come and are received.  `turn_make` says so once; an
invariant of all runs is what the first state has and every such move keeps.
-/

namespace DevicePanel

namespace Run

/-- What a move does that leaves the board's rows in place, and what it tells. -/
inductive Turn (run : Run) : Run → List Note → Prop where
  | sent (respond : Ticket → Response) (device command : String) :
      Turn run (run.dispatch respond device command).1 (run.sendingNotes respond device command)
  | applied (completion : Completion) :
      Turn run (run.apply completion).1 [.applied completion (run.apply completion).2]
  | calledOff : Turn run run.cancelAll (run.desk.underWay.map Note.calledOff)
  /-- Completions are received, and others come for tickets that are no longer under way. -/
  | waited {later : Run} (received stale : List Completion) (quiet : run.Quiet later)
      (moved : (received ++ later.coming).Perm (stale ++ run.coming))
      (isStale : ∀ completion ∈ stale, run.Gone completion.serial) :
      Turn run later (received.map Note.handedOut)

theorem turn_self (run : Run) : run.Turn run [] :=
  .waited [] [] ⟨rfl, rfl, rfl⟩ (List.Perm.refl _) (by simp)

theorem turn_next (run : Run) : run.Turn run.next.2 (run.notes .next) := by
  simp only [notes]
  obtain ⟨-, waited⟩ | ⟨-, -, -, waited⟩ | ⟨-, -, completion, later, coming, waited, quiet, -⟩ :=
    run.next_cases
  · rw [waited]
    exact run.turn_self
  · rw [waited]
    exact run.turn_self
  · rw [waited]
    exact .waited [completion] [] quiet (by rw [coming]; exact List.Perm.refl _) (by simp)

theorem turn_receive (run : Run) : run.Turn run.receive.1 (run.notes .receive) := by
  simp only [notes, receive]
  split
  · cases queued : run.queue with
    | nil => exact run.turn_self
    | cons first others =>
        refine Turn.waited [first] [] ⟨rfl, rfl, rfl⟩ ?_ (by simp)
        simp [coming, queued]
  · exact run.turn_self

theorem turn_finish (run : Run) (serial : Nat) : run.Turn (run.finish serial) [] := by
  refine Turn.waited [] [] ⟨rfl, rfl, rfl⟩ ?_ (by simp)
  have split := (List.filter_append_perm
    (fun task : Task => task.completion.serial == serial) run.tasks).map Task.completion
  rw [List.map_append] at split
  simpa [coming, finish, bne] using split.append_left run.queue

theorem turn_straggle (run : Run) (completion : Completion) :
    run.Turn (run.straggle completion) [] := by
  unfold straggle
  split
  · rename_i stale
    refine Turn.waited [] [completion] ⟨rfl, rfl, rfl⟩ ?_ (by simpa using stale)
    simp only [coming, List.nil_append, List.append_assoc, List.cons_append]
    exact List.perm_middle
  · exact run.turn_self

/-- Every move fills the board or is a turn. -/
theorem turn_make (run : Run) (move : Move) :
    (move.fills = true ∧ ∃ board,
      run.make move = { run with desk := { run.desk with board } } ∧ run.notes move = []) ∨
    (move.fills = false ∧ run.Turn (run.make move) (run.notes move)) := by
  cases move with
  | render devices => exact Or.inl ⟨rfl, .ofDevices devices, rfl, rfl⟩
  | load source =>
      left
      refine ⟨rfl, ((run.load source).1).desk.board, ?_, rfl⟩
      simp only [make, load]
      cases Listing.ofSource source <;> rfl
  | dispatch respond device command => exact Or.inr ⟨rfl, .sent respond device command⟩
  | activate respond row index =>
      right
      refine ⟨rfl, ?_⟩
      simp only [make, notes, activate]
      cases run.desk.button row index with
      | error fault => exact run.turn_self
      | ok button => exact .sent respond button.device button.command
  | apply completion => exact Or.inr ⟨rfl, .applied completion⟩
  | next => exact Or.inr ⟨rfl, run.turn_next⟩
  | receive => exact Or.inr ⟨rfl, run.turn_receive⟩
  | take =>
      exact Or.inr ⟨rfl, Turn.waited [] [] ⟨rfl, rfl, rfl⟩ (List.Perm.refl _) (by simp)⟩
  | cancelAll => exact Or.inr ⟨rfl, .calledOff⟩
  | sleep milliseconds =>
      right
      refine ⟨rfl, Turn.waited [] [] ⟨rfl, rfl, rfl⟩ ?_ (by simp)⟩
      simp [make, sleep]
  | finish serial => exact Or.inr ⟨rfl, run.turn_finish serial⟩
  | straggle completion => exact Or.inr ⟨rfl, run.turn_straggle completion⟩

/-- What every move keeps holds after all moves. -/
theorem holds_play (holds : Run → List Note → Prop)
    (keeps : ∀ run notes move, holds run notes → holds (run.make move) (notes ++ run.notes move))
    {run : Run} {notes : List Note} (atFirst : holds run notes) (moves : List Move) :
    holds (run.play moves) (notes ++ run.told moves) := by
  induction moves generalizing run notes with
  | nil => simpa [play, told] using atFirst
  | cons move moves ih =>
      have later := ih (keeps run notes move atFirst)
      rwa [List.append_assoc] at later

/-- What holds at first and what every move keeps holds after all operations. -/
theorem holds_after (holds : Run → List Note → Prop)
    (keeps : ∀ run notes move, holds run notes → holds (run.make move) (notes ++ run.notes move))
    {run : Run} (atFirst : holds run []) (operations : List Operation) :
    holds (run.after operations) (run.journal operations) := by
  obtain ⟨moves, played, told, -⟩ := run.exists_moves operations
  rw [played, told]
  exact holds_play holds keeps atFirst moves

/-- A turn publishes the events of its notes. -/
theorem events_turn {run later : Run} {more : List Note} (turn : run.Turn later more) :
    later.events = run.events ++ more.filterMap Note.event? := by
  cases turn with
  | sent respond device command => simp [filterMap_sendingNotes, Note.event?]
  | applied completion =>
      simp only [apply, Switchboard.event_apply]
      rfl
  | calledOff => simp [cancelAll, List.filterMap_map, Function.comp_def, Note.event?]
  | waited received stale quiet moved isStale =>
      simp [quiet.events, List.filterMap_map, Function.comp_def, Note.event?]

/-! ## What has gone stays gone -/

/-- A ticket that is under way was so before, or it was just issued. -/
theorem mem_underWay_turn {run later : Run} {more : List Note} (turn : run.Turn later more)
    {ticket : Ticket} (member : ticket ∈ later.desk.underWay) :
    ticket ∈ run.desk.underWay ∨ ticket.serial = run.desk.issued + 1 := by
  cases turn with
  | sent respond device command =>
      rcases List.mem_append.mp member with kept | new
      · exact Or.inl (Switchboard.mem_kept_iff.mp kept).1
      · rw [List.mem_singleton.mp new]
        exact Or.inr rfl
  | applied completion => exact Or.inl (Switchboard.mem_underWay_of_apply member)
  | calledOff => simp [cancelAll, Switchboard.cancelAll] at member
  | waited received stale quiet moved isStale => exact Or.inl (quiet.desk ▸ member)

theorem issued_le_turn {run later : Run} {more : List Note} (turn : run.Turn later more) :
    run.desk.issued ≤ later.desk.issued := by
  cases turn with
  | sent respond device command => simp
  | applied completion => simp [apply]
  | calledOff => simp [cancelAll, Switchboard.cancelAll]
  | waited received stale quiet moved isStale => simp [quiet.desk]

/-- Only a serial number that is under way is closed. -/
theorem isUnderWay_of_closes_turn {run later : Run} {more : List Note}
    (turn : run.Turn later more) {note : Note} (member : note ∈ more)
    (closes : note.closes = true) : run.desk.isUnderWay note.serial = true := by
  cases turn with
  | sent respond device command =>
      rcases List.mem_append.mp member with replaced | new
      · obtain ⟨ticket, inside, rfl⟩ := List.mem_map.mp replaced
        exact Switchboard.isUnderWay_of_mem (Switchboard.mem_replaced_iff.mp inside).2.1
      · rw [List.mem_singleton.mp new] at closes
        simp [Note.closes] at closes
  | applied completion =>
      rw [List.mem_singleton.mp member] at closes ⊢
      rw [Note.closes_applied_iff] at closes
      rw [← Bool.not_eq_false]
      exact fun gone => closes (Switchboard.answer_apply_eq_discarded_iff.mpr gone)
  | calledOff =>
      obtain ⟨ticket, inside, rfl⟩ := List.mem_map.mp member
      exact Switchboard.isUnderWay_of_mem inside
  | waited received stale quiet moved isStale =>
      obtain ⟨completion, -, rfl⟩ := List.mem_map.mp member
      simp [Note.closes] at closes

theorem gone_turn {run later : Run} {more : List Note} (turn : run.Turn later more)
    {serial : Nat} (gone : run.Gone serial) : later.Gone serial := by
  refine ⟨Nat.le_trans gone.1 (issued_le_turn turn), ?_⟩
  rw [Switchboard.isUnderWay_eq_false_iff]
  intro member
  obtain ⟨ticket, inside, same⟩ := List.mem_map.mp member
  rcases mem_underWay_turn turn inside with before | new
  · have underWay := Switchboard.isUnderWay_of_mem before
    rw [same, gone.2] at underWay
    exact Bool.noConfusion underWay
  · have := gone.1
    omega

/-- A serial number that has gone stays gone and is never closed again. -/
theorem gone_after {run : Run} {serial : Nat} (gone : run.Gone serial)
    (operations : List Operation) :
    (run.after operations).Gone serial ∧
      ∀ note ∈ run.journal operations, note.closes = true → note.serial ≠ serial := by
  refine holds_after (fun run notes => run.Gone serial ∧
    ∀ note ∈ notes, note.closes = true → note.serial ≠ serial) ?_ ⟨gone, by simp⟩ operations
  intro run notes move ⟨gone, unclosed⟩
  obtain ⟨-, board, made, told⟩ | ⟨-, turn⟩ := run.turn_make move
  · rw [made, told, List.append_nil]
    exact ⟨gone, unclosed⟩
  · refine ⟨gone_turn turn gone, ?_⟩
    intro note member closes same
    rcases List.mem_append.mp member with before | now
    · exact unclosed note before closes same
    · have underWay := isUnderWay_of_closes_turn turn now closes
      rw [same, gone.2] at underWay
      exact Bool.noConfusion underWay

/-- A completion without a ticket under way leaves the whole run as it is. -/
theorem apply_of_not_isUnderWay {run : Run} {completion : Completion}
    (gone : run.desk.isUnderWay completion.serial = false) :
    run.apply completion = (run, .ok .discarded) := by
  simp [apply, Switchboard.apply_of_not_isUnderWay gone]

end Run

end DevicePanel
