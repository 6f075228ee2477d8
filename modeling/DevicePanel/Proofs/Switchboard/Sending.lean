import DevicePanel.Proofs.Switchboard.Overtaking
import DevicePanel.Proofs.Switchboard.Settling

/-!
# Sending commands while the background goes on

Some commands are sent, each to its device, and between them time passes and tasks end, in any
order.  Such operations issue one ticket for each command, with serial numbers that go up; they
answer to no completion, so the board stays as it is.
-/

namespace DevicePanel

/-- The moves with which only the background goes on. -/
def Move.waits : Move → Bool
  | .sleep _ | .finish _ | .straggle _ => true
  | _ => false

/-- The operations send these commands in their order, to a hub that responds like this, and let
the background go on in between. -/
inductive Sends (hub : Ticket → Response) : List Button → List Operation → Prop where
  | none : Sends hub [] []
  | send {buttons : List Button} {operations : List Operation} (button : Button) :
      Sends hub buttons operations →
      Sends hub (button :: buttons)
        (.once (.dispatch hub button.device button.command) :: operations)
  | wait {buttons : List Button} {operations : List Operation} {move : Move} :
      move.waits = true → Sends hub buttons operations →
      Sends hub buttons (.once move :: operations)

/-- The tickets of some commands, after so many were issued. -/
def ticketsAfter : Nat → List Button → List Ticket
  | _, [] => []
  | issued, button :: buttons =>
      ⟨issued + 1, button.device, button.command⟩ :: ticketsAfter (issued + 1) buttons

namespace Run

/-- What the background does of itself tells nothing and leaves the switchboard alone. -/
theorem make_of_waits (run : Run) {move : Move} (waits : move.waits = true) :
    run.notes move = [] ∧ (run.make move).desk = run.desk ∧
      (run.make move).taken = run.taken := by
  cases move with
  | sleep milliseconds => exact ⟨rfl, rfl, rfl⟩
  | finish serial => exact ⟨rfl, rfl, rfl⟩
  | straggle completion =>
      rw [make, straggle]
      split
      · exact ⟨rfl, rfl, rfl⟩
      · exact ⟨rfl, rfl, rfl⟩
  | _ => simp [Move.waits] at waits

theorem journal_once (run : Run) (move : Move) (operations : List Operation) :
    run.journal (.once move :: operations) =
      run.notes move ++ (run.make move).journal operations := by
  simp only [journal, movesOf, told, List.append_nil, perform]

/-- A run that has sent some commands and nothing else. -/
structure Sent (hub : Ticket → Response) (run later : Run) (tickets : List Ticket)
    (notes : List Note) : Prop where
  issued : notes.filterMap Note.issued? = tickets
  only : ∀ note ∈ notes,
    (∃ ticket, note = .issued ticket (hub ticket)) ∨ ∃ ticket, note = .replaced ticket
  board : later.desk.board = run.desk.board
  taken : later.taken = run.taken

theorem sent_of_sends {hub : Ticket → Response} {buttons : List Button}
    {operations : List Operation} (sends : Sends hub buttons operations) (run : Run) :
    Sent hub run (run.after operations) (ticketsAfter run.desk.issued buttons)
      (run.journal operations) := by
  induction sends generalizing run with
  | none => exact ⟨rfl, by simp [journal], rfl, rfl⟩
  | send button sends ih =>
      obtain ⟨issued, only, board, taken⟩ :=
        ih (run.dispatch hub button.device button.command).1
      constructor
      · rw [journal_once, List.filterMap_append]
        simp only [notes, filterMap_sendingNotes, make, issued]
        simp [Note.issued?, ticketsAfter, Switchboard.nextTicket]
      · intro note member
        rw [journal_once] at member
        rcases List.mem_append.mp member with now | later
        · rcases List.mem_append.mp now with replaced | new
          · obtain ⟨ticket, -, rfl⟩ := List.mem_map.mp replaced
            exact Or.inr ⟨ticket, rfl⟩
          · exact Or.inl ⟨_, List.mem_singleton.mp new⟩
        · exact only note later
      · exact board
      · exact taken
  | @wait _ _ move waits sends ih =>
      obtain ⟨quiet, desk, same⟩ := run.make_of_waits waits
      obtain ⟨issued, only, board, taken⟩ := ih (run.make move)
      rw [desk] at issued board
      constructor
      · rw [journal_once, quiet]
        exact issued
      · intro note member
        rw [journal_once, quiet] at member
        exact only note member
      · exact board
      · exact taken.trans same

/-- A run that has filled the board and sent some commands, with what it told. -/
structure Commanded (hub : Ticket → Response) (buttons : List Button) (run : Run)
    (notes : List Note) : Prop where
  ledger : run.Ledger notes
  overtaking : run.Overtaking notes
  placed : run.Placed notes
  issued : notes.filterMap Note.issued? = ticketsAfter 0 buttons
  only : ∀ note ∈ notes,
    (∃ ticket, note = .issued ticket (hub ticket)) ∨ ∃ ticket, note = .replaced ticket
  untaken : run.taken = false

theorem commanded_of_sends {hub : Ticket → Response} {buttons : List Button}
    {operations : List Operation} (sends : Sends hub buttons operations) (policy : OverlapPolicy)
    (limit : Nat) (devices : List Device) :
    Commanded hub buttons (((start policy limit).render devices).after operations)
      (((start policy limit).render devices).journal operations) := by
  have ledger := ledger_after policy limit (.once (.render devices) :: operations)
  have overtaking := overtaking_after policy limit (.once (.render devices) :: operations)
  have placed := placed_after policy limit (.once (.render devices) :: operations)
  rw [journal_once] at ledger overtaking placed
  obtain ⟨issued, only, -, taken⟩ := sent_of_sends sends ((start policy limit).render devices)
  exact ⟨ledger, overtaking, placed, issued, only, taken⟩

namespace Commanded

variable {hub : Ticket → Response} {buttons : List Button} {run : Run} {notes : List Note}

/-- A ticket under way has one completion to come, as its hub responds. -/
theorem own (commanded : Commanded hub buttons run notes) {ticket : Ticket}
    (underWay : ticket ∈ run.desk.underWay) :
    (run.coming.map Completion.serial).count ticket.serial = 1 ∧
      ∀ completion ∈ run.coming, completion.serial = ticket.serial →
        completion = (hub ticket).outcome ticket run.limit := by
  constructor
  · have none : handedOut notes = [] := by
      rw [handedOut, List.filterMap_eq_nil_iff]
      intro note member
      obtain ⟨ticket, rfl⟩ | ⟨ticket, rfl⟩ := commanded.only note member <;> rfl
    have once := commanded.placed.once ticket underWay
    rwa [none, List.append_nil] at once
  · intro completion coming same
    obtain ⟨response, issued, outcome⟩ :=
      commanded.placed.own ticket underWay completion coming same
    obtain ⟨other, told⟩ | ⟨other, told⟩ := commanded.only _ issued
    · obtain ⟨rfl, rfl⟩ := Note.issued.inj told
      exact outcome
    · simp at told

theorem expected (commanded : Commanded hub buttons run notes) :
    ∀ ticket ∈ run.desk.underWay, ticket.serial ∈ run.coming.map Completion.serial := by
  intro ticket underWay
  rw [← List.count_pos_iff, (commanded.own underWay).1]
  exact Nat.one_pos

/-- A command that was sent is under way unless a newer one overtook it. -/
theorem underWay_of_not_overtaken (commanded : Commanded hub buttons run notes) {ticket : Ticket}
    (issued : ticket ∈ ticketsAfter 0 buttons)
    (last : ¬ ticket.Overtaken (ticketsAfter 0 buttons)) : ticket ∈ run.desk.underWay := by
  rw [← commanded.issued] at issued last
  obtain ⟨fate, holds⟩ := commanded.ledger.exists_fate issued
  have told {note : Note} (closing : Note.closings notes ticket.serial = [note]) :
      note ∈ notes ∧ note.closes = true := by
    have inside : note ∈ Note.closings notes ticket.serial := by simp [closing]
    obtain ⟨member, both⟩ := List.mem_filter.mp inside
    rw [Bool.and_eq_true] at both
    exact ⟨member, both.1⟩
  have replaced {note : Note} (closing : Note.closings notes ticket.serial = [note]) :
      ∃ other, note = .replaced other := by
    obtain ⟨member, closes⟩ := told closing
    rcases commanded.only note member with ⟨other, rfl⟩ | replaced
    · simp [Note.closes] at closes
    · exact replaced
  cases fate with
  | underWay => exact holds.1
  | settled =>
      obtain ⟨-, ⟨completion, answer, -, -, closing⟩, -⟩ := holds
      obtain ⟨other, impossible⟩ := replaced closing
      simp at impossible
  | replaced =>
      obtain ⟨-, closing, -⟩ := holds
      exact absurd (commanded.overtaking.replaced ticket (told closing).1) last
  | calledOff =>
      obtain ⟨-, closing, -⟩ := holds
      obtain ⟨other, impossible⟩ := replaced closing
      simp at impossible

end Commanded

end Run

end DevicePanel
