import DevicePanel.Proofs.Switchboard.Desk
import DevicePanel.Switchboard.Run

/-!
# The outline of a board

Once a board is filled only states are written on it.  What is left without the states is the
outline of the board; it tells which buttons stand where.
-/

namespace DevicePanel

namespace Board

def Row.outline : Row → Row
  | .heading typeName => .heading typeName
  | .device row => .device { row with state := "" }

/-- The rows without their states. -/
def outline (board : Board) : List Row := board.rows.map Row.outline

theorem outline_eq_nil_iff {board : Board} : board.outline = [] ↔ board.rows = [] :=
  List.map_eq_nil_iff

/-- The buttons of a row are those of its outline. -/
theorem button?_eq_outline (board : Board) (row index : Nat) :
    board.button? row index =
      ((board.outline[row]?).bind Row.device?).bind fun deviceRow => deviceRow.buttons[index]? := by
  rw [button?, deviceRow?, row?, outline, List.getElem?_map]
  rcases board.rows[row]? with _ | (typeName | deviceRow) <;> rfl

theorem button?_of_outline {board other : Board} (same : board.outline = other.outline)
    (row index : Nat) : board.button? row index = other.button? row index := by
  rw [button?_eq_outline, button?_eq_outline, same]

theorem outline_patch? {board patched : Board} {id state : String} {place : Nat}
    (written : board.patch? id state = some (place, patched)) :
    patched.outline = board.outline := by
  unfold patch? at written
  split at written
  · cases written
  split at written
  · next row found =>
      cases written
      have same : board.outline[place]? =
          some (Row.outline (.device { row with state })) := by
        rw [outline, List.getElem?_map, found]
        rfl
      obtain ⟨inside, same⟩ := List.getElem?_eq_some_iff.mp same
      rw [outline, List.map_set, ← same]
      exact List.set_getElem_self inside
  · cases written

/-- What a board can become: as long as it is empty it may be filled, else only states are
written. -/
def Becomes (board later : Board) : Prop := board.rows = [] ∨ later.outline = board.outline

theorem Becomes.refl (board : Board) : board.Becomes board := Or.inr rfl

theorem Becomes.trans {first second third : Board} (earlier : first.Becomes second)
    (later : second.Becomes third) : first.Becomes third := by
  obtain empty | same := earlier
  · exact Or.inl empty
  · refine later.imp (fun empty => ?_) fun next => next.trans same
    rwa [← outline_eq_nil_iff, ← same, outline_eq_nil_iff]

/-- A button keeps its place. -/
theorem Becomes.button? {board later : Board} (becomes : board.Becomes later) {row index : Nat}
    {button : Button} (stands : board.button? row index = some button) :
    later.button? row index = some button := by
  obtain empty | same := becomes
  · simp [Board.button?, deviceRow?, row?, empty] at stands
  · rw [button?_of_outline same, stands]

end Board

namespace Switchboard

theorem outline_apply (desk : Switchboard) (completion : Completion) :
    (desk.apply completion).desk.board.outline = desk.board.outline := by
  cases underWay : desk.isUnderWay completion.serial with
  | false => rw [apply_of_not_isUnderWay underWay]
  | true =>
      obtain ⟨update, place, board, -, written, applied⟩ | ⟨fault, applied⟩ := apply_cases underWay
      · rw [applied]
        exact Board.outline_patch? written
      · rw [applied]
        rfl

/-- Nothing is written on an empty board. -/
theorem board_apply_of_empty {desk : Switchboard} (empty : desk.board = .empty)
    (completion : Completion) : (desk.apply completion).desk.board = .empty := by
  cases underWay : desk.isUnderWay completion.serial with
  | false => rw [apply_of_not_isUnderWay underWay, empty]
  | true =>
      obtain ⟨update, place, board, -, written, -⟩ | ⟨fault, applied⟩ := apply_cases underWay
      · rw [empty] at written
        cases written
      · rw [applied]
        exact empty

end Switchboard

namespace Run

/-- A button that stands on the board can be pressed, and its command is sent. -/
theorem activate_of_button? {run : Run} {row index : Nat} {button : Button}
    (stands : run.desk.board.button? row index = some button) (respond : Ticket → Response) :
    run.activate respond row index = ((run.dispatch respond button.device button.command).1,
      .ok ⟨run.desk.issued + 1, button.device, button.command⟩) := by
  rw [activate, Switchboard.button, stands]
  rfl

theorem activate_of_button?_eq_none {run : Run} {row index : Nat}
    (none : run.desk.board.button? row index = none) (respond : Ticket → Response) :
    run.activate respond row index = (run, .error (.noButton row index)) := by
  rw [activate, Switchboard.button, none]

end Run

end DevicePanel
