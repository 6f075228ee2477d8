import DevicePanel.Switchboard
import Mathlib.Data.List.Perm.Basic

/-!
# What the switchboard's operations do to the commands under way

Sending splits the tickets under way into those that the new command replaces and those that
stay; applying a completion takes its ticket off; nothing else is removed.  A completion whose
ticket is not under way is without any effect.
-/

namespace DevicePanel

/-- The event that is published with the answer to a completion. -/
def Event.ofAnswer? (completion : Completion) : Except CommandFault Verdict → Option Event
  | .ok (.patched _ update) => some ⟨update.id, completion.command, .applied update.state⟩
  | .ok .discarded => none
  | .error fault => some ⟨completion.device, completion.command, .failed fault⟩

theorem Event.ofAnswer?_of_ne_discarded {completion : Completion}
    {answer : Except CommandFault Verdict} (answered : answer ≠ .ok .discarded) :
    ∃ event, Event.ofAnswer? completion answer = some event ∧ event.kind ≠ .superseded := by
  rcases answer with fault | (_ | _)
  · exact ⟨_, rfl, by simp⟩
  · exact ⟨_, rfl, by simp⟩
  · exact absurd rfl answered

namespace Switchboard

theorem isUnderWay_iff {desk : Switchboard} {serial : Nat} :
    desk.isUnderWay serial = true ↔ serial ∈ desk.underWay.map Ticket.serial := by
  simp [isUnderWay]

theorem isUnderWay_of_mem {desk : Switchboard} {ticket : Ticket}
    (member : ticket ∈ desk.underWay) : desk.isUnderWay ticket.serial = true :=
  isUnderWay_iff.mpr (List.mem_map_of_mem member)

theorem isUnderWay_eq_false_iff {desk : Switchboard} {serial : Nat} :
    desk.isUnderWay serial = false ↔ serial ∉ desk.underWay.map Ticket.serial := by
  rw [← isUnderWay_iff, Bool.not_eq_true]

/-! ## Sending -/

/-- The ticket of the next command. -/
def nextTicket (desk : Switchboard) (device command : String) : Ticket :=
  ⟨desk.issued + 1, device, command⟩

/-- The tickets that a new command for the device leaves under way. -/
def kept (desk : Switchboard) (device : String) : List Ticket :=
  desk.underWay.filter fun ticket => !(desk.replaced device).contains ticket

theorem mem_replaced_iff {desk : Switchboard} {device : String} {ticket : Ticket} :
    ticket ∈ desk.replaced device ↔
      desk.policy = .supersede ∧ ticket ∈ desk.underWay ∧ ticket.device = device := by
  unfold replaced
  cases desk.policy <;> simp

theorem mem_kept_iff {desk : Switchboard} {device : String} {ticket : Ticket} :
    ticket ∈ desk.kept device ↔ ticket ∈ desk.underWay ∧ ticket ∉ desk.replaced device := by
  simp [kept]

theorem replaced_eq_filter (desk : Switchboard) (device : String) :
    desk.replaced device =
      desk.underWay.filter fun ticket => (desk.replaced device).contains ticket := by
  cases policy : desk.policy with
  | supersede =>
      have same : desk.replaced device =
          desk.underWay.filter fun ticket => ticket.device == device := by
        simp [replaced, policy]
      rw [same]
      apply List.filter_congr
      intro ticket member
      simp [member, beq_eq_decide]
  | lastResponseWins => simp [replaced, policy]

/-- Every ticket under way is either replaced or kept. -/
theorem replaced_append_kept_perm (desk : Switchboard) (device : String) :
    (desk.replaced device ++ desk.kept device).Perm desk.underWay := by
  have split := List.filter_append_perm
    (fun ticket => (desk.replaced device).contains ticket) desk.underWay
  rw [← replaced_eq_filter] at split
  exact split

@[simp]
theorem underWay_dispatch (desk : Switchboard) (device command : String) :
    (desk.dispatch device command).1.underWay =
      desk.kept device ++ [desk.nextTicket device command] :=
  rfl

@[simp]
theorem ticket_dispatch (desk : Switchboard) (device command : String) :
    (desk.dispatch device command).2.1 = desk.nextTicket device command :=
  rfl

@[simp]
theorem gone_dispatch (desk : Switchboard) (device command : String) :
    (desk.dispatch device command).2.2 = desk.replaced device :=
  rfl

@[simp]
theorem issued_dispatch (desk : Switchboard) (device command : String) :
    (desk.dispatch device command).1.issued = desk.issued + 1 :=
  rfl

/-! ## Applying -/

/-- A completion whose ticket is not under way changes nothing. -/
theorem apply_of_not_isUnderWay {desk : Switchboard} {completion : Completion}
    (gone : desk.isUnderWay completion.serial = false) :
    desk.apply completion = ⟨desk, .ok .discarded, none⟩ := by
  simp [apply, gone]

/-- A completion whose ticket is under way either patches a row or is a fault. -/
theorem apply_cases {desk : Switchboard} {completion : Completion}
    (underWay : desk.isUnderWay completion.serial = true) :
    (∃ update place board, completion.result = .ok update ∧
      desk.board.patch? update.id update.state = some (place, board) ∧
      desk.apply completion = ⟨{ desk.drop completion.serial with board },
        .ok (.patched place update),
        some ⟨update.id, completion.command, .applied update.state⟩⟩) ∨
    (∃ fault, desk.apply completion = ⟨desk.drop completion.serial, .error fault,
        some ⟨completion.device, completion.command, .failed fault⟩⟩) := by
  unfold apply
  simp only [underWay, if_true]
  cases result : completion.result with
  | error fault => exact Or.inr ⟨fault, rfl⟩
  | ok update =>
      have board : (desk.drop completion.serial).board = desk.board := rfl
      rw [board]
      cases patch : desk.board.patch? update.id update.state with
      | none => exact Or.inr ⟨.unknownDevice update.id, by simp [patch]⟩
      | some found =>
          obtain ⟨place, later⟩ := found
          exact Or.inl ⟨update, place, later, rfl, patch, by simp [patch]⟩

/-- A completion takes its ticket off the commands under way and changes nothing else but the
board. -/
theorem exists_board_apply (desk : Switchboard) (completion : Completion) :
    ∃ board, (desk.apply completion).desk = { desk.drop completion.serial with board } := by
  cases underWay : desk.isUnderWay completion.serial with
  | false =>
      have others : ∀ ticket ∈ desk.underWay,
          (ticket.serial != completion.serial) = true := by
        intro ticket member
        rw [bne_iff_ne]
        intro same
        rw [isUnderWay_eq_false_iff, ← same] at underWay
        exact underWay (List.mem_map_of_mem member)
      refine ⟨desk.board, ?_⟩
      rw [apply_of_not_isUnderWay underWay, drop, List.filter_eq_self.mpr others]
  | true =>
      obtain ⟨update, place, board, -, -, applied⟩ | ⟨fault, applied⟩ := apply_cases underWay
      · exact ⟨board, by rw [applied]⟩
      · exact ⟨desk.board, by rw [applied]; rfl⟩

theorem underWay_apply (desk : Switchboard) (completion : Completion) :
    (desk.apply completion).desk.underWay = (desk.drop completion.serial).underWay := by
  obtain ⟨board, applied⟩ := desk.exists_board_apply completion
  rw [applied]

theorem mem_underWay_of_apply {desk : Switchboard} {completion : Completion} {ticket : Ticket}
    (member : ticket ∈ (desk.apply completion).desk.underWay) : ticket ∈ desk.underWay := by
  rw [underWay_apply] at member
  exact (List.mem_filter.mp member).1

@[simp]
theorem issued_apply (desk : Switchboard) (completion : Completion) :
    (desk.apply completion).desk.issued = desk.issued := by
  obtain ⟨board, applied⟩ := desk.exists_board_apply completion
  rw [applied]
  rfl

@[simp]
theorem policy_apply (desk : Switchboard) (completion : Completion) :
    (desk.apply completion).desk.policy = desk.policy := by
  obtain ⟨board, applied⟩ := desk.exists_board_apply completion
  rw [applied]
  rfl

/-- A completion is discarded exactly when its ticket is not under way. -/
theorem answer_apply_eq_discarded_iff {desk : Switchboard} {completion : Completion} :
    (desk.apply completion).answer = .ok .discarded ↔
      desk.isUnderWay completion.serial = false := by
  cases underWay : desk.isUnderWay completion.serial with
  | false => simp [apply_of_not_isUnderWay underWay]
  | true =>
      obtain ⟨update, place, board, -, -, applied⟩ | ⟨fault, applied⟩ := apply_cases underWay
      · simp [applied]
      · simp [applied]

theorem event_apply (desk : Switchboard) (completion : Completion) :
    (desk.apply completion).event =
      Event.ofAnswer? completion (desk.apply completion).answer := by
  cases underWay : desk.isUnderWay completion.serial with
  | false => rw [apply_of_not_isUnderWay underWay]; rfl
  | true =>
      obtain ⟨update, place, board, -, -, applied⟩ | ⟨fault, applied⟩ := apply_cases underWay
      · rw [applied]; rfl
      · rw [applied]; rfl

end Switchboard

end DevicePanel
