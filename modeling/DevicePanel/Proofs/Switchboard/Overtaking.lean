import DevicePanel.Proofs.Switchboard.Newest

/-!
# Commands that a newer one overtakes

A ticket is only replaced by a newer one for its device.  When new commands replace earlier ones,
a ticket under way is the newest of its device, so a row is only ever patched with the answer to
the newest command of the device that was asked.  The hub may name another device in its answer,
and that device may have newer commands of its own.
-/

namespace DevicePanel

/-- One of the tickets is newer and for the same device. -/
def Ticket.Overtaken (tickets : List Ticket) (ticket : Ticket) : Prop :=
  ∃ newer ∈ tickets, newer.device = ticket.device ∧ ticket.serial < newer.serial

instance (tickets : List Ticket) (ticket : Ticket) : Decidable (ticket.Overtaken tickets) :=
  inferInstanceAs (Decidable (∃ newer ∈ tickets, _ ∧ _))

theorem Ticket.Overtaken.append {tickets : List Ticket} {ticket : Ticket}
    (overtaken : ticket.Overtaken tickets) (more : List Ticket) :
    ticket.Overtaken (tickets ++ more) := by
  obtain ⟨newer, member, device, later⟩ := overtaken
  exact ⟨newer, List.mem_append_left _ member, device, later⟩

namespace Run

/-- Replaced tickets are overtaken, and where new commands replace earlier ones no ticket under
way is. -/
structure Overtaking (run : Run) (notes : List Note) : Prop where
  replaced : ∀ ticket, Note.replaced ticket ∈ notes →
    ticket.Overtaken (notes.filterMap Note.issued?)
  newest : run.desk.policy = .supersede →
    ∀ ticket ∈ run.desk.underWay, ¬ ticket.Overtaken (notes.filterMap Note.issued?)

/-- Nothing but sending issues a ticket or replaces one. -/
theorem quiet_of_turn {run later : Run} {more : List Note} (turn : run.Turn later more) :
    (∃ respond device command, later = (run.dispatch respond device command).1 ∧
      more = run.sendingNotes respond device command) ∨
    (more.filterMap Note.issued? = [] ∧ (∀ ticket, Note.replaced ticket ∉ more) ∧
      later.desk.policy = run.desk.policy ∧
      ∀ ticket ∈ later.desk.underWay, ticket ∈ run.desk.underWay) := by
  have policy := policy_turn turn
  cases turn with
  | sent respond device command => exact Or.inl ⟨respond, device, command, rfl, rfl⟩
  | applied completion =>
      right
      refine ⟨rfl, by simp, policy, ?_⟩
      exact fun ticket member => Switchboard.mem_underWay_of_apply member
  | calledOff =>
      right
      refine ⟨?_, by simp, policy, by simp [cancelAll, Switchboard.cancelAll]⟩
      simp [List.filterMap_map, Function.comp_def, Note.issued?]
  | waited received stale quiet moved isStale =>
      right
      refine ⟨?_, by simp, policy, fun ticket member => quiet.desk ▸ member⟩
      simp [List.filterMap_map, Function.comp_def, Note.issued?]

namespace Overtaking

variable {run : Run} {notes : List Note}

theorem sent (overtaking : run.Overtaking notes) (ledger : run.Ledger notes)
    (respond : Ticket → Response) (device command : String) :
    (run.dispatch respond device command).1.Overtaking
      (notes ++ run.sendingNotes respond device command) := by
  have issued : (notes ++ run.sendingNotes respond device command).filterMap Note.issued? =
      notes.filterMap Note.issued? ++ [run.desk.nextTicket device command] := by
    simp [filterMap_sendingNotes, Note.issued?]
  constructor
  · intro ticket member
    rcases List.mem_append.mp member with before | now
    · rw [List.filterMap_append]
      exact (overtaking.replaced ticket before).append _
    · -- The new ticket overtakes what it replaces.
      obtain ⟨-, underWay, same⟩ : _ ∧ ticket ∈ run.desk.underWay ∧ ticket.device = device :=
        Switchboard.mem_replaced_iff.mp (by simpa [sendingNotes] using now)
      refine ⟨run.desk.nextTicket device command, by simp [issued], same.symm, ?_⟩
      exact Nat.lt_succ_of_le (ledger.serial_le underWay)
  · intro policy ticket member
    rintro ⟨newer, newerIssued, same, later⟩
    rw [issued] at newerIssued
    rcases List.mem_append.mp member with kept | new
    · obtain ⟨underWay, notReplaced⟩ := Switchboard.mem_kept_iff.mp kept
      rcases List.mem_append.mp newerIssued with before | now
      · exact overtaking.newest policy ticket underWay ⟨newer, before, same, later⟩
      · obtain rfl := List.mem_singleton.mp now
        exact notReplaced (Switchboard.mem_replaced_iff.mpr ⟨policy, underWay, same.symm⟩)
    · obtain rfl := List.mem_singleton.mp new
      rcases List.mem_append.mp newerIssued with before | now
      · have bound := List.mem_range'_1.mp (ledger.serial_mem_range' before)
        have : run.desk.issued + 1 < newer.serial := later
        omega
      · obtain rfl := List.mem_singleton.mp now
        exact Nat.lt_irrefl _ later

theorem turn (overtaking : run.Overtaking notes) (ledger : run.Ledger notes) {later : Run}
    {more : List Note} (turn : run.Turn later more) : later.Overtaking (notes ++ more) := by
  obtain ⟨respond, device, command, rfl, rfl⟩ | ⟨none, unreplaced, policy, underWay⟩ :=
    quiet_of_turn turn
  · exact overtaking.sent ledger respond device command
  · constructor
    · intro ticket member
      rcases List.mem_append.mp member with before | now
      · rw [List.filterMap_append]
        exact (overtaking.replaced ticket before).append _
      · exact absurd now (unreplaced ticket)
    · intro supersede ticket member
      rw [List.filterMap_append, none, List.append_nil]
      exact overtaking.newest (policy ▸ supersede) ticket (underWay ticket member)

theorem make (overtaking : run.Overtaking notes) (ledger : run.Ledger notes) (move : Move) :
    (run.make move).Overtaking (notes ++ run.notes move) := by
  obtain ⟨-, board, made, told⟩ | ⟨-, turn⟩ := run.turn_make move
  · rw [made, told, List.append_nil]
    exact ⟨overtaking.replaced, overtaking.newest⟩
  · exact overtaking.turn ledger turn

end Overtaking

theorem overtaking_after (policy : OverlapPolicy) (limit : Nat) (operations : List Operation) :
    ((start policy limit).after operations).Overtaking
      ((start policy limit).journal operations) := by
  have atFirst : (start policy limit).Overtaking [] := by
    constructor <;> simp [start, Switchboard.start]
  refine (holds_after (fun run notes => run.Ledger notes ∧ run.Overtaking notes) ?_
    ⟨ledger_start policy limit, atFirst⟩ operations).2
  intro run notes move both
  obtain ⟨ledger, overtaking⟩ := both
  exact ⟨ledger.make move, overtaking.make ledger move⟩

/-- When a new command replaces the earlier ones, a row is only patched with the answer to the
newest command of the device that was asked.  If the answer names that device, no newer command
was sent to the device of the row. -/
theorem patching_command_is_newest (limit : Nat) (operations : List Operation) :
    let run := (start .supersede limit).after operations
    let notes := (start .supersede limit).journal operations
    ∀ completion place update, (run.apply completion).2 = .ok (.patched place update) →
      ∃ ticket ∈ notes.filterMap Note.issued?, ticket.serial = completion.serial ∧
        (∀ other ∈ notes.filterMap Note.issued?,
          other.device = ticket.device → other.serial ≤ completion.serial) ∧
        (ticket.device = update.id → ∀ other ∈ notes.filterMap Note.issued?,
          other.device = update.id → other.serial ≤ completion.serial) := by
  intro run notes completion place update patched
  have ledger : run.Ledger notes := ledger_after .supersede limit operations
  have overtaking : run.Overtaking notes := overtaking_after .supersede limit operations
  have one : run.OnePerDevice := onePerDevice_after limit operations
  -- What patches a row was under way until then.
  have underWay : run.desk.isUnderWay completion.serial = true := by
    rw [← Bool.not_eq_false, ← Switchboard.answer_apply_eq_discarded_iff]
    intro discarded
    have both := patched.symm.trans discarded
    simp at both
  obtain ⟨ticket, member, same⟩ := List.mem_map.mp (Switchboard.isUnderWay_iff.mp underWay)
  have newest : ∀ other ∈ notes.filterMap Note.issued?,
      other.device = ticket.device → other.serial ≤ completion.serial := by
    intro other issued device
    by_contra newer
    exact overtaking.newest one.policy ticket member ⟨other, issued, device, by omega⟩
  refine ⟨ticket, ledger.underWay ticket member, same, newest, ?_⟩
  intro own other issued device
  exact newest other issued (device.trans own.symm)

theorem patching_lamp_command_is_newest :
    let hub : Ticket → Response := fun ticket => ⟨some 3, .ok ⟨ticket.device, ticket.command⟩⟩
    let operations : List Operation := [.once (.render [⟨"lamp", "Lamp", "Light", "off", ["on"]⟩]),
      .once (.dispatch hub "lamp" "on"), .once (.dispatch hub "fan" "spin"),
      .once (.dispatch hub "lamp" "dim")]
    let run := (start .supersede 10).after operations
    let notes := (start .supersede 10).journal operations
    let completion : Completion := ⟨3, "lamp", "dim", .ok ⟨"lamp", "dim"⟩⟩
    (run.apply completion).2 = .ok (.patched 1 ⟨"lamp", "dim"⟩) ∧
    ∀ other ∈ notes.filterMap Note.issued?, other.device = "lamp" → other.serial ≤ 3 := by
  intro hub operations run notes completion
  have patched : (run.apply completion).2 = .ok (.patched 1 ⟨"lamp", "dim"⟩) := rfl
  obtain ⟨ticket, issued, same, newest, -⟩ :=
    patching_command_is_newest 10 operations completion 1 ⟨"lamp", "dim"⟩ patched
  have known : ∀ other ∈ notes.filterMap Note.issued?, other.serial = 3 →
      other.device = "lamp" := by decide
  rw [known ticket issued same] at newest
  exact ⟨patched, newest⟩

/-- The answer to a command for the lamp names the fan, and patches the fan's row although a newer
command was sent to the fan. -/
theorem lamp_answer_patches_fan_row :
    let hub : Ticket → Response := fun ticket =>
      if ticket.device = "lamp" then ⟨some 3, .ok ⟨"fan", "on"⟩⟩
      else ⟨some 8, .ok ⟨ticket.device, ticket.command⟩⟩
    let operations : List Operation := [
      .once (.render [⟨"lamp", "Lamp", "Light", "off", ["on"]⟩,
        ⟨"fan", "Fan", "Motor", "still", ["spin"]⟩]),
      .once (.dispatch hub "lamp" "on"), .once (.dispatch hub "fan" "spin")]
    let run := (start .supersede 10).after operations
    let notes := (start .supersede 10).journal operations
    let completion : Completion := ⟨1, "lamp", "on", .ok ⟨"fan", "on"⟩⟩
    run.next.1 = .completion completion ∧
    (run.next.2.apply completion).2 = .ok (.patched 3 ⟨"fan", "on"⟩) ∧
    ¬ ∀ other ∈ notes.filterMap Note.issued?,
      other.device = "fan" → other.serial ≤ completion.serial := by
  intro hub operations run notes completion
  exact ⟨rfl, rfl, by decide⟩

end Run

end DevicePanel
