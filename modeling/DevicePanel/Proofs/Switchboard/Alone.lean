import DevicePanel.Proofs.Switchboard.Gathering

/-!
# A command that is sent alone

While nothing is under way a command is settled by its own completion.  What is left over from
earlier commands may come before it, but none of these has a ticket any more and all are
discarded.  So the command either patches the row that the hub names or changes no row, and
nothing is under way afterwards.
-/

namespace DevicePanel

/-- Applying the completion of the only ticket under way either writes the state that it tells in
the row of the device that it names, or fails because no row shows that device or a fault came. -/
theorem Switchboard.apply_alone {desk : Switchboard} {ticket : Ticket} {completion : Completion}
    (alone : desk.underWay = [ticket]) (indexed : desk.board.Indexed)
    (own : completion.serial = ticket.serial) :
    (∃ update place row, completion.result = .ok update ∧
      desk.board.deviceRow? place = some row ∧ row.id = update.id ∧
      desk.board.FirstAt place update.id ∧
      (desk.apply completion).answer = .ok (.patched place update) ∧
      (desk.apply completion).desk = { { desk with underWay := [] } with
        board := { desk.board with
          rows := desk.board.rows.set place (.device { row with state := update.state }) } }) ∨
    ∃ fault, (∀ update, completion.result = .ok update →
        ∀ place row, desk.board.deviceRow? place = some row → row.id ≠ update.id) ∧
      (desk.apply completion).answer = .error fault ∧
      (desk.apply completion).desk = { desk with underWay := [] } := by
  have underWay : desk.isUnderWay completion.serial = true := by
    rw [own]
    exact isUnderWay_of_mem (alone ▸ List.mem_singleton_self ticket)
  have dropped : desk.drop completion.serial = { desk with underWay := [] } := by
    simp [drop, alone, own]
  obtain ⟨update, place, board, told, patched, applied⟩ | ⟨fault, applied⟩ := apply_cases underWay
  · left
    obtain ⟨known, row, found, same, rfl⟩ := indexed.patch?_eq_some patched
    obtain ⟨-, first⟩ := indexed.place?_eq_some_iff.mp known
    exact ⟨update, place, row, told, found, same, first, by rw [applied], by rw [applied, dropped]⟩
  · right
    refine ⟨fault, ?_, by rw [applied], by rw [applied, dropped]⟩
    intro update told
    rw [← indexed.place?_eq_none_iff]
    by_contra known
    obtain ⟨place, here⟩ := Option.ne_none_iff_exists'.mp known
    have answer := answer_apply indexed completion
    simp [underWay, applied, Completion.answerAt, told, here] at answer

namespace Run

theorem indexed_after (policy : OverlapPolicy) (limit : Nat) (operations : List Operation) :
    ((start policy limit).after operations).desk.board.Indexed := by
  have atFirst : (start policy limit).desk.board.Indexed := Board.indexed_empty
  refine holds_after (fun run _ => run.desk.board.Indexed) ?_ atFirst operations
  intro run notes move indexed
  obtain ⟨fills, -⟩ | ⟨-, turn⟩ := run.turn_make move
  · have filled : (Operation.once move).fills = true := fills
    exact indexed_of_fills filled
  · rw [board_turn turn]
    exact Board.indexed_replay indexed _

/-- The completion of a command that was just sent is to come, and none before it has its serial
number. -/
theorem Placed.split_sent {run : Run} {notes : List Note} (placed : run.Placed notes)
    (respond : Ticket → Response) (device command : String) :
    ∃ before rest, (run.dispatch respond device command).1.coming =
        before ++ (respond (run.desk.nextTicket device command)).outcome
          (run.desk.nextTicket device command) run.limit :: rest ∧
      ∀ completion ∈ before,
        completion.serial ≠ (run.desk.nextTicket device command).serial := by
  have arrivals := run.coming_dispatch_perm respond device command
  obtain ⟨before, rest, parts⟩ := List.append_of_mem (arrivals.symm.subset List.mem_cons_self)
  refine ⟨before, rest, parts, ?_⟩
  intro completion inside same
  -- What was to come before the command was sent has a smaller serial number.
  rw [parts] at arrivals
  have left := (List.perm_middle.symm.trans arrivals).cons_inv
  have old : completion ∈ run.coming :=
    (run.leftComing_sublist device).subset (left.subset (List.mem_append_left rest inside))
  have bound := placed.bounded completion (List.mem_append_left _ old)
  have own : completion.serial = run.desk.issued + 1 := same
  omega

theorem applyAll_of_not_isUnderWay {run : Run} {completions : List Completion}
    (gone : ∀ completion ∈ completions, run.desk.isUnderWay completion.serial = false) :
    run.applyAll completions = run := by
  induction completions with
  | nil => rfl
  | cons first completions ih =>
      have unchanged : run.applyAll (first :: completions) = run.applyAll completions := by
        rw [applyAll, List.foldl_cons, apply_of_not_isUnderWay (gone first (by simp))]
        rfl
      rw [unchanged]
      exact ih fun completion member => gone completion (by simp [member])

/-- A command that is sent alone is settled by its own completion. -/
theorem settle_alone {run : Run} {notes : List Note} (placed : run.Placed notes)
    (idle : run.desk.underWay = []) (untaken : run.taken = false)
    (respond : Ticket → Response) (device command : String) :
    let sent := (run.dispatch respond device command).1
    let ticket := run.desk.nextTicket device command
    let own := (respond ticket).outcome ticket run.limit
    sent.desk.underWay = [ticket] ∧ ∃ later,
      sent.settle ticket = (later, .answer (sent.desk.apply own).answer) ∧
        later.desk = (sent.desk.apply own).desk := by
  intro sent ticket own
  have alone : sent.desk.underWay = [ticket] := by
    simp [sent, ticket, Switchboard.kept, idle]
  obtain ⟨before, rest, parts, others⟩ := placed.split_sent respond device command
  have underWay : ticket ∈ sent.desk.underWay := alone ▸ List.mem_singleton_self ticket
  have sentUntaken : sent.taken = false := untaken
  obtain ⟨later, settled, quiet, -⟩ := settle_of_coming underWay sentUntaken parts others rfl
  -- Nothing but this ticket is under way, so what comes before its completion is discarded.
  have stale : sent.applyAll before = sent := by
    apply applyAll_of_not_isUnderWay
    intro completion member
    rw [Switchboard.isUnderWay_eq_false_iff, alone]
    simpa using others completion member
  rw [stale] at settled quiet
  exact ⟨alone, later, settled, quiet.desk⟩

/-- A command that is sent alone is answered as its own completion is. -/
theorem answer_settle_alone {run : Run} {notes : List Note} (placed : run.Placed notes)
    (indexed : run.desk.board.Indexed) (idle : run.desk.underWay = [])
    (untaken : run.taken = false) (respond : Ticket → Response) (device command : String) :
    let ticket := run.desk.nextTicket device command
    ((run.dispatch respond device command).1.settle ticket).2 =
      .answer (((respond ticket).outcome ticket run.limit).answerAt run.desk.board.place?) := by
  intro ticket
  obtain ⟨alone, later, settled, -⟩ := settle_alone placed idle untaken respond device command
  have sentIndexed : (run.dispatch respond device command).1.desk.board.Indexed := indexed
  have underWay : (run.dispatch respond device command).1.desk.isUnderWay
      ((respond ticket).outcome ticket run.limit).serial = true :=
    Switchboard.isUnderWay_of_mem (alone ▸ List.mem_singleton_self ticket)
  rw [settled, Switchboard.answer_apply sentIndexed, if_pos underWay]
  rfl

/-- A command that is sent alone patches the row that the hub names, or it fails and changes no
row because the hub names none or a fault came instead. -/
theorem settle_alone_cases {run : Run} {notes : List Note} (placed : run.Placed notes)
    (indexed : run.desk.board.Indexed) (idle : run.desk.underWay = [])
    (untaken : run.taken = false) (respond : Ticket → Response) (device command : String) :
    let ticket := run.desk.nextTicket device command
    let result := ((respond ticket).outcome ticket run.limit).result
    let sent := (run.dispatch respond device command).1
    ∃ later, ((∃ update place row, result = .ok update ∧
        run.desk.board.deviceRow? place = some row ∧ row.id = update.id ∧
        run.desk.board.FirstAt place update.id ∧
        sent.settle ticket = (later, .answer (.ok (.patched place update))) ∧
        later.desk = { run.desk with
          board := { run.desk.board with
            rows := run.desk.board.rows.set place (.device { row with state := update.state }) }
          issued := run.desk.issued + 1 }) ∨
      ∃ fault, (∀ update, result = .ok update →
          ∀ place row, run.desk.board.deviceRow? place = some row → row.id ≠ update.id) ∧
        sent.settle ticket = (later, .answer (.error fault)) ∧
        later.desk = { run.desk with issued := run.desk.issued + 1 }) := by
  intro ticket result sent
  obtain ⟨alone, later, settled, desk⟩ := settle_alone placed idle untaken respond device command
  have emptied : { sent.desk with underWay := [] } =
      { run.desk with issued := run.desk.issued + 1 } := by
    rw [← idle]
    rfl
  have own : ((respond ticket).outcome ticket run.limit).serial = ticket.serial := rfl
  refine ⟨later, ?_⟩
  rw [settled, desk]
  obtain ⟨update, place, row, told, found, same, first, answer, written⟩ |
    ⟨fault, unknown, answer, kept⟩ := Switchboard.apply_alone alone indexed own
  · left
    refine ⟨update, place, row, told, found, same, first, by rw [answer], ?_⟩
    rw [written, emptied]
    rfl
  · exact Or.inr ⟨fault, unknown, by rw [answer], kept.trans emptied⟩

end Run

end DevicePanel
