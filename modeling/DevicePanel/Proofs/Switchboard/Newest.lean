import DevicePanel.Proofs.Switchboard.Ledger

/-!
# Only the newest command of a device is under way

When a new command replaces the earlier ones of its device, at most one command per device is
under way in every run, and the earlier one is gone from the moment in which the new one is
sent: whatever completion comes for it, then or later, is discarded.
-/

namespace DevicePanel

namespace Run

theorem policy_turn {run later : Run} {more : List Note} (turn : run.Turn later more) :
    later.desk.policy = run.desk.policy := by
  cases turn with
  | sent respond device command => rfl
  | applied completion => exact run.desk.policy_apply completion
  | calledOff => rfl
  | waited received stale quiet moved isStale => rw [quiet.desk]

/-- A newer command replaces the earlier one of its device, and no device has two. -/
structure OnePerDevice (run : Run) : Prop where
  policy : run.desk.policy = .supersede
  devices : (run.desk.underWay.map Ticket.device).Nodup

namespace OnePerDevice

variable {run : Run}

theorem sent (one : run.OnePerDevice) (respond : Ticket → Response) (device command : String) :
    (run.dispatch respond device command).1.OnePerDevice := by
  refine ⟨one.policy, ?_⟩
  have kept : ((run.desk.kept device).map Ticket.device).Sublist
      (run.desk.underWay.map Ticket.device) :=
    List.filter_sublist.map _
  simp only [desk_dispatch, Switchboard.underWay_dispatch, List.map_append, List.map_cons,
    List.map_nil]
  refine List.nodup_append.mpr ⟨one.devices.sublist kept, by simp, ?_⟩
  intro first inside second new same
  obtain ⟨ticket, member, rfl⟩ := List.mem_map.mp inside
  obtain ⟨underWay, notReplaced⟩ := Switchboard.mem_kept_iff.mp member
  apply notReplaced
  exact Switchboard.mem_replaced_iff.mpr
    ⟨one.policy, underWay, same.trans (List.mem_singleton.mp new)⟩

theorem turn (one : run.OnePerDevice) {later : Run} {more : List Note}
    (turn : run.Turn later more) : later.OnePerDevice := by
  have policy := (policy_turn turn).trans one.policy
  cases turn with
  | sent respond device command => exact one.sent respond device command
  | applied completion =>
      refine ⟨policy, ?_⟩
      have dropped : (run.apply completion).1.desk.underWay =
          (run.desk.drop completion.serial).underWay := run.desk.underWay_apply completion
      rw [dropped]
      exact one.devices.sublist (List.filter_sublist.map _)
  | calledOff => exact ⟨policy, List.nodup_nil⟩
  | waited received stale quiet moved isStale => exact ⟨policy, quiet.desk ▸ one.devices⟩

theorem make (one : run.OnePerDevice) (move : Move) : (run.make move).OnePerDevice := by
  obtain ⟨-, board, made, -⟩ | ⟨-, turn⟩ := run.turn_make move
  · rw [made]
    exact ⟨one.policy, one.devices⟩
  · exact one.turn turn

/-- A new command replaces exactly the one of its device that is under way. -/
theorem replaced_eq (one : run.OnePerDevice) {old : Ticket}
    (underWay : old ∈ run.desk.underWay) : run.desk.replaced old.device = [old] := by
  have replaced : old ∈ run.desk.replaced old.device :=
    Switchboard.mem_replaced_iff.mpr ⟨one.policy, underWay, rfl⟩
  have all : ∀ ticket ∈ run.desk.replaced old.device, ticket = old := by
    intro ticket member
    obtain ⟨-, inside, same⟩ := Switchboard.mem_replaced_iff.mp member
    exact List.inj_on_of_nodup_map one.devices inside underWay same
  have nodup : (run.desk.replaced old.device).Nodup := by
    rw [run.desk.replaced_eq_filter]
    exact (one.devices.of_map Ticket.device).filter _
  have copies := List.eq_replicate_of_mem all
  rw [copies, List.nodup_replicate] at nodup
  have positive := List.length_pos_of_mem replaced
  have single : (run.desk.replaced old.device).length = 1 := by omega
  rw [copies, single]
  rfl

end OnePerDevice

theorem onePerDevice_after (limit : Nat) (operations : List Operation) :
    ((start .supersede limit).after operations).OnePerDevice := by
  have atFirst : (start .supersede limit).OnePerDevice := ⟨rfl, List.nodup_nil⟩
  exact holds_after (fun run _ => run.OnePerDevice) (fun _ _ move one => one.make move) atFirst
    operations

/-- Moves that receive and apply completions issue no ticket. -/
theorem issued_told_of_receives (run : Run) {moves : List Move}
    (receive : ∀ move ∈ moves, move.receives = true) :
    (run.told moves).filterMap Note.issued? = [] := by
  induction moves generalizing run with
  | nil => rfl
  | cons move moves ih =>
      have others := ih (run.make move) fun other member => receive other (by simp [member])
      have first : (run.notes move).filterMap Note.issued? = [] := by
        have receives := receive move (by simp)
        cases move with
        | next =>
            simp only [notes]
            split <;> rfl
        | apply completion => rfl
        | _ => simp [Move.receives] at receives
      rw [told, List.filterMap_append, first, others]
      rfl

/-- A move that issues a ticket sends its command. -/
theorem make_of_issued {run : Run} {move : Move} {ticket : Ticket}
    (issued : ticket ∈ (run.notes move).filterMap Note.issued?) :
    ∃ respond, run.make move = (run.dispatch respond ticket.device ticket.command).1 := by
  have sending {respond : Ticket → Response} {device command : String}
      (told : ticket ∈ (run.sendingNotes respond device command).filterMap Note.issued?) :
      ticket = run.desk.nextTicket device command := by
    simpa [filterMap_sendingNotes, Note.issued?] using told
  cases move with
  | dispatch respond device command =>
      rw [sending issued]
      exact ⟨respond, rfl⟩
  | activate respond row index =>
      simp only [notes, make, activate] at issued ⊢
      cases found : run.desk.button row index with
      | error fault => simp [found] at issued
      | ok button =>
          simp only [found] at issued
          rw [sending issued]
          exact ⟨respond, rfl⟩
  | next =>
      have none : (run.told [.next]).filterMap Note.issued? = [] :=
        run.issued_told_of_receives (by simp [Move.receives])
      simp only [told, List.append_nil] at none
      simp [none] at issued
  | receive => simp [notes, Note.issued?, List.filterMap_map, Function.comp_def] at issued
  | cancelAll => simp [notes, Note.issued?, List.filterMap_map, Function.comp_def] at issued
  | _ => simp [notes, Note.issued?] at issued

/-- An operation that issues a ticket sends its command. -/
theorem perform_of_issued {run : Run} {operation : Operation} {ticket : Ticket}
    (issued : ticket ∈ (run.journal [operation]).filterMap Note.issued?) :
    ∃ respond, run.perform operation = (run.dispatch respond ticket.device ticket.command).1 := by
  simp only [journal, List.append_nil] at issued
  cases operation with
  | once move =>
      simp only [movesOf, told, List.append_nil] at issued
      exact make_of_issued issued
  | settle other =>
      have none := run.issued_told_of_receives (run.receives_settlingMoves other)
      simp [movesOf, none] at issued
  | drain =>
      have none := run.issued_told_of_receives run.receives_drainingMoves
      simp [movesOf, none] at issued

/-- When a new command replaces the earlier ones, every run has at most one ticket per device
under way.  An operation that issues a ticket for the device of an earlier one takes the
earlier one off and publishes exactly one event, that it was superseded.  From then on, whatever
operations follow, a completion that carries its serial number is discarded and leaves the run
as it is, and no event is published about it. -/
theorem replaced_ticket_changes_nothing (limit : Nat) (operations : List Operation) :
    let run := (start .supersede limit).after operations
    (run.desk.underWay.map Ticket.device).Nodup ∧
    ∀ old ∈ run.desk.underWay, ∀ (operation : Operation) (new : Ticket),
      new ∈ (run.journal [operation]).filterMap Note.issued? → new.device = old.device →
      let later := run.perform operation
      later.desk.isUnderWay old.serial = false ∧
      later.events = run.events ++ [⟨old.device, old.command, .superseded⟩] ∧
      ∀ more : List Operation,
        Note.eventsAbout (later.journal more) old.serial = [] ∧
        (∀ completion answer, .applied completion answer ∈ later.journal more →
          completion.serial = old.serial → answer = .ok .discarded) ∧
        ∀ completion : Completion, completion.serial = old.serial →
          (later.after more).apply completion = (later.after more, .ok .discarded) := by
  intro run
  have ledger := ledger_after .supersede limit operations
  have one : run.OnePerDevice := onePerDevice_after limit operations
  refine ⟨one.devices, ?_⟩
  intro old underWay operation new issued device later
  obtain ⟨respond, sent⟩ := perform_of_issued issued
  have gone : later.Gone old.serial := by
    change (run.perform operation).Gone old.serial
    rw [sent, device]
    exact ledger.gone_of_replaced respond new.command
      (Switchboard.mem_replaced_iff.mpr ⟨one.policy, underWay, rfl⟩)
  refine ⟨gone.2, ?_, ?_⟩
  · change (run.perform operation).events = _
    rw [sent, events_dispatch, device, one.replaced_eq underWay]
    rfl
  · intro more
    obtain ⟨stays, unclosed⟩ := gone_after gone more
    have none : Note.closings (later.journal more) old.serial = [] := by
      refine List.filter_eq_nil_iff.mpr ?_
      intro note member
      simpa using unclosed note member
    refine ⟨?_, ?_, ?_⟩
    · rw [Note.eventsAbout_eq, none]
      rfl
    · intro completion answer member same
      by_contra answered
      exact unclosed _ member (Note.closes_applied_iff.mpr answered) same
    · intro completion same
      apply apply_of_not_isUnderWay
      rw [same]
      exact stays.2

theorem replaced_lamp_changes_nothing :
    let slow : Ticket → Response := fun _ => ⟨some 30, .error (.timedOut none)⟩
    let operations : List Operation := [.once (.render [⟨"lamp", "Lamp", "Light", "off", ["on"]⟩]),
      .once (.dispatch slow "fan" "spin"), .once (.dispatch slow "lamp" "on")]
    let operation : Operation := .once (.activate slow 1 0)
    let run := (start .supersede 10).after operations
    let old : Ticket := ⟨2, "lamp", "on"⟩
    let late : Completion := ⟨2, "lamp", "on", .ok ⟨"lamp", "on"⟩⟩
    let more : List Operation := [.once (.straggle late), .once .next]
    let last := (run.perform operation).after more
    old ∈ run.desk.underWay ∧
    ⟨3, "lamp", "on"⟩ ∈ (run.journal [operation]).filterMap Note.issued? ∧
    (run.perform operation).events = run.events ++ [⟨"lamp", "on", .superseded⟩] ∧
    last.apply late = (last, .ok .discarded) := by
  intro slow operations operation run old late more last
  have underWay : old ∈ run.desk.underWay := by decide
  have issued : ⟨3, "lamp", "on"⟩ ∈ (run.journal [operation]).filterMap Note.issued? := by decide
  obtain ⟨-, replaces⟩ := replaced_ticket_changes_nothing 10 operations
  obtain ⟨-, event, stays⟩ := replaces old underWay operation _ issued rfl
  exact ⟨underWay, issued, event, (stays more).2.2 late rfl⟩

end Run

end DevicePanel
