import DevicePanel.Proofs.Switchboard.Turn
import Mathlib.Data.List.Nodup

/-!
# The ledger of a run

Every serial number that was issued is either under way or was closed by exactly one note: an
applied completion, a newer command, or the calling off of all commands.  The invariant
`Ledger` says so in one permutation, and every turn keeps it.
-/

namespace DevicePanel

namespace Run

/-- The notes of a run and its tickets under way balance. -/
structure Ledger (run : Run) (notes : List Note) : Prop where
  events : run.events = notes.filterMap Note.event?
  serials : (notes.filterMap Note.issued?).map Ticket.serial = List.range' 1 run.desk.issued
  underWay : ∀ ticket ∈ run.desk.underWay, ticket ∈ notes.filterMap Note.issued?
  givenUp : ∀ ticket ∈ notes.filterMap Note.givenUp?, ticket ∈ notes.filterMap Note.issued?
  balance : (notes.filterMap Note.closed? ++ run.desk.underWay.map Ticket.serial).Perm
    (List.range' 1 run.desk.issued)

theorem ledger_start (policy : OverlapPolicy) (limit : Nat) : (start policy limit).Ledger [] := by
  constructor <;> simp [start, Switchboard.start]

namespace Ledger

variable {run : Run} {notes : List Note}

theorem serials_nodup (ledger : run.Ledger notes) :
    (run.desk.underWay.map Ticket.serial).Nodup := by
  have nodup := ledger.balance.nodup_iff.mpr (List.nodup_range' 1)
  exact (List.nodup_append.mp nodup).2.1

theorem serial_mem_range' (ledger : run.Ledger notes) {ticket : Ticket}
    (issued : ticket ∈ notes.filterMap Note.issued?) :
    ticket.serial ∈ List.range' 1 run.desk.issued := by
  rw [← ledger.serials]
  exact List.mem_map_of_mem issued

/-- Two issued tickets with one serial number are the same. -/
theorem eq_of_serial_eq (ledger : run.Ledger notes) {first second : Ticket}
    (firstIssued : first ∈ notes.filterMap Note.issued?)
    (secondIssued : second ∈ notes.filterMap Note.issued?)
    (same : first.serial = second.serial) : first = second := by
  have nodup : ((notes.filterMap Note.issued?).map Ticket.serial).Nodup := by
    rw [ledger.serials]
    exact List.nodup_range' 1
  exact List.inj_on_of_nodup_map nodup firstIssued secondIssued same

theorem serial_le (ledger : run.Ledger notes) {ticket : Ticket}
    (underWay : ticket ∈ run.desk.underWay) : ticket.serial ≤ run.desk.issued := by
  have := List.mem_range'_1.mp (ledger.serial_mem_range' (ledger.underWay ticket underWay))
  omega

/-- A ticket that a new command replaces is gone. -/
theorem gone_of_replaced (ledger : run.Ledger notes) (respond : Ticket → Response)
    {device : String} (command : String) {ticket : Ticket}
    (replaced : ticket ∈ run.desk.replaced device) :
    (run.dispatch respond device command).1.Gone ticket.serial := by
  have underWay := (Switchboard.mem_replaced_iff.mp replaced).2.1
  have bound := ledger.serial_le underWay
  refine ⟨Nat.le_succ_of_le bound, ?_⟩
  rw [Switchboard.isUnderWay_eq_false_iff]
  intro member
  obtain ⟨other, inside, same⟩ := List.mem_map.mp member
  rcases List.mem_append.mp inside with kept | new
  · obtain ⟨otherUnderWay, notReplaced⟩ := Switchboard.mem_kept_iff.mp kept
    have equal := ledger.eq_of_serial_eq (ledger.underWay other otherUnderWay)
      (ledger.underWay ticket underWay) same
    exact notReplaced (equal ▸ replaced)
  · rw [List.mem_singleton.mp new] at same
    have : run.desk.issued + 1 = ticket.serial := same
    omega

theorem sent (ledger : run.Ledger notes) (respond : Ticket → Response)
    (device command : String) :
    (run.dispatch respond device command).1.Ledger
      (notes ++ run.sendingNotes respond device command) := by
  constructor
  · simp [filterMap_sendingNotes, ledger.events, Note.event?, dispatch]
  · simp only [List.filterMap_append, filterMap_sendingNotes, List.map_append, ledger.serials]
    simp [Note.issued?, List.range'_1_concat, Switchboard.nextTicket, Nat.add_comm]
  · intro ticket member
    simp only [desk_dispatch, Switchboard.underWay_dispatch, List.mem_append,
      List.mem_singleton] at member
    rcases member with kept | rfl
    · have before := ledger.underWay ticket (Switchboard.mem_kept_iff.mp kept).1
      simp only [List.filterMap_append, List.mem_append]
      exact Or.inl before
    · simp [filterMap_sendingNotes, Note.issued?]
  · intro ticket member
    simp only [List.filterMap_append, List.mem_append, filterMap_sendingNotes] at member ⊢
    rcases member with before | now
    · exact Or.inl (ledger.givenUp ticket before)
    · have replaced : ticket ∈ run.desk.replaced device := by
        simpa [Note.givenUp?] using now
      exact Or.inl (ledger.underWay ticket (Switchboard.mem_replaced_iff.mp replaced).2.1)
  · have split := (run.desk.replaced_append_kept_perm device).map Ticket.serial
    rw [List.map_append] at split
    have closed : (run.sendingNotes respond device command).filterMap Note.closed? =
        (run.desk.replaced device).map Ticket.serial := by
      simp [filterMap_sendingNotes, Note.closed?, Note.closes, Note.serial]
    simp only [List.filterMap_append, closed, desk_dispatch, Switchboard.underWay_dispatch,
      Switchboard.issued_dispatch, List.map_append, List.range'_1_concat]
    have grown := ((split.append_left _).trans ledger.balance).append_right
      [1 + run.desk.issued]
    simpa [Switchboard.nextTicket, Nat.add_comm] using grown

theorem applied (ledger : run.Ledger notes) (completion : Completion) :
    (run.apply completion).1.Ledger
      (notes ++ [.applied completion (run.apply completion).2]) := by
  have underWay := run.desk.underWay_apply completion
  constructor
  · simp only [apply, List.filterMap_append, ledger.events, Switchboard.event_apply]
    rfl
  · simpa [apply, Note.issued?, List.filterMap_cons] using ledger.serials
  · intro ticket member
    have before := Switchboard.mem_underWay_of_apply member
    simpa [Note.issued?, List.filterMap_cons] using ledger.underWay ticket before
  · simpa [Note.givenUp?, Note.issued?, List.filterMap_cons] using ledger.givenUp
  · cases isUnderWay : run.desk.isUnderWay completion.serial with
    | false =>
        have discarded := Switchboard.apply_of_not_isUnderWay isUnderWay
        simpa [apply, discarded, Note.closed?, Note.closes, List.filterMap_cons]
          using ledger.balance
    | true =>
        have closes : (Note.applied completion (run.apply completion).2).closes = true := by
          rw [Note.closes_applied_iff]
          simp [apply, Switchboard.answer_apply_eq_discarded_iff, isUnderWay]
        have closed : [Note.applied completion (run.apply completion).2].filterMap
            Note.closed? = [completion.serial] := by
          simp [Note.closed?, closes, Note.serial]
        have left : (run.apply completion).1.desk.underWay.map Ticket.serial =
            (run.desk.underWay.map Ticket.serial).erase completion.serial := by
          rw [ledger.serials_nodup.erase_eq_filter, List.filter_map]
          exact congrArg (List.map Ticket.serial) underWay
        have moved : ([completion.serial] ++
            (run.apply completion).1.desk.underWay.map Ticket.serial).Perm
            (run.desk.underWay.map Ticket.serial) := by
          rw [left]
          exact (List.perm_cons_erase (Switchboard.isUnderWay_iff.mp isUnderWay)).symm
        rw [List.filterMap_append, closed, List.append_assoc]
        have kept := (moved.append_left _).trans ledger.balance
        simpa [apply] using kept

theorem calledOff (ledger : run.Ledger notes) :
    run.cancelAll.Ledger (notes ++ run.desk.underWay.map Note.calledOff) := by
  constructor
  · simpa [cancelAll, List.filterMap_map, Function.comp_def, Note.event?] using ledger.events
  · simpa [cancelAll, Switchboard.cancelAll, List.filterMap_map, Function.comp_def,
      Note.issued?] using ledger.serials
  · simp [cancelAll, Switchboard.cancelAll]
  · intro ticket member
    simp only [List.filterMap_append, List.filterMap_map, Function.comp_def, List.mem_append,
      Note.givenUp?, List.filterMap_some] at member ⊢
    left
    rcases member with before | now
    · exact ledger.givenUp ticket before
    · exact ledger.underWay ticket now
  · have closed : (run.desk.underWay.map Note.calledOff).filterMap Note.closed? =
        run.desk.underWay.map Ticket.serial := by
      simp [List.filterMap_map, Function.comp_def, Note.closed?, Note.closes, Note.serial]
    simpa [cancelAll, Switchboard.cancelAll, closed] using ledger.balance

theorem waited (ledger : run.Ledger notes) {later : Run} (received : List Completion)
    (quiet : run.Quiet later) : later.Ledger (notes ++ received.map Note.handedOut) := by
  have silent {β : Type} (read : Note → Option β)
      (none : ∀ completion, read (.handedOut completion) = none) :
      (notes ++ received.map Note.handedOut).filterMap read = notes.filterMap read := by
    simp [List.filterMap_map, none]
  constructor
  · rw [silent _ fun _ => rfl, quiet.events, ledger.events]
  · rw [silent _ fun _ => rfl, quiet.desk, ledger.serials]
  · rw [silent _ fun _ => rfl, quiet.desk]
    exact ledger.underWay
  · rw [silent _ fun _ => rfl, silent _ fun _ => rfl]
    exact ledger.givenUp
  · rw [silent _ fun _ => rfl, quiet.desk]
    exact ledger.balance

theorem turn (ledger : run.Ledger notes) {later : Run} {more : List Note}
    (turn : run.Turn later more) : later.Ledger (notes ++ more) := by
  cases turn with
  | sent respond device command => exact ledger.sent respond device command
  | applied completion => exact ledger.applied completion
  | calledOff => exact ledger.calledOff
  | waited received stale quiet moved isStale => exact ledger.waited received quiet

theorem make (ledger : run.Ledger notes) (move : Move) :
    (run.make move).Ledger (notes ++ run.notes move) := by
  obtain ⟨-, board, made, told⟩ | ⟨-, turn⟩ := run.turn_make move
  · rw [made, told, List.append_nil]
    exact ⟨ledger.events, ledger.serials, ledger.underWay, ledger.givenUp, ledger.balance⟩
  · exact ledger.turn turn

end Ledger

/-! ## The fate of a ticket -/

/-- What can have become of a ticket. -/
inductive Fate where
  | underWay
  | settled
  | replaced
  | calledOff
deriving Repr, DecidableEq

/-- The fate of a ticket, by the notes that close it and the events about it. -/
def Fate.Holds (run : Run) (notes : List Note) (ticket : Ticket) : Fate → Prop
  | .underWay => ticket ∈ run.desk.underWay ∧ Note.closings notes ticket.serial = [] ∧
      Note.eventsAbout notes ticket.serial = []
  | .settled => run.Gone ticket.serial ∧
      (∃ completion answer, completion.serial = ticket.serial ∧ answer ≠ .ok .discarded ∧
        Note.closings notes ticket.serial = [.applied completion answer]) ∧
      ∃ event, Note.eventsAbout notes ticket.serial = [event] ∧ event.kind ≠ .superseded
  | .replaced => run.Gone ticket.serial ∧
      Note.closings notes ticket.serial = [.replaced ticket] ∧
      Note.eventsAbout notes ticket.serial = [Switchboard.supersededEvent ticket]
  | .calledOff => run.Gone ticket.serial ∧
      Note.closings notes ticket.serial = [.calledOff ticket] ∧
      Note.eventsAbout notes ticket.serial = []

namespace Ledger

variable {run : Run} {notes : List Note}

/-- A serial number that was issued is under way or has one closing note. -/
theorem count_eq_one (ledger : run.Ledger notes) {ticket : Ticket}
    (issued : ticket ∈ notes.filterMap Note.issued?) :
    (Note.closings notes ticket.serial).length +
      (run.desk.underWay.map Ticket.serial).count ticket.serial = 1 := by
  have once := List.count_eq_one_of_mem (List.nodup_range' 1) (ledger.serial_mem_range' issued)
  rw [← ledger.balance.count_eq, List.count_append, List.count_filterMap,
    List.countP_eq_length_filter] at once
  have same : notes.filter (fun note => note.closed? == some ticket.serial) =
      Note.closings notes ticket.serial := by
    apply List.filter_congr
    intro note _
    cases closes : note.closes <;> simp [Note.closed?, closes]
  rwa [same] at once

/-- A ticket is closed by its own note. -/
theorem closed_ticket (ledger : run.Ledger notes) {ticket other : Ticket} {note : Note}
    (issued : ticket ∈ notes.filterMap Note.issued?)
    (closed : note ∈ Note.closings notes ticket.serial) (about : note.givenUp? = some other) :
    other = ticket := by
  obtain ⟨member, closes⟩ := List.mem_filter.mp closed
  have otherIssued := ledger.givenUp other (List.mem_filterMap.mpr ⟨note, member, about⟩)
  have sameSerial : note.serial = ticket.serial := by simp_all
  apply ledger.eq_of_serial_eq otherIssued issued
  rw [← sameSerial]
  cases note with
  | replaced first =>
      obtain rfl : first = other := Option.some.inj about
      rfl
  | calledOff first =>
      obtain rfl : first = other := Option.some.inj about
      rfl
  | _ => simp [Note.givenUp?] at about

theorem exists_fate (ledger : run.Ledger notes) {ticket : Ticket}
    (issued : ticket ∈ notes.filterMap Note.issued?) :
    ∃ fate : Fate, fate.Holds run notes ticket := by
  have once := ledger.count_eq_one issued
  by_cases underWay : ticket.serial ∈ run.desk.underWay.map Ticket.serial
  · obtain ⟨other, member, same⟩ := List.mem_map.mp underWay
    obtain rfl := ledger.eq_of_serial_eq (ledger.underWay other member) issued same
    have positive := List.count_pos_iff.mpr underWay
    have none : Note.closings notes other.serial = [] := by
      apply List.eq_nil_of_length_eq_zero
      omega
    exact ⟨.underWay, member, none, by rw [Note.eventsAbout_eq, none]; rfl⟩
  · have gone : run.Gone ticket.serial := by
      refine ⟨?_, Switchboard.isUnderWay_eq_false_iff.mpr underWay⟩
      have := List.mem_range'_1.mp (ledger.serial_mem_range' issued)
      omega
    rw [List.count_eq_zero_of_not_mem underWay, Nat.add_zero] at once
    obtain ⟨note, closed⟩ := List.length_eq_one_iff.mp once
    have member : note ∈ Note.closings notes ticket.serial := by simp [closed]
    obtain ⟨closes, about⟩ : note.closes = true ∧ note.serial = ticket.serial := by
      simpa using (List.mem_filter.mp member).2
    have events : Note.eventsAbout notes ticket.serial = note.event?.toList := by
      rw [Note.eventsAbout_eq, closed]
      cases told : note.event? <;> simp [told]
    cases note with
    | issued other response => simp [Note.closes] at closes
    | handedOut completion => simp [Note.closes] at closes
    | replaced other =>
        obtain rfl := ledger.closed_ticket issued member rfl
        exact ⟨.replaced, gone, closed, events⟩
    | calledOff other =>
        obtain rfl := ledger.closed_ticket issued member rfl
        exact ⟨.calledOff, gone, closed, events⟩
    | applied completion answer =>
        have answered := Note.closes_applied_iff.mp closes
        obtain ⟨event, told, kind⟩ :=
          Event.ofAnswer?_of_ne_discarded answered
        refine ⟨.settled, gone, ⟨completion, answer, about, answered, closed⟩, event, ?_, kind⟩
        rw [events, Note.event?, told]
        rfl

theorem existsUnique_fate (ledger : run.Ledger notes) {ticket : Ticket}
    (issued : ticket ∈ notes.filterMap Note.issued?) :
    ∃! fate : Fate, fate.Holds run notes ticket := by
  obtain ⟨fate, holds⟩ := ledger.exists_fate issued
  refine ⟨fate, holds, ?_⟩
  intro other otherHolds
  cases fate <;> cases other <;> simp_all [Fate.Holds]

/-- Whatever was issued is under way, published an event or was called off. -/
theorem issued_eq (ledger : run.Ledger notes) :
    run.desk.issued = run.desk.pendingCount + run.events.length +
      (notes.filterMap Note.calledOff?).length := by
  have total := ledger.balance.length_eq
  rw [List.length_append, List.length_map, List.length_range', Note.length_closed,
    ← ledger.events] at total
  rw [Switchboard.pendingCount]
  omega

end Ledger

theorem ledger_after (policy : OverlapPolicy) (limit : Nat) (operations : List Operation) :
    ((start policy limit).after operations).Ledger
      ((start policy limit).journal operations) :=
  holds_after Ledger (fun _ _ move ledger => ledger.make move) (ledger_start policy limit)
    operations

/-- In every run the tickets have the serial numbers one, two, three and so on, and each has
exactly one fate.  What has gone never comes back: a completion that carries its serial number,
or one that was never issued, is discarded and changes nothing. -/
theorem each_ticket_has_one_fate (policy : OverlapPolicy) (limit : Nat)
    (operations : List Operation) :
    let run := (start policy limit).after operations
    let notes := (start policy limit).journal operations
    run.events = notes.filterMap Note.event? ∧
    (notes.filterMap Note.issued?).map Ticket.serial = List.range' 1 run.desk.issued ∧
    (∀ ticket ∈ notes.filterMap Note.issued?, ∃! fate : Fate, fate.Holds run notes ticket) ∧
    (∀ serial, run.Gone serial → ∀ more : List Operation, (run.after more).Gone serial ∧
      ∀ completion : Completion, completion.serial = serial →
        (run.after more).apply completion = (run.after more, .ok .discarded)) ∧
    (∀ completion : Completion,
      completion.serial = 0 ∨ run.desk.issued < completion.serial →
        run.apply completion = (run, .ok .discarded)) ∧
    run.desk.issued = run.desk.pendingCount + run.events.length +
      (notes.filterMap Note.calledOff?).length := by
  intro run notes
  have ledger : run.Ledger notes := ledger_after policy limit operations
  refine ⟨ledger.events, ledger.serials, fun ticket issued => ledger.existsUnique_fate issued,
    ?_, ?_, ledger.issued_eq⟩
  · intro serial gone more
    have later := (gone_after gone more).1
    refine ⟨later, ?_⟩
    intro completion same
    apply apply_of_not_isUnderWay
    rw [same]
    exact later.2
  · intro completion unissued
    apply apply_of_not_isUnderWay
    rw [Switchboard.isUnderWay_eq_false_iff]
    intro member
    obtain ⟨ticket, inside, same⟩ := List.mem_map.mp member
    have issued := ledger.serial_mem_range' (ledger.underWay ticket inside)
    rw [same, List.mem_range'_1] at issued
    omega

theorem lamp_tickets_have_one_fate :
    let slow : Ticket → Response := fun _ => ⟨some 30, .error (.timedOut none)⟩
    let operations : List Operation := [.once (.dispatch slow "lamp" "on"),
      .once (.dispatch slow "lamp" "off"), .once .next,
      .once (.apply ⟨2, "lamp", "off", .error (.timedOut (some 10))⟩),
      .once (.dispatch slow "fan" "spin"), .once .cancelAll]
    let run := (start .supersede 10).after operations
    let notes := (start .supersede 10).journal operations
    ⟨1, "lamp", "on"⟩ ∈ notes.filterMap Note.issued? ∧
    (∃! fate : Fate, fate.Holds run notes ⟨1, "lamp", "on"⟩) ∧
    run.Gone 1 ∧
    run.apply ⟨1, "lamp", "on", .ok ⟨"lamp", "on"⟩⟩ = (run, .ok .discarded) ∧
    run.desk.issued < 4 ∧
    run.apply ⟨4, "lamp", "on", .ok ⟨"lamp", "on"⟩⟩ = (run, .ok .discarded) := by
  intro slow operations run notes
  obtain ⟨-, -, fates, stays, unissued, -⟩ := each_ticket_has_one_fate .supersede 10 operations
  have issued : ⟨1, "lamp", "on"⟩ ∈ notes.filterMap Note.issued? := by decide
  have gone : run.Gone 1 := by decide
  have below : run.desk.issued < 4 := by decide
  exact ⟨issued, fates _ issued, gone, (stays 1 gone []).2 _ rfl, below, unissued _ (Or.inr below)⟩

end Run

end DevicePanel
