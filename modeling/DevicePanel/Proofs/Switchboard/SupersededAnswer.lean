import DevicePanel.Proofs.Switchboard.Overtaking
import DevicePanel.Proofs.Switchboard.Settling

/-!
# When settling answers that a command was superseded

Settling answers so for a ticket that is gone, whatever became of it, and for every ticket once
the queue was handed out.  Where the ticket was replaced or called off the answer tells the truth:
no completion of the ticket was ever applied, and none ever will be.  A ticket that was settled
before, or one that is under way while the queue is in other hands, is answered the same.
-/

namespace DevicePanel

/-- The fault of a command that was superseded. -/
def CommandFault.isSuperseded : CommandFault → Bool
  | .superseded _ _ => true
  | _ => false

/-- A command was answered with the fault of one that was superseded. -/
def answersSuperseded {α : Type} : Except CommandFault α → Bool
  | .error fault => fault.isSuperseded
  | .ok _ => false

/-- Settling answered that the command was superseded. -/
def Run.Settled.isSuperseded : Run.Settled → Bool
  | .answer value => answersSuperseded value
  | .blocks => false

namespace Switchboard

/-- Applying a completion answers with this fault only if the completion does. -/
theorem answersSuperseded_apply {desk : Switchboard} {completion : Completion}
    (underWay : desk.isUnderWay completion.serial = true) :
    answersSuperseded (desk.apply completion).answer = answersSuperseded completion.result := by
  unfold apply
  simp only [underWay, if_true]
  cases completion.result with
  | error fault => rfl
  | ok update =>
      cases patched : (desk.drop completion.serial).board.patch? update.id update.state with
      | none => simp [patched, answersSuperseded, CommandFault.isSuperseded]
      | some found => simp [patched, answersSuperseded]

end Switchboard

namespace Run

theorem settle_of_gone {run : Run} {ticket : Ticket}
    (gone : run.desk.isUnderWay ticket.serial = false) :
    run.settle ticket =
      (run, .answer (.error (.superseded ticket.device ticket.command))) := by
  rw [settle, gone]
  rfl

theorem settle_of_taken {run : Run} {ticket : Ticket}
    (underWay : run.desk.isUnderWay ticket.serial = true) (taken : run.taken = true) :
    run.settle ticket =
      (run, .answer (.error (.superseded ticket.device ticket.command))) := by
  have nothing : run.next = (.nothing, run) := by simp [next, taken]
  rw [settle, if_pos underWay]
  split
  · rename_i again
    simp only [nothing, Prod.mk.injEq, true_and] at again
    rw [again]
  · rename_i again
    simp [nothing] at again
  · rename_i again
    simp [nothing] at again

/-- At most one completion of a ticket under way is to come. -/
theorem Placed.eq_of_serial_eq {run : Run} {notes : List Note} (placed : run.Placed notes)
    {ticket : Ticket} (underWay : ticket ∈ run.desk.underWay) {first second : Completion}
    (firstComing : first ∈ run.coming) (secondComing : second ∈ run.coming)
    (firstSame : first.serial = ticket.serial) (secondSame : second.serial = ticket.serial) :
    first = second := by
  have once := placed.once ticket underWay
  rw [List.map_append, List.count_append, List.count_eq_countP, List.countP_map,
    List.countP_eq_length_filter] at once
  have inside {completion : Completion} (coming : completion ∈ run.coming)
      (same : completion.serial = ticket.serial) :
      completion ∈ run.coming.filter ((fun serial => serial == ticket.serial) ∘
        Completion.serial) :=
    List.mem_filter.mpr ⟨coming, by simp [same]⟩
  have positive := List.length_pos_of_mem (inside firstComing firstSame)
  obtain ⟨only, single⟩ := List.length_eq_one_iff.mp (show (run.coming.filter
    ((fun serial => serial == ticket.serial) ∘ Completion.serial)).length = 1 by omega)
  have firstInside := inside firstComing firstSame
  have secondInside := inside secondComing secondSame
  rw [single, List.mem_singleton] at firstInside secondInside
  rw [firstInside, secondInside]

/-- While the queue was not handed out, a ticket under way is answered so only by its hub. -/
theorem Placed.settle_isSuperseded_iff {run : Run} {notes : List Note} (placed : run.Placed notes)
    {ticket : Ticket} (underWay : ticket ∈ run.desk.underWay) (untaken : run.taken = false) :
    (run.settle ticket).2.isSuperseded = true ↔
      ∃ own ∈ run.coming, own.serial = ticket.serial ∧ answersSuperseded own.result = true := by
  by_cases expected : ∃ own ∈ run.coming, own.serial = ticket.serial
  · obtain ⟨own, member, same⟩ := expected
    have unseen : ticket.serial ∉ (handedOut notes).map Completion.serial := by
      intro seen
      have once := placed.once ticket underWay
      have handed := List.count_pos_iff.mpr seen
      have coming : 0 < (run.coming.map Completion.serial).count ticket.serial :=
        List.count_pos_iff.mpr (same ▸ List.mem_map_of_mem member)
      rw [List.map_append, List.count_append] at once
      omega
    obtain ⟨response, before, rest, issued, parts, others⟩ :=
      placed.split_coming underWay unseen
    obtain ⟨later, settled, -⟩ := settle_of_coming underWay untaken parts others rfl
    have stays := Switchboard.isUnderWay_of_mem (mem_underWay_applyAll underWay others)
    have answered : (run.settle ticket).2.isSuperseded = answersSuperseded own.result := by
      have coming : response.outcome ticket run.limit ∈ run.coming := by simp [parts]
      rw [placed.eq_of_serial_eq underWay member coming same rfl, settled]
      exact Switchboard.answersSuperseded_apply stays
    rw [answered]
    constructor
    · exact fun refused => ⟨own, member, same, refused⟩
    · rintro ⟨other, otherMember, otherSame, refused⟩
      rwa [placed.eq_of_serial_eq underWay member otherMember same otherSame]
  · -- Nothing is to come for the ticket, so settling blocks.
    have none : ∀ completion ∈ run.coming, completion.serial ≠ ticket.serial :=
      fun completion member same => expected ⟨completion, member, same⟩
    obtain ⟨later, blocked⟩ := settle_blocks underWay untaken none
    rw [blocked]
    constructor
    · intro answered
      simp [Settled.isSuperseded] at answered
    · rintro ⟨own, member, same, -⟩
      exact absurd same (none own member)

/-- A ticket that was given up is gone, and no completion of it is ever applied. -/
theorem never_applied_of_givenUp {run : Run} {notes : List Note} {ticket : Ticket}
    (givenUp : Fate.replaced.Holds run notes ticket ∨ Fate.calledOff.Holds run notes ticket)
    (more : List Operation) :
    (run.after more).Gone ticket.serial ∧
      ∀ completion answer, Note.applied completion answer ∈ notes ++ run.journal more →
        completion.serial = ticket.serial → answer = .ok .discarded := by
  have gone : run.Gone ticket.serial := by
    rcases givenUp with ⟨gone, -⟩ | ⟨gone, -⟩ <;> exact gone
  obtain ⟨stays, unclosed⟩ := gone_after gone more
  refine ⟨stays, ?_⟩
  intro completion answer member same
  by_contra answered
  have closes : (Note.applied completion answer).closes = true :=
    Note.closes_applied_iff.mpr answered
  rcases List.mem_append.mp member with before | later
  · have closing : Note.applied completion answer ∈ Note.closings notes ticket.serial := by
      refine List.mem_filter.mpr ⟨before, ?_⟩
      simp [closes, Note.serial, same]
    rcases givenUp with ⟨-, only, -⟩ | ⟨-, only, -⟩ <;> simp [only] at closing
  · exact unclosed _ later closes same

/-- Settling a ticket that was issued answers that it was superseded if it was replaced by a newer
one for its device, if it was called off, if it was settled before, if it is under way while the
queue is in other hands, and if its hub answers so itself; in no other case.  Of a ticket that was
replaced or called off no completion was ever applied, and none is applied in any continuation. -/
theorem settling_answers_superseded_iff (policy : OverlapPolicy) (limit : Nat)
    (operations : List Operation) :
    let run := (start policy limit).after operations
    let notes := (start policy limit).journal operations
    ∀ ticket ∈ notes.filterMap Note.issued?,
      ((run.settle ticket).2.isSuperseded = true ↔
        Fate.replaced.Holds run notes ticket ∧
          ticket.Overtaken (notes.filterMap Note.issued?) ∨
        Fate.calledOff.Holds run notes ticket ∨
        Fate.settled.Holds run notes ticket ∨
        ticket ∈ run.desk.underWay ∧ (run.taken = true ∨
          ∃ own ∈ run.coming, own.serial = ticket.serial ∧
            answersSuperseded own.result = true)) ∧
      (Fate.replaced.Holds run notes ticket ∨ Fate.calledOff.Holds run notes ticket →
        ∀ more : List Operation, (run.after more).Gone ticket.serial ∧
          ∀ completion answer, Note.applied completion answer ∈ notes ++ run.journal more →
            completion.serial = ticket.serial → answer = .ok .discarded) := by
  intro run notes ticket issued
  have ledger : run.Ledger notes := ledger_after policy limit operations
  have placed : run.Placed notes := placed_after policy limit operations
  have overtaking : run.Overtaking notes := overtaking_after policy limit operations
  refine ⟨?_, fun givenUp more => never_applied_of_givenUp givenUp more⟩
  have whenGone (gone : run.Gone ticket.serial) : (run.settle ticket).2.isSuperseded = true := by
    rw [settle_of_gone gone.2]
    rfl
  constructor
  · intro answered
    obtain ⟨fate, holds⟩ := ledger.exists_fate issued
    cases fate with
    | underWay =>
        obtain ⟨underWay, -⟩ := holds
        refine Or.inr (Or.inr (Or.inr ⟨underWay, ?_⟩))
        cases taken : run.taken with
        | true => exact Or.inl rfl
        | false => exact Or.inr ((placed.settle_isSuperseded_iff underWay taken).mp answered)
    | settled => exact Or.inr (Or.inr (Or.inl holds))
    | replaced =>
        obtain ⟨-, only, -⟩ := id holds
        have told : Note.replaced ticket ∈ notes := by
          have closing : Note.replaced ticket ∈ Note.closings notes ticket.serial := by simp [only]
          exact (List.mem_filter.mp closing).1
        exact Or.inl ⟨holds, overtaking.replaced ticket told⟩
    | calledOff => exact Or.inr (Or.inl holds)
  · rintro (⟨replaced, -⟩ | calledOff | settled | ⟨underWay, taken | own⟩)
    · exact whenGone replaced.1
    · exact whenGone calledOff.1
    · exact whenGone settled.1
    · rw [settle_of_taken (Switchboard.isUnderWay_of_mem underWay) taken]
      rfl
    · cases taken : run.taken with
      | true =>
          rw [settle_of_taken (Switchboard.isUnderWay_of_mem underWay) taken]
          rfl
      | false => exact (placed.settle_isSuperseded_iff underWay taken).mpr own

theorem settling_replaced_lamp_answers_superseded :
    let slow : Ticket → Response := fun _ => ⟨some 30, .error (.timedOut none)⟩
    let operations : List Operation := [.once (.dispatch slow "lamp" "on"),
      .once (.dispatch slow "lamp" "off")]
    let run := (start .supersede 10).after operations
    let notes := (start .supersede 10).journal operations
    let lamp : Ticket := ⟨1, "lamp", "on"⟩
    let more : List Operation := [.once (.straggle ⟨1, "lamp", "on", .ok ⟨"lamp", "on"⟩⟩), .drain]
    lamp ∈ notes.filterMap Note.issued? ∧ Fate.replaced.Holds run notes lamp ∧
    (run.settle lamp).2.isSuperseded = true ∧
    ∀ completion answer, Note.applied completion answer ∈ notes ++ run.journal more →
      completion.serial = 1 → answer = .ok .discarded := by
  intro slow operations run notes lamp more
  have issued : lamp ∈ notes.filterMap Note.issued? := by decide
  have replaced : Fate.replaced.Holds run notes lamp :=
    ⟨by decide, rfl, rfl⟩
  obtain ⟨answers, never⟩ := settling_answers_superseded_iff .supersede 10 operations lamp issued
  have overtaken : lamp.Overtaken (notes.filterMap Note.issued?) := by decide
  exact ⟨issued, replaced, answers.mpr (Or.inl ⟨replaced, overtaken⟩),
    (never (Or.inl replaced) more).2⟩

/-- Once the queue was handed out, settling a ticket under way answers that it was superseded,
although nothing replaced it or called it off, and its completion then patches a row. -/
theorem settling_answers_superseded_under_way :
    let hub : Ticket → Response := fun ticket => ⟨some 3, .ok ⟨ticket.device, ticket.command⟩⟩
    let operations : List Operation := [.once (.render [⟨"lamp", "Lamp", "Light", "off", ["on"]⟩]),
      .once .take, .once (.dispatch hub "lamp" "on")]
    let run := (start .supersede 10).after operations
    let lamp : Ticket := ⟨1, "lamp", "on"⟩
    let completion : Completion := ⟨1, "lamp", "on", .ok ⟨"lamp", "on"⟩⟩
    (run.settle lamp).2 = .answer (.error (.superseded "lamp" "on")) ∧
    lamp ∈ (run.settle lamp).1.desk.underWay ∧
    ((run.settle lamp).1.sleep 3).receive.2 = some completion ∧
    (((run.settle lamp).1.sleep 3).receive.1.apply completion).2 =
      .ok (.patched 1 ⟨"lamp", "on"⟩) := by
  intro hub operations run lamp completion
  have settled : run.settle lamp = (run, .answer (.error (.superseded "lamp" "on"))) :=
    settle_of_taken (by decide) rfl
  rw [settled]
  exact ⟨rfl, by decide, rfl, rfl⟩

end Run

end DevicePanel
