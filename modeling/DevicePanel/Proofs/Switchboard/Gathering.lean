import DevicePanel.Proofs.Board.Showing
import DevicePanel.Proofs.Switchboard.Settling

/-!
# Gathering the completions that are to come

When every ticket under way has its completion among those that are to come, draining receives
and applies them in their order until nothing is under way, and never blocks.  What a completion
is answered depends on nothing that the ones before it have done, as long as no ticket is
answered twice; so the board shows, for each device, what the last of them tells.
-/

namespace DevicePanel

/-- What applying a completion answers whose ticket is under way, on a board with these places. -/
def Completion.answerAt (place? : String → Option Nat) (completion : Completion) :
    Except CommandFault Verdict :=
  match completion.result with
  | .error fault => .error fault
  | .ok update =>
      match place? update.id with
      | some place => .ok (.patched place update)
      | none => .error (.unknownDevice update.id)

/-- The state that a completion tells for an identifier. -/
def Completion.stateOf? (id : String) (completion : Completion) : Option String :=
  match completion.result with
  | .ok update => if update.id = id then some update.state else none
  | .error _ => none

theorem Completion.answerAt_ne_discarded (place? : String → Option Nat) (completion : Completion) :
    completion.answerAt place? ≠ .ok .discarded := by
  unfold answerAt
  cases completion.result with
  | error fault => simp
  | ok update => cases known : place? update.id <;> simp [known]

namespace Switchboard

theorem answer_apply {desk : Switchboard} (indexed : desk.board.Indexed) (completion : Completion) :
    (desk.apply completion).answer =
      if desk.isUnderWay completion.serial then completion.answerAt desk.board.place?
      else .ok .discarded := by
  cases underWay : desk.isUnderWay completion.serial with
  | false => simp [apply_of_not_isUnderWay underWay]
  | true =>
      simp only [apply, underWay, if_true, Completion.answerAt]
      cases completion.result with
      | error fault => rfl
      | ok update =>
          have board : (desk.drop completion.serial).board = desk.board := rfl
          simp only [board]
          cases known : desk.board.place? update.id with
          | none => rw [Board.patch?_of_place?_eq_none known]
          | some place =>
              obtain ⟨row, -, -, written⟩ := indexed.patch?_of_place? known update.state
              rw [written]

theorem isUnderWay_apply (desk : Switchboard) (completion : Completion) (serial : Nat) :
    (desk.apply completion).desk.isUnderWay serial =
      (desk.isUnderWay serial && serial != completion.serial) := by
  rw [Bool.eq_iff_iff, Bool.and_eq_true, isUnderWay_iff, isUnderWay_iff, underWay_apply, drop]
  simp only [List.mem_map, List.mem_filter, bne_iff_ne]
  constructor
  · rintro ⟨ticket, ⟨member, other⟩, rfl⟩
    exact ⟨⟨ticket, member, rfl⟩, other⟩
  · rintro ⟨⟨ticket, member, rfl⟩, other⟩
    exact ⟨ticket, ⟨member, other⟩, rfl⟩

theorem indexed_apply {desk : Switchboard} (indexed : desk.board.Indexed)
    (completion : Completion) : (desk.apply completion).desk.board.Indexed := by
  rw [board_apply]
  exact Board.indexed_replay indexed _

theorem place?_apply {desk : Switchboard} (indexed : desk.board.Indexed)
    (completion : Completion) :
    (desk.apply completion).desk.board.place? = desk.board.place? := by
  funext id
  rw [board_apply, Board.place?, Board.places_replay indexed]
  rfl

/-- The state that a completion tells for an identifier if its ticket is under way. -/
def stateTold? (desk : Switchboard) (id : String) (completion : Completion) : Option String :=
  if desk.isUnderWay completion.serial then completion.stateOf? id else none

theorem stateTold?_of_isUnderWay {desk : Switchboard} {completion : Completion}
    (underWay : desk.isUnderWay completion.serial = true) (id : String) :
    desk.stateTold? id completion = completion.stateOf? id :=
  if_pos underWay

theorem isUnderWay_of_stateTold? {desk : Switchboard} {completion : Completion} {id : String}
    (told : (desk.stateTold? id completion).isSome = true) :
    desk.isUnderWay completion.serial = true := by
  by_contra notUnderWay
  simp [stateTold?, notUnderWay] at told

/-- For an identifier on the board, the event of a completion tells what the completion does. -/
theorem stateOf?_event_apply {desk : Switchboard} (indexed : desk.board.Indexed)
    (completion : Completion) {id : String} (known : (desk.board.place? id).isSome = true) :
    (desk.apply completion).event.bind (Event.stateOf? id) = desk.stateTold? id completion := by
  rw [event_apply, answer_apply indexed, stateTold?]
  split
  · unfold Completion.answerAt Completion.stateOf?
    cases completion.result with
    | error fault => rfl
    | ok update =>
        by_cases same : update.id = id
        · subst same
          obtain ⟨place, here⟩ := Option.isSome_iff_exists.mp known
          simp [here, Event.ofAnswer?, Event.stateOf?]
        · cases place : desk.board.place? update.id <;>
            simp [place, Event.ofAnswer?, Event.stateOf?, same]
  · rfl

end Switchboard

namespace Run

/-- What applying completions one after the other answers. -/
def answers : Run → List Completion → List (Nat × Except CommandFault Verdict)
  | _, [] => []
  | run, completion :: completions =>
      (completion.serial, (run.apply completion).2) ::
        (run.apply completion).1.answers completions

theorem Quiet.answers {run later : Run} (quiet : run.Quiet later)
    (completions : List Completion) : later.answers completions = run.answers completions := by
  induction completions generalizing run later with
  | nil => rfl
  | cons completion completions ih =>
      obtain ⟨applied, answered⟩ := quiet.apply completion
      simp only [Run.answers, answered, ih applied]

/-! ## Draining -/

theorem drain_of_nothing {run later : Run} (nothing : run.next = (.nothing, later)) :
    run.drain = (later, [], false) := by
  rw [drain]
  split
  · rename_i again
    simp only [nothing, Prod.mk.injEq, true_and] at again
    rw [again]
  · rename_i again
    simp [nothing] at again
  · rename_i again
    simp [nothing] at again

theorem drain_of_completion {run later : Run} {completion : Completion}
    (received : run.next = (.completion completion, later)) :
    run.drain = ((later.apply completion).1.drain.1,
      (completion.serial, (later.apply completion).2) :: (later.apply completion).1.drain.2.1,
      (later.apply completion).1.drain.2.2) := by
  rw [drain]
  split
  · rename_i again
    simp [received] at again
  · rename_i again
    simp [received] at again
  · rename_i again
    simp only [received, Prod.mk.injEq, Next.completion.injEq] at again
    obtain ⟨rfl, rfl⟩ := again
    rfl

/-- Draining applies what is to come until nothing is under way. -/
theorem drain_of_coming {run : Run} (untaken : run.taken = false)
    (expected : ∀ ticket ∈ run.desk.underWay,
      ticket.serial ∈ run.coming.map Completion.serial) :
    ∃ before rest later, run.coming = before ++ rest ∧
      run.drain = (later, run.answers before, false) ∧ (run.applyAll before).Quiet later ∧
      later.coming = rest ∧ later.desk.underWay = [] := by
  generalize parts : run.coming = completions at expected
  induction completions generalizing run with
  | nil =>
      have idle : run.desk.underWay = [] := by
        rw [List.eq_nil_iff_forall_not_mem]
        intro ticket member
        simpa using expected ticket member
      have nothing : run.next = (.nothing, run) := by simp [next, idle]
      exact ⟨[], [], run, rfl, drain_of_nothing nothing, ⟨rfl, rfl, rfl⟩, parts, idle⟩
  | cons first completions ih =>
      cases waiting : run.desk.underWay with
      | nil =>
          have nothing : run.next = (.nothing, run) := by simp [next, waiting]
          exact ⟨[], first :: completions, run, rfl, drain_of_nothing nothing, ⟨rfl, rfl, rfl⟩,
            parts, waiting⟩
      | cons ticket tickets =>
          have member : ticket ∈ run.desk.underWay := by simp [waiting]
          obtain ⟨later, received, quiet, laterUntaken, tail⟩ :=
            next_of_coming_cons member untaken parts
          obtain ⟨applied, answered⟩ := quiet.apply first
          have stillExpected : ∀ other ∈ (later.apply first).1.desk.underWay,
              other.serial ∈ completions.map Completion.serial := by
            intro other left
            rw [desk_apply, quiet.desk, Switchboard.underWay_apply] at left
            obtain ⟨before, differs⟩ := List.mem_filter.mp left
            rcases List.mem_cons.mp (expected other before) with same | inside
            · exact absurd same (bne_iff_ne.mp differs)
            · exact inside
          have appliedUntaken : (later.apply first).1.taken = false := laterUntaken
          obtain ⟨before, rest, last, split, drained, shown, left, idle⟩ :=
            ih appliedUntaken tail stillExpected
          have front := applied.applyAll before
          refine ⟨first :: before, rest, last, by rw [split]; rfl, ?_, ?_, left, idle⟩
          · rw [drain_of_completion received, drained, answered, applied.answers]
            rfl
          · exact ⟨shown.desk.trans front.desk, shown.limit.trans front.limit,
              shown.events.trans front.events⟩

/-- When nothing is left under way, every ticket had a completion. -/
theorem mem_of_idle {run : Run} {completions : List Completion}
    (idle : (run.applyAll completions).desk.underWay = []) {ticket : Ticket}
    (underWay : ticket ∈ run.desk.underWay) :
    ticket.serial ∈ completions.map Completion.serial := by
  by_contra absent
  have stays : ticket ∈ (run.applyAll completions).desk.underWay :=
    mem_underWay_applyAll underWay fun completion member same =>
      absent (same ▸ List.mem_map_of_mem member)
  rw [idle] at stays
  simp at stays

/-- Draining leaves nothing to come if what is to come are the completions of the tickets under
way, one for each. -/
theorem drain_of_own {run : Run} (untaken : run.taken = false)
    (own : (run.coming.map Completion.serial).Perm (run.desk.underWay.map Ticket.serial))
    (distinct : (run.desk.underWay.map Ticket.serial).Nodup) :
    ∃ later, run.drain = (later, run.answers run.coming, false) ∧
      (run.applyAll run.coming).Quiet later ∧ later.desk.underWay = [] := by
  have expected : ∀ ticket ∈ run.desk.underWay,
      ticket.serial ∈ run.coming.map Completion.serial :=
    fun ticket member => own.symm.subset (List.mem_map_of_mem member)
  obtain ⟨before, rest, later, parts, drained, shown, -, idle⟩ := drain_of_coming untaken expected
  have none : rest = [] := by
    rw [List.eq_nil_iff_forall_not_mem]
    intro completion member
    -- The ticket of a completion that is left has had one before.
    have coming : completion ∈ run.coming := by simp [parts, member]
    obtain ⟨ticket, underWay, same⟩ :=
      List.mem_map.mp (own.subset (List.mem_map_of_mem coming))
    have earlier := mem_of_idle (shown.desk ▸ idle) underWay
    have once := own.nodup_iff.mpr distinct
    rw [parts, List.map_append, List.nodup_append] at once
    exact once.2.2 _ earlier _ (List.mem_map_of_mem member) same
  rw [none, List.append_nil] at parts
  rw [parts]
  exact ⟨later, drained, shown, idle⟩

/-! ## What the completions do together -/

/-- No ticket under way has two of the completions. -/
def AtMostOnce (run : Run) (completions : List Completion) : Prop :=
  ∀ serial, run.desk.isUnderWay serial = true →
    (completions.map Completion.serial).count serial ≤ 1

namespace AtMostOnce

variable {run : Run} {first : Completion} {completions : List Completion}

theorem tail (once : run.AtMostOnce (first :: completions)) :
    (run.apply first).1.AtMostOnce completions := by
  intro serial underWay
  rw [desk_apply, Switchboard.isUnderWay_apply, Bool.and_eq_true] at underWay
  have single := once serial underWay.1
  rw [List.map_cons, List.count_cons] at single
  omega

/-- The first completion decides nothing about the others. -/
theorem isUnderWay_apply (once : run.AtMostOnce (first :: completions)) {completion : Completion}
    (member : completion ∈ completions) :
    (run.desk.apply first).desk.isUnderWay completion.serial =
      run.desk.isUnderWay completion.serial := by
  rw [Switchboard.isUnderWay_apply]
  cases underWay : run.desk.isUnderWay completion.serial with
  | false => rfl
  | true =>
      have single := once completion.serial underWay
      have positive : 0 < (completions.map Completion.serial).count completion.serial :=
        List.count_pos_iff.mpr (List.mem_map_of_mem member)
      rw [List.map_cons, List.count_cons] at single
      have other : completion.serial ≠ first.serial := by
        intro same
        rw [same] at single positive
        simp only [beq_self_eq_true, if_true] at single
        omega
      simp [other]

theorem answer_apply (once : run.AtMostOnce (first :: completions))
    (indexed : run.desk.board.Indexed) {completion : Completion}
    (member : completion ∈ completions) :
    ((run.desk.apply first).desk.apply completion).answer =
      (run.desk.apply completion).answer := by
  rw [Switchboard.answer_apply (Switchboard.indexed_apply indexed first),
    Switchboard.answer_apply indexed, once.isUnderWay_apply member,
    Switchboard.place?_apply indexed]

end AtMostOnce

/-- Each completion is answered as if it came first. -/
theorem answers_eq_map {run : Run} (indexed : run.desk.board.Indexed)
    {completions : List Completion} (once : run.AtMostOnce completions) :
    run.answers completions = completions.map fun completion =>
      (completion.serial, (run.apply completion).2) := by
  induction completions generalizing run with
  | nil => rfl
  | cons first completions ih =>
      have stillIndexed : (run.apply first).1.desk.board.Indexed :=
        Switchboard.indexed_apply indexed first
      have others := ih stillIndexed once.tail
      rw [answers, others, List.map_cons]
      congr 1
      apply List.map_congr_left
      intro completion member
      exact congrArg (Prod.mk completion.serial) (once.answer_apply indexed member)

/-- The board is written on by the events of all the completions. -/
theorem board_applyAll_eq_replay {run : Run} (indexed : run.desk.board.Indexed)
    {completions : List Completion} (once : run.AtMostOnce completions) :
    (run.applyAll completions).desk.board = run.desk.board.replay
      (completions.filterMap fun completion => (run.desk.apply completion).event) := by
  induction completions generalizing run with
  | nil => rfl
  | cons first completions ih =>
      have stillIndexed : (run.apply first).1.desk.board.Indexed :=
        Switchboard.indexed_apply indexed first
      have others := ih stillIndexed once.tail
      have events : completions.filterMap (fun completion =>
          ((run.apply first).1.desk.apply completion).event) =
          completions.filterMap fun completion => (run.desk.apply completion).event := by
        apply List.filterMap_congr
        intro completion member
        rw [Switchboard.event_apply, Switchboard.event_apply, desk_apply,
          once.answer_apply indexed member]
      have front : (run.apply first).1.desk.board =
          run.desk.board.replay (run.desk.apply first).event.toList :=
        run.desk.board_apply first
      have rest : run.applyAll (first :: completions) =
          (run.apply first).1.applyAll completions := rfl
      rw [rest, others, events, front, ← Board.replay_append, List.filterMap_cons]
      cases (run.desk.apply first).event <;> rfl

/-- The news of some completions: the last state that one of them tells whose ticket is under
way. -/
def news (run : Run) (completions : List Completion) (id : String) : Option String :=
  (completions.filterMap (run.desk.stateTold? id)).getLast?

/-- Without repeated identifiers the board shows the news of the completions. -/
theorem board_applyAll {run : Run} (indexed : run.desk.board.Indexed)
    (distinct : run.desk.board.Distinct) {completions : List Completion}
    (once : run.AtMostOnce completions) :
    (run.applyAll completions).desk.board = run.desk.board.showing (run.news completions) := by
  rw [board_applyAll_eq_replay indexed once, Board.replay_eq_showing indexed distinct]
  apply Board.showing_congr indexed
  intro id known
  rw [Event.lastState?, List.filterMap_filterMap, news]
  congr 1
  apply List.filterMap_congr
  intro completion _
  exact Switchboard.stateOf?_event_apply indexed completion known

end Run

end DevicePanel
