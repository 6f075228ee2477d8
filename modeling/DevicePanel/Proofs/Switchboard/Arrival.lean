import DevicePanel.Proofs.Switchboard.Gathering
import DevicePanel.Proofs.Switchboard.Sending
import Mathlib.Data.List.Induction
import Mathlib.Data.List.TakeWhile

/-!
# The answer that arrives last

Where every command runs to its end, completions arrive in the order in which the commands end,
and commands that end at the same time in the order in which they were sent.  The queue and the
running tasks together hold the commands in this order at every moment, so gathering answers each
of them once, in this order, and a device shows what the last answer told that names it.
-/

namespace DevicePanel

/-- A command that was sent at a certain time, and how the hub responds. -/
structure Sending where
  ticket : Ticket
  response : Response
  time : Nat

namespace Sending

/-- When the command ends: with the hub's answer if it comes within the limit, else at the
limit. -/
def finish (limit : Nat) (sending : Sending) : Nat :=
  match sending.response.delay with
  | some delay => if delay ≤ limit then sending.time + delay else sending.time + limit
  | none => sending.time + limit

/-- What becomes of the command. -/
def outcome (limit : Nat) (sending : Sending) : Completion :=
  sending.response.outcome sending.ticket limit

/-- The first command ends before the second, or at the same time and was sent before it. -/
def Before (limit : Nat) (first second : Sending) : Prop :=
  first.finish limit < second.finish limit ∨
    first.finish limit = second.finish limit ∧ first.ticket.serial < second.ticket.serial

theorem Before.finish_le {limit : Nat} {first second : Sending}
    (before : first.Before limit second) : first.finish limit ≤ second.finish limit := by
  rcases before with earlier | ⟨same, -⟩ <;> omega

theorem Before.asymm {limit : Nat} {first second : Sending}
    (before : first.Before limit second) : ¬ second.Before limit first := by
  unfold Before at before ⊢
  omega

/-- A command that was sent later and ends no earlier comes after the other one. -/
theorem before_of_serial_lt {limit : Nat} {first second : Sending}
    (finish : first.finish limit ≤ second.finish limit)
    (serial : first.ticket.serial < second.ticket.serial) : first.Before limit second := by
  unfold Before
  omega

/-- The answer to this command is the last one that names the device, and tells this state. -/
def IsLastFor (limit : Nat) (sendings : List Sending) (id state : String) (sending : Sending) :
    Prop :=
  sending ∈ sendings ∧ (sending.outcome limit).stateOf? id = some state ∧
    ∀ other ∈ sendings, ((other.outcome limit).stateOf? id).isSome = true →
      other = sending ∨ other.Before limit sending

def task (limit : Nat) (sending : Sending) : Task :=
  .ofResponse sending.ticket sending.time limit sending.response

theorem time_le_finish (limit : Nat) (sending : Sending) :
    sending.time ≤ sending.finish limit := by
  unfold finish
  cases sending.response.delay with
  | none => simp
  | some delay => simp only; split <;> omega

theorem finish_task (limit : Nat) (sending : Sending) :
    (sending.task limit).finish = sending.finish limit := by
  unfold task Task.ofResponse finish
  cases sending.response.delay with
  | none => rfl
  | some delay =>
      simp only
      split <;> rfl

theorem completion_task (limit : Nat) (sending : Sending) :
    (sending.task limit).completion = sending.outcome limit :=
  Task.completion_ofResponse _ _ _ _

/-- Enter a command among those that are running. -/
def enter (limit : Nat) (sending : Sending) : List Sending → List Sending
  | [] => [sending]
  | other :: others =>
      if sending.finish limit < other.finish limit then sending :: other :: others
      else other :: enter limit sending others

theorem schedule_map_task (limit : Nat) (sending : Sending) (sendings : List Sending) :
    Run.schedule (sending.task limit) (sendings.map (task limit)) =
      (sending.enter limit sendings).map (task limit) := by
  induction sendings with
  | nil => rfl
  | cons other others ih =>
      rw [List.map_cons, Run.schedule, enter, finish_task, finish_task, ih]
      split <;> rfl

theorem enter_perm (limit : Nat) (sending : Sending) (sendings : List Sending) :
    (sending.enter limit sendings).Perm (sending :: sendings) := by
  induction sendings with
  | nil => exact List.Perm.refl _
  | cons other others ih =>
      rw [enter]
      split
      · exact List.Perm.refl _
      · exact (ih.cons other).trans (List.Perm.swap sending other others)

/-- Entering the newest command keeps the order. -/
theorem pairwise_enter {limit : Nat} {sending : Sending} {sendings : List Sending}
    (ordered : sendings.Pairwise (Before limit))
    (newest : ∀ other ∈ sendings, other.ticket.serial < sending.ticket.serial) :
    (sending.enter limit sendings).Pairwise (Before limit) := by
  induction sendings with
  | nil => exact List.pairwise_singleton _ _
  | cons other others ih =>
      obtain ⟨first, rest⟩ := List.pairwise_cons.mp ordered
      rw [enter]
      split
      · rename_i earlier
        refine List.pairwise_cons.mpr ⟨?_, ordered⟩
        intro later member
        rcases List.mem_cons.mp member with rfl | inside
        · exact Or.inl earlier
        · exact Or.inl (Nat.lt_of_lt_of_le earlier (first later inside).finish_le)
      · rename_i notEarlier
        have after := ih rest fun later inside => newest later (by simp [inside])
        refine List.pairwise_cons.mpr ⟨?_, after⟩
        intro later member
        rcases List.mem_cons.mp ((enter_perm limit sending others).subset member) with rfl | inside
        · exact before_of_serial_lt (by omega) (newest other (by simp))
        · exact first later inside

/-- In their order, those that have not ended by a time are all those after the ones that have. -/
theorem lt_finish_of_mem_dropWhile {limit time : Nat} {sendings : List Sending}
    (ordered : sendings.Pairwise (Before limit)) {sending : Sending}
    (left : sending ∈ sendings.dropWhile fun other => other.finish limit ≤ time) :
    time < sending.finish limit := by
  induction sendings with
  | nil => simp at left
  | cons first others ih =>
      obtain ⟨earliest, rest⟩ := List.pairwise_cons.mp ordered
      by_cases ended : first.finish limit ≤ time
      · rw [List.dropWhile_cons_of_pos (by simpa using ended)] at left
        exact ih rest left
      · rw [List.dropWhile_cons_of_neg (by simpa using ended)] at left
        rcases List.mem_cons.mp left with rfl | inside
        · omega
        · have := (earliest sending inside).finish_le
          omega

/-- In their order, the last result that is read is read at the command after which no other one
gives a result. -/
theorem getLast?_filterMap_eq_some_iff {limit : Nat} {sendings : List Sending} {Result : Type}
    (ordered : sendings.Pairwise (Before limit)) (read : Sending → Option Result)
    (result : Result) :
    (sendings.filterMap read).getLast? = some result ↔
      ∃ sending ∈ sendings, read sending = some result ∧
        ∀ other ∈ sendings, (read other).isSome = true →
          other = sending ∨ other.Before limit sending := by
  -- The induction takes off the command that ends last: either its result is the last one, or it
  -- gives none and the others decide.
  induction sendings using List.reverseRecOn with
  | nil => simp
  | append_singleton sendings last ih =>
      obtain ⟨front, -, across⟩ := List.pairwise_append.mp ordered
      have before : ∀ other ∈ sendings, other.Before limit last :=
        fun other member => across other member last (by simp)
      rw [List.filterMap_append, List.getLast?_append]
      cases told : read last with
      | none =>
          have nothing : [last].filterMap read = [] := by simp [told]
          rw [nothing, List.getLast?_nil, Option.none_or, ih front]
          simp [told, or_imp, forall_and]
      | some final =>
          have single : [last].filterMap read = [final] := by simp [told]
          rw [single, List.getLast?_singleton, Option.some_or]
          constructor
          · intro same
            refine ⟨last, by simp, told.trans same, ?_⟩
            intro other member _
            rcases List.mem_append.mp member with inside | here
            · exact Or.inr (before other inside)
            · exact Or.inl (List.mem_singleton.mp here)
          · rintro ⟨sending, member, result, latest⟩
            have same : last = sending := by
              rcases latest last (by simp) (by simp [told]) with same | later
              · exact same
              · rcases List.mem_append.mp member with inside | here
                · exact absurd later (before sending inside).asymm
                · exact (List.mem_singleton.mp here).symm
            rw [← told, same, result]

/-- What the answers tell that come last in the order of the list. -/
def news (limit : Nat) (sendings : List Sending) (id : String) : Option String :=
  (sendings.filterMap fun sending => (sending.outcome limit).stateOf? id).getLast?

theorem news_eq_some_iff {limit : Nat} {sendings : List Sending}
    (ordered : sendings.Pairwise (Before limit)) (id state : String) :
    news limit sendings id = some state ↔
      ∃ sending : Sending, sending.IsLastFor limit sendings id state :=
  getLast?_filterMap_eq_some_iff ordered _ state

theorem news_eq_none_iff {limit : Nat} {sendings : List Sending} {id : String} :
    news limit sendings id = none ↔
      ∀ sending ∈ sendings, (sending.outcome limit).stateOf? id = none := by
  rw [news, List.getLast?_eq_none_iff, List.filterMap_eq_nil_iff]

end Sending

/-- What the owner does: a command is sent to a device, or time passes. -/
inductive Step where
  | send (button : Button)
  | pass (milliseconds : Nat)

namespace Step

def button? : Step → Option Button
  | .send button => some button
  | .pass _ => none

def operation (hub : Ticket → Response) : Step → Operation
  | .send button => .once (.dispatch hub button.device button.command)
  | .pass milliseconds => .once (.sleep milliseconds)

/-- The commands that some steps send, from a time on, after so many were issued. -/
def sendings (hub : Ticket → Response) : Nat → Nat → List Step → List Sending
  | _, _, [] => []
  | time, issued, .send button :: steps =>
      let ticket : Ticket := ⟨issued + 1, button.device, button.command⟩
      ⟨ticket, hub ticket, time⟩ :: sendings hub time (issued + 1) steps
  | time, issued, .pass milliseconds :: steps =>
      sendings hub (time + milliseconds) issued steps

theorem sends_operations (hub : Ticket → Response) (steps : List Step) :
    Sends hub (steps.filterMap button?) (steps.map (operation hub)) := by
  induction steps with
  | nil => exact .none
  | cons step steps ih =>
      cases step with
      | send button => exact .send button ih
      | pass milliseconds => exact .wait rfl ih

theorem map_ticket_sendings (hub : Ticket → Response) (time issued : Nat) (steps : List Step) :
    (sendings hub time issued steps).map Sending.ticket =
      ticketsAfter issued (steps.filterMap button?) := by
  induction steps generalizing time issued with
  | nil => rfl
  | cons step steps ih =>
      cases step with
      | send button => exact congrArg (List.cons _) (ih time (issued + 1))
      | pass milliseconds => exact ih (time + milliseconds) issued

end Step

namespace Run

/-- The queue and the running tasks hold these commands, in the order in which they end. -/
structure Arriving (run : Run) (arrived waiting : List Sending) : Prop where
  queue : run.queue = arrived.map (Sending.outcome run.limit)
  tasks : run.tasks = waiting.map (Sending.task run.limit)
  ordered : (arrived ++ waiting).Pairwise (Sending.Before run.limit)
  past : ∀ sending ∈ arrived, sending.finish run.limit ≤ run.now
  future : ∀ sending ∈ waiting, run.now ≤ sending.finish run.limit
  underWay : run.desk.underWay.Perm ((arrived ++ waiting).map Sending.ticket)
  bounded : ∀ sending ∈ arrived ++ waiting, sending.ticket.serial ≤ run.desk.issued

namespace Arriving

variable {run : Run} {arrived waiting : List Sending}

theorem coming (arriving : run.Arriving arrived waiting) :
    run.coming = (arrived ++ waiting).map (Sending.outcome run.limit) := by
  rw [Run.coming, arriving.queue, arriving.tasks, List.map_map, List.map_append]
  congr 1
  apply List.map_congr_left
  intro sending _
  exact sending.completion_task run.limit

/-- A command that is sent ends after all those that end before now or at the same time. -/
theorem sent (arriving : run.Arriving arrived waiting)
    (policy : run.desk.policy = .lastResponseWins) (respond : Ticket → Response)
    (button : Button) :
    let sending : Sending := ⟨run.desk.nextTicket button.device button.command,
      respond (run.desk.nextTicket button.device button.command), run.now⟩
    (run.dispatch respond button.device button.command).1.Arriving arrived
      (sending.enter run.limit waiting) := by
  intro sending
  have none : run.desk.replaced button.device = [] := by simp [Switchboard.replaced, policy]
  have newest : ∀ other ∈ arrived ++ waiting, other.ticket.serial < sending.ticket.serial :=
    fun other member => Nat.lt_succ_of_le (arriving.bounded other member)
  have finish : run.now ≤ sending.finish run.limit := sending.time_le_finish run.limit
  have entered := sending.enter_perm run.limit waiting
  have all : (arrived ++ sending.enter run.limit waiting).Perm (sending :: (arrived ++ waiting)) :=
    (entered.append_left arrived).trans List.perm_middle
  constructor
  · exact arriving.queue
  · have tasks : (run.dispatch respond button.device button.command).1.tasks =
        schedule (sending.task run.limit) run.tasks := by
      simp [dispatch, Switchboard.dispatch, none, sending, Sending.task, Switchboard.nextTicket]
    rw [tasks, arriving.tasks]
    exact sending.schedule_map_task run.limit waiting
  · obtain ⟨before, after, across⟩ := List.pairwise_append.mp arriving.ordered
    refine List.pairwise_append.mpr ⟨before, ?_, ?_⟩
    · exact Sending.pairwise_enter after fun other member => newest other (by simp [member])
    · intro first firstInside second secondInside
      rcases List.mem_cons.mp (entered.subset secondInside) with rfl | inside
      · -- What has arrived ended by now, and the new command does not end before now.
        exact Sending.before_of_serial_lt
          (Nat.le_trans (arriving.past first firstInside) finish)
          (newest first (by simp [firstInside]))
      · exact across first firstInside second inside
  · exact arriving.past
  · intro other member
    rcases List.mem_cons.mp (entered.subset member) with rfl | inside
    · exact finish
    · exact arriving.future other inside
  · have underWay : (run.dispatch respond button.device button.command).1.desk.underWay =
        run.desk.underWay ++ [sending.ticket] := by
      simp [dispatch, Switchboard.dispatch, none, sending, Switchboard.nextTicket]
    rw [underWay]
    exact ((arriving.underWay.append_right _).trans List.perm_append_comm).trans
      (all.map Sending.ticket).symm
  · intro other member
    rcases List.mem_cons.mp (all.subset member) with rfl | inside
    · exact Nat.le_refl _
    · exact Nat.le_succ_of_le (arriving.bounded other inside)

/-- When time passes, the commands that end by then arrive. -/
theorem passed (arriving : run.Arriving arrived waiting) (milliseconds : Nat) :
    let ended (sending : Sending) : Bool := sending.finish run.limit ≤ run.now + milliseconds
    (run.sleep milliseconds).Arriving (arrived ++ waiting.takeWhile ended)
      (waiting.dropWhile ended) := by
  intro ended
  have test : ((fun task : Task => decide (task.finish ≤ run.now + milliseconds)) ∘
      Sending.task run.limit) = ended := by
    funext sending
    simp [ended, Sending.finish_task]
  have all : arrived ++ waiting.takeWhile ended ++ waiting.dropWhile ended =
      arrived ++ waiting := by
    rw [List.append_assoc, List.takeWhile_append_dropWhile]
  have now : (run.sleep milliseconds).now = run.now + milliseconds :=
    Nat.max_eq_right (Nat.le_add_right _ _)
  constructor
  · rw [sleep, advanceTo]
    simp only
    rw [arriving.queue, arriving.tasks, List.takeWhile_map, test, List.map_append, List.map_map]
    congr 1
    apply List.map_congr_left
    intro sending _
    exact sending.completion_task run.limit
  · rw [sleep, advanceTo]
    simp only
    rw [arriving.tasks, List.dropWhile_map, test]
  · rw [all]
    exact arriving.ordered
  · intro sending member
    rw [now]
    rcases List.mem_append.mp member with before | inside
    · exact Nat.le_add_right_of_le (arriving.past sending before)
    · have early : ended sending = true := List.mem_takeWhile_imp inside
      exact of_decide_eq_true early
  · intro sending member
    rw [now]
    have ordered := (List.pairwise_append.mp arriving.ordered).2.1
    exact Nat.le_of_lt (Sending.lt_finish_of_mem_dropWhile ordered member)
  · rw [all]
    exact arriving.underWay
  · rw [all]
    exact arriving.bounded

/-- Gathering answers every command once, in the order in which they end, and the board shows
what the last answers tell. -/
theorem drain (arriving : run.Arriving arrived waiting) (untaken : run.taken = false)
    (serials : (run.desk.underWay.map Ticket.serial).Nodup) (indexed : run.desk.board.Indexed)
    (distinct : run.desk.board.Distinct) :
    ∃ final, run.drain = (final, (arrived ++ waiting).map (fun sending =>
        (sending.ticket.serial,
          (sending.outcome run.limit).answerAt run.desk.board.place?)), false) ∧
      final.desk.underWay = [] ∧
      final.desk.board = run.desk.board.showing
        (Sending.news run.limit (arrived ++ waiting)) := by
  have own : (run.coming.map Completion.serial).Perm (run.desk.underWay.map Ticket.serial) := by
    have sameSerials := (arriving.underWay.map Ticket.serial).symm
    rw [arriving.coming, List.map_map]
    rwa [List.map_map] at sameSerials
  have underWay : ∀ sending ∈ arrived ++ waiting,
      run.desk.isUnderWay (sending.outcome run.limit).serial = true := fun sending member =>
    Switchboard.isUnderWay_of_mem (arriving.underWay.symm.subset (List.mem_map_of_mem member))
  have once : run.AtMostOnce run.coming := fun serial _ =>
    List.nodup_iff_count_le_one.mp (own.nodup_iff.mpr serials) serial
  obtain ⟨final, drained, shown, idle⟩ := drain_of_own untaken own serials
  refine ⟨final, ?_, idle, ?_⟩
  · rw [drained, answers_eq_map indexed once, arriving.coming, List.map_map]
    congr 2
    apply List.map_congr_left
    intro sending member
    have answered := Switchboard.answer_apply indexed (sending.outcome run.limit)
    rw [if_pos (underWay sending member)] at answered
    exact congrArg (Prod.mk sending.ticket.serial) answered
  · rw [shown.desk, board_applyAll indexed distinct once, arriving.coming]
    congr 1
    funext id
    rw [news, Sending.news, List.filterMap_map]
    congr 1
    apply List.filterMap_congr
    intro sending member
    exact Switchboard.stateTold?_of_isUnderWay (underWay sending member) id

end Arriving

/-- After some steps the queue and the running tasks hold the commands that they sent besides
those before, in the order in which they end. -/
theorem arriving_after (hub : Ticket → Response) (steps : List Step) {run : Run}
    {arrived waiting : List Sending} (arriving : run.Arriving arrived waiting)
    (policy : run.desk.policy = .lastResponseWins) :
    ∃ came left, (run.after (steps.map (Step.operation hub))).Arriving came left ∧
      (came ++ left).Perm
        (arrived ++ waiting ++ Step.sendings hub run.now run.desk.issued steps) := by
  induction steps generalizing run arrived waiting with
  | nil => exact ⟨arrived, waiting, arriving, by simp [Step.sendings]⟩
  | cons step steps ih =>
      cases step with
      | send button =>
          obtain ⟨came, left, later, all⟩ := ih (arriving.sent policy hub button) policy
          refine ⟨came, left, later, all.trans ?_⟩
          rw [Step.sendings, List.append_assoc, List.append_assoc]
          refine List.Perm.append_left arrived ?_
          exact ((Sending.enter_perm _ _ _).append_right _).trans List.perm_middle.symm
      | pass milliseconds =>
          obtain ⟨came, left, later, all⟩ := ih (arriving.passed milliseconds) policy
          have now : (run.sleep milliseconds).now = run.now + milliseconds :=
            Nat.max_eq_right (Nat.le_add_right _ _)
          rw [List.append_assoc arrived, List.takeWhile_append_dropWhile, now] at all
          exact ⟨came, left, later, all⟩

/-- When a new command leaves the earlier ones under way, gathering answers every command that was
sent exactly once, and discards none.  They are answered in the order in which they end, and in
the order of sending where they end at the same time.  In the end nothing is under way, and each
device shows the state of the answer that names it and came last in this order, whatever device
the command was for; a device that no answer names shows the state that it had. -/
theorem last_answer_decides_the_state (limit : Nat) (devices : List Device)
    (distinct : (devices.map Device.id).Nodup) (hub : Ticket → Response) (steps : List Step) :
    let filled := (start .lastResponseWins limit).render devices
    let operations := steps.map (Step.operation hub)
    let sendings := Step.sendings hub 0 0 steps
    let answer (sending : Sending) : Except CommandFault Verdict :=
      (sending.outcome limit).answerAt (Board.ofDevices devices).place?
    (filled.journal operations).filterMap Note.issued? = sendings.map Sending.ticket ∧
    ∃ (final : Run) (arrivals : List Sending) (news : String → Option String),
      arrivals.Perm sendings ∧ arrivals.Pairwise (Sending.Before limit) ∧
      (filled.after operations).drain =
        (final, arrivals.map fun sending => (sending.ticket.serial, answer sending), false) ∧
      (∀ sending ∈ sendings, answer sending ≠ .ok .discarded) ∧
      final.desk.underWay = [] ∧
      final.desk.board = (Board.ofDevices devices).showing news ∧
      ∀ id, (∀ state, news id = some state ↔
          ∃ sending : Sending, sending.IsLastFor limit sendings id state) ∧
        (news id = none ↔
          ∀ sending ∈ sendings, (sending.outcome limit).stateOf? id = none) := by
  intro filled operations sendings answer
  have sends := Step.sends_operations hub steps
  have commanded := commanded_of_sends sends .lastResponseWins limit devices
  have board : (filled.after operations).desk.board = Board.ofDevices devices :=
    (sent_of_sends sends filled).board
  have sameLimit : (filled.after operations).limit = limit := limit_after filled operations
  have empty : filled.Arriving [] [] := by
    constructor <;> simp [filled, start, render, Switchboard.start, Switchboard.render]
  obtain ⟨came, left, arriving, all⟩ := arriving_after hub steps empty rfl
  obtain ⟨final, drained, idle, shows⟩ := arriving.drain commanded.untaken
    commanded.ledger.serials_nodup (board ▸ Board.indexed_ofDevices devices)
    (board ▸ Board.distinct_ofDevices distinct)
  have ordered := arriving.ordered
  rw [sameLimit] at ordered
  rw [sameLimit, board] at drained shows
  refine ⟨commanded.issued.trans (Step.map_ticket_sendings hub 0 0 steps).symm, final,
    came ++ left, Sending.news limit (came ++ left), all, ordered, drained,
    fun sending _ => Completion.answerAt_ne_discarded _ _, idle, shows, ?_⟩
  intro id
  have inside {sending : Sending} : sending ∈ came ++ left ↔ sending ∈ sendings := all.mem_iff
  constructor
  · intro state
    rw [Sending.news_eq_some_iff ordered]
    simp only [Sending.IsLastFor, inside]
  · rw [Sending.news_eq_none_iff]
    simp only [inside]

/-- The lamp's second answer comes before its first one, which comes with an answer for the fan's
command that names the lamp too; another command for the fan is never answered. -/
theorem last_lamp_answer_decides_its_state :
    let lamp (state : String) : Device := ⟨"lamp", "Lamp", "Light", state, ["on", "dim"]⟩
    let fan (state : String) : Device := ⟨"fan", "Fan", "Motor", state, ["spin", "stop", "turn"]⟩
    let door : Device := ⟨"door", "Door", "Lock", "shut", []⟩
    let hub (ticket : Ticket) : Response :=
      if ticket.command = "on" then ⟨some 8, .ok ⟨"lamp", "on"⟩⟩
      else if ticket.command = "dim" then ⟨some 3, .ok ⟨"lamp", "dim"⟩⟩
      else if ticket.command = "spin" then ⟨some 6, .ok ⟨"lamp", "lit"⟩⟩
      else if ticket.command = "turn" then ⟨some 4, .ok ⟨"fan", "turning"⟩⟩
      else ⟨none, .error (.timedOut none)⟩
    let steps : List Step := [.send ⟨"lamp", "on"⟩, .pass 2, .send ⟨"lamp", "dim"⟩,
      .send ⟨"fan", "spin"⟩, .send ⟨"fan", "stop"⟩, .send ⟨"fan", "turn"⟩]
    let filled := (start .lastResponseWins 10).render [lamp "off", fan "still", door]
    ([lamp "off", fan "still", door].map Device.id).Nodup ∧
    (filled.after (steps.map (Step.operation hub))).drain.1.desk.board =
      Board.ofDevices [lamp "lit", fan "turning", door] := by
  intro lamp fan door hub steps filled
  have distinct : ([lamp "off", fan "still", door].map Device.id).Nodup := by decide
  obtain ⟨-, final, arrivals, news, -, -, drained, -, -, shows, told⟩ :=
    last_answer_decides_the_state 10 [lamp "off", fan "still", door] distinct hub steps
  have board : (filled.after (steps.map (Step.operation hub))).drain.1.desk.board =
      final.desk.board :=
    congrArg (fun drained => drained.1.desk.board) drained
  have sendings : Step.sendings hub 0 0 steps = [
      ⟨⟨1, "lamp", "on"⟩, ⟨some 8, .ok ⟨"lamp", "on"⟩⟩, 0⟩,
      ⟨⟨2, "lamp", "dim"⟩, ⟨some 3, .ok ⟨"lamp", "dim"⟩⟩, 2⟩,
      ⟨⟨3, "fan", "spin"⟩, ⟨some 6, .ok ⟨"lamp", "lit"⟩⟩, 2⟩,
      ⟨⟨4, "fan", "stop"⟩, ⟨none, .error (.timedOut none)⟩, 2⟩,
      ⟨⟨5, "fan", "turn"⟩, ⟨some 4, .ok ⟨"fan", "turning"⟩⟩, 2⟩] := by
    simp [Step.sendings, steps, hub]
  rw [sendings] at told
  have lit : news "lamp" = some "lit" :=
    ((told "lamp").1 "lit").mpr ⟨⟨⟨3, "fan", "spin"⟩, ⟨some 6, .ok ⟨"lamp", "lit"⟩⟩, 2⟩, by
      simp [Sending.IsLastFor, Sending.outcome, Response.outcome, Completion.stateOf?,
        Sending.Before, Sending.finish]⟩
  have turning : news "fan" = some "turning" :=
    ((told "fan").1 "turning").mpr ⟨⟨⟨5, "fan", "turn"⟩, ⟨some 4, .ok ⟨"fan", "turning"⟩⟩, 2⟩, by
      simp [Sending.IsLastFor, Sending.outcome, Response.outcome, Completion.stateOf?]⟩
  have silent : news "door" = none :=
    (told "door").2.mpr (by
      simp [Sending.outcome, Response.outcome, Completion.stateOf?])
  refine ⟨distinct, ?_⟩
  rw [board, shows]
  simp [Board.ofDevices, Board.rowsAfter, Board.enterPlaces, Board.showing, Board.Row.showing,
    Board.DeviceRow.ofDevice, lamp, fan, door, lit, turning, silent]

end Run

end DevicePanel
