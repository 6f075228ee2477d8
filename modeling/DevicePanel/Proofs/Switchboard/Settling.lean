import DevicePanel.Proofs.Switchboard.Ledger

/-!
# Settling a ticket

The completion of a ticket under way is in exactly one place: its task is running, it waits in
the queue, or it was handed out and not applied.  So waiting for a ticket never misses its
completion: settling blocks only for a ticket whose completion was handed out before, and
otherwise applies what is to come up to the ticket's own completion and answers with it.
-/

namespace DevicePanel

/-- The completion of a ticket to which the hub responds like this: the hub's answer if it
comes within the limit, else the fault that none did. -/
def Response.outcome (response : Response) (ticket : Ticket) (limit : Nat) : Completion where
  serial := ticket.serial
  device := ticket.device
  command := ticket.command
  result :=
    if response.delay.any fun delay => delay ≤ limit then response.result
    else .error (.timedOut (some (min limit longestTold)))

theorem Task.completion_ofResponse (ticket : Ticket) (now limit : Nat) (response : Response) :
    (Task.ofResponse ticket now limit response).completion = response.outcome ticket limit := by
  unfold Task.ofResponse Response.outcome
  cases response.delay with
  | none => simp
  | some delay =>
      by_cases inTime : delay ≤ limit
      · simp [inTime]
      · simp [inTime]

namespace Run

theorem schedule_perm (task : Task) (tasks : List Task) :
    (schedule task tasks).Perm (task :: tasks) := by
  induction tasks with
  | nil => exact List.Perm.refl _
  | cons other tasks ih =>
      rw [schedule]
      split
      · exact List.Perm.refl _
      · exact (ih.cons other).trans (List.Perm.swap task other tasks)

/-! ## Where completions are -/

/-- The completions that were handed out. -/
def handedOut (notes : List Note) : List Completion := notes.filterMap Note.handedOut?

/-- Every ticket under way has its own completion in one place, and no completion is ahead of
the tickets that were issued. -/
structure Placed (run : Run) (notes : List Note) : Prop where
  bounded : ∀ completion ∈ run.coming ++ handedOut notes,
    completion.serial ≤ run.desk.issued
  once : ∀ ticket ∈ run.desk.underWay,
    ((run.coming ++ handedOut notes).map Completion.serial).count ticket.serial = 1
  own : ∀ ticket ∈ run.desk.underWay, ∀ completion ∈ run.coming,
    completion.serial = ticket.serial → ∃ response, Note.issued ticket response ∈ notes ∧
      completion = response.outcome ticket run.limit

theorem limit_turn {run later : Run} {more : List Note} (turn : run.Turn later more) :
    later.limit = run.limit := by
  cases turn with
  | sent respond device command => rfl
  | applied completion => rfl
  | calledOff => rfl
  | waited received stale quiet moved isStale => exact quiet.limit

/-- The completions to come but for those of the tasks that a new command calls off. -/
def leftComing (run : Run) (device : String) : List Completion :=
  run.queue ++ (run.tasks.filter fun task =>
    !(run.desk.replaced device).any fun ticket =>
      ticket.serial == task.completion.serial).map Task.completion

theorem leftComing_sublist (run : Run) (device : String) :
    (run.leftComing device).Sublist run.coming :=
  (List.filter_sublist.map _).append_left run.queue

/-- Sending a command adds its completion to those that are still to come. -/
theorem coming_dispatch_perm (run : Run) (respond : Ticket → Response)
    (device command : String) :
    (run.dispatch respond device command).1.coming.Perm
      ((respond (run.desk.nextTicket device command)).outcome
          (run.desk.nextTicket device command) run.limit :: run.leftComing device) := by
  have scheduled := (schedule_perm (.ofResponse (run.desk.nextTicket device command) run.now
    run.limit (respond (run.desk.nextTicket device command)))
    (run.tasks.filter fun task => !(run.desk.replaced device).any fun ticket =>
      ticket.serial == task.completion.serial)).map Task.completion
  rw [List.map_cons, Task.completion_ofResponse] at scheduled
  exact (scheduled.append_left run.queue).trans List.perm_middle

/-- Sending a command leaves the completions of the tickets that it does not replace. -/
theorem Ledger.count_leftComing {run : Run} {notes : List Note} (ledger : run.Ledger notes)
    {device : String} {ticket : Ticket} (underWay : ticket ∈ run.desk.underWay)
    (notReplaced : ticket ∉ run.desk.replaced device) :
    ((run.leftComing device).map Completion.serial).count ticket.serial =
      (run.coming.map Completion.serial).count ticket.serial := by
  have stays : ∀ task ∈ run.tasks, task.completion.serial = ticket.serial →
      (!(run.desk.replaced device).any fun other =>
        other.serial == task.completion.serial) = true := by
    intro task _ same
    rw [Bool.not_eq_true', List.any_eq_false]
    intro other replaced sameSerial
    have otherUnderWay := (Switchboard.mem_replaced_iff.mp replaced).2.1
    have equal := ledger.eq_of_serial_eq (ledger.underWay other otherUnderWay)
      (ledger.underWay ticket underWay) ((beq_iff_eq.mp sameSerial).trans same)
    exact notReplaced (equal ▸ replaced)
  simp only [leftComing, coming, List.map_append, List.map_map, List.count_append]
  congr 1
  simp only [List.count_eq_countP, List.countP_map, List.countP_filter]
  apply List.countP_congr
  intro task member
  simp only [Function.comp_apply, Bool.and_eq_true, beq_iff_eq]
  exact ⟨fun both => both.1, fun same => ⟨same, stays task member same⟩⟩

namespace Placed

variable {run : Run} {notes : List Note}

theorem sent (placed : run.Placed notes) (ledger : run.Ledger notes)
    (respond : Ticket → Response) (device command : String) :
    (run.dispatch respond device command).1.Placed
      (notes ++ run.sendingNotes respond device command) := by
  have handed : handedOut (notes ++ run.sendingNotes respond device command) =
      handedOut notes := by
    simp [handedOut, filterMap_sendingNotes, Note.handedOut?]
  have arrivals := run.coming_dispatch_perm respond device command
  have left := run.leftComing_sublist device
  have total : ((run.dispatch respond device command).1.coming ++
      handedOut (notes ++ run.sendingNotes respond device command)).Perm
      ((respond (run.desk.nextTicket device command)).outcome
        (run.desk.nextTicket device command) run.limit ::
        (run.leftComing device ++ handedOut notes)) := by
    rw [handed]
    exact arrivals.append_right (handedOut notes)
  constructor
  · intro completion member
    rcases List.mem_cons.mp (total.subset member) with rfl | before
    · exact Nat.le_refl _
    · exact Nat.le_succ_of_le (placed.bounded completion ((left.append_right _).subset before))
  · intro ticket member
    rw [(total.map Completion.serial).count_eq, List.map_cons, List.count_cons]
    rcases List.mem_append.mp member with kept | new
    · obtain ⟨underWay, notReplaced⟩ := Switchboard.mem_kept_iff.mp kept
      have other : run.desk.issued + 1 ≠ ticket.serial := by
        have := ledger.serial_le underWay
        omega
      have once := placed.once ticket underWay
      rw [List.map_append, List.count_append] at once ⊢
      rw [ledger.count_leftComing underWay notReplaced, once]
      simp [Response.outcome, Switchboard.nextTicket, other]
    · obtain rfl := List.mem_singleton.mp new
      have none : ((run.leftComing device ++ handedOut notes).map Completion.serial).count
          (run.desk.issued + 1) = 0 := by
        apply List.count_eq_zero_of_not_mem
        intro inside
        obtain ⟨completion, before, same⟩ := List.mem_map.mp inside
        have bound := placed.bounded completion ((left.append_right _).subset before)
        omega
      rw [none]
      simp [Response.outcome, Switchboard.nextTicket]
  · intro ticket member completion coming same
    rcases List.mem_append.mp member with kept | new
    · obtain ⟨underWay, notReplaced⟩ := Switchboard.mem_kept_iff.mp kept
      rcases List.mem_cons.mp (arrivals.subset coming) with rfl | before
      · have bound := ledger.serial_le underWay
        have : run.desk.issued + 1 = ticket.serial := same
        omega
      · obtain ⟨response, issued, own⟩ :=
          placed.own ticket underWay completion (left.subset before) same
        exact ⟨response, List.mem_append_left _ issued, own⟩
    · obtain rfl := List.mem_singleton.mp new
      rcases List.mem_cons.mp (arrivals.subset coming) with rfl | before
      · exact ⟨_, List.mem_append_right _ (List.mem_append_right _ (List.mem_singleton.mpr rfl)),
          rfl⟩
      · have bound := placed.bounded completion
          (List.mem_append_left _ (left.subset before))
        have : completion.serial = run.desk.issued + 1 := same
        omega

theorem applied (placed : run.Placed notes) (completion : Completion) :
    (run.apply completion).1.Placed
      (notes ++ [.applied completion (run.apply completion).2]) := by
  have handed : handedOut (notes ++ [.applied completion (run.apply completion).2]) =
      handedOut notes := by
    simp [handedOut, Note.handedOut?, List.filterMap_cons]
  constructor
  · rw [handed, coming_apply, desk_apply, Switchboard.issued_apply]
    exact placed.bounded
  · intro ticket member
    rw [handed]
    exact placed.once ticket (Switchboard.mem_underWay_of_apply member)
  · intro ticket member other coming same
    obtain ⟨response, issued, own⟩ :=
      placed.own ticket (Switchboard.mem_underWay_of_apply member) other coming same
    exact ⟨response, List.mem_append_left _ issued, own⟩

theorem calledOff (placed : run.Placed notes) :
    run.cancelAll.Placed (notes ++ run.desk.underWay.map Note.calledOff) := by
  have handed : handedOut (notes ++ run.desk.underWay.map Note.calledOff) =
      handedOut notes := by
    simp [handedOut, List.filterMap_map, Function.comp_def, Note.handedOut?]
  have left : run.cancelAll.coming.Sublist run.coming :=
    (List.filter_sublist.map _).append_left run.queue
  constructor
  · intro completion member
    rw [handed] at member
    exact placed.bounded completion ((left.append_right _).subset member)
  · simp [cancelAll, Switchboard.cancelAll]
  · simp [cancelAll, Switchboard.cancelAll]

theorem waited (placed : run.Placed notes) {later : Run} (received stale : List Completion)
    (quiet : run.Quiet later) (moved : (received ++ later.coming).Perm (stale ++ run.coming))
    (isStale : ∀ completion ∈ stale, run.Gone completion.serial) :
    later.Placed (notes ++ received.map Note.handedOut) := by
  have handed : handedOut (notes ++ received.map Note.handedOut) =
      handedOut notes ++ received := by
    simp [handedOut, List.filterMap_map, Function.comp_def, Note.handedOut?]
  have total : (later.coming ++ handedOut (notes ++ received.map Note.handedOut)).Perm
      (stale ++ (run.coming ++ handedOut notes)) := by
    rw [handed, ← List.append_assoc, ← List.append_assoc]
    refine List.perm_append_comm.trans ?_
    rw [← List.append_assoc]
    exact moved.append_right (handedOut notes)
  constructor
  · intro completion member
    rw [quiet.desk]
    rcases List.mem_append.mp (total.subset member) with late | before
    · exact (isStale completion late).1
    · exact placed.bounded completion before
  · intro ticket member
    rw [quiet.desk] at member
    have none : (stale.map Completion.serial).count ticket.serial = 0 := by
      apply List.count_eq_zero_of_not_mem
      intro inside
      obtain ⟨completion, late, same⟩ := List.mem_map.mp inside
      have gone := (isStale completion late).2
      rw [same, Switchboard.isUnderWay_of_mem member] at gone
      exact Bool.noConfusion gone
    rw [(total.map Completion.serial).count_eq, List.map_append, List.count_append, none,
      placed.once ticket member]
  · intro ticket member completion coming same
    rw [quiet.desk] at member
    rcases List.mem_append.mp (moved.subset (List.mem_append_right received coming)) with
      late | before
    · have gone := (isStale completion late).2
      rw [same, Switchboard.isUnderWay_of_mem member] at gone
      exact Bool.noConfusion gone
    · obtain ⟨response, issued, own⟩ := placed.own ticket member completion before same
      exact ⟨response, List.mem_append_left _ issued, quiet.limit ▸ own⟩

theorem turn (placed : run.Placed notes) (ledger : run.Ledger notes) {later : Run}
    {more : List Note} (turn : run.Turn later more) : later.Placed (notes ++ more) := by
  cases turn with
  | sent respond device command => exact placed.sent ledger respond device command
  | applied completion => exact placed.applied completion
  | calledOff => exact placed.calledOff
  | waited received stale quiet moved isStale =>
      exact placed.waited received stale quiet moved isStale

theorem make (placed : run.Placed notes) (ledger : run.Ledger notes) (move : Move) :
    (run.make move).Placed (notes ++ run.notes move) := by
  obtain ⟨-, board, made, told⟩ | ⟨-, turn⟩ := run.turn_make move
  · rw [made, told, List.append_nil]
    exact ⟨placed.bounded, placed.once, placed.own⟩
  · exact placed.turn ledger turn

end Placed

theorem placed_after (policy : OverlapPolicy) (limit : Nat) (operations : List Operation) :
    ((start policy limit).after operations).Placed
      ((start policy limit).journal operations) := by
  have atFirst : (start policy limit).Placed [] := by
    constructor <;> simp [start, Switchboard.start, coming, handedOut]
  refine (holds_after (fun run notes => run.Ledger notes ∧ run.Placed notes) ?_
    ⟨ledger_start policy limit, atFirst⟩ operations).2
  intro run notes move both
  obtain ⟨ledger, placed⟩ := both
  exact ⟨ledger.make move, placed.make ledger move⟩

theorem limit_after (run : Run) (operations : List Operation) :
    (run.after operations).limit = run.limit := by
  refine holds_after (fun later _ => later.limit = run.limit) ?_ rfl operations
  intro later notes move same
  obtain ⟨-, board, made, -⟩ | ⟨-, turn⟩ := later.turn_make move
  · rw [made]
    exact same
  · exact (limit_turn turn).trans same

/-! ## Waiting for a ticket -/

theorem settle_of_completion {run later : Run} {ticket : Ticket} {completion : Completion}
    (underWay : run.desk.isUnderWay ticket.serial = true)
    (received : run.next = (.completion completion, later)) :
    run.settle ticket =
      if completion.serial = ticket.serial then
        ((later.apply completion).1, .answer (later.apply completion).2)
      else (later.apply completion).1.settle ticket := by
  rw [settle, if_pos underWay]
  split
  · rename_i again
    simp [received] at again
  · rename_i again
    simp [received] at again
  · rename_i again
    simp only [received, Prod.mk.injEq, Next.completion.injEq] at again
    obtain ⟨rfl, rfl⟩ := again
    rfl

theorem settle_of_blocks {run later : Run} {ticket : Ticket}
    (underWay : run.desk.isUnderWay ticket.serial = true)
    (blocked : run.next = (.blocks, later)) : run.settle ticket = (later, .blocks) := by
  rw [settle, if_pos underWay]
  split
  · rename_i again
    simp [blocked] at again
  · rename_i again
    simp only [blocked, Prod.mk.injEq, true_and] at again
    rw [again]
  · rename_i again
    simp [blocked] at again

/-- Apply completions one after the other. -/
def applyAll (run : Run) (completions : List Completion) : Run :=
  completions.foldl (fun run completion => (run.apply completion).1) run

theorem Quiet.apply {run later : Run} (quiet : run.Quiet later) (completion : Completion) :
    (run.apply completion).1.Quiet (later.apply completion).1 ∧
      (later.apply completion).2 = (run.apply completion).2 := by
  refine ⟨⟨?_, quiet.limit, ?_⟩, ?_⟩
  · simp [quiet.desk]
  · simp [Run.apply, quiet.desk, quiet.events]
  · simp [Run.apply, quiet.desk]

theorem Quiet.applyAll {run later : Run} (quiet : run.Quiet later)
    (completions : List Completion) :
    (run.applyAll completions).Quiet (later.applyAll completions) := by
  induction completions generalizing run later with
  | nil => exact quiet
  | cons completion completions ih => exact ih (quiet.apply completion).1

/-- A ticket stays under way while completions of other tickets are applied. -/
theorem mem_underWay_apply {run : Run} {ticket : Ticket} (underWay : ticket ∈ run.desk.underWay)
    {completion : Completion} (other : completion.serial ≠ ticket.serial) :
    ticket ∈ (run.apply completion).1.desk.underWay := by
  rw [desk_apply, Switchboard.underWay_apply]
  exact List.mem_filter.mpr ⟨underWay, bne_iff_ne.mpr other.symm⟩

theorem mem_underWay_applyAll {run : Run} {ticket : Ticket}
    (underWay : ticket ∈ run.desk.underWay) {completions : List Completion}
    (others : ∀ completion ∈ completions, completion.serial ≠ ticket.serial) :
    ticket ∈ (run.applyAll completions).desk.underWay := by
  induction completions generalizing run with
  | nil => exact underWay
  | cons first completions ih =>
      exact ih (mem_underWay_apply underWay (others first (by simp)))
        fun completion member => others completion (by simp [member])

/-- Settling applies what is to come up to the ticket's own completion. -/
theorem settle_of_coming {run : Run} {ticket : Ticket} {before rest : List Completion}
    {own : Completion} (underWay : ticket ∈ run.desk.underWay) (untaken : run.taken = false)
    (coming : run.coming = before ++ own :: rest)
    (others : ∀ completion ∈ before, completion.serial ≠ ticket.serial)
    (same : own.serial = ticket.serial) :
    ∃ later, run.settle ticket = (later, .answer ((run.applyAll before).apply own).2) ∧
      ((run.applyAll before).apply own).1.Quiet later ∧ later.coming = rest := by
  have isUnderWay := Switchboard.isUnderWay_of_mem underWay
  induction before generalizing run with
  | nil =>
      obtain ⟨later, received, quiet, -, tail⟩ := next_of_coming_cons underWay untaken coming
      obtain ⟨applied, answered⟩ := quiet.apply own
      refine ⟨(later.apply own).1, ?_, applied, tail⟩
      rw [settle_of_completion isUnderWay received, if_pos same, answered]
      rfl
  | cons first before ih =>
      obtain ⟨later, received, quiet, laterUntaken, tail⟩ :=
        next_of_coming_cons underWay untaken coming
      have other := others first (by simp)
      have stays : ticket ∈ (later.apply first).1.desk.underWay :=
        mem_underWay_apply (quiet.desk ▸ underWay) other
      obtain ⟨last, settled, shown, left⟩ := ih stays laterUntaken tail
        (fun completion member => others completion (by simp [member]))
        (Switchboard.isUnderWay_of_mem stays)
      -- What was applied to the later run is what would have been applied to this one.
      have front := (quiet.apply first).1.applyAll before
      obtain ⟨applied, answered⟩ := front.apply own
      refine ⟨last, ?_, ?_, left⟩
      · rw [settle_of_completion isUnderWay received, if_neg other, settled, answered]
        rfl
      · exact ⟨shown.desk.trans applied.desk, shown.limit.trans applied.limit,
          shown.events.trans applied.events⟩

/-- Settling blocks when the ticket's completion is not to come. -/
theorem settle_blocks {run : Run} {ticket : Ticket} (underWay : ticket ∈ run.desk.underWay)
    (untaken : run.taken = false)
    (none : ∀ completion ∈ run.coming, completion.serial ≠ ticket.serial) :
    ∃ later, run.settle ticket = (later, .blocks) := by
  have isUnderWay := Switchboard.isUnderWay_of_mem underWay
  generalize expected : run.coming = completions at none
  induction completions generalizing run with
  | nil =>
      have blocked := next_of_coming_nil underWay untaken expected
      exact ⟨run, settle_of_blocks isUnderWay blocked⟩
  | cons first completions ih =>
      obtain ⟨later, received, quiet, laterUntaken, tail⟩ :=
        next_of_coming_cons underWay untaken expected
      have other := none first (by simp)
      have stays : ticket ∈ (later.apply first).1.desk.underWay :=
        mem_underWay_apply (quiet.desk ▸ underWay) other
      obtain ⟨last, settled⟩ := ih stays laterUntaken
        (Switchboard.isUnderWay_of_mem stays) tail
        (fun completion member => none completion (by simp [member]))
      exact ⟨last, by rw [settle_of_completion isUnderWay received, if_neg other, settled]⟩

/-- A completion that is to come for a ticket under way is its own and the only one. -/
theorem Placed.split_coming {run : Run} {notes : List Note} (placed : run.Placed notes)
    {ticket : Ticket} (underWay : ticket ∈ run.desk.underWay)
    (unseen : ticket.serial ∉ (handedOut notes).map Completion.serial) :
    ∃ response before rest, Note.issued ticket response ∈ notes ∧
      run.coming = before ++ response.outcome ticket run.limit :: rest ∧
      ∀ completion ∈ before, completion.serial ≠ ticket.serial := by
  have once := placed.once ticket underWay
  rw [List.map_append, List.count_append, List.count_eq_zero_of_not_mem unseen,
    Nat.add_zero] at once
  have expected : ticket.serial ∈ run.coming.map Completion.serial := by
    rw [← List.count_pos_iff, once]
    exact Nat.one_pos
  obtain ⟨completion, member, same⟩ := List.mem_map.mp expected
  obtain ⟨before, rest, parts⟩ := List.append_of_mem member
  obtain ⟨response, issued, own⟩ := placed.own ticket underWay completion member same
  refine ⟨response, before, rest, issued, own ▸ parts, ?_⟩
  intro other inside otherSame
  -- A second completion with this serial number would be counted too.
  have positive : 0 < (before.map Completion.serial).count ticket.serial :=
    List.count_pos_iff.mpr (otherSame ▸ List.mem_map_of_mem inside)
  rw [parts, List.map_append, List.count_append, List.map_cons, same, List.count_cons_self]
    at once
  omega

end Run

end DevicePanel
