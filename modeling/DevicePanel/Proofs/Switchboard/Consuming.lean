import DevicePanel.Proofs.Switchboard.Alone

/-!
# Two ways of consuming completions

Whoever waits for the next completion is given one as long as a ticket is under way; whoever was
handed the queue receives all that is there.  So the first may leave completions in the queue when
nothing is under way any more, and meets them later, among those of newer commands.  Their tickets
have gone, and what has gone never comes back: the queues differ, but by stale completions only,
and the two owners see the same board, the same tickets under way and the same events.
-/

namespace DevicePanel

/-- The moves that take from the queue or apply what was taken. -/
def Move.consumes : Move → Bool
  | .apply _ | .next | .receive | .take => true
  | _ => false

/-- What the owner of a switchboard does at a time: one move, or the completions that wait are
consumed. -/
inductive Stage where
  | move (move : Move)
  | consume

namespace Run

/-- Wait for the next completion and apply it, as long as one is ready and waiting gives it. -/
def consumeReady (run : Run) : Run × List Note :=
  if run.queue.isEmpty then (run, [])
  else
    match _received : run.next with
    | (.completion completion, later) =>
        let (final, others) := consumeReady (later.apply completion).1
        (final, .applied completion (later.apply completion).2 :: others)
    | (_, later) => (later, [])
termination_by run.backlog
decreasing_by
  rw [backlog_apply]
  have := backlog_next _received
  omega

/-- Receive from the queue that was handed out, and apply, until the queue is empty. -/
def consumeHandedOut (run : Run) : Run × List Note :=
  match _received : run.receive with
  | (later, some completion) =>
      let (final, others) := consumeHandedOut (later.apply completion).1
      (final, .applied completion (later.apply completion).2 :: others)
  | (later, none) => (later, [])
termination_by run.queue.length
decreasing_by
  unfold receive at _received
  split at _received
  · split at _received
    · simp at _received
    · rename_i first others queued
      obtain ⟨rfl, -⟩ := Prod.mk.inj _received
      simp [queued, apply]
  · simp at _received

/-- The run after some stages, and what its owner applied, where the owner consumes in this way. -/
def follow (consume : Run → Run × List Note) : Run → List Stage → Run × List Note
  | run, [] => (run, [])
  | run, .move move :: stages => follow consume (run.make move) stages
  | run, .consume :: stages =>
      let (final, others) := follow consume (consume run).1 stages
      (final, (consume run).2 ++ others)

/-! ## Another queue -/

/-- The same run with another queue, in the hands of its owner or not. -/
def holding (run : Run) (queue : List Completion) (taken : Bool) : Run :=
  { run with queue, taken }

@[simp]
theorem desk_holding (run : Run) (queue : List Completion) (taken : Bool) :
    (run.holding queue taken).desk = run.desk :=
  rfl

/-- What a completion does has nothing to do with the queue. -/
@[simp]
theorem apply_holding (run : Run) (queue : List Completion) (taken : Bool)
    (completion : Completion) :
    (run.holding queue taken).apply completion =
      ((run.apply completion).1.holding queue taken, (run.apply completion).2) :=
  rfl

/-- What is told when completions are applied one after the other. -/
def applications : Run → List Completion → List Note
  | _, [] => []
  | run, completion :: completions =>
      .applied completion (run.apply completion).2 ::
        (run.apply completion).1.applications completions

theorem issued_applyAll (run : Run) (completions : List Completion) :
    (run.applyAll completions).desk.issued = run.desk.issued := by
  induction completions generalizing run with
  | nil => rfl
  | cons first completions ih =>
      exact (ih (run.apply first).1).trans (Switchboard.issued_apply run.desk first)

/-- Completions whose tickets have gone are discarded. -/
theorem applications_of_gone {run : Run} {stale : List Completion}
    (gone : ∀ completion ∈ stale, run.desk.isUnderWay completion.serial = false)
    (completions : List Completion) :
    (run.applications (stale ++ completions)).filter Note.closes =
      (run.applications completions).filter Note.closes := by
  induction stale with
  | nil => rfl
  | cons first stale ih =>
      have discarded := apply_of_not_isUnderWay (gone first (by simp))
      rw [List.cons_append, applications, discarded,
        List.filter_cons_of_neg (by simp [Note.closes])]
      exact ih fun completion member => gone completion (by simp [member])

/-! ## What consuming comes to -/

/-- While a ticket is under way, waiting gives the first completion of the queue. -/
theorem consumeReady_of_cons {run : Run} {first : Completion} {others : List Completion}
    (busy : run.desk.underWay ≠ []) :
    (run.holding (first :: others) false).consumeReady =
      (((run.apply first).1.holding others false).consumeReady.1,
        .applied first (run.apply first).2 ::
          ((run.apply first).1.holding others false).consumeReady.2) := by
  have received : (run.holding (first :: others) false).next =
      (.completion first, run.holding others false) := by
    simp [next, holding, busy]
  rw [consumeReady, if_neg (by simp [holding])]
  split
  · rename_i again
    simp only [received, Prod.mk.injEq, Next.completion.injEq] at again
    obtain ⟨rfl, rfl⟩ := again
    rfl
  · rename_i none again
    rw [received] at again
    exact absurd (Prod.mk.inj again).1.symm (none first)

theorem consumeReady_of_idle {run : Run} (idle : run.desk.underWay = []) :
    run.consumeReady = (run, []) := by
  have nothing : run.next = (.nothing, run) := by simp [next, idle]
  rw [consumeReady]
  split
  · rfl
  · split
    · rename_i again
      simp [nothing] at again
    · rename_i again
      rw [nothing] at again
      rw [(Prod.mk.inj again).2]

/-- Consuming what is ready comes to applying the whole queue; what it leaves there belongs to no
ticket under way. -/
theorem consumeReady_eq (run : Run) (queue : List Completion) :
    ∃ left, (run.holding queue false).consumeReady.1 = (run.applyAll queue).holding left false ∧
      (∀ completion ∈ left, completion ∈ queue ∧
        (run.applyAll queue).desk.isUnderWay completion.serial = false) ∧
      (run.holding queue false).consumeReady.2.filter Note.closes =
        (run.applications queue).filter Note.closes := by
  induction queue generalizing run with
  | nil =>
      have nothing : (run.holding [] false).consumeReady = (run.holding [] false, []) := by
        rw [consumeReady]
        rfl
      exact ⟨[], by rw [nothing]; rfl, by simp, by rw [nothing]; rfl⟩
  | cons first others ih =>
      by_cases idle : run.desk.underWay = []
      · have gone : ∀ completion ∈ first :: others,
            run.desk.isUnderWay completion.serial = false := by
          simp [Switchboard.isUnderWay, idle]
        have discarded := applications_of_gone gone []
        rw [List.append_nil] at discarded
        rw [consumeReady_of_idle (by simpa using idle), applyAll_of_not_isUnderWay gone, discarded]
        exact ⟨first :: others, rfl, fun completion member => ⟨member, gone completion member⟩, rfl⟩
      · obtain ⟨left, later, stale, told⟩ := ih (run.apply first).1
        rw [consumeReady_of_cons idle]
        refine ⟨left, later, ?_, ?_⟩
        · intro completion member
          obtain ⟨inside, gone⟩ := stale completion member
          exact ⟨List.mem_cons_of_mem first inside, gone⟩
        · rw [applications, List.filter_cons, List.filter_cons, told]

/-- Whoever was handed the queue applies all of it. -/
theorem consumeHandedOut_eq (run : Run) (queue : List Completion) :
    (run.holding queue true).consumeHandedOut =
      ((run.applyAll queue).holding [] true, run.applications queue) := by
  induction queue generalizing run with
  | nil =>
      have nothing : (run.holding [] true).receive = (run.holding [] true, none) := rfl
      rw [consumeHandedOut]
      split
      · rename_i again
        simp [nothing] at again
      · rename_i again
        rw [nothing] at again
        rw [← (Prod.mk.inj again).1]
        rfl
  | cons first others ih =>
      have received : (run.holding (first :: others) true).receive =
          (run.holding others true, some first) := rfl
      rw [consumeHandedOut]
      split
      · rename_i again
        rw [received] at again
        obtain ⟨rfl, same⟩ := Prod.mk.inj again
        obtain rfl := Option.some.inj same
        rw [apply_holding, ih]
        rfl
      · rename_i again
        simp [received] at again

/-! ## Two runs side by side -/

/-- The notes of a run balance, and its completions are where they belong. -/
def Sound (run : Run) : Prop := ∃ notes, run.Ledger notes ∧ run.Placed notes

theorem Sound.make {run : Run} (sound : run.Sound) (move : Move) : (run.make move).Sound := by
  obtain ⟨notes, ledger, placed⟩ := sound
  exact ⟨notes ++ run.notes move, ledger.make move, placed.make ledger move⟩

theorem Sound.consumeReady {run : Run} (sound : run.Sound) : run.consumeReady.1.Sound := by
  fun_induction Run.consumeReady run with
  | case1 run empty => exact sound
  | case2 run queued completion later received final others consumed ih =>
      have taken := sound.make .next
      rw [Run.make, received] at taken
      have done := ih (taken.make (.apply completion))
      rwa [consumed] at done
  | case3 run queued none later stopped received =>
      have taken := sound.make .next
      rwa [Run.make, received] at taken

/-- The two runs differ in their queues alone: the one that waits has stale completions in front,
whose tickets have gone. -/
def Beside (waiting handed : Run) : Prop :=
  ∃ (run : Run) (stale queue : List Completion), waiting = run.holding (stale ++ queue) false ∧
    handed = run.holding queue true ∧ ∀ completion ∈ stale, run.Gone completion.serial

/-- Apart from consuming, a move adds to the queue and does not look at it. -/
theorem make_holding (run : Run) {move : Move} (apart : move.consumes = false) :
    ∃ added, ∀ queue taken,
      (run.holding queue taken).make move = (run.make move).holding (queue ++ added) taken := by
  have nothing (same : ∀ queue taken,
      (run.holding queue taken).make move = (run.make move).holding queue taken) :
      ∃ added, ∀ queue taken, (run.holding queue taken).make move =
        (run.make move).holding (queue ++ added) taken :=
    ⟨[], fun queue taken => by rw [List.append_nil]; exact same queue taken⟩
  cases move with
  | render devices => exact nothing fun queue taken => rfl
  | load source => exact nothing fun queue taken => rfl
  | dispatch respond device command => exact nothing fun queue taken => rfl
  | activate respond row index =>
      apply nothing
      intro queue taken
      simp only [make, activate, desk_holding]
      cases run.desk.button row index <;> rfl
  | cancelAll => exact nothing fun queue taken => rfl
  | sleep milliseconds =>
      exact ⟨(run.tasks.takeWhile fun task =>
        task.finish ≤ run.now + milliseconds).map Task.completion, fun queue taken => rfl⟩
  | finish serial =>
      exact ⟨(run.tasks.filter fun task =>
        task.completion.serial == serial).map Task.completion, fun queue taken => rfl⟩
  | straggle completion =>
      by_cases gone : run.Gone completion.serial
      · refine ⟨[completion], fun queue taken => ?_⟩
        have stillGone : (run.holding queue taken).Gone completion.serial := gone
        simp only [make, straggle, if_pos gone, if_pos stillGone]
        rfl
      · apply nothing
        intro queue taken
        have stillNot : ¬ (run.holding queue taken).Gone completion.serial := gone
        simp only [make, straggle, if_neg gone, if_neg stillNot]
  | apply completion => simp [Move.consumes] at apart
  | next => simp [Move.consumes] at apart
  | receive => simp [Move.consumes] at apart
  | take => simp [Move.consumes] at apart

theorem Beside.make {waiting handed : Run} (beside : waiting.Beside handed) {move : Move}
    (apart : move.consumes = false) : (waiting.make move).Beside (handed.make move) := by
  obtain ⟨run, stale, queue, rfl, rfl, gone⟩ := beside
  obtain ⟨added, made⟩ := run.make_holding apart
  refine ⟨run.make move, stale, queue ++ added, ?_, made queue true, ?_⟩
  · rw [made, List.append_assoc]
  · exact fun completion member => (gone_after (gone completion member) [.once move]).1

/-- Consuming keeps two such runs side by side, and what is answered to is answered to alike. -/
theorem Beside.consume {waiting handed : Run} (beside : waiting.Beside handed)
    (sound : waiting.Sound) :
    waiting.consumeReady.1.Beside handed.consumeHandedOut.1 ∧
      handed.consumeHandedOut.2.filter Note.closes =
        waiting.consumeReady.2.filter Note.closes := by
  obtain ⟨run, stale, queue, rfl, rfl, gone⟩ := beside
  have staleGone : ∀ completion ∈ stale, run.desk.isUnderWay completion.serial = false :=
    fun completion member => (gone completion member).2
  have skipped : run.applyAll (stale ++ queue) = run.applyAll queue := by
    have front := applyAll_of_not_isUnderWay staleGone
    rw [applyAll, List.foldl_append]
    exact congrArg (fun run : Run => run.applyAll queue) front
  obtain ⟨left, later, leftGone, told⟩ := run.consumeReady_eq (stale ++ queue)
  rw [skipped] at later leftGone
  rw [consumeHandedOut_eq, later, told, applications_of_gone staleGone]
  refine ⟨⟨run.applyAll queue, left, [], ?_, rfl, ?_⟩, rfl⟩
  · rw [List.append_nil]
  · intro completion member
    obtain ⟨inside, ended⟩ := leftGone completion member
    obtain ⟨notes, -, placed⟩ := sound
    have coming : completion ∈ (run.holding (stale ++ queue) false).coming :=
      List.mem_append_left _ inside
    have bound := placed.bounded completion (List.mem_append_left _ coming)
    exact ⟨(issued_applyAll run queue).symm ▸ bound, ended⟩

theorem Beside.follow {waiting handed : Run} (beside : waiting.Beside handed)
    (sound : waiting.Sound) {stages : List Stage}
    (apart : ∀ move, .move move ∈ stages → move.consumes = false) :
    (waiting.follow consumeReady stages).1.Beside (handed.follow consumeHandedOut stages).1 ∧
      (handed.follow consumeHandedOut stages).2.filter Note.closes =
        (waiting.follow consumeReady stages).2.filter Note.closes := by
  induction stages generalizing waiting handed with
  | nil => exact ⟨beside, rfl⟩
  | cons stage stages ih =>
      have others : ∀ move, .move move ∈ stages → move.consumes = false :=
        fun move member => apart move (List.mem_cons_of_mem stage member)
      cases stage with
      | move move =>
          have kept := beside.make (apart move List.mem_cons_self)
          exact ih kept (sound.make move) others
      | consume =>
          obtain ⟨kept, same⟩ := beside.consume sound
          obtain ⟨final, later⟩ := ih kept sound.consumeReady others
          refine ⟨final, ?_⟩
          simp only [Run.follow, List.filter_append, same, later]

/-- Boards are filled, commands are sent, pressed and called off, time passes and tasks end
in any order, and now and then the completions that wait are consumed: by waiting for the next one
as long as one is ready, or by emptying the queue that was handed out at the start.  At every
moment both owners have the same board, the same tickets under way and the same events, and have
applied the same completions with the same answers but for what was discarded.  In the queue of
the first there may be more, but only completions whose tickets have gone. -/
theorem both_ways_of_consuming_agree (policy : OverlapPolicy) (limit : Nat)
    (stages : List Stage) (apart : ∀ move, .move move ∈ stages → move.consumes = false) :
    let waiting := (start policy limit).follow consumeReady stages
    let handed := (start policy limit).take.1.follow consumeHandedOut stages
    handed.1.desk.board = waiting.1.desk.board ∧
    handed.1.desk.underWay = waiting.1.desk.underWay ∧
    handed.1.events = waiting.1.events ∧
    handed.2.filter Note.closes = waiting.2.filter Note.closes ∧
    ∃ stale, waiting.1.queue = stale ++ handed.1.queue ∧
      ∀ completion ∈ stale, waiting.1.Gone completion.serial := by
  intro waiting handed
  have atFirst : (start policy limit).Beside (start policy limit).take.1 :=
    ⟨start policy limit, [], [], rfl, rfl, by simp⟩
  have sound : (start policy limit).Sound :=
    ⟨[], ledger_start policy limit, placed_after policy limit []⟩
  obtain ⟨⟨run, stale, queue, waits, holds, gone⟩, answered⟩ := atFirst.follow sound apart
  have waitingRun : waiting.1 = run.holding (stale ++ queue) false := waits
  have handedRun : handed.1 = run.holding queue true := holds
  rw [waitingRun, handedRun]
  exact ⟨rfl, rfl, rfl, answered, stale, rfl, gone⟩

/-- A command is called off when its completion already waits in the queue; who waits meets that
completion only among those of the next command. -/
theorem both_ways_of_consuming_dim_the_lamp :
    let answer (ticket : Ticket) : Response := ⟨some 3, .ok ⟨ticket.device, ticket.command⟩⟩
    let lamp (state : String) : Device := ⟨"lamp", "Lamp", "Light", state, ["on", "dim"]⟩
    let before : List Stage := [.move (.render [lamp "off"]), .move (.dispatch answer "lamp" "on"),
      .move (.sleep 5), .move .cancelAll, .consume]
    let stages : List Stage :=
      before ++ [.move (.dispatch answer "lamp" "dim"), .move (.sleep 5), .consume]
    let waiting := (start .supersede 10).follow consumeReady stages
    let handed := (start .supersede 10).take.1.follow consumeHandedOut stages
    (∀ move, .move move ∈ stages → move.consumes = false) ∧
    ((start .supersede 10).follow consumeReady before).1.queue.map Completion.serial = [1] ∧
    ((start .supersede 10).take.1.follow consumeHandedOut before).1.queue.map
      Completion.serial = [] ∧
    handed.1.desk.board = Board.ofDevices [lamp "dim"] ∧
    waiting.1.desk.board = Board.ofDevices [lamp "dim"] ∧
    handed.1.events = waiting.1.events ∧
    handed.2.filter Note.closes = waiting.2.filter Note.closes := by
  intro answer lamp before stages waiting handed
  have apart : ∀ move, .move move ∈ stages → move.consumes = false := by
    simp [stages, before, Move.consumes]
  obtain ⟨board, -, events, answered, -⟩ :=
    both_ways_of_consuming_agree .supersede 10 stages apart
  have left : ((start .supersede 10).follow consumeReady before).1.queue.map
      Completion.serial = [1] := by decide +kernel
  have emptied : ((start .supersede 10).take.1.follow consumeHandedOut before).1.queue.map
      Completion.serial = [] := by decide +kernel
  have shown : waiting.1.desk.board = Board.ofDevices [lamp "dim"] := by decide +kernel
  exact ⟨apart, left, emptied, board.trans shown, shown, events, answered⟩

end Run

end DevicePanel
