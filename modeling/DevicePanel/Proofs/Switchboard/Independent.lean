import DevicePanel.Proofs.Switchboard.Consuming

/-!
# Completions in any order

Completions of different tickets that name different devices have nothing to do with each other.
In whatever order they are applied, each is answered as if it came first, the same states are
written, the same tickets leave, and the same events are published.
-/

namespace DevicePanel

/-- The device that a completion names as the one that changed. -/
def Completion.named? (completion : Completion) : Option String :=
  match completion.result with
  | .ok update => some update.id
  | .error _ => none

theorem Event.named?_of_stateOf? {completion : Completion} {place? : String → Option Nat}
    {event : Event} {id : String}
    (published : Event.ofAnswer? completion (completion.answerAt place?) = some event)
    (told : (event.stateOf? id).isSome = true) : completion.named? = some id := by
  unfold Completion.answerAt at published
  unfold Completion.named?
  cases result : completion.result with
  | error fault =>
      simp only [result, Event.ofAnswer?, Option.some.injEq] at published
      simp [← published, Event.stateOf?] at told
  | ok update =>
      cases place : place? update.id with
      | none =>
          simp only [result, place, Event.ofAnswer?, Option.some.injEq] at published
          simp [← published, Event.stateOf?] at told
      | some here =>
          simp only [result, place, Event.ofAnswer?, Option.some.injEq] at published
          simp only [← published, Event.stateOf?, Option.isSome_ite] at told
          simp [told]

/-- Items of which something is read that have one name are no more than the name's items. -/
theorem length_filterMap_le_count {α β γ : Type} [DecidableEq γ] {items : List α}
    {read : α → Option β} {name : α → Option γ} {value : γ}
    (named : ∀ item ∈ items, (read item).isSome = true → name item = some value) :
    (items.filterMap read).length ≤ (items.filterMap name).count value := by
  induction items with
  | nil => simp
  | cons item items ih =>
      obtain ⟨first, others⟩ := List.forall_mem_cons.mp named
      have rest := ih others
      cases found : read item with
      | none =>
          rw [List.filterMap_cons_none found]
          have fewer := (List.sublist_cons_self item items).filterMap name
          exact Nat.le_trans rest (fewer.count_le value)
      | some _ =>
          rw [List.filterMap_cons_some found,
            List.filterMap_cons_some (first (by rw [found]; rfl)), List.length_cons,
            List.count_cons_self]
          omega

theorem eq_of_perm_of_length_le_one {α : Type} {first second : List α} (perm : first.Perm second)
    (few : second.length ≤ 1) : first = second := by
  match second with
  | [] => exact List.perm_nil.mp perm
  | [_] => exact List.perm_singleton.mp perm

namespace Board

/-- A board is left the same by events that tell the same states last. -/
theorem replay_congr {board : Board} (indexed : board.Indexed) {events others : List Event}
    (same : ∀ id, Event.lastState? events id = Event.lastState? others id) :
    board.replay events = board.replay others := by
  have rows : (board.replay events).rows = (board.replay others).rows := by
    apply List.ext_getElem?
    intro place
    cases stands : board.row? place with
    | none =>
        have outside : board.rows.length ≤ place := List.getElem?_eq_none_iff.mp stands
        rw [List.getElem?_eq_none_iff.mpr (by rwa [length_replay indexed]),
          List.getElem?_eq_none_iff.mpr (by rwa [length_replay indexed])]
    | some row =>
        cases row with
        | heading typeName =>
            exact (row?_replay_heading indexed events stands).trans
              (row?_replay_heading indexed others stands).symm
        | device row =>
            have shown := row?_replay_device indexed events stands
            rw [same] at shown
            exact shown.trans (row?_replay_device indexed others stands).symm
  have places := (places_replay indexed events).trans (places_replay indexed others).symm
  calc
    board.replay events = ⟨(board.replay events).rows, (board.replay events).places⟩ := rfl
    _ = ⟨(board.replay others).rows, (board.replay others).places⟩ := by rw [rows, places]

end Board

namespace Run

theorem play_map_apply (run : Run) (completions : List Completion) :
    run.play (completions.map Move.apply) = run.applyAll completions := by
  induction completions generalizing run with
  | nil => rfl
  | cons first completions ih => exact ih (run.apply first).1

theorem told_map_apply (run : Run) (completions : List Completion) :
    run.told (completions.map Move.apply) = run.applications completions := by
  induction completions generalizing run with
  | nil => rfl
  | cons first completions ih =>
      exact congrArg (Note.applied first (run.apply first).2 :: ·) (ih (run.apply first).1)

theorem applications_eq_zipWith (run : Run) (completions : List Completion) :
    run.applications completions = List.zipWith (fun completion answer =>
      Note.applied completion answer.2) completions (run.answers completions) := by
  induction completions generalizing run with
  | nil => rfl
  | cons first completions ih =>
      exact congrArg (Note.applied first (run.apply first).2 :: ·) (ih (run.apply first).1)

/-- Applying completions takes their tickets off and leaves the others. -/
theorem underWay_applyAll (run : Run) (completions : List Completion) :
    (run.applyAll completions).desk.underWay = run.desk.underWay.filter fun ticket =>
      decide (ticket.serial ∉ completions.map Completion.serial) := by
  induction completions generalizing run with
  | nil => simp [applyAll]
  | cons first completions ih =>
      have rest : run.applyAll (first :: completions) =
          (run.apply first).1.applyAll completions := rfl
      rw [rest, ih, desk_apply, Switchboard.underWay_apply, Switchboard.drop, List.filter_filter]
      apply List.filter_congr
      intro ticket _
      rw [Bool.eq_iff_iff, Bool.and_eq_true, decide_eq_true_eq, decide_eq_true_eq, bne_iff_ne,
        List.map_cons, List.mem_cons, not_or, and_comm]

theorem policy_applyAll (run : Run) (completions : List Completion) :
    (run.applyAll completions).desk.policy = run.desk.policy := by
  induction completions generalizing run with
  | nil => rfl
  | cons first completions ih =>
      exact (ih (run.apply first).1).trans (Switchboard.policy_apply run.desk first)

theorem atMostOnce_of_nodup {run : Run} {completions : List Completion}
    (distinct : (completions.map Completion.serial).Nodup) : run.AtMostOnce completions :=
  fun serial _ => List.nodup_iff_count_le_one.mp distinct serial

/-- The events of completions are those of each of them alone, and they tell what is written. -/
theorem events_applyAll {run : Run} (indexed : run.desk.board.Indexed)
    {completions : List Completion} (once : run.AtMostOnce completions) :
    let events := completions.filterMap fun completion => (run.desk.apply completion).event
    (run.applyAll completions).events = run.events ++ events ∧
      (run.applyAll completions).desk.board = run.desk.board.replay events := by
  intro events
  have keep : ∀ move ∈ completions.map Move.apply, move.fills = false := by simp [Move.fills]
  have told : (run.applications completions).filterMap Note.event? = events := by
    rw [applications_eq_zipWith, answers_eq_map indexed once, List.zipWith_map_right,
      List.zipWith_self, List.filterMap_map]
    apply List.filterMap_congr
    intro completion _
    exact (Switchboard.event_apply run.desk completion).symm
  obtain ⟨published, written⟩ := run.board_play keep
  rw [play_map_apply, told_map_apply, told] at published written
  exact ⟨published, written⟩

/-- At most one of the completions tells a state for an identifier, wherever it stands. -/
theorem lastState?_of_perm {run : Run} (indexed : run.desk.board.Indexed)
    {completions permuted : List Completion}
    (apart : (completions.filterMap Completion.named?).Nodup) (perm : permuted.Perm completions)
    (id : String) :
    Event.lastState? (permuted.filterMap fun completion => (run.desk.apply completion).event) id =
      Event.lastState?
        (completions.filterMap fun completion => (run.desk.apply completion).event) id := by
  have named : ∀ completion ∈ completions,
      ((run.desk.apply completion).event.bind (Event.stateOf? id)).isSome = true →
        completion.named? = some id := by
    intro completion _ told
    obtain ⟨state, told⟩ := Option.isSome_iff_exists.mp told
    obtain ⟨event, published, told⟩ := Option.bind_eq_some_iff.mp told
    rw [Switchboard.event_apply, Switchboard.answer_apply indexed] at published
    split at published
    · exact Event.named?_of_stateOf? published (by rw [told]; rfl)
    · cases published
  have few := Nat.le_trans (length_filterMap_le_count named)
    (List.nodup_iff_count_le_one.mp apart id)
  rw [Event.lastState?, Event.lastState?, List.filterMap_filterMap, List.filterMap_filterMap,
    eq_of_perm_of_length_le_one (perm.filterMap _) few]

/-- Completions of different tickets that name different devices can be applied in any order.  Each
is answered as it would be if it came first, and the board, the tickets under way and, up to their
order, the events that are published are always the same. -/
theorem independent_completions_commute (policy : OverlapPolicy) (limit : Nat)
    (operations : List Operation) {completions permuted : List Completion}
    (distinct : (completions.map Completion.serial).Nodup)
    (apart : (completions.filterMap Completion.named?).Nodup)
    (perm : permuted.Perm completions) :
    let run := (start policy limit).after operations
    (run.applyAll permuted).desk = (run.applyAll completions).desk ∧
    run.answers permuted = permuted.map (fun completion =>
      (completion.serial, (run.apply completion).2)) ∧
    ∃ events others, (run.applyAll completions).events = run.events ++ events ∧
      (run.applyAll permuted).events = run.events ++ others ∧ others.Perm events := by
  intro run
  have indexed : run.desk.board.Indexed := indexed_after policy limit operations
  have permutedDistinct : (permuted.map Completion.serial).Nodup :=
    (perm.map Completion.serial).nodup_iff.mpr distinct
  obtain ⟨published, written⟩ := events_applyAll indexed (atMostOnce_of_nodup distinct)
  obtain ⟨permutedPublished, permutedWritten⟩ :=
    events_applyAll indexed (atMostOnce_of_nodup permutedDistinct)
  have board : (run.applyAll permuted).desk.board = (run.applyAll completions).desk.board := by
    rw [permutedWritten, written]
    exact Board.replay_congr indexed (lastState?_of_perm indexed apart perm)
  have underWay :
      (run.applyAll permuted).desk.underWay = (run.applyAll completions).desk.underWay := by
    simp only [underWay_applyAll, (perm.map Completion.serial).mem_iff]
  refine ⟨?_, answers_eq_map indexed (atMostOnce_of_nodup permutedDistinct), _, _, published,
    permutedPublished, perm.filterMap _⟩
  calc
    (run.applyAll permuted).desk = ⟨(run.applyAll permuted).desk.board,
        (run.applyAll permuted).desk.policy, (run.applyAll permuted).desk.underWay,
        (run.applyAll permuted).desk.issued⟩ := rfl
    _ = ⟨(run.applyAll completions).desk.board, (run.applyAll completions).desk.policy,
        (run.applyAll completions).desk.underWay, (run.applyAll completions).desk.issued⟩ := by
      rw [board, underWay, policy_applyAll, policy_applyAll, issued_applyAll, issued_applyAll]

theorem lamp_and_stray_completions_commute :
    let answers : Ticket → Response := fun _ => ⟨none, .error (.timedOut none)⟩
    let operations : List Operation := [
      .once (.render [⟨"lamp", "Lamp", "Light", "off", ["on"]⟩,
        ⟨"fan", "Fan", "Motor", "still", []⟩]),
      .once (.dispatch answers "lamp" "on"), .once (.dispatch answers "fan" "spin"),
      .once (.dispatch answers "lamp" "dim")]
    let lamp : Completion := ⟨1, "lamp", "on", .ok ⟨"lamp", "on"⟩⟩
    let door : Completion := ⟨2, "fan", "spin", .ok ⟨"door", "open"⟩⟩
    let late : Completion := ⟨3, "lamp", "dim", .error (.timedOut none)⟩
    let stray : Completion := ⟨7, "fan", "spin", .ok ⟨"fan", "spins"⟩⟩
    let completions := [lamp, door, late, stray]
    let run := (start .lastResponseWins 10).after operations
    (completions.map Completion.serial).Nodup ∧
    (completions.filterMap Completion.named?).Nodup ∧
    completions.reverse.Perm completions ∧
    (run.applyAll completions.reverse).desk = (run.applyAll completions).desk ∧
    run.answers completions.reverse = [(7, .ok .discarded), (3, .error (.timedOut none)),
      (2, .error (.unknownDevice "door")), (1, .ok (.patched 1 ⟨"lamp", "on"⟩))] ∧
    (run.applyAll completions.reverse).events.Perm (run.applyAll completions).events := by
  intro answers operations lamp door late stray completions run
  have distinct : (completions.map Completion.serial).Nodup := by decide
  have apart : (completions.filterMap Completion.named?).Nodup := by decide
  have perm := List.reverse_perm completions
  obtain ⟨desk, answered, events, others, published, permutedPublished, same⟩ :=
    independent_completions_commute .lastResponseWins 10 operations distinct apart perm
  refine ⟨distinct, apart, perm, desk, answered.trans rfl, ?_⟩
  rw [published, permutedPublished]
  exact same.append_left _

end Run

end DevicePanel
