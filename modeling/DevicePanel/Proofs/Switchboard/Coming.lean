import DevicePanel.Switchboard.Run
import Mathlib.Data.List.Perm.Basic

/-!
# The completions that are still to come

The completions in the queue come first, then those of the running tasks in the order in which
they end.  Time moves completions from the tasks to the queue and leaves this order as it is,
so waiting answers the first completion that is to come, and blocks when there is none.
-/

namespace DevicePanel

namespace Run

/-- The completions that are still to come, in their order. -/
def coming (run : Run) : List Completion := run.queue ++ run.tasks.map Task.completion

/-- Nothing but the background, the clock and the queue differs. -/
structure Quiet (run later : Run) : Prop where
  desk : later.desk = run.desk
  limit : later.limit = run.limit
  events : later.events = run.events

@[simp]
theorem coming_advanceTo (run : Run) (time : Nat) :
    (run.advanceTo time).coming = run.coming := by
  have parts := congrArg (List.map Task.completion)
    (List.takeWhile_append_dropWhile (p := fun task : Task => decide (task.finish ≤ time))
      (l := run.tasks))
  rw [List.map_append] at parts
  simp only [coming, advanceTo, List.append_assoc, parts]

@[simp]
theorem coming_apply (run : Run) (completion : Completion) :
    (run.apply completion).1.coming = run.coming :=
  rfl

/-- What waiting can answer: nothing when nothing is under way or the queue was handed out,
else the first completion that is to come, and it blocks when none is. -/
theorem next_cases (run : Run) :
    ((run.desk.underWay = [] ∨ run.taken = true) ∧ run.next = (.nothing, run)) ∨
    (run.desk.underWay ≠ [] ∧ run.taken = false ∧ run.coming = [] ∧
      run.next = (.blocks, run)) ∨
    (run.desk.underWay ≠ [] ∧ run.taken = false ∧ ∃ completion later,
      run.coming = completion :: later.coming ∧ run.next = (.completion completion, later) ∧
      run.Quiet later ∧ later.taken = false) := by
  unfold next
  by_cases idle : (run.desk.underWay.isEmpty || run.taken) = true
  · left
    rw [if_pos idle]
    simpa [List.isEmpty_iff] using idle
  · right
    rw [if_neg idle]
    obtain ⟨underWay, taken⟩ : run.desk.underWay ≠ [] ∧ run.taken = false := by
      simpa [List.isEmpty_iff] using idle
    cases queued : run.queue with
    | cons first others =>
        right
        refine ⟨underWay, taken, first, { run with queue := others }, ?_, rfl,
          ⟨rfl, rfl, rfl⟩, taken⟩
        simp [coming, queued]
    | nil =>
        cases running : run.tasks with
        | nil =>
            left
            exact ⟨underWay, taken, by simp [coming, queued, running], rfl⟩
        | cons task tasks =>
            right
            -- The first task ends at this time, so the queue is filled.
            have same := coming_advanceTo run task.finish
            have filled : (run.advanceTo task.finish).queue =
                task.completion :: (tasks.takeWhile fun other =>
                  decide (other.finish ≤ task.finish)).map Task.completion := by
              simp [advanceTo, queued, running]
            simp only [filled]
            refine ⟨underWay, taken, task.completion, _, ?_, rfl, ⟨rfl, rfl, rfl⟩, taken⟩
            rw [← same]
            simp [coming, filled]

/-- With a ticket under way, waiting receives the first completion that is to come. -/
theorem next_of_coming_cons {run : Run} {ticket : Ticket} {first : Completion}
    {rest : List Completion} (underWay : ticket ∈ run.desk.underWay)
    (untaken : run.taken = false) (coming : run.coming = first :: rest) :
    ∃ later, run.next = (.completion first, later) ∧ run.Quiet later ∧ later.taken = false ∧
      later.coming = rest := by
  obtain ⟨empty | taken, -⟩ | ⟨-, -, none, -⟩ |
    ⟨-, -, head, later, parts, received, quiet, laterUntaken⟩ := run.next_cases
  · simp [empty] at underWay
  · simp [taken] at untaken
  · simp [none] at coming
  · obtain ⟨rfl, tail⟩ := List.cons.inj (parts.symm.trans coming)
    exact ⟨later, received, quiet, laterUntaken, tail⟩

/-- With a ticket under way, waiting blocks when nothing is to come. -/
theorem next_of_coming_nil {run : Run} {ticket : Ticket} (underWay : ticket ∈ run.desk.underWay)
    (untaken : run.taken = false) (coming : run.coming = []) : run.next = (.blocks, run) := by
  obtain ⟨empty | taken, -⟩ | ⟨-, -, -, blocked⟩ | ⟨-, -, head, later, parts, -⟩ :=
    run.next_cases
  · simp [empty] at underWay
  · simp [taken] at untaken
  · exact blocked
  · simp [coming] at parts

end Run

end DevicePanel
