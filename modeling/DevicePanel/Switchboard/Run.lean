import DevicePanel.Listing
import DevicePanel.Switchboard

/-!
# A switchboard at work

Commands run in the background: each has a task that ends at a certain time, counted in
milliseconds, and then leaves its completion in a queue.  Time only passes where an operation
waits.  A task that is called off before it ends leaves nothing.
-/

namespace DevicePanel

/-- How the hub treats one command: its answer, and after how many milliseconds it comes, if
it ever does. -/
structure Response where
  delay : Option Nat
  result : Except CommandFault StateUpdate
deriving Repr, Inhabited

/-- A command running in the background. -/
structure Task where
  finish : Nat
  completion : Completion
deriving Repr, Inhabited

/-- The longest limit, in milliseconds, that a fault tells. -/
def longestTold : Nat := 0xFFFFFFFFFFFFFFFF

namespace Task

/-- The task of a ticket sent at a time: the answer if it comes within the limit, else a fault
at the limit. -/
def ofResponse (ticket : Ticket) (now limit : Nat) (response : Response) : Task :=
  let completion (result : Except CommandFault StateUpdate) : Completion :=
    ⟨ticket.serial, ticket.device, ticket.command, result⟩
  let timedOut : Task :=
    ⟨now + limit, completion (.error (.timedOut (some (min limit longestTold))))⟩
  match response.delay with
  | none => timedOut
  | some delay => if delay ≤ limit then ⟨now + delay, completion response.result⟩ else timedOut

end Task

/-- A switchboard with its background. -/
structure Run where
  desk : Switchboard
  /-- How long a command may take, in milliseconds. -/
  limit : Nat
  now : Nat
  /-- The running tasks, in the order in which they end. -/
  tasks : List Task
  /-- The completions that wait, in the order in which they came. -/
  queue : List Completion
  /-- Whether the queue was handed out. -/
  taken : Bool
  /-- All events, in their order. -/
  events : List Event
deriving Inhabited

namespace Run

/-- A run that begins at time zero. -/
def start (policy : OverlapPolicy) (limit : Nat) : Run :=
  ⟨.start policy, limit, 0, [], [], false, []⟩

def schedule (task : Task) : List Task → List Task
  | [] => [task]
  | other :: tasks =>
      if task.finish < other.finish then task :: other :: tasks
      else other :: schedule task tasks

def advanceTo (run : Run) (time : Nat) : Run :=
  { run with
    now := max run.now time
    tasks := run.tasks.dropWhile fun task => task.finish ≤ time
    queue := run.queue ++
      (run.tasks.takeWhile fun task => task.finish ≤ time).map Task.completion }

def render (run : Run) (devices : List Device) : Run :=
  { run with desk := run.desk.render devices }

/-- Fill the board from what the hub answered. -/
def load (run : Run) (source : Except ListingFault (List Device)) :
    Run × Except ListingFault (List Device) :=
  let listing := Listing.ofSource source
  ({ run with desk := run.desk.load listing }, listing)

def dispatch (run : Run) (respond : Ticket → Response) (device command : String) : Run × Ticket :=
  let (desk, ticket, gone) := run.desk.dispatch device command
  let left := run.tasks.filter fun task =>
    !gone.any fun ticket => ticket.serial == task.completion.serial
  ({ run with
     desk
     tasks := schedule (.ofResponse ticket run.now run.limit (respond ticket)) left
     events := run.events ++ gone.map Switchboard.supersededEvent }, ticket)

/-- Press the button at a place. -/
def activate (run : Run) (respond : Ticket → Response) (row index : Nat) :
    Run × Except CommandFault Ticket :=
  match run.desk.button row index with
  | .error fault => (run, .error fault)
  | .ok button =>
      let (run, ticket) := run.dispatch respond button.device button.command
      (run, .ok ticket)

def apply (run : Run) (completion : Completion) : Run × Except CommandFault Verdict :=
  let applied := run.desk.apply completion
  ({ run with desk := applied.desk, events := run.events ++ applied.event.toList },
    applied.answer)

/-- What waiting for the next completion answers. -/
inductive Next where
  /-- Nothing is under way, or the queue was handed out. -/
  | nothing
  /-- No completion will ever come. -/
  | blocks
  | completion (value : Completion)
deriving Inhabited

/-- Wait for the next completion: the first of the queue, else those that end next. -/
def next (run : Run) : Next × Run :=
  if run.desk.underWay.isEmpty || run.taken then (.nothing, run)
  else
    match run.queue with
    | first :: others => (.completion first, { run with queue := others })
    | [] =>
        match run.tasks with
        | [] => (.blocks, run)
        | task :: _ =>
            let later := run.advanceTo task.finish
            match later.queue with
            | first :: others => (.completion first, { later with queue := others })
            | [] => (.blocks, later)

/-- The number of completions that are still to come. -/
def backlog (run : Run) : Nat := run.tasks.length + run.queue.length

theorem backlog_advanceTo (run : Run) (time : Nat) :
    (run.advanceTo time).backlog = run.backlog := by
  have parts := congrArg List.length
    (List.takeWhile_append_dropWhile (p := fun task : Task => decide (task.finish ≤ time))
      (l := run.tasks))
  simp only [List.length_append] at parts
  simp only [advanceTo, backlog, List.length_append, List.length_map]
  omega

/-- Each completion that is received was still to come. -/
theorem backlog_next {run later : Run} {completion : Completion}
    (received : run.next = (.completion completion, later)) :
    later.backlog + 1 = run.backlog := by
  unfold next at received
  split at received
  · simp at received
  · split at received
    · rename_i first others queued
      obtain ⟨-, rfl⟩ := Prod.mk.inj received
      simp [backlog, queued]
      omega
    · split at received
      · simp at received
      · rename_i task tasks running
        simp only at received
        split at received
        · rename_i first others queued
          obtain ⟨-, rfl⟩ := Prod.mk.inj received
          rw [← backlog_advanceTo run task.finish]
          simp [backlog, queued]
          omega
        · simp at received

theorem backlog_apply (run : Run) (completion : Completion) :
    (run.apply completion).1.backlog = run.backlog := rfl

/-- What waiting for a ticket answers. -/
inductive Settled where
  | answer (value : Except CommandFault Verdict)
  /-- No completion will ever come. -/
  | blocks
deriving Inhabited

/-- Wait until a ticket's completion comes, applying every completion on the way. -/
def settle (run : Run) (ticket : Ticket) : Run × Settled :=
  if run.desk.isUnderWay ticket.serial then
    match _received : run.next with
    | (.nothing, later) =>
        (later, .answer (.error (.superseded ticket.device ticket.command)))
    | (.blocks, later) => (later, .blocks)
    | (.completion completion, later) =>
        let (applied, answer) := later.apply completion
        if completion.serial = ticket.serial then (applied, .answer answer)
        else settle (later.apply completion).1 ticket
  else (run, .answer (.error (.superseded ticket.device ticket.command)))
termination_by run.backlog
decreasing_by
  rw [backlog_apply]
  have := backlog_next _received
  omega

/-- Apply completions as long as they come; the last item tells whether waiting blocks. -/
def drain (run : Run) : Run × List (Nat × Except CommandFault Verdict) × Bool :=
  match _received : run.next with
  | (.nothing, later) => (later, [], false)
  | (.blocks, later) => (later, [], true)
  | (.completion completion, later) =>
      let answer := (later.apply completion).2
      let (final, others, blocks) := drain (later.apply completion).1
      (final, (completion.serial, answer) :: others, blocks)
termination_by run.backlog
decreasing_by
  rw [backlog_apply]
  have := backlog_next _received
  omega

/-- Let a span of time pass. -/
def sleep (run : Run) (milliseconds : Nat) : Run := run.advanceTo (run.now + milliseconds)

/-- Call off every command under way. -/
def cancelAll (run : Run) : Run :=
  { run with
    desk := run.desk.cancelAll
    tasks := run.tasks.filter fun task =>
      !run.desk.isUnderWay task.completion.serial }

/-- Hand out the queue; only the first time. -/
def take (run : Run) : Run × Bool := ({ run with taken := true }, !run.taken)

/-- Receive from the queue that was handed out, without waiting. -/
def receive (run : Run) : Run × Option Completion :=
  if run.taken then
    match run.queue with
    | [] => (run, none)
    | first :: others => ({ run with queue := others }, some first)
  else (run, none)

end Run

end DevicePanel
