import DevicePanel.Dashboard.Relay
import DevicePanel.Proofs.Listing.Ties
import Mathlib.Data.List.Infix

/-!
# What the relay passes on

Completions are sent to the relay, events are published to it, and in between it does what is
next.  It begins with the listing of the devices.  Of the completions it passes on all, in the
order in which they were sent; of the reports those that it comes to before so many newer ones
were published as can be kept.  `Steps` says once what a step can do.
-/

namespace DevicePanel.Dashboard

def Action.completion? : Action → Option Completion
  | .completed completion => some completion
  | _ => none

def Action.report? : Action → Option Report
  | .observed event time => some ⟨event, time⟩
  | _ => none

/-- The action tells of a completion or a report. -/
def Action.came (action : Action) : Prop :=
  (∃ completion, action = .completed completion) ∨
    ∃ report : Report, action = .observed report.event report.time

@[simp]
theorem completion?_listing (source : Except ListingFault (List Device)) :
    (Relay.listing source).completion? = none := by
  unfold Relay.listing
  split <;> rfl

@[simp]
theorem report?_listing (source : Except ListingFault (List Device)) :
    (Relay.listing source).report? = none := by
  unfold Relay.listing
  split <;> rfl

namespace Relay

/-- What happens around a relay: something comes to it, or it does what is next. -/
inductive Act where
  | comes (input : Input)
  | steps

/-- The completions that are sent, until it is said that there are no more. -/
def sent : List Act → List Completion
  | [] => []
  | .comes (.completion value) :: acts => value :: sent acts
  | .comes .closeCompletions :: _ => []
  | _ :: acts => sent acts

/-- The reports that are published, until it is said that there are no more. -/
def published : List Act → List Report
  | [] => []
  | .comes (.report value) :: acts => value :: published acts
  | .comes .closeReports :: _ => []
  | _ :: acts => published acts

def act (relay : Relay) : Act → Relay
  | .comes input => relay.take input
  | .steps => relay.step.2

def Step.action? : Step → Option Action
  | .passes action => some action
  | _ => none

/-- The action that is passed on. -/
def passed? (relay : Relay) : Act → Option Action
  | .comes _ => none
  | .steps => relay.step.1.action?

def after : Relay → List Act → Relay
  | relay, [] => relay
  | relay, act :: acts => (relay.act act).after acts

/-- The actions that are passed on, in their order. -/
def passedOn : Relay → List Act → List Action
  | _, [] => []
  | relay, act :: acts => (relay.passed? act).toList ++ (relay.act act).passedOn acts

theorem after_append (relay : Relay) (first second : List Act) :
    relay.after (first ++ second) = (relay.after first).after second := by
  induction first generalizing relay with
  | nil => rfl
  | cons act acts ih => exact ih (relay.act act)

theorem passedOn_append (relay : Relay) (first second : List Act) :
    relay.passedOn (first ++ second) =
      relay.passedOn first ++ (relay.after first).passedOn second := by
  induction first generalizing relay with
  | nil => rfl
  | cons act acts ih => simp only [List.cons_append, passedOn, after, ih, List.append_assoc]

/-! ## What comes -/

/-- What comes is noted, and the rest stays as it is. -/
theorem take_keeps (relay : Relay) (input : Input) :
    (relay.take input).source = relay.source ∧ (relay.take input).listed = relay.listed ∧
    (relay.take input).finished = relay.finished ∧
    ((relay.take input).cancelled = true ↔ relay.cancelled = true ∨ input = .cancel) ∧
    ((relay.take input).reportsClosed = true ↔
      relay.reportsClosed = true ∨ input = .closeReports) := by
  cases input with
  | completion value => cases closed : relay.completionsClosed <;> simp [take, closed]
  | report value => cases closed : relay.reportsClosed <;> simp [take, closed]
  | _ => simp [take]

/-! ## Steps -/

/-- What a step can come to, and the relay after it. -/
inductive Steps (relay : Relay) : Step → Relay → Prop where
  | ended : relay.finished = true → Steps relay .ends relay
  | cancelled : relay.finished = false → relay.cancelled = true →
      Steps relay .ends { relay with finished := true }
  | lists : relay.finished = false → relay.cancelled = false → relay.listed = false →
      Steps relay (.passes (listing relay.source)) { relay with listed := true }
  | completes {completion : Completion} {others : List Completion} :
      relay.finished = false → relay.cancelled = false → relay.listed = true →
      relay.completions = completion :: others →
      Steps relay (.passes (.completed completion)) { relay with completions := others }
  /-- The oldest reports are lost, as many as there is no room for. -/
  | reports {lost others : List Report} {report : Report} :
      relay.finished = false → relay.cancelled = false → relay.listed = true →
      relay.completions = [] → relay.reports = lost ++ report :: others →
      lost.length = relay.reports.length - relay.capacity →
      Steps relay (.passes (.observed report.event report.time)) { relay with reports := others }
  | closed : relay.finished = false → relay.cancelled = false → relay.listed = true →
      relay.completions = [] → relay.reports.length ≤ relay.reports.length - relay.capacity →
      relay.reportsClosed = true → Steps relay .ends { relay with finished := true }
  | waits : relay.finished = false → relay.cancelled = false → relay.listed = true →
      relay.completions = [] → relay.reports.length ≤ relay.reports.length - relay.capacity →
      relay.reportsClosed = false → Steps relay .waits relay

theorem steps_step (relay : Relay) : relay.Steps relay.step.1 relay.step.2 := by
  unfold step
  split
  · next finished => exact .ended finished
  split
  · next finished cancelled => exact .cancelled (eq_false_of_ne_true finished) cancelled
  next finished cancelled =>
  rw [Bool.not_eq_true] at finished cancelled
  split
  · next unlisted => exact .lists finished cancelled (Bool.not_eq_true' _ ▸ unlisted)
  next listed =>
  rw [Bool.not_eq_true', Bool.not_eq_false] at listed
  split
  · next completion others waiting => exact .completes finished cancelled listed waiting
  next waiting =>
  split
  · next report others kept =>
      have parts := List.take_append_drop (relay.reports.length - relay.capacity) relay.reports
      have seen : relay.reports.drop (relay.reports.length - relay.capacity) =
          report :: others := kept
      rw [seen] at parts
      exact .reports finished cancelled listed waiting parts.symm (by simp)
  · next kept =>
      have none : relay.reports.length ≤ relay.reports.length - relay.capacity :=
        List.drop_eq_nil_iff.mp kept
      split
      · next closed => exact .closed finished cancelled listed waiting none closed
      · next goesOn =>
          exact .waits finished cancelled listed waiting none (eq_false_of_ne_true goesOn)

/-! ## The listing -/

/-- An act passes on nothing, or the listing if that was not yet done, or else something that came
to the relay. -/
theorem listing_act (relay : Relay) (act : Act) :
    (relay.act act).source = relay.source ∧
    ((relay.passed? act = none ∧ (relay.act act).listed = relay.listed) ∨
      (relay.listed = false ∧ relay.passed? act = some (listing relay.source) ∧
        (relay.act act).listed = true) ∨
      (relay.listed = true ∧ (relay.act act).listed = true ∧
        ∃ action, relay.passed? act = some action ∧ action.came)) := by
  cases act with
  | comes input =>
      obtain ⟨source, listed, -⟩ := relay.take_keeps input
      exact ⟨source, Or.inl ⟨rfl, listed⟩⟩
  | steps =>
      have stepped := relay.steps_step
      simp only [Relay.act, passed?]
      generalize relay.step.1 = step, relay.step.2 = later at stepped
      cases stepped with
      | lists finished cancelled unlisted => simp [Step.action?, unlisted]
      | completes finished cancelled listed waiting =>
          exact ⟨rfl, Or.inr (Or.inr ⟨listed, listed, _, rfl, Or.inl ⟨_, rfl⟩⟩)⟩
      | reports finished cancelled listed idle waiting length =>
          exact ⟨rfl, Or.inr (Or.inr ⟨listed, listed, _, rfl, Or.inr ⟨_, rfl⟩⟩)⟩
      | _ => exact ⟨rfl, Or.inl ⟨rfl, rfl⟩⟩

theorem passedOn_of_listed {relay : Relay} (listed : relay.listed = true) (acts : List Act) :
    ∀ action ∈ relay.passedOn acts, action.came := by
  induction acts generalizing relay with
  | nil => simp [passedOn]
  | cons act acts ih =>
      rw [passedOn]
      obtain ⟨-, ⟨nothing, same⟩ | ⟨unlisted, -, -⟩ | ⟨-, still, action, passed, came⟩⟩ :=
        relay.listing_act act
      · rw [nothing]
        exact ih (same.trans listed)
      · rw [listed] at unlisted
        exact Bool.noConfusion unlisted
      · rw [passed]
        exact List.forall_mem_cons.mpr ⟨came, ih still⟩

/-- The listing is passed on first, and once. -/
theorem passedOn_of_unlisted {relay : Relay} (unlisted : relay.listed = false)
    (acts : List Act) :
    (relay.passedOn acts = [] ∧ (relay.after acts).listed = false) ∨
      ∃ others, relay.passedOn acts = listing relay.source :: others ∧
        ∀ action ∈ others, action.came := by
  induction acts generalizing relay with
  | nil => exact Or.inl ⟨rfl, unlisted⟩
  | cons act acts ih =>
      rw [passedOn, after]
      obtain ⟨source, ⟨nothing, same⟩ | ⟨-, passed, listed⟩ | ⟨listed, -⟩⟩ := relay.listing_act act
      · rw [nothing, ← source]
        exact ih (same.trans unlisted)
      · rw [passed]
        exact Or.inr ⟨_, rfl, passedOn_of_listed listed acts⟩
      · rw [unlisted] at listed
        exact Bool.noConfusion listed

/-! ## Completions -/

/-- What is passed on of the completions and what waits is what waited and what was sent. -/
theorem completions_passedOn (relay : Relay) (acts : List Act) :
    (relay.passedOn acts).filterMap Action.completion? ++ (relay.after acts).completions =
      relay.completions ++ bif relay.completionsClosed then [] else sent acts := by
  induction acts generalizing relay with
  | nil => simp [passedOn, after, sent]
  | cons act acts ih =>
      simp only [passedOn, after, List.filterMap_append, List.append_assoc, ih]
      cases act with
      | comes input =>
          cases input with
          | completion value =>
              cases closed : relay.completionsClosed <;>
                simp [passed?, Relay.act, take, sent, closed]
          | report value =>
              cases closed : relay.reportsClosed <;> simp [passed?, Relay.act, take, sent, closed]
          | cancel => simp [passed?, Relay.act, take, sent]
          | closeReports => simp [passed?, Relay.act, take, sent]
          | closeCompletions => simp [passed?, Relay.act, take, sent]
      | steps =>
          have stepped := relay.steps_step
          simp only [Relay.act, passed?]
          generalize relay.step.1 = step, relay.step.2 = later at stepped
          cases stepped with
          | completes finished cancelled listed waiting =>
              simp [waiting, Step.action?, Action.completion?, sent]
          | lists => simp [Step.action?, sent]
          | _ => simp [Step.action?, Action.completion?, sent]

/-! ## Reports -/

/-- The reports that the relay has not seen and those that will be published. -/
def allReports (relay : Relay) (acts : List Act) : List Report :=
  relay.reports ++ bif relay.reportsClosed then [] else published acts

/-- How many of the reports the relay has passed on or lost. -/
def seen (relay : Relay) (acts : List Act) : Nat :=
  (relay.allReports acts).length - (relay.after acts).reports.length

/-- At some moment the relay had not come to the report at this place, and there were so many
newer ones as can be kept. -/
def Overwritten (relay : Relay) (acts : List Act) (place : Nat) : Prop :=
  ∃ before ∈ acts.inits, relay.seen before ≤ place ∧
    place + relay.capacity < (relay.allReports before).length

instance (relay : Relay) (acts : List Act) (place : Nat) :
    Decidable (relay.Overwritten acts place) :=
  inferInstanceAs (Decidable (∃ _ ∈ _, _))

/-- The reports before a place without those that were overwritten. -/
def kept (relay : Relay) (acts : List Act) (count : Nat) : List Report :=
  ((List.range count).filter fun place => ¬ relay.Overwritten acts place).filterMap
    fun place => (relay.allReports acts)[place]?

/-- An act either adds to the reports and passes on none, or it loses the oldest, of which there is
no room for, and passes on the next one. -/
theorem reports_act (relay : Relay) (act : Act) :
    ((relay.act act).capacity = relay.capacity) ∧
    (((relay.passed? act).bind Action.report? = none ∧
        relay.reports.length ≤ (relay.act act).reports.length ∧
        ∀ acts, relay.allReports (act :: acts) = (relay.act act).allReports acts) ∨
      ∃ lost report, (relay.passed? act).bind Action.report? = some report ∧
        lost.length = relay.reports.length - relay.capacity ∧
        relay.reports = lost ++ report :: (relay.act act).reports ∧
        ∀ acts, relay.allReports (act :: acts) =
          lost ++ report :: (relay.act act).allReports acts) := by
  cases act with
  | comes input =>
      cases input with
      | completion value =>
          cases closed : relay.completionsClosed <;>
            simp [passed?, Relay.act, take, allReports, published, closed]
      | report value =>
          cases closed : relay.reportsClosed <;>
            simp [passed?, Relay.act, take, allReports, published, closed]
      | _ => simp [passed?, Relay.act, take, allReports, published]
  | steps =>
      have stepped := relay.steps_step
      simp only [Relay.act, passed?]
      generalize relay.step.1 = step, relay.step.2 = later at stepped
      cases stepped with
      | lists => simp [Step.action?, allReports, published]
      | reports finished cancelled listed idle waiting length =>
          refine ⟨rfl, Or.inr ⟨_, _, rfl, length, waiting, ?_⟩⟩
          simp [allReports, published, waiting]
      | _ => simp [Step.action?, Action.report?, allReports, published]

theorem length_reports_after (relay : Relay) (acts : List Act) :
    (relay.after acts).reports.length ≤ (relay.allReports acts).length := by
  induction acts generalizing relay with
  | nil => simp [after, allReports]
  | cons act acts ih =>
      have later := ih (relay.act act)
      obtain ⟨-, ⟨-, -, same⟩ | ⟨lost, report, -, -, -, parts⟩⟩ := relay.reports_act act
      · rw [same]
        exact later
      · rw [parts, List.length_append, List.length_cons]
        exact Nat.le_trans later (by omega)

theorem overwritten_cons_iff {relay : Relay} {act : Act} {acts : List Act} {place : Nat} :
    relay.Overwritten (act :: acts) place ↔ place + relay.capacity < relay.reports.length ∨
      ∃ before ∈ acts.inits, relay.seen (act :: before) ≤ place ∧
        place + relay.capacity < (relay.allReports (act :: before)).length := by
  have atFirst : relay.allReports [] = relay.reports := by simp [allReports, published]
  simp only [Overwritten, List.inits_cons, List.mem_cons, List.mem_map, or_and_right, exists_or,
    exists_eq_left, atFirst, seen, after, Nat.sub_self, Nat.zero_le, true_and,
    exists_exists_and_eq_and]

/-- Where no report is read, the places of the reports stay what they are. -/
theorem overwritten_cons_of_unread {relay : Relay} {act : Act}
    (capacity : (relay.act act).capacity = relay.capacity)
    (kept : relay.reports.length ≤ (relay.act act).reports.length)
    (same : ∀ acts, relay.allReports (act :: acts) = (relay.act act).allReports acts)
    (acts : List Act) (place : Nat) :
    relay.Overwritten (act :: acts) place ↔ (relay.act act).Overwritten acts place := by
  have shown (before : List Act) : relay.seen (act :: before) = (relay.act act).seen before := by
    simp only [seen, same, after]
  rw [overwritten_cons_iff]
  simp only [shown, same, Overwritten, capacity]
  constructor
  · rintro (early | later)
    · -- What was overwritten before the act is so after it.
      refine ⟨[], by simp, ?_, ?_⟩
      · simp [seen, after, allReports, published]
      · simpa [allReports, published] using Nat.lt_of_lt_of_le early kept
    · exact later
  · exact Or.inr

section Reading

variable {relay : Relay} {act : Act} {lost : List Report} {report : Report}

theorem seen_cons_of_read (parts : ∀ acts, relay.allReports (act :: acts) =
      lost ++ report :: (relay.act act).allReports acts) (acts : List Act) :
    relay.seen (act :: acts) = lost.length + 1 + (relay.act act).seen acts := by
  have bound := length_reports_after (relay.act act) acts
  simp only [seen, parts, after, List.length_append, List.length_cons]
  omega

/-- What is lost where a report is read was overwritten. -/
theorem overwritten_of_lost (length : lost.length = relay.reports.length - relay.capacity)
    (acts : List Act) {place : Nat} (isLost : place < lost.length) :
    relay.Overwritten (act :: acts) place := by
  rw [overwritten_cons_iff]
  left
  omega

/-- What is read was not overwritten, and what comes later is so if it is for the relay after
reading. -/
theorem overwritten_cons_of_read (capacity : (relay.act act).capacity = relay.capacity)
    (length : lost.length = relay.reports.length - relay.capacity)
    (split : relay.reports = lost ++ report :: (relay.act act).reports)
    (parts : ∀ acts, relay.allReports (act :: acts) =
      lost ++ report :: (relay.act act).allReports acts) (acts : List Act) :
    ¬ relay.Overwritten (act :: acts) lost.length ∧ ∀ place,
      relay.Overwritten (act :: acts) (lost.length + (place + 1)) ↔
        (relay.act act).Overwritten acts place := by
  have total := congrArg List.length split
  rw [List.length_append, List.length_cons] at total
  have shown (before : List Act) := seen_cons_of_read parts before
  constructor
  · rw [overwritten_cons_iff]
    rintro (early | ⟨before, -, reached, -⟩)
    · omega
    · rw [shown] at reached
      omega
  · intro place
    rw [overwritten_cons_iff]
    simp only [Overwritten, shown, parts, capacity, List.length_append, List.length_cons]
    constructor
    · rintro (early | ⟨before, member, reached, newer⟩)
      · omega
      · exact ⟨before, member, by omega, by omega⟩
    · rintro ⟨before, member, reached, newer⟩
      exact Or.inr ⟨before, member, by omega, by omega⟩

end Reading

/-- The reports that are passed on are those that the relay has come to, in their order, without
those that were overwritten before. -/
theorem reports_passedOn (relay : Relay) (acts : List Act) :
    (relay.passedOn acts).filterMap Action.report? = relay.kept acts (relay.seen acts) := by
  induction acts generalizing relay with
  | nil => simp [passedOn, kept, seen, after, allReports, published]
  | cons act acts ih =>
      have first : (relay.passedOn (act :: acts)).filterMap Action.report? =
          ((relay.passed? act).bind Action.report?).toList ++
            ((relay.act act).passedOn acts).filterMap Action.report? := by
        rw [passedOn, List.filterMap_append]
        cases relay.passed? act <;> rfl
      rw [first, ih, kept, kept]
      obtain ⟨capacity, ⟨unread, kept, same⟩ | ⟨lost, report, read, length, split, parts⟩⟩ :=
        relay.reports_act act
      · have shown : relay.seen (act :: acts) = (relay.act act).seen acts := by
          simp only [seen, same, after]
        simp only [unread, shown, same, overwritten_cons_of_unread capacity kept same]
        rfl
      · obtain ⟨current, later⟩ := overwritten_cons_of_read capacity length split parts acts
        have skipped : (List.range lost.length).filter
            (fun place => ¬ relay.Overwritten (act :: acts) place) = [] := by
          rw [List.filter_eq_nil_iff]
          intro place member
          simpa using overwritten_of_lost length acts (List.mem_range.mp member)
        rw [seen_cons_of_read parts, List.range_add, List.range_succ, List.filter_append,
          List.filter_append, skipped, List.filter_map, List.filterMap_append]
        simp [read, parts, current, later, Function.comp_def, List.filterMap_map,
          List.getElem?_append_right, Nat.add_assoc, Nat.add_comm 1]

/-! ## The end -/

/-- Once it was called off, or is over, it stays so and passes on nothing. -/
theorem ended_act {relay : Relay} (ended : relay.finished = true ∨ relay.cancelled = true)
    (act : Act) : relay.passed? act = none ∧
      ((relay.act act).finished = true ∨ (relay.act act).cancelled = true) := by
  cases act with
  | comes input =>
      obtain ⟨-, -, finished, cancelled, -⟩ := relay.take_keeps input
      rw [Relay.act, finished, cancelled]
      exact ⟨rfl, ended.imp_right Or.inl⟩
  | steps =>
      have stepped := relay.steps_step
      simp only [Relay.act, passed?]
      generalize relay.step.1 = step, relay.step.2 = later at stepped
      cases stepped with
      | ended finished => exact ⟨rfl, Or.inl finished⟩
      | cancelled => exact ⟨rfl, Or.inl rfl⟩
      | _ => simp_all

theorem passedOn_of_ended {relay : Relay} (ended : relay.finished = true ∨ relay.cancelled = true)
    (acts : List Act) : relay.passedOn acts = [] := by
  induction acts generalizing relay with
  | nil => rfl
  | cons act acts ih =>
      obtain ⟨nothing, still⟩ := ended_act ended act
      rw [passedOn, nothing, ih still]
      rfl

/-- It comes to an end only because it was called off or because there will be no more reports. -/
theorem comes_of_ended {relay : Relay} {acts : List Act}
    (ended : (relay.after acts).finished = true ∨ (relay.after acts).cancelled = true) :
    relay.finished = true ∨ relay.cancelled = true ∨ relay.reportsClosed = true ∨
      Act.comes .cancel ∈ acts ∨ Act.comes .closeReports ∈ acts := by
  induction acts generalizing relay with
  | nil => exact ended.elim Or.inl fun cancelled => Or.inr (Or.inl cancelled)
  | cons act acts ih =>
      have later := ih ended
      cases act with
      | comes input =>
          obtain ⟨-, -, finished, cancelled, closed⟩ := relay.take_keeps input
          rw [Relay.act, finished, cancelled, closed] at later
          rcases later with finished | (cancelled | rfl) | (closed | rfl) | came | came
          · exact Or.inl finished
          · exact Or.inr (Or.inl cancelled)
          · simp
          · exact Or.inr (Or.inr (Or.inl closed))
          · simp
          · simp [came]
          · simp [came]
      | steps =>
          have stepped := relay.steps_step
          simp only [Relay.act] at later
          generalize relay.step.1 = step, relay.step.2 = next at stepped later
          cases stepped <;> simp_all

/-! ## Running on -/

/-- All that there is was passed on, but for reports that cannot be seen. -/
structure Idle (relay : Relay) : Prop where
  listed : relay.listed = true
  completions : relay.completions = []
  reports : relay.reports.length ≤ relay.reports.length - relay.capacity

theorem Idle.step {relay : Relay} (idle : relay.Idle) : relay.step.2.Idle := by
  have stepped := relay.steps_step
  generalize relay.step.1 = step, relay.step.2 = later at stepped
  cases stepped with
  | lists finished cancelled unlisted =>
      exact absurd (unlisted.symm.trans idle.listed) Bool.false_ne_true
  | completes finished cancelled listed waiting =>
      exact absurd (waiting.symm.trans idle.completions) (List.cons_ne_nil _ _)
  | reports finished cancelled listed waiting split length =>
      have total := congrArg List.length split
      rw [List.length_append, List.length_cons] at total
      have bound := idle.reports
      omega
  | _ => exact ⟨idle.listed, idle.completions, idle.reports⟩

theorem Idle.after_steps {relay : Relay} (idle : relay.Idle) (count : Nat) :
    (relay.after (List.replicate count .steps)).Idle := by
  induction count generalizing relay with
  | zero => exact idle
  | succ count ih => exact ih idle.step

/-- As many steps as there are things to pass on are enough. -/
theorem idle_after_steps {relay : Relay} (finished : relay.finished = false)
    (cancelled : relay.cancelled = false) {count : Nat} (enough : relay.backlog ≤ count) :
    (relay.after (List.replicate count .steps)).Idle := by
  induction count generalizing relay with
  | zero =>
      have nothing : relay.backlog = 0 := Nat.le_zero.mp enough
      simp only [backlog, Nat.add_eq_zero_iff, ite_eq_left_iff, List.length_eq_zero_iff] at nothing
      obtain ⟨⟨listed, completions⟩, reports⟩ := nothing
      have none : relay.reports.length ≤ relay.reports.length - relay.capacity := by simp [reports]
      exact ⟨by simpa [after] using listed, completions, none⟩
  | succ count ih =>
      have smaller {action : Action} {later : Relay}
          (passes : relay.step = (.passes action, later)) : later.backlog ≤ count := by
        have less := backlog_step passes
        omega
      have stepped := relay.steps_step
      rw [List.replicate_succ, after, Relay.act]
      cases shown : relay.step with
      | mk step later =>
      rw [shown] at stepped
      cases stepped with
      | ended stopped => exact absurd (finished.symm.trans stopped) Bool.false_ne_true
      | cancelled _ stopped => exact absurd (cancelled.symm.trans stopped) Bool.false_ne_true
      | lists => exact ih finished cancelled (smaller shown)
      | completes => exact ih finished cancelled (smaller shown)
      | reports => exact ih finished cancelled (smaller shown)
      | closed _ _ listed waiting none =>
          have idle : Idle { relay with finished := true } := ⟨listed, waiting, none⟩
          exact idle.after_steps count
      | waits _ _ listed waiting none =>
          have idle : later.Idle := ⟨listed, waiting, none⟩
          exact idle.after_steps count

theorem capacity_after (relay : Relay) (acts : List Act) :
    (relay.after acts).capacity = relay.capacity := by
  induction acts generalizing relay with
  | nil => rfl
  | cons act acts ih => exact (ih (relay.act act)).trans (relay.reports_act act).1

/-- When all that can be seen was passed on, the reports that are left were overwritten. -/
theorem kept_of_idle {relay : Relay} {acts : List Act} (idle : (relay.after acts).Idle) :
    relay.kept acts (relay.seen acts) = relay.kept acts (relay.allReports acts).length := by
  have bound := length_reports_after relay acts
  have all : (relay.allReports acts).length =
      relay.seen acts + (relay.after acts).reports.length := by
    rw [seen]
    omega
  have left : ((List.range (relay.after acts).reports.length).map (relay.seen acts + ·)).filter
      (fun place => ¬ relay.Overwritten acts place) = [] := by
    rw [List.filter_eq_nil_iff]
    intro place member
    obtain ⟨offset, inside, rfl⟩ := List.mem_map.mp member
    rw [List.mem_range] at inside
    have small := idle.reports
    rw [capacity_after] at small
    have lost : relay.Overwritten acts (relay.seen acts + offset) :=
      ⟨acts, by simp, by omega, by omega⟩
    simpa using lost
  rw [kept, kept, all, List.range_add, List.filter_append, left, List.append_nil]

theorem sent_append_steps (acts : List Act) (count : Nat) :
    sent (acts ++ List.replicate count .steps) = sent acts := by
  fun_induction sent acts with
  | case1 =>
      induction count with
      | zero => rfl
      | succ count ih => exact ih
  | case2 => simp_all [sent]
  | case3 => rfl
  | case4 => simp_all [sent]

theorem published_append_steps (acts : List Act) (count : Nat) :
    published (acts ++ List.replicate count .steps) = published acts := by
  fun_induction published acts with
  | case1 =>
      induction count with
      | zero => rfl
      | succ count ih => exact ih
  | case2 => simp_all [published]
  | case3 => rfl
  | case4 => simp_all [published]

/-! ## No more completions -/

theorem step_closeCompletions (relay : Relay) :
    ({ relay with completionsClosed := true } : Relay).step =
      (relay.step.1, { relay.step.2 with completionsClosed := true }) := by
  unfold step
  dsimp only
  repeat' split
  all_goals simp_all

/-- Where no completion is sent it does not matter whether it was said that none will be. -/
theorem passedOn_closeCompletions (relay : Relay) {acts : List Act}
    (unsent : ∀ value, Act.comes (.completion value) ∉ acts) :
    ({ relay with completionsClosed := true } : Relay).passedOn acts = relay.passedOn acts := by
  induction acts generalizing relay with
  | nil => rfl
  | cons act acts ih =>
      have others : ∀ value, Act.comes (.completion value) ∉ acts :=
        fun value member => unsent value (List.mem_cons_of_mem act member)
      have alike : ({ relay with completionsClosed := true } : Relay).act act =
          { relay.act act with completionsClosed := true } := by
        cases act with
        | comes input =>
            cases input with
            | completion value => exact absurd List.mem_cons_self (unsent value)
            | report value => cases closed : relay.reportsClosed <;> simp [Relay.act, take, closed]
            | _ => rfl
        | steps => rw [Relay.act, Relay.act, step_closeCompletions]
      have same : ({ relay with completionsClosed := true } : Relay).passed? act =
          relay.passed? act := by
        cases act with
        | comes => rfl
        | steps => rw [passed?, passed?, step_closeCompletions]
      rw [passedOn, passedOn, same, alike, ih (relay.act act) others]

/-! ## All together -/

theorem listing_cases (source : Except ListingFault (List Device)) :
    (∃ found, source = .ok found ∧ (found.map Device.id).Nodup ∧
      listing source = .loaded (Listing.sorted found)) ∨
    (∃ fault, source = .error fault ∧ listing source = .loadFailed fault.message) ∨
    ∃ found repeated, source = .ok found ∧ Listing.FirstRepeated found repeated ∧
      listing source = .loadFailed (ListingFault.duplicateId repeated.id).message := by
  cases source with
  | error fault => exact Or.inr (Or.inl ⟨fault, rfl, rfl⟩)
  | ok found =>
      by_cases distinct : (found.map Device.id).Nodup
      · have accepted := Listing.accept_eq_ok_iff.mpr ⟨distinct, rfl⟩
        exact Or.inl ⟨found, rfl, distinct, by simp only [listing, Listing.ofSource, accepted]⟩
      · obtain ⟨repeated, first⟩ := Listing.exists_firstRepeated distinct
        have refused := Listing.accept_of_firstRepeated first
        exact Or.inr (Or.inr ⟨found, repeated, rfl, first,
          by simp only [listing, Listing.ofSource, refused]⟩)

theorem allReports_start (source : Except ListingFault (List Device)) (capacity : Nat)
    (acts : List Act) : (start source capacity).allReports acts = published acts := rfl

/-- Completions are sent, reports are published, the relay does what is next and may be called off,
in any order.  The listing is passed on first and once; it tells the sorted devices, or why the
source failed, or which identifier is repeated first.  The completions passed on and those that
wait are those that were sent, in their order.  The reports passed on are those published, in their
order and up to the one that the relay has come to, but for those that were overwritten.  As long as
it was not called off and is not over, it passes on the rest in as many steps as there are things to
pass on.  What comes after it was called off is not passed on, and that there will be no more
completions makes no difference to it. -/
theorem loses_and_reorders_nothing (source : Except ListingFault (List Device)) (capacity : Nat)
    (acts : List Act) :
    let first := start source capacity
    let relay := first.after acts
    let actions := first.passedOn acts
    (actions = [] ∨
      ∃ others, actions = listing source :: others ∧ ∀ action ∈ others, action.came) ∧
    ((∃ found, source = .ok found ∧ (found.map Device.id).Nodup ∧
        listing source = .loaded (Listing.sorted found)) ∨
      (∃ fault, source = .error fault ∧ listing source = .loadFailed fault.message) ∨
      ∃ found repeated, source = .ok found ∧ Listing.FirstRepeated found repeated ∧
        listing source = .loadFailed (ListingFault.duplicateId repeated.id).message) ∧
    actions.filterMap Action.completion? ++ relay.completions = sent acts ∧
    first.allReports acts = published acts ∧
    actions.filterMap Action.report? = first.kept acts (first.seen acts) ∧
    (relay.finished = false → relay.cancelled = false → ∀ count, relay.backlog ≤ count →
      let longer := acts ++ List.replicate count .steps
      (first.passedOn longer).head? = some (listing source) ∧
      (first.passedOn longer).filterMap Action.completion? = sent acts ∧
      (first.passedOn longer).filterMap Action.report? =
        first.kept longer (published acts).length) ∧
    (relay.finished = true ∨ relay.cancelled = true →
      Act.comes .cancel ∈ acts ∨ Act.comes .closeReports ∈ acts) ∧
    (∀ before later, acts = before ++ .comes .cancel :: later →
      actions = first.passedOn before) ∧
    ∀ before later, acts = before ++ .comes .closeCompletions :: later →
      (∀ value, Act.comes (.completion value) ∉ later) →
      actions = first.passedOn (before ++ later) := by
  intro first relay actions
  have completions := completions_passedOn first
  have unlisted : first.listed = false := rfl
  refine ⟨?_, listing_cases source, completions acts, allReports_start source capacity acts,
    reports_passedOn first acts, ?_, ?_, ?_, ?_⟩
  · exact (passedOn_of_unlisted unlisted acts).imp And.left id
  · intro finished cancelled count enough longer
    have idle : (first.after longer).Idle := by
      rw [after_append]
      exact idle_after_steps finished cancelled enough
    refine ⟨?_, ?_, ?_⟩
    · rcases passedOn_of_unlisted unlisted longer with ⟨-, none⟩ | ⟨others, passed, -⟩
      · rw [idle.listed] at none
        exact Bool.noConfusion none
      · rw [passed]
        rfl
    · have all := completions longer
      rw [idle.completions, List.append_nil] at all
      exact all.trans (sent_append_steps acts count)
    · rw [reports_passedOn, kept_of_idle idle, allReports_start, published_append_steps]
  · intro ended
    rcases comes_of_ended ended with finished | cancelled | closed | came
    · exact Bool.noConfusion finished
    · exact Bool.noConfusion cancelled
    · exact Bool.noConfusion closed
    · exact came
  · rintro before later rfl
    have cancelled : ((first.after before).act (.comes .cancel)).cancelled = true := rfl
    have nothing := passedOn_of_ended (Or.inr cancelled) later
    exact (passedOn_append first before _).trans (by rw [passedOn, nothing]; simp [passed?])
  · rintro before later rfl unsent
    have rest := passedOn_closeCompletions (first.after before) unsent
    exact (passedOn_append first before _).trans
      ((congrArg _ rest).trans (passedOn_append first before later).symm)

/-- Three reports come where only two are kept, so that the first is lost; what comes after the
call-off is not passed on. -/
theorem loses_the_first_of_three :
    let lamp : Device := ⟨"lamp", "Lamp", "Light", "off", ["on", "off"]⟩
    let report (time : Int) : Report := ⟨⟨"lamp", "on", .applied "on"⟩, time⟩
    let first := start (.ok [lamp]) 2
    let acts : List Act := [.comes (.report (report 1)), .comes (.report (report 2)), .steps,
      .comes (.completion ⟨1, "lamp", "on", .ok ⟨"lamp", "on"⟩⟩), .comes (.report (report 3)),
      .comes .closeCompletions]
    let longer := acts ++ List.replicate 4 .steps
    (first.passedOn longer).head? = some (listing (.ok [lamp])) ∧
    ((first.passedOn longer).filterMap Action.completion?).map Completion.serial = [1] ∧
    ((first.passedOn longer).filterMap Action.report?).map Report.time = [2, 3] ∧
    first.passedOn (longer ++ [.comes .cancel, .comes (.report (report 4)), .steps]) =
      first.passedOn longer := by
  intro lamp report first acts longer
  obtain ⟨-, -, -, -, -, running, -⟩ := loses_and_reorders_nothing (.ok [lamp]) 2 acts
  obtain ⟨listed, completions, reports⟩ := running rfl rfl 4 (by decide)
  obtain ⟨-, -, -, -, -, -, -, ended, -⟩ := loses_and_reorders_nothing (.ok [lamp]) 2
    (longer ++ [.comes .cancel, .comes (.report (report 4)), .steps])
  refine ⟨listed, ?_, ?_, ended longer _ rfl⟩
  · rw [completions]
    rfl
  · rw [reports]
    decide +kernel

end Relay

end DevicePanel.Dashboard
