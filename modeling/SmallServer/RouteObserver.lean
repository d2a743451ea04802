import SmallServer.Runs
import Mathlib.Data.List.Infix

/-!
# The route observer

`RouteObserverChannel` and the task that drains it. Routing failures are queued by whichever
task met them and handed to the observer one at a time; what is not queued, or queued and
cleared, is counted as dropped. The observer may itself call the channel while it is invoked.
-/

namespace SmallServer.RouteObserver

open SmallServer Runs

set_option autoImplicit false

variable {Event : Type}

section Channel

inductive Sent
  | returned (code : Int)
  | raised

/-- `RouteObserverChannel`; a bound task is known by its id. -/
structure Channel (Event : Type) where
  maxEvents : Nat
  events : List Event := []
  task : Option Nat := none
  accepting : Bool := true
  dropped : Nat := 0
  failures : Nat := 0

namespace Channel

def signalled (channel : Channel Event) (sent : Sent) : Bool :=
  match channel.task with
  | none => false
  | some _ =>
      match sent with
      | .returned code => code == 0
      | .raised => false

def enqueue (channel : Channel Event) (event : Event) (sent : Sent) : Bool × Channel Event :=
  if channel.accepting = false ∨ channel.maxEvents ≤ channel.events.length then
    (false, { channel with dropped := channel.dropped + 1 })
  else
    let channel := { channel with events := channel.events ++ [event] }
    if channel.signalled sent then (true, channel)
    else
      (false, { channel with
        events := channel.events.dropLast
        dropped := channel.dropped + 1 })

/-- `stop`. The signal to a task that is not done changes nothing here, and what it raises is
swallowed. -/
def stop (channel : Channel Event) : Channel Event :=
  { channel with
    accepting := false
    dropped := channel.dropped + channel.events.length
    events := [] }

theorem enqueue_cases (channel : Channel Event) (event : Event) (sent : Sent) :
    ((channel.enqueue event sent).1 = true ∧ channel.accepting = true ∧
      channel.events.length < channel.maxEvents ∧
      (channel.enqueue event sent).2 = { channel with events := channel.events ++ [event] }) ∨
    ((channel.enqueue event sent).1 = false ∧
      (channel.enqueue event sent).2 = { channel with dropped := channel.dropped + 1 }) := by
  unfold enqueue
  split
  · exact Or.inr ⟨rfl, rfl⟩
  · rename_i room
    obtain ⟨accepting, below⟩ := not_or.mp room
    dsimp only
    split
    · exact Or.inl ⟨rfl, eq_true_of_ne_false accepting, not_le.mp below, rfl⟩
    · -- the event taken back is the one just appended
      rw [List.dropLast_concat]
      exact Or.inr ⟨rfl, rfl⟩

end Channel

end Channel

section Task

/-- Where the observer task stands: not started, at one of the two `while` conditions, inside a
call of the observer, in `wait_signal`, or ended. -/
inductive Phase
  | unstarted
  | outer
  | inner
  | observing
  | suspended
  | ended
deriving DecidableEq

/-- Other tasks run while the observer task is not running, and the observer's own calls come
while it is invoked. -/
def Phase.mayCall (phase : Phase) : Prop := phase ≠ .outer ∧ phase ≠ .inner

structure State (Event : Type) where
  channel : Channel Event
  phase : Phase

inductive Label (Event : Type)
  | bind (task : Nat)
  | enqueue (event : Event) (sent : Sent) (accepted : Bool)
  | stop
  | start
  | loop
  | observe (event : Event)
  | finish (raised : Bool)
  | drained
  | wake
  | cancel

/-- `run_route_observer` statement by statement, with the calls that come between. -/
inductive Step : State Event → Label Event → State Event → Prop
  /-- The channel learns of the task after it was forked. -/
  | bind {channel : Channel Event} (task : Nat) :
      Step ⟨channel, .unstarted⟩ (.bind task) ⟨{ channel with task := some task }, .unstarted⟩
  | enqueue {channel : Channel Event} {phase : Phase} (event : Event) (sent : Sent)
      (may : phase.mayCall) :
      Step ⟨channel, phase⟩ (.enqueue event sent (channel.enqueue event sent).1)
        ⟨(channel.enqueue event sent).2, phase⟩
  | stop {channel : Channel Event} {phase : Phase} (may : phase.mayCall) :
      Step ⟨channel, phase⟩ .stop ⟨channel.stop, phase⟩
  | start {channel : Channel Event} : Step ⟨channel, .unstarted⟩ .start ⟨channel, .outer⟩
  /-- `while channel.accepting` holds. -/
  | loop {channel : Channel Event} (accepting : channel.accepting = true) :
      Step ⟨channel, .outer⟩ .loop ⟨channel, .inner⟩
  /-- It does not hold, and the task leaves through `finally`. -/
  | leave {channel : Channel Event} (stopped : channel.accepting = false) :
      Step ⟨channel, .outer⟩ .loop ⟨{ channel with task := none }, .ended⟩
  | observe {channel : Channel Event} {event : Event} {rest : List Event}
      (queued : channel.events = event :: rest) :
      Step ⟨channel, .inner⟩ (.observe event) ⟨{ channel with events := rest }, .observing⟩
  | finish {channel : Channel Event} (raised : Bool) :
      Step ⟨channel, .observing⟩ (.finish raised)
        ⟨{ channel with failures := channel.failures + if raised then 1 else 0 }, .inner⟩
  /-- `while channel.events` no longer holds: the task waits unless it was stopped. -/
  | drained {channel : Channel Event} (empty : channel.events = []) :
      Step ⟨channel, .inner⟩ .drained
        ⟨channel, if channel.accepting then .suspended else .outer⟩
  | wake {channel : Channel Event} : Step ⟨channel, .suspended⟩ .wake ⟨channel, .outer⟩
  /-- `wait_signal` raises, by cancellation or otherwise. -/
  | cancel {channel : Channel Event} :
      Step ⟨channel, .suspended⟩ .cancel ⟨{ channel with task := none }, .ended⟩
  /-- A coroutine that was never started runs no `finally`. -/
  | discard {channel : Channel Event} : Step ⟨channel, .unstarted⟩ .cancel ⟨channel, .ended⟩

def start (maxEvents : Nat) : State Event := ⟨{ maxEvents := maxEvents }, .unstarted⟩

end Task

section History

def Label.isAttempt : Label Event → Bool
  | .enqueue _ _ _ => true
  | _ => false

def Label.acceptedEvent : Label Event → Option Event
  | .enqueue event _ true => some event
  | _ => none

def Label.observedEvent : Label Event → Option Event
  | .observe event => some event
  | _ => none

def Label.isFinish : Label Event → Bool
  | .finish _ => true
  | _ => false

def Label.isFailure : Label Event → Bool
  | .finish true => true
  | _ => false

def attempts (labels : List (Label Event)) : Nat := labels.countP Label.isAttempt

def accepted (labels : List (Label Event)) : List Event := labels.filterMap Label.acceptedEvent

def observed (labels : List (Label Event)) : List Event := labels.filterMap Label.observedEvent

def finished (labels : List (Label Event)) : Nat := labels.countP Label.isFinish

def failed (labels : List (Label Event)) : Nat := labels.countP Label.isFailure

section Snoc

variable (labels : List (Label Event)) (label : Label Event)

theorem attempts_snoc : attempts (labels ++ [label]) =
    attempts labels + if label.isAttempt then 1 else 0 := by
  rw [attempts, List.countP_append, List.countP_singleton]
  rfl

theorem accepted_snoc : accepted (labels ++ [label]) =
    accepted labels ++ label.acceptedEvent.toList := by
  rw [accepted, List.filterMap_append]
  cases event : label.acceptedEvent <;> simp [accepted, event]

theorem observed_snoc : observed (labels ++ [label]) =
    observed labels ++ label.observedEvent.toList := by
  rw [observed, List.filterMap_append]
  cases event : label.observedEvent <;> simp [observed, event]

theorem finished_snoc : finished (labels ++ [label]) =
    finished labels + if label.isFinish then 1 else 0 := by
  rw [finished, List.countP_append, List.countP_singleton]
  rfl

theorem stop_snoc (different : Label.stop ≠ label) :
    Label.stop ∈ labels ++ [label] ↔ Label.stop ∈ labels := by
  rw [List.mem_append, List.mem_singleton]
  exact or_iff_left different

theorem failed_snoc : failed (labels ++ [label]) =
    failed labels + if label.isFailure then 1 else 0 := by
  rw [failed, List.countP_append, List.countP_singleton]
  rfl

end Snoc

/-- What the counters and the queue of a channel say about what has happened to it. -/
structure Conserved (maxEvents : Nat) (labels : List (Label Event)) (state : State Event) :
    Prop where
  capacity : state.channel.maxEvents = maxEvents
  counted : attempts labels =
    (observed labels).length + state.channel.dropped + state.channel.events.length
  bounded : state.channel.events.length ≤ maxEvents
  ordered : ∃ cleared, accepted labels = observed labels ++ cleared ++ state.channel.events ∧
    (Label.stop ∉ labels → cleared = [])
  invoked : (observed labels).length =
    finished labels + if state.phase = .observing then 1 else 0
  failures : state.channel.failures = failed labels
  accepting : state.channel.accepting = false ↔ Label.stop ∈ labels
  emptied : Label.stop ∈ labels → state.channel.events = []

end History

section Conservation

variable {maxEvents : Nat} {labels : List (Label Event)} {channel : Channel Event}
  {phase : Phase}

theorem conserved_start : Conserved maxEvents [] (start maxEvents : State Event) where
  capacity := rfl
  counted := rfl
  bounded := Nat.zero_le _
  ordered := ⟨[], rfl, fun _ => rfl⟩
  invoked := rfl
  failures := rfl
  accepting := iff_of_false nofun List.not_mem_nil
  emptied member := by cases member

def Label.silent : Label Event → Bool
  | .bind _ | .start | .loop | .drained | .wake | .cancel => true
  | _ => false

theorem conserved_silent {label : Label Event} {next : Channel Event} {after : Phase}
    (conserved : Conserved maxEvents labels ⟨channel, phase⟩) (silent : label.silent = true)
    (same : next = { channel with task := next.task })
    (outside : phase ≠ .observing ∧ after ≠ .observing) :
    Conserved maxEvents (labels ++ [label]) ⟨next, after⟩ := by
  have notStop : Label.stop ∈ labels ++ [label] ↔ Label.stop ∈ labels := by
    refine stop_snoc labels label ?_
    rintro rfl
    cases silent
  have quiet : label.isAttempt = false ∧ label.acceptedEvent = none ∧
      label.observedEvent = none ∧ label.isFinish = false ∧ label.isFailure = false := by
    cases label with
    | enqueue | stop | observe | finish => cases silent
    | bind | start | loop | drained | wake | cancel => exact ⟨rfl, rfl, rfl, rfl, rfl⟩
  have history : attempts (labels ++ [label]) = attempts labels ∧
      accepted (labels ++ [label]) = accepted labels ∧
      observed (labels ++ [label]) = observed labels ∧
      finished (labels ++ [label]) = finished labels ∧
      failed (labels ++ [label]) = failed labels := by
    obtain ⟨noAttempt, noAccepted, noObserved, noFinish, noFailure⟩ := quiet
    rw [attempts_snoc, accepted_snoc, observed_snoc, finished_snoc, failed_snoc, noAttempt,
      noAccepted, noObserved, noFinish, noFailure]
    exact ⟨rfl, List.append_nil _, List.append_nil _, rfl, rfl⟩
  obtain ⟨sameAttempts, sameAccepted, sameObserved, sameFinished, sameFailed⟩ := history
  obtain ⟨capacity, counted, bounded, ordered, invoked, failures, accepting, emptied⟩ := conserved
  rw [same]
  refine ⟨capacity, ?_, bounded, ?_, ?_, ?_, ?_, ?_⟩
  · rw [sameAttempts, sameObserved]
    exact counted
  · rw [sameAccepted, sameObserved, notStop]
    exact ordered
  · rw [sameObserved, sameFinished, if_neg outside.2]
    rwa [if_neg outside.1] at invoked
  · rw [sameFailed]
    exact failures
  · rw [notStop]
    exact accepting
  · rw [notStop]
    exact emptied

theorem conserved_enqueue {event : Event} {sent : Sent}
    (conserved : Conserved maxEvents labels ⟨channel, phase⟩) :
    Conserved maxEvents (labels ++ [.enqueue event sent (channel.enqueue event sent).1])
      ⟨(channel.enqueue event sent).2, phase⟩ := by
  obtain ⟨capacity, counted, bounded, ⟨cleared, ordered, kept⟩, invoked, failures, accepting,
    emptied⟩ := conserved
  obtain ⟨result, wasOpen, room, taken⟩ | ⟨result, refused⟩ := channel.enqueue_cases event sent
  · rw [result, taken]
    have running : Label.stop ∉ labels := fun member =>
      Bool.false_ne_true ((accepting.mpr member).symm.trans wasOpen)
    have same := stop_snoc labels (.enqueue event sent true) nofun
    refine ⟨capacity, ?_, ?_, ⟨cleared, ?_, fun _ => kept running⟩, ?_, ?_, ?_, ?_⟩
    · rw [attempts_snoc, observed_snoc, counted]
      simp only [Label.isAttempt, Label.observedEvent, Option.toList_none, List.append_nil,
        List.length_append, List.length_singleton, if_true]
      omega
    · rw [List.length_append, List.length_singleton, ← capacity]
      exact room
    · rw [accepted_snoc, observed_snoc, ordered]
      simp only [Label.acceptedEvent, Label.observedEvent, Option.toList_some,
        Option.toList_none, List.append_nil, List.append_assoc]
    · rw [observed_snoc, finished_snoc]
      simpa [Label.observedEvent, Label.isFinish] using invoked
    · rw [failed_snoc]
      exact failures
    · exact accepting.trans same.symm
    · exact fun member => absurd (same.mp member) running
  · rw [result, refused]
    have same := stop_snoc labels (.enqueue event sent false) nofun
    refine ⟨capacity, ?_, bounded, ⟨cleared, ?_, ?_⟩, ?_, ?_, ?_, ?_⟩
    · rw [attempts_snoc, observed_snoc, counted]
      simp only [Label.isAttempt, Label.observedEvent, Option.toList_none, List.append_nil,
        if_true]
      omega
    · rw [accepted_snoc, observed_snoc, ordered]
      simp only [Label.acceptedEvent, Label.observedEvent, Option.toList_none, List.append_nil]
    · exact fun absent => kept fun member => absent (same.mpr member)
    · rw [observed_snoc, finished_snoc]
      simpa [Label.observedEvent, Label.isFinish] using invoked
    · rw [failed_snoc]
      exact failures
    · exact accepting.trans same.symm
    · exact fun member => emptied (same.mp member)

theorem conserved_stop (conserved : Conserved maxEvents labels ⟨channel, phase⟩) :
    Conserved maxEvents (labels ++ [.stop]) ⟨channel.stop, phase⟩ := by
  obtain ⟨capacity, counted, bounded, ⟨cleared, ordered, kept⟩, invoked, failures, accepting,
    emptied⟩ := conserved
  have stopped : Label.stop ∈ labels ++ [Label.stop] := List.mem_append_right _ (by simp)
  refine ⟨capacity, ?_, Nat.zero_le _, ⟨cleared ++ channel.events, ?_, ?_⟩, ?_, ?_, ?_, ?_⟩
  · rw [attempts_snoc, observed_snoc, counted]
    simp only [Channel.stop, Label.isAttempt, Label.observedEvent, Option.toList_none,
      List.append_nil, List.length_nil]
    simp only [Bool.false_eq_true, if_false]
    omega
  · rw [accepted_snoc, observed_snoc, ordered]
    simp only [Channel.stop, Label.acceptedEvent, Label.observedEvent, Option.toList_none,
      List.append_nil, List.append_assoc]
  · exact fun running => absurd stopped running
  · rw [observed_snoc, finished_snoc]
    simpa [Label.observedEvent, Label.isFinish] using invoked
  · rw [failed_snoc]
    exact failures
  · exact iff_of_true rfl stopped
  · exact fun _ => rfl

theorem conserved_observe {event : Event} {rest : List Event}
    (conserved : Conserved maxEvents labels ⟨channel, .inner⟩)
    (queued : channel.events = event :: rest) :
    Conserved maxEvents (labels ++ [.observe event])
      ⟨{ channel with events := rest }, .observing⟩ := by
  obtain ⟨capacity, counted, bounded, ⟨cleared, ordered, kept⟩, invoked, failures, accepting,
    emptied⟩ := conserved
  dsimp only at counted bounded ordered emptied
  rw [queued] at counted bounded ordered emptied
  have running : Label.stop ∉ labels := fun member => List.cons_ne_nil _ _ (emptied member)
  have same := stop_snoc labels (.observe event) nofun
  -- nothing was cleared, so the event taken is the next one accepted
  obtain rfl := kept running
  refine ⟨capacity, ?_, (Nat.le_succ _).trans bounded, ⟨[], ?_, fun _ => rfl⟩, ?_, ?_, ?_, ?_⟩
  · rw [attempts_snoc, observed_snoc, counted]
    simp only [Label.isAttempt, Label.observedEvent, Option.toList_some, List.length_append,
      List.length_nil, List.length_cons, Bool.false_eq_true, if_false]
    omega
  · rw [accepted_snoc, observed_snoc, ordered]
    simp only [Label.acceptedEvent, Label.observedEvent, Option.toList_some, Option.toList_none,
      List.append_nil, List.append_assoc, List.singleton_append]
  · rw [observed_snoc, finished_snoc, List.length_append, invoked]
    rfl
  · rw [failed_snoc]
    exact failures
  · exact accepting.trans same.symm
  · exact fun member => absurd (same.mp member) running

theorem conserved_finish {raised : Bool}
    (conserved : Conserved maxEvents labels ⟨channel, .observing⟩) :
    Conserved maxEvents (labels ++ [.finish raised])
      ⟨{ channel with failures := channel.failures + if raised then 1 else 0 }, .inner⟩ := by
  obtain ⟨capacity, counted, bounded, ordered, invoked, failures, accepting, emptied⟩ := conserved
  have same := stop_snoc labels (.finish raised) nofun
  refine ⟨capacity, ?_, bounded, ?_, ?_, ?_, ?_, ?_⟩
  · rw [attempts_snoc, observed_snoc]
    simpa [Label.isAttempt, Label.observedEvent] using counted
  · obtain ⟨cleared, parts, kept⟩ := ordered
    refine ⟨cleared, ?_, fun absent => kept fun member => absent (List.mem_append_left _ member)⟩
    rw [accepted_snoc, observed_snoc]
    simpa [Label.acceptedEvent, Label.observedEvent] using parts
  · rw [observed_snoc, finished_snoc]
    simpa [Label.observedEvent, Label.isFinish] using invoked
  · rw [failed_snoc, ← failures]
    cases raised <;> rfl
  · exact accepting.trans same.symm
  · exact fun member => emptied (same.mp member)

theorem conserved_step {state next : State Event} {label : Label Event}
    (conserved : Conserved maxEvents labels state) (step : Step state label next) :
    Conserved maxEvents (labels ++ [label]) next := by
  cases step with
  | bind task => exact conserved_silent conserved rfl rfl ⟨nofun, nofun⟩
  | enqueue event sent may => exact conserved_enqueue conserved
  | stop may => exact conserved_stop conserved
  | start => exact conserved_silent conserved rfl rfl ⟨nofun, nofun⟩
  | loop accepting => exact conserved_silent conserved rfl rfl ⟨nofun, nofun⟩
  | leave stopped => exact conserved_silent conserved rfl rfl ⟨nofun, nofun⟩
  | observe queued => exact conserved_observe conserved queued
  | finish raised => exact conserved_finish conserved
  | drained empty =>
      refine conserved_silent conserved rfl rfl ⟨nofun, ?_⟩
      split <;> exact nofun
  | wake => exact conserved_silent conserved rfl rfl ⟨nofun, nofun⟩
  | cancel => exact conserved_silent conserved rfl rfl ⟨nofun, nofun⟩
  | discard => exact conserved_silent conserved rfl rfl ⟨nofun, nofun⟩

theorem conserved_of_run {state : State Event}
    (run : Run Step (start maxEvents) labels state) : Conserved maxEvents labels state :=
  run.invariant conserved_start fun _ _ _ _ _ conserved step => conserved_step conserved step

theorem accepted_of_stopped {first last : State Event} {more : List (Label Event)}
    (run : Run Step first more last) (stopped : first.channel.accepting = false) :
    last.channel.accepting = false ∧ accepted more = [] := by
  induction run with
  | nil => exact ⟨stopped, rfl⟩
  | snoc label _ step induction =>
      obtain ⟨still, none⟩ := induction
      rw [accepted_snoc, none, List.nil_append]
      cases step with
      | enqueue event sent may =>
          obtain ⟨_, wasOpen, _, _⟩ | ⟨result, refused⟩ := Channel.enqueue_cases _ event sent
          · exact absurd (still.symm.trans wasOpen) Bool.false_ne_true
          · rw [result, refused]
            exact ⟨still, rfl⟩
      | stop => exact ⟨rfl, rfl⟩
      | loop accepting => exact ⟨still, rfl⟩
      | bind | start | leave | observe | finish | drained | wake | cancel | discard =>
          exact ⟨still, rfl⟩

/-- Whatever order calls, signals, the observer's steps, its own calls, its cancellation and
`stop` come in, every attempt is an invocation begun, a drop or a queued event; the queue stays
within its bound; the events observed are the accepted ones from the first on, in order; every
invocation but the one going on has ended, and each that raised is one failure; and `stop`
leaves nothing queued, now or later. -/
theorem events_conserved {state : State Event}
    (reached : Run Step (start maxEvents) labels state) :
    attempts labels =
        (observed labels).length + state.channel.dropped + state.channel.events.length ∧
      state.channel.events.length ≤ maxEvents ∧
      observed labels <+: accepted labels ∧
      (observed labels).length = finished labels + (if state.phase = .observing then 1 else 0) ∧
      state.channel.failures = failed labels ∧
      (Label.stop ∉ labels → accepted labels = observed labels ++ state.channel.events) ∧
      (Label.stop ∈ labels → state.channel.events = []) ∧
      ∀ before after, labels = before ++ .stop :: after → accepted after = [] := by
  have conserved := conserved_of_run reached
  obtain ⟨cleared, ordered, kept⟩ := conserved.ordered
  refine ⟨conserved.counted, conserved.bounded, ?_, conserved.invoked, conserved.failures,
    fun running => ?_, conserved.emptied, ?_⟩
  · rw [ordered, List.append_assoc]
    exact List.prefix_append _ _
  · rw [ordered, kept running, List.append_nil]
  · rintro before after rfl
    have parts : before ++ .stop :: after = before ++ [.stop] ++ after := by simp
    rw [parts] at reached
    obtain ⟨middle, first, rest⟩ := reached.split
    have stopped := (conserved_of_run first).accepting.mpr (List.mem_append_right _ (by simp))
    exact (accepted_of_stopped rest stopped).2

end Conservation

section Samples

/-- Room for two: one event is refused before the task is bound, one signal is refused and one
raises, one event finds the queue full, the observer queues an event while it is invoked, and
after its second invocation stops the channel with one event queued. -/
def sampleLabels : List (Label Nat) :=
  [.enqueue 1 (.returned 0) false, .bind 7, .enqueue 2 (.returned 0) true,
    .enqueue 3 (.returned (-1)) false, .enqueue 4 .raised false, .enqueue 5 (.returned 0) true,
    .enqueue 6 (.returned 0) false, .start, .loop, .observe 2, .enqueue 8 (.returned 0) true,
    .finish true, .observe 5, .stop, .enqueue 9 (.returned 0) false, .finish false, .drained,
    .loop]

def sampleEnd : State Nat where
  channel := {
    maxEvents := 2
    accepting := false
    dropped := 6
    failures := 1 }
  phase := .ended

theorem run_sample : Run Step (start 2) sampleLabels sampleEnd := by
  have outside : Phase.unstarted.mayCall := ⟨nofun, nofun⟩
  have inside : Phase.observing.mayCall := ⟨nofun, nofun⟩
  refine Run.cons (.enqueue 1 (.returned 0) outside) ?_
  refine Run.cons (.bind 7) ?_
  refine Run.cons (.enqueue 2 (.returned 0) outside) ?_
  refine Run.cons (.enqueue 3 (.returned (-1)) outside) ?_
  refine Run.cons (.enqueue 4 .raised outside) ?_
  refine Run.cons (.enqueue 5 (.returned 0) outside) ?_
  refine Run.cons (.enqueue 6 (.returned 0) outside) ?_
  refine Run.cons .start ?_
  refine Run.cons (.loop rfl) ?_
  refine Run.cons (.observe rfl) ?_
  refine Run.cons (.enqueue 8 (.returned 0) inside) ?_
  refine Run.cons (.finish true) ?_
  refine Run.cons (.observe rfl) ?_
  refine Run.cons (.stop inside) ?_
  refine Run.cons (.enqueue 9 (.returned 0) inside) ?_
  refine Run.cons (.finish false) ?_
  refine Run.cons (.drained rfl) ?_
  exact Run.single (.leave rfl)

/-- Eight attempts: two invocations, six drops, nothing queued. -/
theorem events_conserved_sample :
    (attempts sampleLabels = 8 ∧ observed sampleLabels = [2, 5] ∧
      accepted sampleLabels = [2, 5, 8] ∧ failed sampleLabels = 1) ∧
    attempts sampleLabels = (observed sampleLabels).length + sampleEnd.channel.dropped +
      sampleEnd.channel.events.length := by
  exact ⟨by decide, (events_conserved run_sample).1⟩

end Samples

end SmallServer.RouteObserver
