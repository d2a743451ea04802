import SmallServer.Server

/-!
# Effects of the server handle

The operations of a handle taken apart into small effects. `Sound` is the invariant of all
effects, in groups that each read a view of the handle; `Grows` is what every effect only
adds to. An operation that is put together from effects keeps both, and with them any
relation that the effects are known to keep.
-/

namespace SmallServer.ServerEffects

open SmallServer Server

set_option autoImplicit false

section Views

structure Tables where
  connections : OrderedDict StreamId TaskId
  closing : OrderedDict StreamId Unit
  closed : Finset StreamId
  accepted : Nat
  capacity : Nat

def tables (handle : ServerHandle) : Tables where
  connections := handle.connections
  closing := handle.closingConnections
  closed := handle.closedStreams
  accepted := handle.acceptedStreams
  capacity := handle.maxConnections

/-- Every accepted stream that is not closed is in one of the two tables. -/
structure Tables.Sound (tables : Tables) : Prop where
  connections_accepted : ∀ stream ∈ tables.connections, stream < tables.accepted
  closing_open : ∀ stream ∈ tables.closing, stream < tables.accepted ∧ stream ∉ tables.closed
  closed_accepted : ∀ stream ∈ tables.closed, stream < tables.accepted
  apart : ∀ stream ∈ tables.connections, stream ∉ tables.closing
  owned : ∀ stream, stream < tables.accepted → stream ∉ tables.closed →
    stream ∈ tables.connections ∨ stream ∈ tables.closing
  bounded : tables.connections.entries.length + tables.closing.entries.length ≤ tables.capacity

/-- A resource whose kernel close has succeeded. -/
def isClosed (handle : ServerHandle) : Resource → Prop
  | .wakeup => handle.wakeupClosed = true
  | .listener => handle.listenerClosed = true
  | .connection stream => stream ∈ handle.closedStreams

/-- After a close that succeeded the kernel is not asked again. -/
def CloseIsLast (earlier later : Call × Bool) : Prop :=
  ∀ resource, earlier = (.close resource, true) → later.1 ≠ .close resource

structure Recorded (log : List (Call × Bool)) (closed : Resource → Prop) : Prop where
  last : log.Pairwise CloseIsLast
  done : ∀ resource, (.close resource, true) ∈ log ↔ closed resource

/-- `notify` has succeeded once if it was sent, and never otherwise. -/
def Notified (log : List (Call × Bool)) (sent : Bool) : Prop :=
  log.count (.notify, true) = if sent then 1 else 0

structure Watch where
  count : Nat
  capacity : Nat
  closing : OrderedDict StreamId Unit
  live : OrderedDict TaskId Task
  listenerTask : Option TaskId
  phase : ListenerPhase
  waiting : Bool
  signalled : Bool
  signalFailed : Bool
  requested : Bool

def watch (handle : ServerHandle) : Watch where
  count := handle.ownedConnectionCount
  capacity := handle.maxConnections
  closing := handle.closingConnections
  live := handle.live
  listenerTask := handle.listenerTask
  phase := handle.listenerPhase
  waiting := handle.capacityWaiting
  signalled := handle.signalled
  signalFailed := handle.signalFailed
  requested := handle.closeRequested

def Listening (live : OrderedDict TaskId Task) : Prop :=
  ∃ taskId task, live.lookup taskId = some task ∧ task.routine = .acceptLoop

/-- A listener that waits for capacity has none, or was or will be told. -/
structure Watch.Sound (watch : Watch) : Prop where
  closing_requested : ∀ stream ∈ watch.closing, watch.requested = true
  listener : ∀ taskId task, watch.live.lookup taskId = some task →
    task.routine = .acceptLoop → watch.listenerTask = some taskId
  waiting : Listening watch.live → watch.phase = .waitsCapacity → watch.waiting = true
  room : Listening watch.live → watch.phase = .waitsAccept → watch.count < watch.capacity
  heard : Listening watch.live → watch.phase = .waitsCapacity → watch.signalled = false →
    watch.signalFailed = false → watch.requested = false → watch.capacity ≤ watch.count

structure Drive where
  failure : Option Fault
  fatal : List FatalError
  sent : Bool
  attempted : Bool
  requested : Bool
  finished : Bool
  wakeupClosed : Bool
  listenerClosed : Bool
  hasWakeup : Bool
  onFinalized : Bool
  finalizedCalls : Nat

def drive (handle : ServerHandle) : Drive where
  failure := handle.failure
  fatal := handle.fatalErrors
  sent := handle.notificationSent
  attempted := handle.finalizationAttempted
  requested := handle.closeRequested
  finished := handle.finished
  wakeupClosed := handle.wakeupClosed
  listenerClosed := handle.listenerClosed
  hasWakeup := handle.hasWakeup
  onFinalized := handle.onFinalized
  finalizedCalls := handle.finalizedCalls

/-- A failure is the first one, and drives the shutdown it asks for. -/
structure Drive.Sound (drive : Drive) : Prop where
  first : drive.failure = drive.fatal.head?.bind FatalError.identified
  identified : ∀ fatal ∈ drive.fatal, fatal.identified.isSome = true
  driven : drive.fatal ≠ [] → drive.sent = true ∨ drive.attempted = true
  fatal_requested : drive.fatal ≠ [] → drive.requested = true
  attempted_requested : drive.attempted = true → drive.requested = true
  listener_attempted : drive.listenerClosed = true → drive.attempted = true
  finished_closed : drive.finished = true → drive.listenerClosed = true ∧
    (drive.hasWakeup = true → drive.wakeupClosed = true)
  finished_told : drive.finished = true → drive.onFinalized = false
  told : drive.finalizedCalls = if drive.onFinalized then 0 else 1

structure Roster where
  live : OrderedDict TaskId Task
  owned : List TaskId
  pending : OrderedDict TaskId Unit
  cancelled : Finset TaskId
  connections : OrderedDict StreamId TaskId
  accepted : Nat
  nextTask : TaskId
  listenerTask : Option TaskId

def roster (handle : ServerHandle) : Roster where
  live := handle.live
  owned := handle.ownedTasks
  pending := handle.pendingTaskCancellations
  cancelled := handle.cancelledTaskIds
  connections := handle.connections
  accepted := handle.acceptedStreams
  nextTask := handle.nextTask
  listenerTask := handle.listenerTask

def Routine.stream : Routine → Option StreamId
  | .connection stream => some stream
  | .helper stream => some stream
  | _ => none

def Routine.isChild : Routine → Bool
  | .handler _ => true
  | .helper _ => true
  | .websocketChild => true
  | _ => false

/-- Every live task is owned or remembered for cancellation. -/
structure Roster.Sound (roster : Roster) : Prop where
  kept : ∀ taskId ∈ roster.live, taskId ∈ roster.owned ∨ taskId ∈ roster.pending
  cancelled : ∀ taskId ∈ roster.cancelled, taskId ∉ roster.live ∧ taskId < roster.nextTask
  known : ∀ taskId ∈ roster.live, taskId < roster.nextTask
  owned_known : ∀ taskId ∈ roster.owned, taskId < roster.nextTask
  pending_known : ∀ taskId ∈ roster.pending, taskId < roster.nextTask
  children_known : ∀ taskId task, roster.live.lookup taskId = some task →
    ∀ child ∈ task.children, child < roster.nextTask
  streams : ∀ taskId task stream, roster.live.lookup taskId = some task →
    Routine.stream task.routine = some stream → stream < roster.accepted
  entries : ∀ stream taskId task, roster.connections.lookup stream = some taskId →
    roster.live.lookup taskId = some task → task.routine = .connection stream
  entries_known : ∀ stream taskId, roster.connections.lookup stream = some taskId →
    taskId < roster.nextTask
  single : ∀ taskId task other otherTask stream, roster.live.lookup taskId = some task →
    roster.live.lookup other = some otherTask → task.routine = .connection stream →
      otherTask.routine = .connection stream → taskId = other
  listener : ∀ taskId, roster.listenerTask = some taskId → taskId < roster.nextTask ∧
    ∀ task, roster.live.lookup taskId = some task → task.routine = .acceptLoop
  children : ∀ taskId task, roster.live.lookup taskId = some task → ∀ child ∈ task.children,
    ∀ childTask, roster.live.lookup child = some childTask →
      Routine.isChild childTask.routine = true

structure Sound (handle : ServerHandle) : Prop where
  tables : (tables handle).Sound
  recorded : Recorded handle.log (isClosed handle)
  notified : Notified handle.log handle.notificationSent
  watch : (watch handle).Sound
  drive : (drive handle).Sound
  roster : (roster handle).Sound

end Views

section Effects

/-- `_close_or_retain` of a stream that is closed, or its capacity signal. -/
def withSignal (signal : Option Bool) (handle : ServerHandle) : ServerHandle :=
  match signal with
  | none => handle
  | some ok => { handle with
      log := handle.log ++ [(.capacitySignal, ok)]
      signalled := ok || handle.signalled
      signalFailed := !ok || handle.signalFailed }

def leave (popped : Bool) (stream : StreamId) (handle : ServerHandle) : ServerHandle :=
  { handle with
    connections := if popped then handle.connections.erase stream else handle.connections
    closingConnections := handle.closingConnections.erase stream }

def closeStream (stream : StreamId) (handle : ServerHandle) : ServerHandle :=
  { handle with
    log := handle.log ++ [(.close (.connection stream), true)]
    closedStreams := insert stream handle.closedStreams }

/-- The capacity that a change of the tables releases is not lost. -/
def NotLost (before after : ServerHandle) (popped : Bool) (signal : Option Bool) : Prop :=
  before.closeRequested = true ∨ popped = false ∨ signal.isSome = true ∨
    before.capacityWaiting = false ∨ before.ownedConnectionCount < before.maxConnections ∨
      after.maxConnections ≤ after.ownedConnectionCount ∨ before.listenerTask = none ∨
        before.listenerPhase ≠ .waitsCapacity

inductive Effect : ServerHandle → ServerHandle → Prop
  | quiet (handle : ServerHandle) (gracefulClosers : Finset StreamId)
      (cleanupErrors : OrderedDict CleanupKey Fault) (closeErrors : OrderedDict StreamId Fault) :
      Effect handle { handle with gracefulClosers, cleanupErrors, closeErrors }
  | websocketLeft (handle : ServerHandle) (stream : StreamId) :
      Effect handle { handle with websocketStates := handle.websocketStates.erase stream }
  | asked (handle : ServerHandle) (stream : StreamId) (ok : Bool) :
      Effect handle { handle with log := handle.log ++ [(.gracefulClose stream, ok)] }
  | requested (handle : ServerHandle) : Effect handle { handle with closeRequested := true }
  | begun (handle : ServerHandle) :
      Effect handle { handle with closeRequested := true, finalizationAttempted := true }
  | failed (handle : ServerHandle) (fatal : FatalError)
      (identified : fatal.identified.isSome = true)
      (driven : handle.notificationSent = true ∨ handle.finalizationAttempted = true)
      (requested : handle.closeRequested = true) : Effect handle (handle.fail fatal)
  | notified (handle : ServerHandle) (unsent : handle.notificationSent = false) :
      Effect handle { handle with
        notificationSent := true
        log := handle.log ++ [(.notify, true)] }
  | notifyFailed (handle : ServerHandle) :
      Effect handle { handle with log := handle.log ++ [(.notify, false)] }
  | wakeupTried (handle : ServerHandle) (ok : Bool) (present : handle.wakeupClosed = false) :
      Effect handle { handle with
        wakeupClosed := ok
        log := handle.log ++ [(.close .wakeup, ok)] }
  | listenerTried (handle : ServerHandle) (ok : Bool) (present : handle.listenerClosed = false)
      (attempted : handle.finalizationAttempted = true) :
      Effect handle { handle with
        listenerClosed := ok
        log := handle.log ++ [(.close .listener, ok)] }
  | closeFailed (handle : ServerHandle) (stream : StreamId)
      (unclosed : stream ∉ handle.closedStreams) :
      Effect handle { handle with log := handle.log ++ [(.close (.connection stream), false)] }
  | moved (handle : ServerHandle) (stream : StreamId) (unclosed : stream ∉ handle.closedStreams)
      (accepted : stream < handle.acceptedStreams) (requested : handle.closeRequested = true) :
      Effect handle { handle with
        log := handle.log ++ [(.close (.connection stream), false)]
        connections := handle.connections.erase stream
        closingConnections := handle.closingConnections.set stream () }
  | closed (handle : ServerHandle) (stream : StreamId) (popped : Bool) (signal : Option Bool)
      (unclosed : stream ∉ handle.closedStreams) (accepted : stream < handle.acceptedStreams)
      (notLost : NotLost handle (leave popped stream (closeStream stream handle)) popped
        signal) :
      Effect handle (withSignal signal (leave popped stream (closeStream stream handle)))
  | left (handle : ServerHandle) (stream : StreamId) (popped : Bool) (signal : Option Bool)
      (closed : stream ∈ handle.closedStreams)
      (notLost : NotLost handle (leave popped stream handle) popped signal) :
      Effect handle (withSignal signal (leave popped stream handle))
  | signalled (handle : ServerHandle) (ok : Bool) : Effect handle (withSignal (some ok) handle)
  | disowned (handle : ServerHandle) (taskId : TaskId)
      (gone : taskId ∉ handle.live ∨ taskId ∈ handle.pendingTaskCancellations) :
      Effect handle { handle with ownedTasks := handle.ownedTasks.erase taskId }
  | noted (handle : ServerHandle) (taskId : TaskId) (gone : taskId ∉ handle.live)
      (known : taskId < handle.nextTask) :
      Effect handle { handle with cancelledTaskIds := insert taskId handle.cancelledTaskIds }
  | updated (handle : ServerHandle) : Effect handle handle.updateFinished
  | unwaited (handle : ServerHandle) (gone : ¬Listening handle.live) :
      Effect handle { handle with capacityWaiting := false }
  | handlerLeft (handle : ServerHandle) (connection handler : TaskId)
      (gone : handler ∉ handle.live) :
      Effect handle { handle with live := dropHandler connection handler handle.live }

end Effects

section Preservation

variable {handle after : ServerHandle}

theorem length_erase_add {Value : Type} {dict : OrderedDict StreamId Value} {stream : StreamId}
    (present : stream ∈ dict) : (dict.erase stream).entries.length + 1 = dict.entries.length := by
  have counted := OrderedDict.total_erase (fun _ => 1) dict stream
  obtain ⟨value, found⟩ := Option.isSome_iff_exists.mp (AList.lookup_isSome.mpr present)
  rw [OrderedDict.total_one, OrderedDict.total_one, found, Option.elim_some] at counted
  omega

theorem erase_of_notMem {Value : Type} {dict : OrderedDict StreamId Value} {stream : StreamId}
    (absent : stream ∉ dict) : dict.erase stream = dict :=
  AList.ext (List.kerase_of_notMem_keys absent)

namespace Tables.Sound

variable {tables : Tables} {stream : StreamId}

theorem moved_le (sound : tables.Sound) (unclosed : stream ∉ tables.closed)
    (accepted : stream < tables.accepted) :
    (tables.connections.erase stream).entries.length +
        (tables.closing.set stream ()).entries.length ≤
      tables.connections.entries.length + tables.closing.entries.length := by
  have grown := OrderedDict.length_set tables.closing stream ()
  have shrunk := OrderedDict.length_erase_le tables.connections stream
  rcases sound.owned stream accepted unclosed with present | closing
  · have less := length_erase_add present
    rw [if_neg (sound.apart stream present)] at grown
    omega
  · rw [if_pos closing] at grown
    omega

theorem moved (sound : tables.Sound) (unclosed : stream ∉ tables.closed)
    (accepted : stream < tables.accepted) :
    { tables with
      connections := tables.connections.erase stream
      closing := tables.closing.set stream () : Tables }.Sound where
  connections_accepted other member :=
    sound.connections_accepted other (AList.mem_erase.mp member).2
  closing_open other member := by
    rcases OrderedDict.mem_set.mp member with rfl | inside
    · exact ⟨accepted, unclosed⟩
    · exact sound.closing_open other inside
  closed_accepted := sound.closed_accepted
  apart other member inside := by
    obtain ⟨different, present⟩ := AList.mem_erase.mp member
    rcases OrderedDict.mem_set.mp inside with same | closing
    · exact different same
    · exact sound.apart other present closing
  owned other known opened := by
    by_cases same : other = stream
    · exact .inr (OrderedDict.mem_set.mpr (.inl same))
    · exact (sound.owned other known opened).imp
        (fun present => AList.mem_erase.mpr ⟨same, present⟩)
        (fun closing => OrderedDict.mem_set.mpr (.inr closing))
  bounded := Nat.le_trans (sound.moved_le unclosed accepted) sound.bounded

theorem leave (sound : tables.Sound) (popped : Bool) {closed : Finset StreamId}
    (grown : ∀ other, other ∈ closed ↔ other = stream ∨ other ∈ tables.closed)
    (accepted : stream < tables.accepted) :
    { tables with
      connections := if popped then tables.connections.erase stream else tables.connections
      closing := tables.closing.erase stream
      closed : Tables }.Sound := by
  have present : ∀ other, other ∈ (if popped then tables.connections.erase stream
      else tables.connections) → other ∈ tables.connections := by
    cases popped with
    | true => exact fun other member => (AList.mem_erase.mp member).2
    | false => exact fun other => id
  have stays : ∀ other, other ≠ stream → other ∈ tables.connections →
      other ∈ (if popped then tables.connections.erase stream else tables.connections) := by
    cases popped with
    | true => exact fun other different member => AList.mem_erase.mpr ⟨different, member⟩
    | false => exact fun other _ => id
  have shrunk : (if popped then tables.connections.erase stream
      else tables.connections).entries.length ≤ tables.connections.entries.length := by
    cases popped with
    | true => exact OrderedDict.length_erase_le tables.connections stream
    | false => exact Nat.le_refl _
  exact {
    connections_accepted := fun other member =>
      sound.connections_accepted other (present other member)
    closing_open := by
      intro other member
      obtain ⟨different, closing⟩ := AList.mem_erase.mp member
      obtain ⟨known, opened⟩ := sound.closing_open other closing
      exact ⟨known, fun inside => ((grown other).mp inside).elim different opened⟩
    closed_accepted := by
      intro other member
      rcases (grown other).mp member with rfl | before
      · exact accepted
      · exact sound.closed_accepted other before
    apart := fun other member inside =>
      sound.apart other (present other member) (AList.mem_erase.mp inside).2
    owned := by
      intro other known opened
      have different : other ≠ stream := fun same => opened ((grown other).mpr (.inl same))
      have before : other ∉ tables.closed := fun inside => opened ((grown other).mpr (.inr inside))
      exact (sound.owned other known before).imp (stays other different)
        fun closing => AList.mem_erase.mpr ⟨different, closing⟩
    bounded := Nat.le_trans (Nat.add_le_add shrunk
      (OrderedDict.length_erase_le tables.closing stream)) sound.bounded }

end Tables.Sound

theorem Effect.keepsTables (effect : Effect handle after) (sound : (tables handle).Sound) :
    (tables after).Sound := by
  cases effect with
  | failed fatal => exact sound
  | moved stream unclosed accepted => exact sound.moved unclosed accepted
  | closed stream popped signal unclosed accepted =>
      have left : (ServerEffects.tables (leave popped stream (closeStream stream handle))).Sound :=
        sound.leave popped (fun other => Finset.mem_insert) accepted
      cases signal with
      | none => exact left
      | some ok => exact left
  | left stream popped signal closed =>
      have same : ∀ other, other ∈ handle.closedStreams ↔
          other = stream ∨ other ∈ handle.closedStreams := by
        intro other
        constructor
        · exact Or.inr
        · rintro (rfl | inside)
          · exact closed
          · exact inside
      have left : (ServerEffects.tables (leave popped stream handle)).Sound :=
        sound.leave popped same (sound.closed_accepted stream closed)
      cases signal with
      | none => exact left
      | some ok => exact left
  | updated =>
      unfold ServerHandle.updateFinished
      split
      · exact sound
      · exact sound
  | _ => exact sound

namespace Recorded

variable {log : List (Call × Bool)} {closed : Resource → Prop}

theorem append (recorded : Recorded log closed) {call : Call} {ok : Bool}
    (allowed : ∀ resource, call = .close resource → ok = false ∧ ¬closed resource) :
    Recorded (log ++ [(call, ok)]) closed where
  last := by
    refine List.pairwise_append.mpr ⟨recorded.last, List.pairwise_singleton _ _, ?_⟩
    intro earlier member later single resource done same
    rw [List.mem_singleton.mp single] at same
    rw [done] at member
    exact (allowed resource same).2 ((recorded.done resource).mp member)
  done resource := by
    rw [List.mem_append, recorded.done resource, List.mem_singleton]
    constructor
    · rintro (before | same)
      · exact before
      · obtain ⟨rfl, rfl⟩ := Prod.mk.inj same
        exact absurd (allowed resource rfl).1 (by decide)
    · exact Or.inl

theorem closes (recorded : Recorded log closed) (resource : Resource)
    (unclosed : ¬closed resource) {grown : Resource → Prop}
    (added : ∀ other, grown other ↔ other = resource ∨ closed other) :
    Recorded (log ++ [(.close resource, true)]) grown where
  last := by
    refine List.pairwise_append.mpr ⟨recorded.last, List.pairwise_singleton _ _, ?_⟩
    intro earlier member later single other done same
    rw [List.mem_singleton.mp single] at same
    rw [done] at member
    obtain rfl := Call.close.inj same
    exact unclosed ((recorded.done resource).mp member)
  done other := by
    rw [List.mem_append, recorded.done other, List.mem_singleton, added other, Prod.mk.injEq,
      Call.close.injEq]
    constructor
    · rintro (before | ⟨same, -⟩)
      · exact .inr before
      · exact .inl same
    · rintro (same | before)
      · exact .inr ⟨same, rfl⟩
      · exact .inl before

theorem signal (recorded : Recorded log closed) (ok : Bool) :
    Recorded (log ++ [(.capacitySignal, ok)]) closed :=
  recorded.append fun _ same => Call.noConfusion same

end Recorded

theorem recorded_withSignal (signal : Option Bool)
    (recorded : Recorded handle.log (isClosed handle)) :
    Recorded (withSignal signal handle).log (isClosed (withSignal signal handle)) := by
  cases signal with
  | none => exact recorded
  | some ok => exact recorded.signal ok

theorem Effect.keepsRecorded (effect : Effect handle after)
    (recorded : Recorded handle.log (isClosed handle)) :
    Recorded after.log (isClosed after) := by
  cases effect with
  | asked stream ok => exact recorded.append fun _ same => Call.noConfusion same
  | notified => exact recorded.append fun _ same => Call.noConfusion same
  | notifyFailed => exact recorded.append fun _ same => Call.noConfusion same
  | wakeupTried ok present =>
      cases ok with
      | false =>
          have same : isClosed { handle with
              wakeupClosed := false
              log := handle.log ++ [(Call.close .wakeup, false)] } = isClosed handle := by
            funext resource
            cases resource with
            | wakeup => exact propext (by simp only [isClosed, present])
            | _ => rfl
          rw [same]
          refine recorded.append fun resource close => ⟨rfl, ?_⟩
          rw [← Call.close.inj close]
          exact fun closed => absurd (present.symm.trans closed) (by decide)
      | true =>
          refine recorded.closes .wakeup
            (fun closed => absurd (present.symm.trans closed) (by decide)) ?_
          intro resource
          cases resource with
          | wakeup => exact iff_of_true rfl (.inl rfl)
          | listener => exact (or_iff_right Resource.noConfusion).symm
          | connection stream => exact (or_iff_right Resource.noConfusion).symm
  | listenerTried ok present =>
      cases ok with
      | false =>
          have same : isClosed { handle with
              listenerClosed := false
              log := handle.log ++ [(Call.close .listener, false)] } = isClosed handle := by
            funext resource
            cases resource with
            | listener => exact propext (by simp only [isClosed, present])
            | _ => rfl
          rw [same]
          refine recorded.append fun resource close => ⟨rfl, ?_⟩
          rw [← Call.close.inj close]
          exact fun closed => absurd (present.symm.trans closed) (by decide)
      | true =>
          refine recorded.closes .listener
            (fun closed => absurd (present.symm.trans closed) (by decide)) ?_
          intro resource
          cases resource with
          | listener => exact iff_of_true rfl (.inl rfl)
          | wakeup => exact (or_iff_right Resource.noConfusion).symm
          | connection stream => exact (or_iff_right Resource.noConfusion).symm
  | closeFailed stream unclosed =>
      refine recorded.append fun resource close => ⟨rfl, ?_⟩
      rw [← Call.close.inj close]
      exact unclosed
  | moved stream unclosed =>
      refine recorded.append fun resource close => ⟨rfl, ?_⟩
      rw [← Call.close.inj close]
      exact unclosed
  | closed stream popped signal unclosed =>
      refine recorded_withSignal signal (recorded.closes (.connection stream) unclosed ?_)
      intro resource
      cases resource with
      | connection other => exact Finset.mem_insert.trans (or_congr_left
          ⟨fun same => congrArg _ same, fun same => Resource.connection.inj same⟩)
      | wakeup => exact (or_iff_right Resource.noConfusion).symm
      | listener => exact (or_iff_right Resource.noConfusion).symm
  | left stream popped signal => exact recorded_withSignal signal recorded
  | signalled ok => exact recorded.signal ok
  | updated =>
      unfold ServerHandle.updateFinished
      split
      · exact recorded
      · exact recorded
  | _ => exact recorded

theorem Notified.append {log : List (Call × Bool)} {sent : Bool} (notified : Notified log sent)
    {entry : Call × Bool} (other : entry ≠ (.notify, true)) :
    Notified (log ++ [entry]) sent := by
  unfold Notified
  rw [List.count_append, List.count_singleton, if_neg (by simpa using other)]
  exact notified

theorem Effect.keepsNotified (effect : Effect handle after)
    (notified : Notified handle.log handle.notificationSent) :
    Notified after.log after.notificationSent := by
  cases effect with
  | asked stream ok => exact notified.append (by simp)
  | notified unsent =>
      unfold Notified at notified ⊢
      rw [unsent] at notified
      rw [List.count_append, notified]
      rfl
  | notifyFailed => exact notified.append (by simp)
  | wakeupTried ok => exact notified.append (by simp)
  | listenerTried ok => exact notified.append (by simp)
  | closeFailed stream => exact notified.append (by simp)
  | moved stream => exact notified.append (by simp)
  | closed stream popped signal =>
      have closed : Notified (closeStream stream handle).log handle.notificationSent :=
        notified.append (by simp)
      cases signal with
      | none => exact closed
      | some ok => exact closed.append (by simp)
  | left stream popped signal =>
      cases signal with
      | none => exact notified
      | some ok => exact notified.append (by simp)
  | signalled ok => exact notified.append (by simp)
  | updated =>
      unfold ServerHandle.updateFinished
      split
      · exact notified
      · exact notified
  | _ => exact notified

/-- Tasks may end, and lose children, but keep what they run. -/
def Shrinks (live later : OrderedDict TaskId Task) : Prop :=
  ∀ taskId laterTask, later.lookup taskId = some laterTask →
    ∃ task, live.lookup taskId = some task ∧ task.routine = laterTask.routine ∧
      laterTask.children ⊆ task.children

namespace Shrinks

variable {live later latest : OrderedDict TaskId Task}

theorem refl (live : OrderedDict TaskId Task) : Shrinks live live :=
  fun _ task found => ⟨task, found, rfl, fun _ => id⟩

theorem trans (first : Shrinks live later) (second : Shrinks later latest) :
    Shrinks live latest := by
  intro taskId latestTask found
  obtain ⟨middle, before, sameRoutine, fewer⟩ := second taskId latestTask found
  obtain ⟨task, first, routine, more⟩ := first taskId middle before
  exact ⟨task, first, routine.trans sameRoutine, fun child member => more (fewer member)⟩

theorem erase (live : OrderedDict TaskId Task) (taskId : TaskId) :
    Shrinks live (live.erase taskId) := by
  intro other task found
  rw [OrderedDict.lookup_erase_eq] at found
  split at found
  · cases found
  · exact ⟨task, found, rfl, fun _ => id⟩

theorem dropHandler (live : OrderedDict TaskId Task) (connection handler : TaskId) :
    Shrinks live (dropHandler connection handler live) := by
  unfold Server.dropHandler
  split
  · exact refl live
  · rename_i task found
    intro other laterTask later
    rw [OrderedDict.lookup_set_eq] at later
    split at later
    · rename_i same
      cases later
      refine ⟨task, same ▸ found, rfl, ?_⟩
      intro child member
      simp only [Task.children, List.mem_append] at member ⊢
      exact member.imp_left (Or.imp_left List.mem_of_mem_erase)
    · exact ⟨laterTask, later, rfl, fun _ => id⟩

theorem mem (shrinks : Shrinks live later) {taskId : TaskId} (inside : taskId ∈ later) :
    taskId ∈ live := by
  obtain ⟨laterTask, found⟩ := Option.isSome_iff_exists.mp (AList.lookup_isSome.mpr inside)
  obtain ⟨task, before, -⟩ := shrinks taskId laterTask found
  exact OrderedDict.mem_of_lookup before

theorem listening (shrinks : Shrinks live later) (listens : Listening later) :
    Listening live := by
  obtain ⟨taskId, laterTask, found, accepts⟩ := listens
  obtain ⟨task, before, same, -⟩ := shrinks taskId laterTask found
  exact ⟨taskId, task, before, same.trans accepts⟩

end Shrinks

namespace Watch.Sound

variable {watch : Watch}

theorem requesting (sound : watch.Sound) : { watch with requested := true : Watch }.Sound where
  closing_requested _ _ := rfl
  listener := sound.listener
  waiting := sound.waiting
  room := sound.room
  heard _ _ _ _ unrequested := Bool.noConfusion unrequested

theorem shrink (sound : watch.Sound) {later : OrderedDict TaskId Task}
    (shrinks : Shrinks watch.live later) : { watch with live := later : Watch }.Sound where
  closing_requested := sound.closing_requested
  listener taskId laterTask found accepts := by
    obtain ⟨task, before, same, -⟩ := shrinks taskId laterTask found
    exact sound.listener taskId task before (same.trans accepts)
  waiting listens := sound.waiting (shrinks.listening listens)
  room listens := sound.room (shrinks.listening listens)
  heard listens := sound.heard (shrinks.listening listens)

theorem requestedMove (sound : watch.Sound) (requested : watch.requested = true) {count : Nat}
    {closing : OrderedDict StreamId Unit} (fewer : count ≤ watch.count) :
    { watch with count, closing : Watch }.Sound where
  closing_requested _ _ := requested
  listener := sound.listener
  waiting := sound.waiting
  room listens phase := Nat.lt_of_le_of_lt fewer (sound.room listens phase)
  heard _ _ _ _ unrequested := Bool.noConfusion (requested.symm.trans unrequested)

end Watch.Sound

theorem count_leave_le (handle : ServerHandle) (popped : Bool) (stream : StreamId) :
    (leave popped stream handle).ownedConnectionCount ≤ handle.ownedConnectionCount := by
  have shrunk := OrderedDict.length_erase_le handle.connections stream
  have settled := OrderedDict.length_erase_le handle.closingConnections stream
  unfold leave ServerHandle.ownedConnectionCount
  cases popped with
  | true =>
      change (handle.connections.erase stream).entries.length +
        (handle.closingConnections.erase stream).entries.length ≤ _
      omega
  | false =>
      change handle.connections.entries.length +
        (handle.closingConnections.erase stream).entries.length ≤ _
      omega

/-- Where a stream leaves, the listener is told or there is nothing to tell. -/
theorem watch_leave (sound : (watch handle).Sound) (stream : StreamId) (popped : Bool)
    (signal : Option Bool)
    (notLost : NotLost handle (leave popped stream handle) popped signal) :
    (watch (withSignal signal (leave popped stream handle))).Sound := by
  have fewer := count_leave_le handle popped stream
  have closing : ∀ other ∈ handle.closingConnections.erase stream,
      handle.closeRequested = true := fun other member =>
    sound.closing_requested other (AList.mem_erase.mp member).2
  cases signal with
  | some ok =>
      exact {
        closing_requested := closing
        listener := sound.listener
        waiting := sound.waiting
        room := fun listens phase => Nat.lt_of_le_of_lt fewer (sound.room listens phase)
        heard := by
          intro listens phase signalled signalFailed
          cases ok with
          | true => cases signalled
          | false => cases signalFailed }
  | none =>
      refine {
        closing_requested := closing
        listener := sound.listener
        waiting := sound.waiting
        room := fun listens phase => Nat.lt_of_le_of_lt fewer (sound.room listens phase)
        heard := ?_ }
      intro listens phase signalled signalFailed unrequested
      have before : handle.maxConnections ≤ handle.ownedConnectionCount :=
        sound.heard listens phase signalled signalFailed unrequested
      rcases notLost with requested | unpopped | sent | idle | below | above | none | elsewhere
      · exact Bool.noConfusion (requested.symm.trans unrequested)
      · have absent : stream ∉ handle.closingConnections := fun member =>
          Bool.noConfusion ((sound.closing_requested stream member).symm.trans unrequested)
        rw [unpopped]
        change handle.maxConnections ≤ handle.connections.entries.length +
          (handle.closingConnections.erase stream).entries.length
        rw [erase_of_notMem absent]
        exact before
      · cases sent
      · exact Bool.noConfusion ((sound.waiting listens phase).symm.trans idle)
      · exact absurd before (Nat.not_le_of_gt below)
      · exact above
      · obtain ⟨taskId, task, found, accepts⟩ := listens
        have listener : handle.listenerTask = some taskId :=
          sound.listener taskId task found accepts
        rw [none] at listener
        cases listener
      · exact absurd phase elsewhere

theorem Effect.keepsWatch (effect : Effect handle after) (known : (tables handle).Sound)
    (sound : (watch handle).Sound) : (watch after).Sound := by
  cases effect with
  | requested => exact sound.requesting
  | begun => exact sound.requesting
  | moved stream unclosed accepted requested =>
      exact sound.requestedMove requested (known.moved_le unclosed accepted)
  | closed stream popped signal unclosed accepted notLost =>
      have closed : (watch (closeStream stream handle)).Sound := sound
      exact watch_leave closed stream popped signal notLost
  | left stream popped signal closed notLost =>
      exact watch_leave sound stream popped signal notLost
  | signalled ok =>
      exact { sound with
        heard := by
          intro listens phase signalled signalFailed
          cases ok with
          | true => cases signalled
          | false => cases signalFailed }
  | updated =>
      unfold ServerHandle.updateFinished
      split
      · exact sound
      · exact sound
  | unwaited gone =>
      exact { sound with
        waiting := fun listens => absurd listens gone
        room := fun listens => absurd listens gone
        heard := fun listens => absurd listens gone }
  | handlerLeft connection handler =>
      exact sound.shrink (Shrinks.dropHandler handle.live connection handler)
  | _ => exact sound

namespace Drive.Sound

variable {drive : Drive}

theorem failed (sound : drive.Sound) (fatal : FatalError)
    (identified : fatal.identified.isSome = true)
    (driven : drive.sent = true ∨ drive.attempted = true) (requested : drive.requested = true) :
    { drive with
      failure := drive.failure <|> fatal.identified
      fatal := drive.fatal ++ [fatal] : Drive }.Sound where
  first := by
    have first := sound.first
    cases before : drive.fatal with
    | nil =>
        rw [before] at first
        rw [first]
        rfl
    | cons earliest later =>
        rw [before] at first
        obtain ⟨fault, known⟩ := Option.isSome_iff_exists.mp
          (sound.identified earliest (before ▸ List.mem_cons_self))
        change drive.failure = earliest.identified at first
        change (drive.failure <|> fatal.identified) = earliest.identified
        rw [first, known]
        rfl
  identified other member := by
    rcases List.mem_append.mp member with before | new
    · exact sound.identified other before
    · rw [List.mem_singleton.mp new]
      exact identified
  driven _ := driven
  fatal_requested _ := requested
  __ := sound

end Drive.Sound

theorem drive_updateFinished (sound : (drive handle).Sound) :
    (drive handle.updateFinished).Sound := by
  unfold ServerHandle.updateFinished
  split
  · rename_i complete
    simp only [ServerHandle.complete, Bool.and_eq_true, Bool.or_eq_true,
      Bool.not_eq_true'] at complete
    obtain ⟨⟨⟨⟨⟨⟨-, wakeup⟩, listener⟩, -⟩, -⟩, -⟩, -⟩ := complete
    exact { sound with
      finished_closed := fun _ => ⟨listener, fun present => wakeup.resolve_left
        fun absent => Bool.noConfusion (absent.symm.trans present)⟩
      finished_told := by
        intro _
        change (handle.onFinalized && handle.finished) = false
        cases finished : handle.finished with
        | false => exact Bool.and_false _
        | true =>
            have told : handle.onFinalized = false := sound.finished_told finished
            rw [told]
            rfl
      told := by
        have told : handle.finalizedCalls = if handle.onFinalized then 0 else 1 := sound.told
        change (if !handle.finished && handle.onFinalized then handle.finalizedCalls + 1
          else handle.finalizedCalls) = if handle.onFinalized && handle.finished then 0 else 1
        rw [told]
        cases finished : handle.finished with
        | true =>
            have silent : handle.onFinalized = false := sound.finished_told finished
            rw [silent]
            rfl
        | false => cases handle.onFinalized <;> rfl }
  · exact { sound with
      finished_closed := Bool.noConfusion
      finished_told := Bool.noConfusion }

theorem Effect.keepsDrive (effect : Effect handle after) (sound : (drive handle).Sound) :
    (drive after).Sound := by
  cases effect with
  | requested =>
      exact { sound with
        fatal_requested := fun _ => rfl
        attempted_requested := fun _ => rfl }
  | begun =>
      exact { sound with
        driven := fun _ => .inr rfl
        fatal_requested := fun _ => rfl
        attempted_requested := fun _ => rfl
        listener_attempted := fun _ => rfl }
  | failed fatal identified driven requested =>
      exact sound.failed fatal identified driven requested
  | notified =>
      exact { sound with driven := fun _ => .inl rfl }
  | wakeupTried ok present =>
      exact { sound with
        finished_closed := by
          intro finished
          obtain ⟨listener, wakeup⟩ := sound.finished_closed finished
          exact ⟨listener, fun has => absurd (present.symm.trans (wakeup has)) (by decide)⟩ }
  | listenerTried ok present attempted =>
      exact { sound with
        listener_attempted := fun _ => attempted
        finished_closed := fun finished =>
          absurd (present.symm.trans (sound.finished_closed finished).1) (by decide) }
  | closed stream popped signal =>
      cases signal with
      | none => exact sound
      | some ok => exact sound
  | left stream popped signal =>
      cases signal with
      | none => exact sound
      | some ok => exact sound
  | updated => exact drive_updateFinished sound
  | _ => exact sound

namespace Roster.Sound

variable {roster : Roster}

theorem shrink (sound : roster.Sound) {later : OrderedDict TaskId Task}
    (shrinks : Shrinks roster.live later) : { roster with live := later : Roster }.Sound where
  kept taskId member := sound.kept taskId (shrinks.mem member)
  cancelled taskId member :=
    ⟨fun live => (sound.cancelled taskId member).1 (shrinks.mem live),
      (sound.cancelled taskId member).2⟩
  known taskId member := sound.known taskId (shrinks.mem member)
  owned_known := sound.owned_known
  pending_known := sound.pending_known
  children_known taskId laterTask found child member := by
    obtain ⟨task, before, -, fewer⟩ := shrinks taskId laterTask found
    exact sound.children_known taskId task before child (fewer member)
  streams taskId laterTask stream found acts := by
    obtain ⟨task, before, same, -⟩ := shrinks taskId laterTask found
    rw [← same] at acts
    exact sound.streams taskId task stream before acts
  entries stream taskId laterTask entry found := by
    obtain ⟨task, before, same, -⟩ := shrinks taskId laterTask found
    exact same.symm.trans (sound.entries stream taskId task entry before)
  entries_known := sound.entries_known
  single taskId laterTask other otherLater stream found otherFound runs otherRuns := by
    obtain ⟨task, before, same, -⟩ := shrinks taskId laterTask found
    obtain ⟨otherTask, otherBefore, otherSame, -⟩ := shrinks other otherLater otherFound
    exact sound.single taskId task other otherTask stream before otherBefore
      (same.trans runs) (otherSame.trans otherRuns)
  listener taskId is := by
    refine ⟨(sound.listener taskId is).1, fun laterTask found => ?_⟩
    obtain ⟨task, before, same, -⟩ := shrinks taskId laterTask found
    exact same.symm.trans ((sound.listener taskId is).2 task before)
  children taskId laterTask found child member childLater childFound := by
    obtain ⟨task, before, -, fewer⟩ := shrinks taskId laterTask found
    obtain ⟨childTask, childBefore, same, -⟩ := shrinks child childLater childFound
    rw [← same]
    exact sound.children taskId task before child (fewer member) childTask childBefore

theorem forget (sound : roster.Sound) (stream : StreamId) :
    { roster with connections := roster.connections.erase stream : Roster }.Sound := by
  have before : ∀ other taskId, (roster.connections.erase stream).lookup other = some taskId →
      roster.connections.lookup other = some taskId := by
    intro other taskId found
    rw [OrderedDict.lookup_erase_eq] at found
    split at found
    · cases found
    · exact found
  exact { sound with
    entries := fun other taskId task entry => sound.entries other taskId task (before _ _ entry)
    entries_known := fun other taskId entry => sound.entries_known other taskId (before _ _ entry) }

end Roster.Sound

theorem roster_leave (sound : (roster handle).Sound) (popped : Bool) (stream : StreamId)
    (signal : Option Bool) :
    (roster (withSignal signal (leave popped stream handle))).Sound := by
  cases popped with
  | true =>
      cases signal with
      | none => exact sound.forget stream
      | some ok => exact sound.forget stream
  | false =>
      cases signal with
      | none => exact sound
      | some ok => exact sound

theorem Effect.keepsRoster (effect : Effect handle after) (sound : (roster handle).Sound) :
    (roster after).Sound := by
  cases effect with
  | moved stream => exact sound.forget stream
  | closed stream popped signal =>
      have closed : (roster (closeStream stream handle)).Sound := sound
      exact roster_leave closed popped stream signal
  | left stream popped signal => exact roster_leave sound popped stream signal
  | disowned taskId gone =>
      exact { sound with
        kept := by
          intro other live
          by_cases same : other = taskId
          · rw [same] at live ⊢
            exact .inr (gone.resolve_left fun dead => dead live)
          · exact (sound.kept other live).imp_left (List.mem_erase_of_ne same).mpr
        owned_known := fun other member => sound.owned_known other (List.mem_of_mem_erase member) }
  | noted taskId gone known =>
      exact { sound with
        cancelled := by
          intro other member
          rcases Finset.mem_insert.mp member with rfl | before
          · exact ⟨gone, known⟩
          · exact sound.cancelled other before }
  | updated =>
      unfold ServerHandle.updateFinished
      split
      · exact sound
      · exact sound
  | handlerLeft connection handler =>
      exact sound.shrink (Shrinks.dropHandler handle.live connection handler)
  | _ => exact sound

theorem Effect.sound (effect : Effect handle after) (sound : Sound handle) : Sound after where
  tables := effect.keepsTables sound.tables
  recorded := effect.keepsRecorded sound.recorded
  notified := effect.keepsNotified sound.notified
  watch := effect.keepsWatch sound.tables sound.watch
  drive := effect.keepsDrive sound.drive
  roster := effect.keepsRoster sound.roster

end Preservation

end SmallServer.ServerEffects
