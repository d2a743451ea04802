import SmallServer.ServerEffects

/-!
# Operations of the server handle

Every operation is a sequence of effects, and of cancellations, which come in as a
parameter. `Keeps` collects what is known of an operation: it keeps the invariant, only adds
to what `Grows` lists, and keeps a further relation `P` between before and after that each
effect is known to keep.
-/

namespace SmallServer.ServerOperations

open SmallServer Server ServerEffects

set_option autoImplicit false

section Growth

/-- What an operation leaves as it is, or only adds to. -/
structure Grows (handle after : ServerHandle) : Prop where
  live : Shrinks handle.live after.live
  accepted : after.acceptedStreams = handle.acceptedStreams
  nextTask : after.nextTask = handle.nextTask
  capacity : after.maxConnections = handle.maxConnections
  hasWakeup : after.hasWakeup = handle.hasWakeup
  listenerTask : after.listenerTask = handle.listenerTask
  phase : after.listenerPhase = handle.listenerPhase
  closed : handle.closedStreams ⊆ after.closedStreams
  requested : handle.closeRequested = true → after.closeRequested = true
  attempted : handle.finalizationAttempted = true → after.finalizationAttempted = true
  sent : handle.notificationSent = true → after.notificationSent = true
  wakeupClosed : handle.wakeupClosed = true → after.wakeupClosed = true
  listenerClosed : handle.listenerClosed = true → after.listenerClosed = true
  log : handle.log <+: after.log
  fatal : handle.fatalErrors <+: after.fatalErrors
  connections : ∀ stream taskId, after.connections.lookup stream = some taskId →
    handle.connections.lookup stream = some taskId
  websockets : after.websocketStates ⊆ handle.websocketStates

namespace Grows

variable {handle middle after : ServerHandle}

theorem refl (handle : ServerHandle) : Grows handle handle where
  live := .refl _
  accepted := rfl
  nextTask := rfl
  capacity := rfl
  hasWakeup := rfl
  listenerTask := rfl
  phase := rfl
  closed := Finset.Subset.refl _
  requested := id
  attempted := id
  sent := id
  wakeupClosed := id
  listenerClosed := id
  log := List.prefix_rfl
  fatal := List.prefix_rfl
  connections _ _ := id
  websockets := Finset.Subset.refl _

theorem trans (first : Grows handle middle) (second : Grows middle after) :
    Grows handle after where
  live := first.live.trans second.live
  accepted := second.accepted.trans first.accepted
  nextTask := second.nextTask.trans first.nextTask
  capacity := second.capacity.trans first.capacity
  hasWakeup := second.hasWakeup.trans first.hasWakeup
  listenerTask := second.listenerTask.trans first.listenerTask
  phase := second.phase.trans first.phase
  closed := first.closed.trans second.closed
  requested := second.requested ∘ first.requested
  attempted := second.attempted ∘ first.attempted
  sent := second.sent ∘ first.sent
  wakeupClosed := second.wakeupClosed ∘ first.wakeupClosed
  listenerClosed := second.listenerClosed ∘ first.listenerClosed
  log := first.log.trans second.log
  fatal := first.fatal.trans second.fatal
  connections stream taskId := first.connections stream taskId ∘ second.connections stream taskId
  websockets := second.websockets.trans first.websockets

theorem logged (handle : ServerHandle) (entry : Call × Bool) :
    Grows handle { handle with log := handle.log ++ [entry] } :=
  { refl handle with log := List.prefix_append _ _ }

theorem forget (handle : ServerHandle) (popped : Bool) (stream : StreamId) :
    Grows handle (leave popped stream handle) :=
  { refl handle with
    connections := by
      intro other taskId found
      cases popped with
      | false => exact found
      | true =>
          have erased : (handle.connections.erase stream).lookup other = some taskId := found
          rw [OrderedDict.lookup_erase_eq] at erased
          split at erased
          · cases erased
          · exact erased }

theorem signal (handle : ServerHandle) (signal : Option Bool) :
    Grows handle (withSignal signal handle) := by
  cases signal with
  | none => exact refl handle
  | some ok => exact { refl handle with log := List.prefix_append _ _ }

theorem effect (effect : Effect handle after) : Grows handle after := by
  cases effect with
  | websocketLeft stream =>
      exact { refl handle with websockets := Finset.erase_subset _ _ }
  | asked stream ok => exact logged handle _
  | requested => exact { refl handle with requested := fun _ => rfl }
  | begun => exact { refl handle with requested := fun _ => rfl, attempted := fun _ => rfl }
  | failed fatal => exact { refl handle with fatal := List.prefix_append _ _ }
  | notified =>
      exact { refl handle with sent := fun _ => rfl, log := List.prefix_append _ _ }
  | notifyFailed => exact logged handle _
  | wakeupTried ok present =>
      exact { refl handle with
        wakeupClosed := fun closed => absurd (present.symm.trans closed) (by decide)
        log := List.prefix_append _ _ }
  | listenerTried ok present =>
      exact { refl handle with
        listenerClosed := fun closed => absurd (present.symm.trans closed) (by decide)
        log := List.prefix_append _ _ }
  | closeFailed stream => exact logged handle _
  | moved stream =>
      exact { refl handle with
        connections := (forget handle true stream).connections
        log := List.prefix_append _ _ }
  | closed stream popped signal_ =>
      have closes : Grows handle (closeStream stream handle) :=
        { refl handle with
          closed := Finset.subset_insert _ _
          log := List.prefix_append _ _ }
      exact (closes.trans (forget _ popped stream)).trans (signal _ signal_)
  | left stream popped signal_ => exact (forget _ popped stream).trans (signal _ signal_)
  | updated =>
      unfold ServerHandle.updateFinished
      split
      · exact { refl handle with live := .refl _ }
      · exact { refl handle with live := .refl _ }
  | handlerLeft connection handler =>
      exact { refl handle with live := .dropHandler _ _ _ }
  | signalled ok => exact { refl handle with log := List.prefix_append _ _ }
  | quiet => exact { refl handle with live := .refl _ }
  | disowned => exact { refl handle with live := .refl _ }
  | noted => exact { refl handle with live := .refl _ }
  | unwaited => exact { refl handle with live := .refl _ }

end Grows

end Growth

section Keeping

structure Covers (P : ServerHandle → ServerHandle → Prop) : Prop where
  refl : ∀ handle, P handle handle
  trans : ∀ handle middle after, P handle middle → P middle after → P handle after
  effect : ∀ handle after, Sound handle → Effect handle after → P handle after

def Keeps (P : ServerHandle → ServerHandle → Prop) (handle after : ServerHandle) : Prop :=
  Sound handle → Sound after ∧ Grows handle after ∧ P handle after

variable {P : ServerHandle → ServerHandle → Prop} {handle middle after : ServerHandle}

namespace Keeps

theorem refl (covers : Covers P) : Keeps P handle handle := fun sound =>
  ⟨sound, .refl handle, covers.refl handle⟩

theorem trans (covers : Covers P) (first : Keeps P handle middle)
    (second : Keeps P middle after) : Keeps P handle after := by
  intro sound
  obtain ⟨middleSound, grown, kept⟩ := first sound
  obtain ⟨afterSound, moreGrown, moreKept⟩ := second middleSound
  exact ⟨afterSound, grown.trans moreGrown, covers.trans _ _ _ kept moreKept⟩

theorem effect (covers : Covers P) (effect : Effect handle after) : Keeps P handle after :=
  fun sound => ⟨effect.sound sound, .effect effect, covers.effect _ _ sound effect⟩

theorem given (kept : Sound handle → Keeps P handle after) : Keeps P handle after :=
  fun sound => kept sound sound

theorem andThen (covers : Covers P) (first : Keeps P handle middle)
    (second : Sound middle → Grows handle middle → Keeps P middle after) :
    Keeps P handle after := by
  intro sound
  obtain ⟨middleSound, grown, kept⟩ := first sound
  obtain ⟨afterSound, moreGrown, moreKept⟩ := second middleSound grown middleSound
  exact ⟨afterSound, grown.trans moreGrown, covers.trans _ _ _ kept moreKept⟩

theorem foldl {State Item : Type} (covers : Covers P) (view : State → ServerHandle)
    (turn : State → Item → State) (items : List Item) (state : State)
    (turns : ∀ item ∈ items, ∀ current, Grows (view state) (view current) →
      Keeps P (view current) (view (turn current item))) :
    Keeps P (view state) (view (items.foldl turn state)) := by
  have general : ∀ rest : List Item, (∀ item ∈ rest, item ∈ items) → ∀ current,
      Keeps P (view state) (view current) →
        Keeps P (view state) (view (rest.foldl turn current)) := by
    intro rest
    induction rest with
    | nil => exact fun _ current kept => kept
    | cons item rest induction =>
        intro members current kept
        rw [List.foldl_cons]
        refine induction (fun other member => members other (List.mem_cons_of_mem item member)) _ ?_
        exact kept.andThen covers fun _ grown =>
          turns item (members item List.mem_cons_self) current grown
  exact general items (fun _ => id) state (.refl covers)

end Keeps

def WasAttempted (handle : ServerHandle) : Prop :=
  handle.finished = true → handle.closeRequested = true ∧ handle.finalizationAttempted = true

/-- What is known of the finalization an operation falls back on. -/
def FinishKeeps (P : ServerHandle → ServerHandle → Prop)
    (finish : Option TaskId → ServerHandle → ServerHandle) : Prop :=
  ∀ task handle, WasAttempted handle → Keeps P (begun handle) (finish task handle)

end Keeping

section Failures

variable {P : ServerHandle → ServerHandle → Prop} {handle after : ServerHandle}
  {answers : Nat → Bool} {finish : Option TaskId → ServerHandle → ServerHandle}
  (covers : Covers P)

theorem of_attempt {call : Call} {ok : Bool} (tried : attempt answers call handle = (ok, after)) :
    after = { handle with log := handle.log ++ [(call, ok)] } := by
  obtain ⟨rfl, rfl⟩ := Prod.mk.inj tried
  rfl

theorem wasAttempted_of_sound (sound : Sound handle) : WasAttempted handle := by
  intro finished
  have listener := (sound.drive.finished_closed finished).1
  have attempted := sound.drive.listener_attempted listener
  exact ⟨sound.drive.attempted_requested attempted, attempted⟩

include covers

theorem finish_failed (finishes : FinishKeeps P finish) (fatal : FatalError)
    (identified : fatal.identified.isSome = true) (task : Option TaskId) :
    Keeps P handle (finish task { handle.fail fatal with closeRequested := true }) := by
  refine .given fun sound => ?_
  have failed : Keeps P handle (begun (handle.fail fatal)) :=
    (Keeps.effect covers (.begun handle)).trans covers
      (.effect covers (.failed (begun handle) fatal identified (.inr rfl) rfl))
  refine failed.trans covers (finishes task { handle.fail fatal with closeRequested := true } ?_)
  exact fun finished => ⟨rfl, (wasAttempted_of_sound sound finished).2⟩

theorem notify_failed (finishes : FinishKeeps P finish) (fatal : FatalError)
    (identified : fatal.identified.isSome = true) (task : Option TaskId)
    (unsent : handle.notificationSent = false) :
    Keeps P handle
      (match attempt answers .notify { handle.fail fatal with closeRequested := true } with
      | (true, next) => { next with notificationSent := true }
      | (false, next) => finish task next) := by
  split
  · rename_i next answer
    obtain rfl := of_attempt answer
    have told : Keeps P handle { handle with
        closeRequested := true
        notificationSent := true
        log := handle.log ++ [(.notify, true)] } :=
      (Keeps.effect covers (.requested handle)).trans covers
        (.effect covers (.notified { handle with closeRequested := true } unsent))
    exact told.trans covers (.effect covers (.failed _ fatal identified (.inl rfl) rfl))
  · rename_i next answer
    obtain rfl := of_attempt answer
    have tried : Keeps P handle { handle with log := handle.log ++ [(.notify, false)] } :=
      .effect covers (.notifyFailed handle)
    exact tried.trans covers (finish_failed covers finishes fatal identified task)

theorem listenerFailed_keeps (finishes : FinishKeeps P finish) (error : Fault)
    (task : Option TaskId) : Keeps P handle (listenerFailed answers finish error task handle) := by
  unfold listenerFailed
  dsimp only
  split
  · rename_i unsent
    rw [Bool.and_eq_true, Bool.not_eq_true'] at unsent
    exact notify_failed covers finishes ⟨some error, none⟩ rfl task unsent.2
  · split
    · rename_i sent
      exact (Keeps.effect covers (.requested handle)).trans covers
        (.effect covers (.failed { handle with closeRequested := true } _ rfl (.inl sent) rfl))
    · exact finish_failed covers finishes ⟨some error, none⟩ rfl task

/-- While a finalization is under way, a failing close asks for no other one. -/
theorem connectionCloseFailed_keeps
    (finishes : handle.finalizationAttempted = true ∨ FinishKeeps P finish) (error : Fault)
    (task : Option TaskId) (primary : Option Fault) :
    Keeps P handle (connectionCloseFailed answers finish error task primary handle) := by
  have identified : (FatalError.mk primary (some error)).identified.isSome = true := by
    cases primary <;> rfl
  have driven : ∀ known : handle.notificationSent = true ∨ handle.finalizationAttempted = true,
      Keeps P handle { handle.fail ⟨primary, some error⟩ with closeRequested := true } :=
    fun known => (Keeps.effect covers (.requested handle)).trans covers
      (.effect covers (.failed { handle with closeRequested := true } _ identified known rfl))
  unfold connectionCloseFailed
  dsimp only
  split
  · rename_i attempted
    exact driven (.inr attempted)
  · rename_i unattempted
    have finishes := finishes.resolve_left unattempted
    split
    · rename_i unsent
      rw [Bool.and_eq_true, Bool.not_eq_true'] at unsent
      exact notify_failed covers finishes _ identified task unsent.2
    · rename_i sent
      split
      · exact finish_failed covers finishes _ identified task
      · rename_i present
        refine driven (.inl ?_)
        rw [Bool.and_eq_true, Bool.not_eq_true', not_and, Bool.not_eq_false] at sent
        exact sent (by simpa using present)

end Failures

section Streams

variable {P : ServerHandle → ServerHandle → Prop} {handle after : ServerHandle}
  {answers : Nat → Bool} {finish : Option TaskId → ServerHandle → ServerHandle}
  {stream : StreamId} (covers : Covers P)

include covers

theorem moved_failed
    (finishes : handle.finalizationAttempted = true ∨ FinishKeeps P finish)
    {connections : OrderedDict StreamId TaskId}
    (popped : connections = handle.connections.erase stream)
    (accepted : stream < handle.acceptedStreams) (unclosed : stream ∉ handle.closedStreams)
    (error : Fault) (task : Option TaskId) (primary : Option Fault)
    (cleanupErrors : OrderedDict CleanupKey Fault) (closeErrors : OrderedDict StreamId Fault) :
    Keeps P { handle with closeRequested := true }
      (connectionCloseFailed answers finish error task primary
        { handle with
          log := handle.log ++ [(.close (.connection stream), false)]
          connections
          closingConnections := handle.closingConnections.set stream ()
          cleanupErrors
          closeErrors }) := by
  subst popped
  have moved : Keeps P { handle with closeRequested := true } { handle with
      closeRequested := true
      log := handle.log ++ [(.close (.connection stream), false)]
      connections := handle.connections.erase stream
      closingConnections := handle.closingConnections.set stream () } :=
    .effect covers (.moved { handle with closeRequested := true } stream unclosed accepted rfl)
  have noted := moved.trans covers
    (.effect covers (.quiet _ handle.gracefulClosers cleanupErrors closeErrors))
  refine noted.trans covers (connectionCloseFailed_keeps covers ?_ error task primary)
  exact finishes

theorem kept_failed
    (finishes : handle.finalizationAttempted = true ∨ FinishKeeps P finish)
    (unclosed : stream ∉ handle.closedStreams) (error : Fault)
    (task : Option TaskId) (primary : Option Fault)
    (cleanupErrors : OrderedDict CleanupKey Fault) (closeErrors : OrderedDict StreamId Fault) :
    Keeps P { handle with closeRequested := true }
      (connectionCloseFailed answers finish error task primary
        { handle with
          log := handle.log ++ [(.close (.connection stream), false)]
          cleanupErrors
          closeErrors }) := by
  have tried : Keeps P { handle with closeRequested := true } { handle with
      closeRequested := true
      log := handle.log ++ [(.close (.connection stream), false)] } :=
    .effect covers (.closeFailed { handle with closeRequested := true } stream unclosed)
  have noted := tried.trans covers
    (.effect covers (.quiet _ handle.gracefulClosers cleanupErrors closeErrors))
  refine noted.trans covers (connectionCloseFailed_keeps covers ?_ error task primary)
  exact finishes

/-- What a close of a stream leads to: it leaves the tables, or a shutdown is asked for. -/
theorem closeOrRetain_then (handle : ServerHandle) (rest : ServerHandle → ServerHandle)
    (popped : Bool)
    (finishes : handle.finalizationAttempted = true ∨ FinishKeeps P finish)
    (accepted : stream < handle.acceptedStreams) (task : Option TaskId) (primary : Option Fault)
    (retained : ∀ next, Grows handle next → next.closeRequested = true →
      Keeps P next (rest next))
    (before : stream ∈ handle.closedStreams → ∀ cleanupErrors, Keeps P handle
      (rest { leave popped stream handle with cleanupErrors }))
    (now : stream ∉ handle.closedStreams → ∀ cleanupErrors closeErrors, Keeps P handle
      (rest { leave popped stream (closeStream stream handle) with cleanupErrors, closeErrors })) :
    Keeps P handle (rest (closeOrRetain answers finish stream task primary
      { handle with
        connections := if popped then handle.connections.erase stream
          else handle.connections }).2) := by
  unfold closeOrRetain closeSafely
  dsimp only
  by_cases closed : stream ∈ handle.closedStreams
  · rw [if_pos closed]
    exact before closed _
  · rw [if_neg closed]
    split
    · rename_i next settled
      obtain ⟨-, rfl⟩ : _ ∧ _ = next := by
        split at settled
        · rename_i closes answer
          obtain rfl := of_attempt answer
          exact Prod.mk.inj settled
        · cases settled
      exact now closed _ _
    · rename_i next failed
      split at failed
      · cases failed
      · rename_i unanswered answer
        obtain rfl := of_attempt answer
        obtain ⟨-, rfl⟩ := Prod.mk.inj failed
        have asked : Keeps P handle { handle with closeRequested := true } :=
          .effect covers (.requested handle)
        refine asked.andThen covers fun askedSound askedGrown => ?_
        refine .andThen covers ?_ fun _ grown =>
          retained _ (askedGrown.trans grown) (grown.requested rfl)
        cases popped with
        | true =>
            have absent : stream ∉ handle.connections.erase stream := fun member =>
              (AList.mem_erase.mp member).1 rfl
            dsimp only
            rw [if_pos rfl, if_neg absent]
            exact moved_failed covers finishes rfl accepted closed _ task primary _ _
        | false =>
            dsimp only
            rw [if_neg Bool.false_ne_true]
            by_cases present : stream ∈ handle.connections
            · rw [if_pos present]
              exact kept_failed covers finishes closed _ task primary _ _
            · rw [if_neg present]
              exact moved_failed covers finishes (erase_of_notMem present).symm accepted closed _
                task primary _ _

theorem closeOrRetain_keeps (handle : ServerHandle) (popped : Bool)
    (finishes : handle.finalizationAttempted = true ∨ FinishKeeps P finish)
    (accepted : stream < handle.acceptedStreams) (task : Option TaskId) (primary : Option Fault)
    (notLost : ∀ gone, NotLost handle gone popped none) :
    Keeps P handle (closeOrRetain answers finish stream task primary
      { handle with
        connections := if popped then handle.connections.erase stream
          else handle.connections }).2 := by
  refine closeOrRetain_then covers handle id popped finishes accepted task primary ?_ ?_ ?_
  · exact fun next _ _ => .refl covers
  · intro closed cleanupErrors
    exact (Keeps.effect covers (.left handle stream popped none closed (notLost _))).trans covers
      (.effect covers (.quiet _ _ cleanupErrors _))
  · intro unclosed cleanupErrors closeErrors
    exact (Keeps.effect covers
      (.closed handle stream popped none unclosed accepted (notLost _))).trans covers
        (.effect covers (.quiet _ _ cleanupErrors closeErrors))

theorem forceConnectionClose_keeps (finishes : FinishKeeps P finish)
    (accepted : stream < handle.acceptedStreams) (task : Option TaskId)
    (primary : Option Fault) :
    Keeps P handle (forceConnectionClose answers finish stream task primary handle).2 := by
  have unregistered : Keeps P handle
      { handle with gracefulClosers := handle.gracefulClosers.erase stream } :=
    .effect covers (.quiet handle _ handle.cleanupErrors handle.closeErrors)
  refine unregistered.trans covers ?_
  exact closeOrRetain_keeps covers
    { handle with gracefulClosers := handle.gracefulClosers.erase stream } false
    (.inr finishes) accepted task primary fun _ => .inr (.inl rfl)

theorem notifyCapacityReleased_keeps (finishes : FinishKeeps P finish) (previous : Nat) :
    Keeps P handle (notifyCapacityReleased answers finish previous handle) := by
  unfold notifyCapacityReleased
  split
  · exact .refl covers
  · split
    · rename_i next answer
      obtain rfl := of_attempt answer
      exact .effect covers (.signalled handle true)
    · rename_i next answer
      obtain rfl := of_attempt answer
      exact (Keeps.effect covers (.signalled handle false)).trans covers
        (listenerFailed_keeps covers finishes _ _)

/-- A connection that leaves tells the listener where that may be waiting. -/
theorem leave_notified (finishes : FinishKeeps P finish) (start settled : ServerHandle)
    (signals : ∀ signal, NotLost start settled true signal →
      Keeps P start (withSignal signal settled))
    (same : settled.capacityWaiting = start.capacityWaiting ∧
      settled.listenerTask = start.listenerTask ∧ settled.maxConnections = start.maxConnections) :
    Keeps P start
      (notifyCapacityReleased answers finish start.ownedConnectionCount settled) := by
  obtain ⟨waiting, listener, capacity⟩ := same
  unfold notifyCapacityReleased
  split
  · rename_i silent
    refine signals none (.inr (.inr (.inr ?_)))
    simp only [Bool.or_eq_true, Bool.not_eq_true', decide_eq_true_eq,
      Option.isNone_iff_eq_none] at silent
    rw [waiting, listener, capacity] at silent
    rw [capacity]
    rcases silent with ((idle | below) | above) | none
    · exact .inl idle
    · exact .inr (.inl below)
    · exact .inr (.inr (.inl above))
    · exact .inr (.inr (.inr (.inl none)))
  · split
    · rename_i next answer
      obtain rfl := of_attempt answer
      exact signals (some true) (.inr (.inr (.inl rfl)))
    · rename_i next answer
      obtain rfl := of_attempt answer
      exact (signals (some false) (.inr (.inr (.inl rfl)))).trans covers
        (listenerFailed_keeps covers finishes _ _)

def Ended (stream : StreamId) (task : TaskId) (handle : ServerHandle) : Prop :=
  task ∉ handle.live ∧ ∀ other otherTask, handle.live.lookup other = some otherTask →
    otherTask.routine ≠ .connection stream

omit covers in
theorem Ended.grows {task : TaskId} (ended : Ended stream task handle)
    (grown : Grows handle after) : Ended stream task after := by
  refine ⟨fun live => ended.1 (grown.live.mem live), ?_⟩
  intro other laterTask found runs
  obtain ⟨otherTask, before, same, -⟩ := grown.live other laterTask found
  exact ended.2 other otherTask before (same.trans runs)

theorem connectionFinished_keeps (finishes : FinishKeeps P finish) (task : TaskId)
    (ended : Ended stream task handle) (accepted : stream < handle.acceptedStreams)
    (primary : Option Fault) :
    Keeps P handle (connectionFinished answers finish task stream primary handle) := by
  refine .given fun sound => ?_
  have gone : (handle.connections.lookup stream).getD task ∉ handle.live := by
    cases entry : handle.connections.lookup stream with
    | none => exact ended.1
    | some ownedTask =>
        intro live
        obtain ⟨running, found⟩ := Option.isSome_iff_exists.mp (AList.lookup_isSome.mpr live)
        exact ended.2 _ running found (sound.roster.entries stream _ running entry found)
  let start : ServerHandle := { handle with
    gracefulClosers := handle.gracefulClosers.erase stream
    ownedTasks := handle.ownedTasks.erase ((handle.connections.lookup stream).getD task) }
  have disowned : Keeps P handle start :=
    (Keeps.effect covers (.disowned handle _ (.inl gone))).trans covers
      (.effect covers (.quiet _ (handle.gracefulClosers.erase stream) _ _))
  refine disowned.trans covers ?_
  refine closeOrRetain_then covers start (fun settled =>
    (notifyCapacityReleased answers finish start.ownedConnectionCount settled).updateFinished)
    true (.inr finishes) accepted (some task) primary ?_ ?_ ?_
  · intro next _ _
    exact (notifyCapacityReleased_keeps covers finishes _).trans covers
      (.effect covers (.updated _))
  · intro closed cleanupErrors
    refine Keeps.trans covers ?_ (.effect covers (.updated _))
    refine leave_notified covers finishes start _ ?_ ⟨rfl, rfl, rfl⟩
    intro signal notLost
    have left := Keeps.effect covers (.left start stream true signal closed notLost)
    have noted := left.trans covers
      (.effect covers (.quiet _ start.gracefulClosers cleanupErrors start.closeErrors))
    cases signal with
    | none => exact noted
    | some ok => exact noted
  · intro unclosed cleanupErrors closeErrors
    refine Keeps.trans covers ?_ (.effect covers (.updated _))
    refine leave_notified covers finishes start _ ?_ ⟨rfl, rfl, rfl⟩
    intro signal notLost
    have left := Keeps.effect covers (.closed start stream true signal unclosed accepted notLost)
    have noted := left.trans covers
      (.effect covers (.quiet _ start.gracefulClosers cleanupErrors closeErrors))
    cases signal with
    | none => exact noted
    | some ok => exact noted

end Streams

section Finalization

variable {P : ServerHandle → ServerHandle → Prop} {handle : ServerHandle}
  {answers : Nat → Bool} {cancel : TaskId → ServerHandle → Bool × ServerHandle}

/-- What is known of a cancellation that an operation asks for. -/
structure CancelKeeps (P : ServerHandle → ServerHandle → Prop)
    (cancel : TaskId → ServerHandle → Bool × ServerHandle) : Prop where
  keeps : ∀ task handle, task < handle.nextTask →
    Keeps P handle (cancelOrRetainTask cancel task handle).2
  gone : ∀ task handle next, task < handle.nextTask → Sound handle →
    cancelOrRetainTask cancel task handle = (true, next) → task ∉ next.live
  pending : ∀ task handle next, cancelOrRetainTask cancel task handle = (false, next) →
    task ∈ next.pendingTaskCancellations

variable (covers : Covers P) (cancels : CancelKeeps P cancel)

section Cancelling

include covers cancels

theorem cancelAndNote_keeps {task : TaskId} (known : task < handle.nextTask) :
    Keeps P handle (cancelAndNote cancel task handle) := by
  have kept := cancels.keeps task handle known
  unfold cancelAndNote
  split
  · rename_i next cancelled
    rw [cancelled] at kept
    refine .given fun sound => kept.andThen covers fun _ grown => ?_
    exact .effect covers (.noted next task
      (cancels.gone task handle next known sound cancelled) (grown.nextTask ▸ known))
  · rename_i next failed
    rw [failed] at kept
    exact kept

theorem cancelOnce_keeps (current : Option TaskId) (state : Attempted) {task : TaskId}
    (known : task < state.2.nextTask) :
    Keeps P state.2 (cancelOnce cancel current state task).2 := by
  unfold cancelOnce
  split
  · exact .refl covers
  · exact cancelAndNote_keeps covers cancels known

end Cancelling

section Closing

theorem wakeup_untouched (present : handle.wakeupClosed = false) :
    Effect handle { handle with log := handle.log ++ [(.close .wakeup, false)] } := by
  have tried := Effect.wakeupTried handle false present
  cases handle
  cases present
  exact tried

theorem listener_untouched (present : handle.listenerClosed = false)
    (attempted : handle.finalizationAttempted = true) :
    Effect handle { handle with log := handle.log ++ [(.close .listener, false)] } := by
  have tried := Effect.listenerTried handle false present attempted
  cases handle
  cases present
  exact tried

include covers

theorem closeWakeup_keeps : Keeps P handle (closeWakeup answers handle) := by
  unfold closeWakeup
  split
  · rename_i present
    rw [Bool.and_eq_true, Bool.not_eq_true'] at present
    split
    · rename_i next answer
      obtain rfl := of_attempt answer
      exact (Keeps.effect covers (.wakeupTried handle true present.2)).trans covers
        (.effect covers (.quiet _ _ _ _))
    · rename_i next answer
      obtain rfl := of_attempt answer
      exact (Keeps.effect covers (wakeup_untouched present.2)).trans covers
        (.effect covers (.quiet _ _ _ _))
  · exact .refl covers

theorem closeListener_keeps (attempted : handle.finalizationAttempted = true) :
    Keeps P handle (closeListener answers handle) := by
  unfold closeListener
  split
  · rename_i present
    rw [Bool.not_eq_true'] at present
    split
    · rename_i next answer
      obtain rfl := of_attempt answer
      exact (Keeps.effect covers (.listenerTried handle true present attempted)).trans covers
        (.effect covers (.quiet _ _ _ _))
    · rename_i next answer
      obtain rfl := of_attempt answer
      exact (Keeps.effect covers (listener_untouched present attempted)).trans covers
        (.effect covers (.quiet _ _ _ _))
  · exact .refl covers

theorem retryConnection_keeps {stream : StreamId} (accepted : stream < handle.acceptedStreams) :
    Keeps P handle (retryConnection answers handle stream) := by
  have notLost : ∀ gone, NotLost handle gone false none := fun gone => .inr (.inl rfl)
  unfold retryConnection closeSafely
  by_cases closed : stream ∈ handle.closedStreams
  · rw [if_pos closed]
    exact (Keeps.effect covers (.left handle stream false none closed (notLost _))).trans covers
      (.effect covers (.quiet _ _ _ _))
  · rw [if_neg closed]
    split
    · rename_i next settled
      split at settled
      · rename_i closes answer
        obtain rfl := of_attempt answer
        obtain ⟨-, rfl⟩ := Prod.mk.inj settled
        exact (Keeps.effect covers
          (.closed handle stream false none closed accepted (notLost _))).trans covers
            (.effect covers (.quiet _ _ _ _))
      · cases settled
    · rename_i next failed
      split at failed
      · cases failed
      · rename_i tries answer
        obtain rfl := of_attempt answer
        obtain ⟨-, rfl⟩ := Prod.mk.inj failed
        exact (Keeps.effect covers (.closeFailed handle stream closed)).trans covers
          (.effect covers (.quiet _ _ _ _))

theorem requestGracefulClose_keeps (current : Option TaskId) (stream : StreamId)
    (task : TaskId) :
    Keeps P handle (requestGracefulClose answers current stream task handle).2 := by
  unfold requestGracefulClose
  split
  · exact .refl covers
  · dsimp only
    split
    · exact .effect covers (.asked handle stream _)
    · exact .refl covers

theorem releaseConnection_keeps (current : Option TaskId) {stream : StreamId}
    (requested : handle.closeRequested = true) (attempted : handle.finalizationAttempted = true)
    (accepted : stream < handle.acceptedStreams) :
    Keeps P handle (releaseConnection answers current stream handle) :=
  closeOrRetain_keeps covers handle true (.inl attempted) accepted current none fun _ =>
    .inl requested

end Closing

section Finishing

include covers cancels

theorem finishConnection_keeps (current : Option TaskId) (ownerThread : Bool) (state : Attempted)
    {entry : Sigma fun _ : StreamId => TaskId} (requested : state.2.closeRequested = true)
    (attempted : state.2.finalizationAttempted = true)
    (accepted : entry.1 < state.2.acceptedStreams) (known : entry.2 < state.2.nextTask) :
    Keeps P state.2 (finishConnection answers cancel current ownerThread state entry).2 := by
  have released : ∀ middle, Keeps P state.2 middle →
      Keeps P state.2 (releaseConnection answers current entry.1 middle) :=
    fun middle kept => kept.andThen covers fun _ grown =>
      releaseConnection_keeps covers current (grown.requested requested)
        (grown.attempted attempted) (grown.accepted ▸ accepted)
  unfold finishConnection
  dsimp only
  split
  · have stopped := cancelOnce_keeps covers cancels current state known
    split
    · exact stopped
    · exact released _ stopped
  · have asked : Keeps P state.2
        (requestGracefulClose answers current entry.1 entry.2 state.2).2 :=
      requestGracefulClose_keeps covers current entry.1 entry.2
    split
    · exact asked
    · exact released _ asked

theorem finishClose_keeps (ownerThread : Bool) (current : Option TaskId)
    (attempted : WasAttempted handle) :
    Keeps P (begun handle) (finishClose answers cancel ownerThread current handle) := by
  unfold finishClose
  split
  · rename_i finished
    obtain ⟨requested, attempted⟩ := attempted finished
    have same : begun handle = handle := by
      cases handle
      cases requested
      cases attempted
      rfl
    rw [same]
    exact .refl covers
  · dsimp only
    have opened : Keeps P (begun handle) (closeWakeup answers (begun handle)) :=
      closeWakeup_keeps covers
    refine opened.andThen covers fun openedSound grown => ?_
    have requested := grown.requested rfl
    have attempted := grown.attempted rfl
    generalize closeWakeup answers (begun handle) = opened at openedSound requested attempted ⊢
    have retried : Keeps P opened
        (opened.closingConnections.keys.foldl (retryConnection answers) opened) :=
      Keeps.foldl covers id (retryConnection answers) _ opened fun stream member current grown =>
        retryConnection_keeps covers
          (grown.accepted ▸ (openedSound.tables.closing_open stream member).1)
    refine retried.andThen covers fun retriedSound grown => ?_
    replace requested := grown.requested requested
    replace attempted := grown.attempted attempted
    generalize opened.closingConnections.keys.foldl (retryConnection answers) opened = retried
      at retriedSound requested attempted ⊢
    have cancelled : Keeps P retried (retried.pendingTaskCancellations.keys.foldl
        (fun next task => cancelAndNote cancel task next) retried) :=
      Keeps.foldl covers id (fun next task => cancelAndNote cancel task next) _ retried
        fun task member current grown => cancelAndNote_keeps covers cancels
          (grown.nextTask ▸ retriedSound.roster.pending_known task member)
    refine cancelled.andThen covers fun cancelledSound grown => ?_
    replace requested := grown.requested requested
    replace attempted := grown.attempted attempted
    generalize retried.pendingTaskCancellations.keys = pending at *
    generalize pending.foldl (fun next task => cancelAndNote cancel task next) retried = cancelled
      at cancelledSound requested attempted ⊢
    have released : Keeps P cancelled (cancelled.connections.entries.foldl
        (finishConnection answers cancel current ownerThread) (pending, cancelled)).2 := by
      refine Keeps.foldl covers Prod.snd (finishConnection answers cancel current ownerThread) _
        (pending, cancelled) fun entry member state grown => ?_
      have found : cancelled.connections.lookup entry.1 = some entry.2 :=
        AList.mem_lookup_iff.mpr member
      exact finishConnection_keeps covers cancels current ownerThread state
        (grown.requested requested) (grown.attempted attempted)
        (grown.accepted ▸
          cancelledSound.tables.connections_accepted _ (OrderedDict.mem_of_lookup found))
        (grown.nextTask ▸ cancelledSound.roster.entries_known _ _ found)
    refine released.andThen covers fun releasedSound grown => ?_
    replace attempted := grown.attempted attempted
    generalize cancelled.connections.entries.foldl
      (finishConnection answers cancel current ownerThread) (pending, cancelled) = released
      at releasedSound attempted ⊢
    have stopped : Keeps P released.2 (if ownerThread then
        released.2.ownedTasks.foldl (cancelOnce cancel current) released else released).2 := by
      split
      · exact Keeps.foldl covers Prod.snd (cancelOnce cancel current) _ released
          fun task member state grown => cancelOnce_keeps covers cancels current state
            (grown.nextTask ▸ releasedSound.roster.owned_known task member)
      · exact .refl covers
    refine stopped.andThen covers fun _ grown => ?_
    exact (closeListener_keeps covers (grown.attempted attempted)).trans covers
      (.effect covers (.updated _))

end Finishing

end Finalization

section Cancellation

variable {P Q : ServerHandle → ServerHandle → Prop} {handle : ServerHandle}
  {answers : Nat → Bool} {inner : TaskId → ServerHandle → Bool × ServerHandle}
  (covers : Covers P) (cancels : CancelKeeps P inner)

section Endings

include covers cancels

theorem finishing_keeps : FinishKeeps P (finishing answers inner) :=
  fun task _ attempted => finishClose_keeps covers cancels false task attempted

theorem finishing_keeps_of_sound (task : Option TaskId) :
    Keeps P handle (finishing answers inner task handle) := by
  refine .given fun sound => ?_
  exact (Keeps.effect covers (.begun handle)).trans covers
    (finishing_keeps covers cancels task handle (wasAttempted_of_sound sound))

theorem cancelAndDisown_keeps {child : TaskId} (known : child < handle.nextTask) :
    Keeps P handle { (cancelOrRetainTask inner child handle).2 with
      ownedTasks := (cancelOrRetainTask inner child handle).2.ownedTasks.erase child } := by
  refine .given fun sound => (cancels.keeps child handle known).trans covers ?_
  refine .effect covers (.disowned _ child ?_)
  rcases result : cancelOrRetainTask inner child handle with ⟨ok, next⟩
  cases ok with
  | true => exact .inl (cancels.gone child handle next known sound result)
  | false => exact .inr (cancels.pending child handle next result)

theorem tearDownConnection_keeps (task : Task)
    (known : ∀ child ∈ task.children, child < handle.nextTask) :
    Keeps P handle (tearDownConnection inner task handle) := by
  have grownKnown : ∀ child ∈ task.children, ∀ current, Grows handle current →
      child < current.nextTask := fun child member current grown =>
    grown.nextTask ▸ known child member
  simp only [Task.children, List.mem_append] at grownKnown
  unfold tearDownConnection
  have handlers : Keeps P handle (task.handlers.foldl
      (fun next child => (cancelOrRetainTask inner child next).2) handle) :=
    Keeps.foldl covers id (fun next child => (cancelOrRetainTask inner child next).2) _ handle
      fun child member current grown =>
        cancels.keeps child current (grownKnown child (.inl (.inl member)) current grown)
  refine handlers.andThen covers fun _ handlersGrown => ?_
  dsimp only
  generalize task.handlers.foldl _ handle = afterHandlers at handlersGrown ⊢
  have helpers : Keeps P afterHandlers (task.helpers.foldl
      (fun next child =>
        let cancelled := (cancelOrRetainTask inner child next).2
        { cancelled with ownedTasks := cancelled.ownedTasks.erase child }) afterHandlers) :=
    Keeps.foldl covers id (fun next child =>
        let cancelled := (cancelOrRetainTask inner child next).2
        { cancelled with ownedTasks := cancelled.ownedTasks.erase child }) _ afterHandlers
      fun child member current grown => cancelAndDisown_keeps covers cancels
        (grownKnown child (.inl (.inr member)) current (handlersGrown.trans grown))
  refine helpers.andThen covers fun _ helpersGrown => ?_
  replace helpersGrown := handlersGrown.trans helpersGrown
  generalize task.helpers.foldl _ afterHandlers = afterHelpers at helpersGrown ⊢
  refine Keeps.foldl covers id _ _ afterHelpers fun child member current grown => ?_
  have childKnown := grownKnown child (.inr member) current (helpersGrown.trans grown)
  have disowned := cancelAndDisown_keeps covers cancels childKnown
  have kept := cancels.keeps child current childKnown
  dsimp only [id]
  rcases result : cancelOrRetainTask inner child current with ⟨ok, next⟩
  rw [result] at disowned kept
  cases ok with
  | true => exact disowned
  | false => exact kept

theorem endConnection_keeps (taskId : TaskId) (task : Task) {stream : StreamId}
    (ended : Ended stream taskId handle) (accepted : stream < handle.acceptedStreams)
    (known : ∀ child ∈ task.children, child < handle.nextTask) (primary : Option Fault) :
    Keeps P handle (endConnection answers inner taskId task stream primary handle) := by
  refine (tearDownConnection_keeps covers cancels task known).andThen covers fun _ grown => ?_
  refine (Keeps.effect covers (.websocketLeft _ stream)).trans covers ?_
  refine connectionFinished_keeps covers (finishing_keeps covers cancels) taskId ?_ ?_ primary
  · have still : Ended stream taskId (tearDownConnection inner task handle) := ended.grows grown
    exact still
  · exact lt_of_lt_of_eq accepted grown.accepted.symm

structure Stopped (taskId : TaskId) (task : Task) (handle : ServerHandle) : Prop where
  gone : taskId ∉ handle.live
  listener : task.routine = .acceptLoop → ¬Listening handle.live
  connection : ∀ stream, task.routine = .connection stream →
    Ended stream taskId handle ∧ stream < handle.acceptedStreams
  children : ∀ child ∈ task.children, child < handle.nextTask

theorem finallyBlock_keeps {taskId : TaskId} {task : Task} (stopped : Stopped taskId task handle) :
    Keeps P handle (finallyBlock answers inner taskId task handle) := by
  unfold finallyBlock
  split
  · rename_i accepts
    split
    · exact .refl covers
    · exact .effect covers (.unwaited handle (stopped.listener accepts))
    · split
      · exact .refl covers
      · exact listenerFailed_keeps covers (finishing_keeps covers cancels) _ _
  · exact finishing_keeps_of_sound covers cancels (some taskId)
  · exact .refl covers
  · rename_i stream runs
    obtain ⟨ended, accepted⟩ := stopped.connection stream runs
    exact endConnection_keeps covers cancels taskId task ended accepted stopped.children _
  · exact (Keeps.effect covers (.disowned handle taskId (.inl stopped.gone))).trans covers
      (.effect covers (.handlerLeft _ _ taskId stopped.gone))
  · exact .effect covers (.disowned handle taskId (.inl stopped.gone))
  · exact .refl covers

end Endings

section Ending

theorem stopped_erase (sound : Sound handle) {taskId : TaskId} {task : Task}
    (found : handle.live.lookup taskId = some task) :
    Stopped taskId task { handle with live := handle.live.erase taskId } := by
  have before : ∀ other otherTask, (handle.live.erase taskId).lookup other = some otherTask →
      other ≠ taskId ∧ handle.live.lookup other = some otherTask := by
    intro other otherTask later
    rw [OrderedDict.lookup_erase_eq] at later
    split at later
    · cases later
    · rename_i different
      exact ⟨different, later⟩
  have gone : taskId ∉ handle.live.erase taskId := fun live => (AList.mem_erase.mp live).1 rfl
  exact {
    gone
    listener := by
      rintro accepts ⟨other, otherTask, later, alsoAccepts⟩
      obtain ⟨different, found'⟩ := before other otherTask later
      have one : handle.listenerTask = some taskId := sound.watch.listener taskId task found accepts
      have two : handle.listenerTask = some other :=
        sound.watch.listener other otherTask found' alsoAccepts
      exact different (Option.some.inj (two.symm.trans one))
    connection := by
      intro stream runs
      refine ⟨⟨gone, ?_⟩, sound.roster.streams taskId task stream found (by rw [runs]; rfl)⟩
      intro other otherTask later otherRuns
      obtain ⟨different, found'⟩ := before other otherTask later
      exact different
        (sound.roster.single other otherTask taskId task stream found' found otherRuns runs)
    children := sound.roster.children_known taskId task found }

theorem sound_cancelTried (sound : Sound handle) (task : TaskId) (ended ok : Bool) :
    Sound { handle with log := handle.log ++ [(.cancelTask task ended, ok)] } :=
  { sound with
    recorded := sound.recorded.append fun _ same => Call.noConfusion same
    notified := sound.notified.append (by simp) }

theorem sound_shrink (sound : Sound handle) {later : OrderedDict TaskId Task}
    (shrinks : Shrinks handle.live later) : Sound { handle with live := later } :=
  { sound with
    watch := sound.watch.shrink shrinks
    roster := sound.roster.shrink shrinks }

theorem sound_remembered (sound : Sound handle) {task : TaskId} (known : task < handle.nextTask)
    (cleanupErrors : OrderedDict CleanupKey Fault) :
    Sound { handle with
      pendingTaskCancellations := handle.pendingTaskCancellations.set task ()
      cleanupErrors } :=
  { sound with
    roster := { sound.roster with
      kept := fun other live => (sound.roster.kept other live).imp_right fun pending =>
        OrderedDict.mem_set.mpr (.inr pending)
      pending_known := by
        intro other member
        rcases OrderedDict.mem_set.mp member with rfl | before
        · exact known
        · exact sound.roster.pending_known other before } }

theorem sound_settled (sound : Sound handle) {task : TaskId} (gone : task ∉ handle.live)
    (cleanupErrors : OrderedDict CleanupKey Fault) :
    Sound { handle with
      pendingTaskCancellations := handle.pendingTaskCancellations.erase task
      cleanupErrors } :=
  { sound with
    roster := { sound.roster with
      kept := by
        intro other live
        refine (sound.roster.kept other live).imp_right fun pending => ?_
        refine AList.mem_erase.mpr ⟨?_, pending⟩
        rintro rfl
        exact gone live
      pending_known := fun other member =>
        sound.roster.pending_known other (AList.mem_erase.mp member).2 } }

def remembered (task : TaskId) (ended : Bool) (error : Fault) (handle : ServerHandle) :
    ServerHandle :=
  { handle with
    log := handle.log ++ [(.cancelTask task ended, false)]
    pendingTaskCancellations := handle.pendingTaskCancellations.set task ()
    cleanupErrors := handle.cleanupErrors.set (.task task) error }

def settled (task : TaskId) (handle : ServerHandle) : ServerHandle :=
  { handle with
    pendingTaskCancellations := handle.pendingTaskCancellations.erase task
    cleanupErrors := handle.cleanupErrors.erase (.task task) }

def ending (task : TaskId) (handle : ServerHandle) : ServerHandle :=
  { handle with
    log := handle.log ++ [(.cancelTask task (decide (task ∉ handle.live)), true)]
    live := handle.live.erase task }

/-- What a relation has to allow for `cancel_task`. -/
structure Allows (P Q : ServerHandle → ServerHandle → Prop) : Prop where
  remembered : ∀ handle task error, Sound handle →
    Q handle (remembered task (decide (task ∉ handle.live)) error handle)
  already : ∀ handle task, Sound handle → task ∉ handle.live →
    Q handle (settled task (ending task handle))
  ended : ∀ handle task after, Sound handle → task ∈ handle.live → Sound after →
    Grows (ending task handle) after → P (ending task handle) after →
      Q handle (settled task after)

theorem sound_ending (sound : Sound handle) (task : TaskId) : Sound (ending task handle) :=
  sound_shrink (sound_cancelTried sound task _ true) (.erase _ task)

theorem grows_ending (handle : ServerHandle) (task : TaskId) : Grows handle (ending task handle) :=
  { Grows.refl handle with
    live := .erase _ task
    log := List.prefix_append _ _ }

theorem cancelStep_failed {task : TaskId} {next : ServerHandle}
    (result : cancelOrRetainTask (cancelStep answers inner) task handle = (false, next)) :
    next = remembered task (decide (task ∉ handle.live)) handle.nextFault handle := by
  unfold cancelOrRetainTask at result
  split at result
  · cases result
  · rename_i failed step
    obtain ⟨-, rfl⟩ := Prod.mk.inj result
    unfold cancelStep at step
    split at step
    · rename_i tried answer
      obtain rfl := of_attempt answer
      obtain ⟨-, rfl⟩ := Prod.mk.inj step
      rfl
    · split at step
      · cases step
      · dsimp only at step
        split at step
        · cases step
        · cases step

theorem cancelStep_ended {task : TaskId} {next : ServerHandle}
    (result : cancelOrRetainTask (cancelStep answers inner) task handle = (true, next)) :
    (next = settled task (ending task handle) ∧
      ∀ running, handle.live.lookup task = some running → running.started = false) ∨
    ∃ running, handle.live.lookup task = some running ∧ running.started = true ∧
      next = settled task (finallyBlock answers inner task running (ending task handle)) := by
  unfold cancelOrRetainTask at result
  split at result
  · rename_i ended step
    obtain ⟨-, rfl⟩ := Prod.mk.inj result
    unfold cancelStep at step
    split at step
    · cases step
    · rename_i tried answer
      obtain rfl := of_attempt answer
      split at step
      · rename_i absent
        obtain ⟨-, rfl⟩ := Prod.mk.inj step
        have erased : handle.live.erase task = handle.live :=
          AList.ext (List.kerase_of_notMem_keys (AList.lookup_eq_none.mp absent))
        refine .inl ⟨?_, fun running found => nomatch absent.symm.trans found⟩
        unfold settled ending
        rw [erased]
      · rename_i running found
        dsimp only at step
        split at step
        · rename_i started
          obtain ⟨-, rfl⟩ := Prod.mk.inj step
          exact .inr ⟨running, found, started, rfl⟩
        · rename_i unstarted
          obtain ⟨-, rfl⟩ := Prod.mk.inj step
          refine .inl ⟨rfl, fun other known => ?_⟩
          obtain rfl := Option.some.inj (found.symm.trans known)
          exact Bool.eq_false_iff.mpr unstarted
  · cases result

theorem cancelStep_keeps (covers : Covers P) (cancels : CancelKeeps P inner)
    (allows : Allows P Q) : CancelKeeps Q (cancelStep answers inner) := by
  have ends : ∀ handle task next, Sound handle →
      cancelOrRetainTask (cancelStep answers inner) task handle = (true, next) →
      Sound next ∧ Grows handle next ∧ Q handle next ∧ task ∉ next.live := by
    intro handle task next sound result
    have endingSound := sound_ending sound task
    have gone : task ∉ (ending task handle).live := fun live => (AList.mem_erase.mp live).1 rfl
    rcases cancelStep_ended result with ⟨rfl, -⟩ | ⟨running, found, -, rfl⟩
    · have related : Q handle (settled task (ending task handle)) := by
        by_cases live : task ∈ handle.live
        · exact allows.ended handle task _ sound live endingSound (.refl _) (covers.refl _)
        · exact allows.already handle task sound live
      have grown := grows_ending handle task
      exact ⟨sound_settled endingSound gone _, { grown with live := grown.live }, related, gone⟩
    · have stopped : Stopped task running (ending task handle) :=
        stopped_erase (sound_cancelTried sound task _ true) found
      have ran : Keeps P (ending task handle)
          (finallyBlock answers inner task running (ending task handle)) :=
        finallyBlock_keeps covers cancels stopped
      obtain ⟨afterSound, grown, kept⟩ := ran endingSound
      have stillGone := fun live => gone (grown.live.mem live)
      have whole := (grows_ending handle task).trans grown
      exact ⟨sound_settled afterSound stillGone _, { whole with live := whole.live },
        allows.ended handle task _ sound (OrderedDict.mem_of_lookup found) afterSound grown kept,
        stillGone⟩
  exact {
    keeps := by
      intro task handle known sound
      rcases result : cancelOrRetainTask (cancelStep answers inner) task handle with ⟨ok, next⟩
      cases ok with
      | true =>
          obtain ⟨nextSound, grown, kept, -⟩ := ends handle task next sound result
          exact ⟨nextSound, grown, kept⟩
      | false =>
          obtain rfl := cancelStep_failed result
          refine ⟨?_, ?_, allows.remembered handle task _ sound⟩
          · exact sound_remembered (sound_cancelTried sound task _ false) known _
          · exact { Grows.refl handle with log := List.prefix_append _ _ }
    gone := fun task handle next _ sound result => (ends handle task next sound result).2.2.2
    pending := by
      intro task handle next result
      obtain rfl := cancelStep_failed result
      exact OrderedDict.mem_set.mpr (.inl rfl) }

end Ending

end Cancellation

section Levels

variable {handle : ServerHandle} {answers : Nat → Bool}

/-- Below the last level a cancellation only ends the task, and says so. -/
theorem cancelAt_zero_inner {P : ServerHandle → ServerHandle → Prop}
    (allowed : ∀ handle task, Sound handle → P handle
      (settled task { handle with live := handle.live.erase task, starved := true })) :
    CancelKeeps P fun task next =>
      (true, { next with live := next.live.erase task, starved := true }) where
  keeps task handle _ sound := by
    have erased := sound_shrink sound (.erase handle.live task)
    have gone : task ∉ handle.live.erase task := fun live => (AList.mem_erase.mp live).1 rfl
    refine ⟨?_, { Grows.refl handle with live := .erase _ task }, allowed handle task sound⟩
    exact { sound_settled erased gone (handle.cleanupErrors.erase (.task task)) with }
  gone task handle next _ _ result := by
    obtain ⟨-, rfl⟩ := Prod.mk.inj result
    exact fun live => (AList.mem_erase.mp live).1 rfl
  pending task handle next result := by cases result

theorem cancelAt_keeps (P : Nat → ServerHandle → ServerHandle → Prop)
    (covers : ∀ bound, Covers (P bound))
    (last : ∀ handle task, Sound handle → P 0 handle
      (settled task { handle with live := handle.live.erase task, starved := true }))
    (allows : ∀ bound, Allows (P bound) (P (bound + 1))) :
    ∀ bound, CancelKeeps (P (bound + 1)) (cancelAt answers bound) := by
  intro bound
  induction bound with
  | zero => exact cancelStep_keeps (covers 0) (cancelAt_zero_inner last) (allows 0)
  | succ bound induction =>
      exact cancelStep_keeps (covers (bound + 1)) induction (allows (bound + 1))

/-- With fewer live tasks than the bound the nesting does not come to its end. -/
def Unstarved (bound : Nat) (handle after : ServerHandle) : Prop :=
  after.live.entries.length ≤ handle.live.entries.length ∧
    (handle.live.entries.length < bound → after.starved = handle.starved)

theorem unstarved_covers (bound : Nat) : Covers (Unstarved bound) where
  refl handle := ⟨Nat.le_refl _, fun _ => rfl⟩
  trans handle middle after first second :=
    ⟨second.1.trans first.1, fun few =>
      (second.2 (Nat.lt_of_le_of_lt first.1 few)).trans (first.2 few)⟩
  effect handle after sound effect := by
    cases effect with
    | closed stream popped signal =>
        cases signal with
        | none => exact ⟨Nat.le_refl _, fun _ => rfl⟩
        | some ok => exact ⟨Nat.le_refl _, fun _ => rfl⟩
    | left stream popped signal =>
        cases signal with
        | none => exact ⟨Nat.le_refl _, fun _ => rfl⟩
        | some ok => exact ⟨Nat.le_refl _, fun _ => rfl⟩
    | updated =>
        unfold ServerHandle.updateFinished
        split
        · exact ⟨Nat.le_refl _, fun _ => rfl⟩
        · exact ⟨Nat.le_refl _, fun _ => rfl⟩
    | handlerLeft connection handler =>
        refine ⟨?_, fun _ => rfl⟩
        change (dropHandler connection handler handle.live).entries.length ≤ _
        unfold dropHandler
        split
        · exact Nat.le_refl _
        · rename_i task found
          have counted := OrderedDict.length_set handle.live connection
            { task with handlers := task.handlers.erase handler }
          rw [if_pos (OrderedDict.mem_of_lookup found)] at counted
          omega
    | _ => exact ⟨Nat.le_refl _, fun _ => rfl⟩

theorem unstarved_allows (bound : Nat) : Allows (Unstarved bound) (Unstarved (bound + 1)) where
  remembered handle task error _ := ⟨Nat.le_refl _, fun _ => rfl⟩
  already handle task _ absent :=
    ⟨OrderedDict.length_erase_le handle.live task, fun _ => rfl⟩
  ended handle task after _ live _ _ kept := by
    have less : (handle.live.erase task).entries.length + 1 = handle.live.entries.length :=
      length_erase_add live
    have fewer : after.live.entries.length ≤ (handle.live.erase task).entries.length := kept.1
    refine ⟨?_, fun few => ?_⟩
    · change after.live.entries.length ≤ _
      omega
    · have enough : (handle.live.erase task).entries.length < bound := by omega
      exact kept.2 enough

theorem cancelAt_unstarved (bound : Nat) :
    CancelKeeps (Unstarved (bound + 1)) (cancelAt answers bound) :=
  cancelAt_keeps Unstarved unstarved_covers
    (fun handle task _ => ⟨OrderedDict.length_erase_le handle.live task,
      fun few => absurd few (Nat.not_lt_zero _)⟩)
    unstarved_allows bound

end Levels

end SmallServer.ServerOperations
