import SmallServer.ServerStartup

/-!
# How many tasks a server runs

A connection task is alive only while its stream is in `_connections`, unless the server closes.
As the accept loop counts that table, there are never more connection tasks than
`max_connections`, and the tasks of the runtime stay within what `_resolve_server_config` asks
of its capacity.
-/

namespace SmallServer.ServerCapacity

open SmallServer Server ServerEffects ServerOperations ServerSteps
open SmallServer.ServerStartup (Raised)

set_option autoImplicit false

variable {answers : Nat → Bool} {handle middle after : ServerHandle}
  {finish : Option TaskId → ServerHandle → ServerHandle}
  {inner : TaskId → ServerHandle → Bool × ServerHandle}

section Calm

structure Calms (handle after : ServerHandle) : Prop where
  requested : handle.closeRequested = true → after.closeRequested = true
  live : Shrinks handle.live after.live

theorem Calms.refl (handle : ServerHandle) : Calms handle handle := ⟨id, .refl _⟩

theorem Calms.trans (first : Calms handle middle) (second : Calms middle after) :
    Calms handle after :=
  ⟨second.requested ∘ first.requested, first.live.trans second.live⟩

theorem Calms.same (requested : after.closeRequested = handle.closeRequested)
    (live : after.live = handle.live) : Calms handle after :=
  ⟨requested.trans, live ▸ .refl _⟩

theorem foldl_calms {State Item : Type} (view : State → ServerHandle)
    (turn : State → Item → State) (items : List Item) (state : State)
    (calms : ∀ current item, Calms (view current) (view (turn current item))) :
    Calms (view state) (view (items.foldl turn state)) := by
  induction items generalizing state with
  | nil => exact .refl _
  | cons item items induction => exact (calms state item).trans (induction (turn state item))

theorem closeSafely_calms (stream : StreamId) :
    Calms handle (closeSafely answers stream handle).2 := by
  unfold closeSafely
  split
  · exact .refl _
  · split
    · rename_i tried
      obtain rfl := of_attempt tried
      exact .same rfl rfl
    · rename_i tried
      obtain rfl := of_attempt tried
      exact .same rfl rfl

theorem updateFinished_same (handle : ServerHandle) :
    handle.updateFinished.closeRequested = handle.closeRequested ∧
      handle.updateFinished.live = handle.live ∧
      handle.updateFinished.connections = handle.connections := by
  unfold ServerHandle.updateFinished
  split
  · exact ⟨rfl, rfl, rfl⟩
  · exact ⟨rfl, rfl, rfl⟩

section Failures

variable (finishes : ∀ task handle, Calms handle (finish task handle))

include finishes

theorem listenerFailed_calms (answers : Nat → Bool) (handle : ServerHandle) (error : Fault)
    (task : Option TaskId) :
    (listenerFailed answers finish error task handle).closeRequested = true ∧
      Calms handle (listenerFailed answers finish error task handle) := by
  unfold listenerFailed
  dsimp only
  split
  · split
    · rename_i tried
      obtain rfl := of_attempt tried
      exact ⟨rfl, fun _ => rfl, .refl _⟩
    · rename_i tried
      obtain rfl := of_attempt tried
      exact ⟨(finishes task _).requested rfl, fun _ => (finishes task _).requested rfl,
        (finishes task _).live⟩
  · split
    · exact ⟨rfl, fun _ => rfl, .refl _⟩
    · exact ⟨(finishes task _).requested rfl, fun _ => (finishes task _).requested rfl,
        (finishes task _).live⟩

theorem connectionCloseFailed_calms (answers : Nat → Bool) (handle : ServerHandle) (error : Fault)
    (task : Option TaskId) (primary : Option Fault) :
    (connectionCloseFailed answers finish error task primary handle).closeRequested = true ∧
      Calms handle (connectionCloseFailed answers finish error task primary handle) := by
  unfold connectionCloseFailed
  dsimp only
  split
  · exact ⟨rfl, fun _ => rfl, .refl _⟩
  · split
    · split
      · rename_i tried
        obtain rfl := of_attempt tried
        exact ⟨rfl, fun _ => rfl, .refl _⟩
      · rename_i tried
        obtain rfl := of_attempt tried
        exact ⟨(finishes task _).requested rfl, fun _ => (finishes task _).requested rfl,
          (finishes task _).live⟩
    · split
      · exact ⟨(finishes task _).requested rfl, fun _ => (finishes task _).requested rfl,
          (finishes task _).live⟩
      · exact ⟨rfl, fun _ => rfl, .refl _⟩

theorem closeOrRetain_calms (answers : Nat → Bool) (handle : ServerHandle) (stream : StreamId)
    (task : Option TaskId) (primary : Option Fault) :
    Calms handle (closeOrRetain answers finish stream task primary handle).2 ∧
      ((closeOrRetain answers finish stream task primary handle).2.closeRequested = true ∨
        (closeOrRetain answers finish stream task primary handle).2.connections =
          handle.connections) := by
  have calm := @closeSafely_calms answers handle stream
  have kept : (closeSafely answers stream handle).2.connections = handle.connections := by
    unfold closeSafely
    split
    · rfl
    · split
      · rename_i tried
        obtain rfl := of_attempt tried
        rfl
      · rename_i tried
        obtain rfl := of_attempt tried
        rfl
  unfold closeOrRetain
  generalize closeSafely answers stream handle = closed at calm kept
  obtain ⟨ok, next⟩ := closed
  cases ok with
  | true => exact ⟨⟨calm.requested, calm.live⟩, Or.inr kept⟩
  | false =>
      dsimp only
      obtain ⟨requested, failed⟩ := connectionCloseFailed_calms finishes answers
        { next with
          closingConnections :=
            if stream ∈ next.connections then next.closingConnections
            else next.closingConnections.set stream ()
          cleanupErrors := next.cleanupErrors.set (.connection stream) (next.closeError stream) }
        (next.closeError stream) task primary
      exact ⟨⟨fun _ => requested, calm.live.trans failed.live⟩, Or.inl requested⟩

theorem forceConnectionClose_calms (answers : Nat → Bool) (handle : ServerHandle)
    (stream : StreamId) (task : Option TaskId) (primary : Option Fault) :
    Calms handle (forceConnectionClose answers finish stream task primary handle).2 ∧
      ((forceConnectionClose answers finish stream task primary handle).2.closeRequested = true ∨
        (forceConnectionClose answers finish stream task primary handle).2.connections =
          handle.connections) := by
  obtain ⟨calm, kept⟩ := closeOrRetain_calms finishes answers
    { handle with gracefulClosers := handle.gracefulClosers.erase stream } stream task primary
  exact ⟨⟨calm.requested, calm.live⟩, kept⟩

theorem acceptedSetupFailed_calms (answers : Nat → Bool) (handle : ServerHandle)
    (primary : Fault) (stream : StreamId) (task : Option TaskId) :
    (acceptedSetupFailed answers finish primary stream task handle).closeRequested = true ∧
      Calms handle (acceptedSetupFailed answers finish primary stream task handle) := by
  obtain ⟨requested, calm⟩ := connectionCloseFailed_calms finishes answers
    { handle with
      closingConnections := handle.closingConnections.set stream ()
      cleanupErrors := handle.cleanupErrors.set (.connection stream) (handle.closeError stream)
      failure := handle.failure <|> some primary } (handle.closeError stream) task (some primary)
  exact ⟨requested, fun _ => requested, calm.live⟩

theorem notifyCapacityReleased_calms (answers : Nat → Bool) (handle : ServerHandle)
    (previous : Nat) :
    Calms handle (notifyCapacityReleased answers finish previous handle) ∧
      ((notifyCapacityReleased answers finish previous handle).closeRequested = true ∨
        (notifyCapacityReleased answers finish previous handle).connections =
          handle.connections) := by
  unfold notifyCapacityReleased
  split
  · exact ⟨.refl _, Or.inr rfl⟩
  · split
    · rename_i tried
      obtain rfl := of_attempt tried
      exact ⟨.same rfl rfl, Or.inr rfl⟩
    · rename_i tried
      obtain rfl := of_attempt tried
      obtain ⟨requested, calm⟩ := listenerFailed_calms finishes answers
        { handle with
          log := handle.log ++ [(.capacitySignal, false)]
          signalFailed := true } handle.nextFault handle.cursor
      exact ⟨⟨fun _ => requested, calm.live⟩, Or.inl requested⟩

theorem connectionFinished_calms (answers : Nat → Bool) (handle : ServerHandle) (task : TaskId)
    (stream : StreamId) (primary : Option Fault) :
    Calms handle (connectionFinished answers finish task stream primary handle) ∧
      ((connectionFinished answers finish task stream primary handle).closeRequested = true ∨
        (connectionFinished answers finish task stream primary handle).connections =
          handle.connections.erase stream) := by
  obtain ⟨closing, released⟩ := closeOrRetain_calms finishes answers
    { handle with
      connections := handle.connections.erase stream
      gracefulClosers := handle.gracefulClosers.erase stream
      ownedTasks := handle.ownedTasks.erase ((handle.connections.lookup stream).getD task) }
    stream (some task) primary
  unfold connectionFinished
  dsimp only
  generalize (closeOrRetain answers finish stream (some task) primary
    { handle with
      connections := handle.connections.erase stream
      gracefulClosers := handle.gracefulClosers.erase stream
      ownedTasks := handle.ownedTasks.erase ((handle.connections.lookup stream).getD task) }).2 =
    settled at closing released ⊢
  obtain ⟨notifying, kept⟩ := notifyCapacityReleased_calms finishes answers settled
    handle.ownedConnectionCount
  generalize notifyCapacityReleased answers finish handle.ownedConnectionCount settled = notified
    at notifying kept ⊢
  obtain ⟨requested, live, connections⟩ := updateFinished_same notified
  have first : Calms handle settled := ⟨closing.requested, closing.live⟩
  refine ⟨first.trans (notifying.trans (.same requested live)), ?_⟩
  rw [requested, connections]
  rcases released with closed | same
  · exact Or.inl (notifying.requested closed)
  · rcases kept with closed | unchanged
    · exact Or.inl closed
    · exact Or.inr (unchanged.trans same)

end Failures

section Cancelling

variable (cancels : ∀ task handle, Calms handle (inner task handle).2)

include cancels

theorem cancelOrRetainTask_calms (task : TaskId) (handle : ServerHandle) :
    Calms handle (cancelOrRetainTask inner task handle).2 := by
  have calm := cancels task handle
  unfold cancelOrRetainTask
  generalize inner task handle = cancelled at calm
  obtain ⟨ok, next⟩ := cancelled
  cases ok with
  | true => exact ⟨calm.requested, calm.live⟩
  | false => exact ⟨calm.requested, calm.live⟩

theorem cancelAndNote_calms (task : TaskId) (handle : ServerHandle) :
    Calms handle (cancelAndNote inner task handle) := by
  have calm := cancelOrRetainTask_calms cancels task handle
  unfold cancelAndNote
  generalize cancelOrRetainTask inner task handle = cancelled at calm
  obtain ⟨ok, next⟩ := cancelled
  cases ok with
  | true => exact ⟨calm.requested, calm.live⟩
  | false => exact calm

theorem cancelOnce_calms (current : Option TaskId) (state : Attempted) (task : TaskId) :
    Calms state.2 (cancelOnce inner current state task).2 := by
  unfold cancelOnce
  split
  · exact .refl _
  · exact cancelAndNote_calms cancels task state.2

omit cancels in
theorem closeWakeup_calms (handle : ServerHandle) : Calms handle (closeWakeup answers handle) := by
  unfold closeWakeup
  split
  · split
    · rename_i tried
      obtain rfl := of_attempt tried
      exact .same rfl rfl
    · rename_i tried
      obtain rfl := of_attempt tried
      exact .same rfl rfl
  · exact .refl _

omit cancels in
theorem closeListener_calms (handle : ServerHandle) :
    Calms handle (closeListener answers handle) := by
  unfold closeListener
  split
  · split
    · rename_i tried
      obtain rfl := of_attempt tried
      exact .same rfl rfl
    · rename_i tried
      obtain rfl := of_attempt tried
      exact .same rfl rfl
  · exact .refl _

omit cancels in
theorem retryConnection_calms (handle : ServerHandle) (stream : StreamId) :
    Calms handle (retryConnection answers handle stream) := by
  have calm := @closeSafely_calms answers handle stream
  unfold retryConnection
  generalize closeSafely answers stream handle = closed at calm
  obtain ⟨ok, next⟩ := closed
  cases ok with
  | true => exact ⟨calm.requested, calm.live⟩
  | false => exact ⟨calm.requested, calm.live⟩

omit cancels in
theorem requestGracefulClose_calms (current : Option TaskId) (stream : StreamId) (task : TaskId)
    (handle : ServerHandle) :
    Calms handle (requestGracefulClose answers current stream task handle).2 := by
  unfold requestGracefulClose
  split
  · exact .refl _
  · dsimp only
    split
    · exact .same rfl rfl
    · exact .refl _

omit cancels in
theorem releaseConnection_calms (current : Option TaskId) (stream : StreamId)
    (handle : ServerHandle) : Calms handle (releaseConnection answers current stream handle) := by
  obtain ⟨calm, -⟩ := closeOrRetain_calms (fun _ next => Calms.refl next) answers
    { handle with connections := handle.connections.erase stream } stream current none
  exact ⟨calm.requested, calm.live⟩

theorem finishConnection_calms (current : Option TaskId) (ownerThread : Bool) (state : Attempted)
    (entry : Sigma fun _ : StreamId => TaskId) :
    Calms state.2 (finishConnection answers inner current ownerThread state entry).2 := by
  unfold finishConnection
  split
  · dsimp only
    split
    · exact cancelOnce_calms cancels current state entry.2
    · exact (cancelOnce_calms cancels current state entry.2).trans
        (releaseConnection_calms current entry.1 _)
  · dsimp only
    split
    · exact requestGracefulClose_calms current entry.1 entry.2 state.2
    · exact (requestGracefulClose_calms current entry.1 entry.2 state.2).trans
        (releaseConnection_calms current entry.1 _)

theorem finishClose_calms (answers : Nat → Bool) (ownerThread : Bool) (current : Option TaskId)
    (handle : ServerHandle) :
    Calms handle (finishClose answers inner ownerThread current handle) ∧
      (handle.finished = false →
        (finishClose answers inner ownerThread current handle).closeRequested = true) := by
  unfold finishClose
  split
  · rename_i finished
    exact ⟨.refl _, fun unfinished => Bool.noConfusion (finished.symm.trans unfinished)⟩
  · dsimp only
    let opened := closeWakeup answers (begun handle)
    let retried := opened.closingConnections.keys.foldl (retryConnection answers) opened
    let pending := retried.pendingTaskCancellations.keys
    let cancelled := pending.foldl (fun next task => cancelAndNote inner task next) retried
    let released := cancelled.connections.entries.foldl
      (finishConnection answers inner current ownerThread) (pending, cancelled)
    have begins : Calms (begun handle) opened := closeWakeup_calms (begun handle)
    have retries : Calms opened retried := foldl_calms id (retryConnection answers) _ opened
      fun next stream => retryConnection_calms next stream
    have cancelling : Calms retried cancelled := foldl_calms id _ pending retried
      fun next task => cancelAndNote_calms cancels task next
    have releases : Calms cancelled released.2 := foldl_calms Prod.snd _ _ (pending, cancelled)
      fun state entry => finishConnection_calms cancels current ownerThread state entry
    have stops : Calms released.2 (if ownerThread then
        released.2.ownedTasks.foldl (cancelOnce inner current) released else released).2 := by
      split
      · exact foldl_calms Prod.snd _ _ released
          fun state task => cancelOnce_calms cancels current state task
      · exact .refl _
    have closes := @closeListener_calms answers (if ownerThread then
      released.2.ownedTasks.foldl (cancelOnce inner current) released else released).2
    obtain ⟨requested, live, -⟩ := updateFinished_same (closeListener answers (if ownerThread then
      released.2.ownedTasks.foldl (cancelOnce inner current) released else released).2)
    have whole := begins.trans (retries.trans (cancelling.trans (releases.trans
      (stops.trans (closes.trans (.same requested live))))))
    have asked := whole.requested rfl
    exact ⟨⟨fun _ => asked, whole.live⟩, fun _ => asked⟩

end Cancelling

end Calm

section Resting

structure Rests (handle after : ServerHandle) : Prop extends Calms handle after where
  connections : after.connections = handle.connections

theorem Rests.refl (handle : ServerHandle) : Rests handle handle := ⟨.refl handle, rfl⟩

theorem Rests.trans (first : Rests handle middle) (second : Rests middle after) :
    Rests handle after :=
  ⟨first.toCalms.trans second.toCalms, second.connections.trans first.connections⟩

def Childlike (handle : ServerHandle) (taskId : TaskId) : Prop :=
  ∀ task, handle.live.lookup taskId = some task → Routine.isChild task.routine = true

theorem Childlike.shrinks {taskId : TaskId} (childlike : Childlike handle taskId)
    (shrinks : Shrinks handle.live after.live) : Childlike after taskId := by
  intro later found
  obtain ⟨task, before, same, -⟩ := shrinks taskId later found
  exact same ▸ childlike task before

theorem childrenFolded_rests (turn : ServerHandle → TaskId → ServerHandle)
    (children : List TaskId) (handle : ServerHandle)
    (childlike : ∀ child ∈ children, Childlike handle child)
    (rests : ∀ current child, Childlike current child → Rests current (turn current child)) :
    Rests handle (children.foldl turn handle) := by
  induction children generalizing handle with
  | nil => exact .refl handle
  | cons child children induction =>
      have first := rests handle child (childlike child List.mem_cons_self)
      exact first.trans (induction (turn handle child) fun other member =>
        (childlike other (List.mem_cons_of_mem child member)).shrinks first.live)

/-- What is known of `cancel_task`: on a task that serves no connection it leaves
`_connections` alone. -/
structure CancelCalms (inner : TaskId → ServerHandle → Bool × ServerHandle) : Prop where
  calms : ∀ task handle, Calms handle (inner task handle).2
  rests : ∀ task handle, Childlike handle task →
    (inner task handle).2.connections = handle.connections

variable (cancels : CancelCalms inner)

include cancels

theorem CancelCalms.child {task : TaskId} (childlike : Childlike handle task) :
    Rests handle (inner task handle).2 :=
  ⟨cancels.calms task handle, cancels.rests task handle childlike⟩

theorem cancelOrRetainTask_rests {task : TaskId} (childlike : Childlike handle task) :
    Rests handle (cancelOrRetainTask inner task handle).2 := by
  have rests := cancels.child childlike
  unfold cancelOrRetainTask
  generalize inner task handle = cancelled at rests
  obtain ⟨ok, next⟩ := cancelled
  cases ok with
  | true => exact ⟨⟨rests.requested, rests.live⟩, rests.connections⟩
  | false => exact ⟨⟨rests.requested, rests.live⟩, rests.connections⟩

theorem tearDownConnection_rests (task : Task)
    (childlike : ∀ child ∈ task.children, Childlike handle child) :
    Rests handle (tearDownConnection inner task handle) := by
  have children : ∀ {child : TaskId}, (child ∈ task.handlers ∨ child ∈ task.helpers) ∨
      child ∈ task.websocketChildren → Childlike handle child := fun {child} member =>
    childlike child (by simpa only [Task.children, List.mem_append] using member)
  have handlers : Rests handle (task.handlers.foldl
      (fun next child => (cancelOrRetainTask inner child next).2) handle) :=
    childrenFolded_rests _ task.handlers handle
      (fun child member => children (.inl (.inl member)))
      fun current child childlike => cancelOrRetainTask_rests cancels childlike
  have helpers := handlers.trans (childrenFolded_rests
    (fun next child =>
      { (cancelOrRetainTask inner child next).2 with
        ownedTasks := (cancelOrRetainTask inner child next).2.ownedTasks.erase child })
    task.helpers _
    (fun child member => (children (.inl (.inr member))).shrinks handlers.live)
    fun current child childlike =>
      have rests := cancelOrRetainTask_rests cancels childlike
      ⟨⟨rests.requested, rests.live⟩, rests.connections⟩)
  unfold tearDownConnection
  dsimp only
  refine helpers.trans (childrenFolded_rests _ task.websocketChildren _
    (fun child member => (children (.inr member)).shrinks helpers.live) ?_)
  intro current child childlike
  have rests := cancelOrRetainTask_rests cancels childlike
  generalize cancelOrRetainTask inner child current = cancelled at rests
  obtain ⟨ok, next⟩ := cancelled
  cases ok with
  | true => exact ⟨⟨rests.requested, rests.live⟩, rests.connections⟩
  | false => exact rests

theorem finishing_calms (task : Option TaskId) (handle : ServerHandle) :
    Calms handle (finishing answers inner task handle) :=
  (finishClose_calms cancels.calms answers false task handle).1

theorem tearDownConnection_calms (task : Task) (handle : ServerHandle) :
    Calms handle (tearDownConnection inner task handle) := by
  have handlers : Calms handle (task.handlers.foldl
      (fun next child => (cancelOrRetainTask inner child next).2) handle) :=
    foldl_calms id _ task.handlers handle
      fun current child => cancelOrRetainTask_calms cancels.calms child current
  have helpers := handlers.trans (foldl_calms id
    (fun next child =>
      { (cancelOrRetainTask inner child next).2 with
        ownedTasks := (cancelOrRetainTask inner child next).2.ownedTasks.erase child })
    task.helpers _ fun current child =>
      have calm := cancelOrRetainTask_calms cancels.calms child current
      ⟨calm.requested, calm.live⟩)
  unfold tearDownConnection
  dsimp only
  refine helpers.trans (foldl_calms id _ task.websocketChildren _ fun current child => ?_)
  have calm := cancelOrRetainTask_calms cancels.calms child current
  dsimp only [id]
  generalize cancelOrRetainTask inner child current = cancelled at calm
  obtain ⟨ok, next⟩ := cancelled
  cases ok with
  | true => exact ⟨calm.requested, calm.live⟩
  | false => exact calm

theorem endConnection_calms (answers : Nat → Bool) (taskId : TaskId) (task : Task)
    (stream : StreamId) (primary : Option Fault) (handle : ServerHandle) :
    Calms handle (endConnection answers inner taskId task stream primary handle) := by
  have torn := tearDownConnection_calms cancels task handle
  unfold endConnection
  dsimp only
  generalize tearDownConnection inner task handle = settled at torn
  obtain ⟨calm, -⟩ := connectionFinished_calms (finishing_calms cancels) answers
    { settled with websocketStates := settled.websocketStates.erase stream } taskId stream primary
  exact ⟨calm.requested ∘ torn.requested, torn.live.trans calm.live⟩

theorem endConnection_leaves (answers : Nat → Bool) (taskId : TaskId) (task : Task)
    (stream : StreamId) (primary : Option Fault) (handle : ServerHandle)
    (childlike : ∀ child ∈ task.children, Childlike handle child) :
    (endConnection answers inner taskId task stream primary handle).closeRequested = true ∨
      (endConnection answers inner taskId task stream primary handle).connections =
        handle.connections.erase stream := by
  have torn := tearDownConnection_rests cancels task childlike
  unfold endConnection
  dsimp only
  generalize tearDownConnection inner task handle = settled at torn
  obtain ⟨-, left⟩ := connectionFinished_calms (finishing_calms cancels) answers
    { settled with websocketStates := settled.websocketStates.erase stream } taskId stream primary
  exact left.imp_right fun same => same.trans (congrArg _ torn.connections)

theorem finallyBlock_calms (answers : Nat → Bool) (taskId : TaskId) (task : Task)
    (handle : ServerHandle) :
    Calms handle (finallyBlock answers inner taskId task handle) := by
  unfold finallyBlock
  split
  · split
    · exact .refl _
    · exact .same rfl rfl
    · split
      · exact .refl _
      · exact (listenerFailed_calms (finishing_calms cancels) answers handle .generatorExit
          (some taskId)).2
  · exact finishing_calms cancels (some taskId) handle
  · exact .refl _
  · exact endConnection_calms cancels answers taskId task _ (some .generatorExit) handle
  · exact ⟨id, .dropHandler handle.live _ taskId⟩
  · exact .same rfl rfl
  · exact .refl _

omit cancels in
theorem finallyBlock_rests {taskId : TaskId} {task : Task}
    (child : Routine.isChild task.routine = true) :
    (finallyBlock answers inner taskId task handle).connections = handle.connections := by
  unfold finallyBlock
  split <;> first | rfl | (rename_i serves; rw [serves] at child; cases child)

theorem cancelStep_calms : CancelCalms (cancelStep answers inner) where
  calms taskId handle := by
    unfold cancelStep
    split
    · rename_i tried
      obtain rfl := of_attempt tried
      exact .same rfl rfl
    · rename_i tried
      obtain rfl := of_attempt tried
      split
      · exact .same rfl rfl
      · dsimp only
        split
        · have ends : Calms handle (ending taskId handle) := ⟨id, .erase handle.live taskId⟩
          exact ends.trans (finallyBlock_calms cancels answers taskId _ (ending taskId handle))
        · exact ⟨id, .erase handle.live taskId⟩
  rests taskId handle childlike := by
    unfold cancelStep
    split
    · rename_i tried
      obtain rfl := of_attempt tried
      rfl
    · rename_i tried
      obtain rfl := of_attempt tried
      split
      · rfl
      · rename_i task found
        dsimp only
        split
        · exact finallyBlock_rests (childlike task found)
        · rfl

omit cancels in
theorem cancelAt_calms (bound : Nat) : CancelCalms (cancelAt answers bound) := by
  induction bound with
  | zero =>
      refine cancelStep_calms ⟨fun task handle => ⟨id, .erase handle.live task⟩, ?_⟩
      exact fun task handle _ => rfl
  | succ bound induction => exact cancelStep_calms induction

omit cancels in
theorem cancel_calms (answers : Nat → Bool) (handle : ServerHandle) :
    CancelCalms (cancel answers handle) :=
  cancelAt_calms (handle.live.entries.length + 1)

end Resting

section Accepting

variable {listener : TaskId}

theorem listenerEnds_rests (listener : TaskId) (handle : ServerHandle) :
    Rests handle (listenerEnds listener handle) :=
  ⟨⟨id, .erase handle.live listener⟩, rfl⟩

theorem finishingFrom_calms (answers : Nat → Bool) (larger : ServerHandle)
    (task : Option TaskId) (handle : ServerHandle) :
    Calms handle (finishingFrom answers larger task handle) :=
  finishing_calms (cancel_calms answers larger) task handle

theorem acceptRaised_calms (answers : Nat → Bool) (listener : TaskId) (error : Fault)
    (handle : ServerHandle) :
    (acceptRaised answers listener error handle).closeRequested = true ∧
      Calms handle (acceptRaised answers listener error handle) := by
  have ends := (listenerEnds_rests listener handle).toCalms
  unfold acceptRaised
  split
  · rename_i requested
    exact ⟨ends.requested requested, ends⟩
  · obtain ⟨requested, calm⟩ := listenerFailed_calms (finishingFrom_calms answers handle)
      answers (listenerEnds listener handle) error (some listener)
    exact ⟨requested, ends.trans calm⟩

theorem registrationFailed_calms (answers : Nat → Bool) (listener : TaskId) (error : Fault)
    (stream : StreamId) (handle : ServerHandle) :
    (registrationFailed answers listener error stream handle).closeRequested = true ∧
      Calms handle (registrationFailed answers listener error stream handle) := by
  obtain ⟨closes, -⟩ := closeOrRetain_calms (finishingFrom_calms answers
    { handle with connections := handle.connections.erase stream }) answers
    { handle with connections := handle.connections.erase stream } stream (some listener)
    (some error)
  unfold registrationFailed
  dsimp only
  generalize (closeOrRetain answers (finishingFrom answers
    { handle with connections := handle.connections.erase stream }) stream (some listener)
    (some error) { handle with connections := handle.connections.erase stream }).2 = released
    at closes ⊢
  have ends := (listenerEnds_rests listener released).toCalms
  obtain ⟨requested, calm⟩ := listenerFailed_calms (finishingFrom_calms answers released)
    answers (listenerEnds listener released) error (some listener)
  exact ⟨requested, Calms.trans ⟨closes.requested, closes.live⟩ (ends.trans calm)⟩

def registered (handle : ServerHandle) : ServerHandle :=
  register handle.acceptedStreams
    { handle with acceptedStreams := handle.acceptedStreams + 1 }

/-- A turn of the accept loop may register a connection; where anything fails after that, a
close is requested. -/
def Turned (handle after : ServerHandle) : Prop :=
  ∃ base, (Rests handle base ∨ handle.closeRequested = false ∧ base = registered handle) ∧
    Calms base after ∧ (after.closeRequested = true ∨ after.connections = base.connections)

theorem Turned.of_requested (calms : Calms handle after)
    (requested : after.closeRequested = true) : Turned handle after :=
  ⟨handle, .inl (.refl handle), calms, .inl requested⟩

theorem Turned.of_rests (rests : Rests handle after) : Turned handle after :=
  ⟨handle, .inl (.refl handle), rests.toCalms, .inr rests.connections⟩

theorem Turned.after_rests (first : Rests handle middle)
    (same : middle.closeRequested = handle.closeRequested)
    (registers : handle.closeRequested = false → registered middle = registered handle)
    (turned : Turned middle after) : Turned handle after := by
  obtain ⟨base, entry, calms, ends⟩ := turned
  refine ⟨base, ?_, calms, ends⟩
  rcases entry with rests | ⟨unrequested, rfl⟩
  · exact .inl (first.trans rests)
  · exact .inr ⟨same.symm.trans unrequested, registers (same.symm.trans unrequested)⟩

theorem admitStream_turned (answers : Nat → Bool) (listener : TaskId)
    (registration : Registration) (handle : ServerHandle) :
    Turned handle (admitStream answers listener handle.acceptedStreams registration
      { handle with acceptedStreams := handle.acceptedStreams + 1 }) := by
  unfold admitStream
  split
  · rename_i requested
    obtain ⟨closes, -⟩ := closeOrRetain_calms (finishingFrom_calms answers
      { handle with acceptedStreams := handle.acceptedStreams + 1 }) answers
      { handle with acceptedStreams := handle.acceptedStreams + 1 } handle.acceptedStreams
      (some listener) none
    have calm : Calms handle { handle with acceptedStreams := handle.acceptedStreams + 1 } :=
      .same rfl rfl
    split
    · rename_i next settled
      rw [settled] at closes
      exact .of_requested (calm.trans closes) (closes.requested requested)
    · rename_i next failed
      rw [failed] at closes
      have ends := (listenerEnds_rests listener next).toCalms
      exact .of_requested (calm.trans (closes.trans ends))
        (ends.requested (closes.requested requested))
  · rename_i unrequested
    have entering : handle.closeRequested = false := Bool.eq_false_iff.mpr unrequested
    split
    · exact ⟨registered handle, .inr ⟨entering, rfl⟩, .refl _, .inr rfl⟩
    · rename_i error
      obtain ⟨requested, calm⟩ := registrationFailed_calms answers listener error
        handle.acceptedStreams { handle with acceptedStreams := handle.acceptedStreams + 1 }
      exact .of_requested ⟨calm.requested, calm.live⟩ requested
    · rename_i error
      dsimp only
      have cancelled := cancelOrRetainTask_calms
        (cancel_calms answers (registered handle)).calms handle.nextTask (registered handle)
      have failing := registrationFailed_calms answers listener error handle.acceptedStreams
      split
      · rename_i next ended
        unfold registered at cancelled
        rw [ended] at cancelled
        obtain ⟨requested, calm⟩ :=
          failing { next with ownedTasks := next.ownedTasks.erase handle.nextTask }
        exact ⟨registered handle, .inr ⟨entering, rfl⟩,
          Calms.trans cancelled ⟨calm.requested, calm.live⟩, .inl requested⟩
      · rename_i next kept
        unfold registered at cancelled
        rw [kept] at cancelled
        obtain ⟨requested, calm⟩ := failing next
        exact ⟨registered handle, .inr ⟨entering, rfl⟩, Calms.trans cancelled calm,
          .inl requested⟩

theorem acceptTurn_turned (answers : Nat → Bool) (listener : TaskId) (outcome : AcceptOutcome)
    (handle : ServerHandle) : Turned handle (acceptTurn answers listener outcome handle) := by
  unfold acceptTurn
  split
  · exact .of_rests ⟨.same rfl rfl, rfl⟩
  · obtain ⟨requested, calm⟩ := acceptRaised_calms answers listener _ handle
    exact .of_requested calm requested
  · dsimp only
    split
    · exact admitStream_turned answers listener _ handle
    · rename_i error
      have closes := @closeSafely_calms answers
        { handle with acceptedStreams := handle.acceptedStreams + 1 } handle.acceptedStreams
      have calm : Calms handle { handle with acceptedStreams := handle.acceptedStreams + 1 } :=
        .same rfl rfl
      split
      · rename_i next closed
        rw [closed] at closes
        obtain ⟨requested, raised⟩ := acceptRaised_calms answers listener error next
        exact .of_requested (calm.trans (closes.trans raised)) requested
      · rename_i next failed
        rw [failed] at closes
        have ends := (listenerEnds_rests listener next).toCalms
        obtain ⟨requested, setup⟩ := acceptedSetupFailed_calms
          (finishingFrom_calms answers next) answers (listenerEnds listener next) error
          handle.acceptedStreams (some listener)
        exact .of_requested (calm.trans (closes.trans (ends.trans setup))) requested

end Accepting

section Entering

/-- While no close is requested, the task of a connection is under its stream in
`_connections`. -/
def Entered (handle : ServerHandle) : Prop :=
  handle.closeRequested = false → ∀ taskId task stream, handle.live.lookup taskId = some task →
    task.routine = .connection stream → handle.connections.lookup stream = some taskId

theorem Calms.unrequested (calms : Calms handle after)
    (unrequested : after.closeRequested = false) : handle.closeRequested = false :=
  Bool.eq_false_iff.mpr fun requested =>
    Bool.noConfusion (unrequested.symm.trans (calms.requested requested))

theorem Entered.of_requested (requested : after.closeRequested = true) : Entered after :=
  fun unrequested => Bool.noConfusion (unrequested.symm.trans requested)

theorem Entered.keeps (entered : Entered handle) (calms : Calms handle after)
    (connections : after.closeRequested = true ∨ ∀ taskId task stream,
      after.live.lookup taskId = some task → task.routine = .connection stream →
        handle.connections.lookup stream = some taskId →
          after.connections.lookup stream = some taskId) : Entered after := by
  rcases connections with requested | kept
  · exact .of_requested requested
  · intro unrequested taskId task stream found serves
    obtain ⟨before, live, same, -⟩ := calms.live taskId task found
    exact kept taskId task stream found serves
      (entered (calms.unrequested unrequested) taskId before stream live (same.trans serves))

theorem Entered.unchanged (entered : Entered handle) (calms : Calms handle after)
    (same : after.closeRequested = true ∨ after.connections = handle.connections) :
    Entered after := by
  refine entered.keeps calms (same.imp_right fun same taskId task stream _ _ entry => ?_)
  rw [same]
  exact entry

theorem Entered.registered (entered : Entered handle) (sound : Sound handle) :
    Entered (registered handle) := by
  intro unrequested taskId task stream found serves
  change (handle.live.set handle.nextTask { routine := .connection handle.acceptedStreams }).lookup
    taskId = some task at found
  change (handle.connections.set handle.acceptedStreams handle.nextTask).lookup stream = some taskId
  rw [OrderedDict.lookup_set_eq] at found
  split at found
  · rename_i new
    obtain rfl := Option.some.inj found
    cases serves
    rw [OrderedDict.lookup_set, new]
  · have old : stream < handle.acceptedStreams :=
      sound.roster.streams taskId task stream found (by rw [serves]; rfl)
    rw [OrderedDict.lookup_set_ne _ _ (Nat.ne_of_lt old)]
    exact entered unrequested taskId task stream found serves

def Routine.isConnection : Routine → Bool
  | .connection _ => true
  | _ => false

def tasksThat (kind : Routine → Bool) (live : OrderedDict TaskId Task) : Finset TaskId :=
  live.keys.toFinset.filter fun taskId =>
    (live.lookup taskId).any fun task => kind task.routine

theorem mem_tasksThat {kind : Routine → Bool} {live : OrderedDict TaskId Task} {taskId : TaskId} :
    taskId ∈ tasksThat kind live ↔
      ∃ task, live.lookup taskId = some task ∧ kind task.routine = true := by
  rw [tasksThat, Finset.mem_filter, List.mem_toFinset, Option.any_eq_true]
  exact and_iff_right_of_imp fun ⟨task, found, _⟩ =>
    AList.mem_keys.mp (OrderedDict.mem_of_lookup found)

theorem tasksThat_shrinks {kind : Routine → Bool} {live later : OrderedDict TaskId Task}
    (shrinks : Shrinks live later) : tasksThat kind later ⊆ tasksThat kind live := by
  intro taskId member
  obtain ⟨task, found, is⟩ := mem_tasksThat.mp member
  obtain ⟨before, live, same, -⟩ := shrinks taskId task found
  exact mem_tasksThat.mpr ⟨before, live, same ▸ is⟩

/-- Each connection task has an entry of its own. -/
theorem Entered.bounded (entered : Entered handle) (unrequested : handle.closeRequested = false) :
    (tasksThat Routine.isConnection handle.live).card ≤ handle.connections.entries.length := by
  have entries : tasksThat Routine.isConnection handle.live ⊆
      (handle.connections.entries.map Sigma.snd).toFinset := by
    intro taskId member
    obtain ⟨task, found, is⟩ := mem_tasksThat.mp member
    obtain ⟨stream, serves⟩ : ∃ stream, task.routine = .connection stream := by
      cases routine : task.routine with
      | connection stream => exact ⟨stream, rfl⟩
      | _ => rw [routine] at is; cases is
    have entry := entered unrequested taskId task stream found serves
    refine List.mem_toFinset.mpr (List.mem_map.mpr ⟨⟨stream, taskId⟩, ?_, rfl⟩)
    exact AList.mem_lookup_iff.mp entry
  calc (tasksThat Routine.isConnection handle.live).card
      ≤ (handle.connections.entries.map Sigma.snd).toFinset.card := Finset.card_le_card entries
    _ ≤ (handle.connections.entries.map Sigma.snd).length := List.toFinset_card_le _
    _ = handle.connections.entries.length := List.length_map _

end Entering

section Stepping

variable {step : Step}

def Steady (handle after : ServerHandle) : Prop :=
  Calms handle after ∧ (Entered handle → Entered after)

theorem Steady.of_rests (rests : Rests handle after) : Steady handle after :=
  ⟨rests.toCalms, fun entered => entered.unchanged rests.toCalms (.inr rests.connections)⟩

theorem Steady.after_rests (first : Rests handle middle) (steady : Steady middle after) :
    Steady handle after :=
  ⟨first.toCalms.trans steady.1, fun entered => steady.2 ((of_rests first).2 entered)⟩

theorem Steady.unchanged (calms : Calms handle after)
    (same : after.closeRequested = true ∨ after.connections = handle.connections) :
    Steady handle after :=
  ⟨calms, fun entered => entered.unchanged calms same⟩

theorem Marks.rests {base : ServerHandle} (marks : Marks handle base) : Rests handle base := by
  obtain ⟨later, cursor, shrinks, -, rfl⟩ := marks
  exact ⟨⟨id, shrinks⟩, rfl⟩

theorem finishClose_steady (cancels : CancelCalms inner) (answers : Nat → Bool)
    (ownerThread : Bool) (current : Option TaskId) (handle : ServerHandle) :
    Steady handle (finishClose answers inner ownerThread current handle) := by
  obtain ⟨calm, requested⟩ := finishClose_calms cancels.calms answers ownerThread current handle
  refine .unchanged calm ?_
  cases finished : handle.finished with
  | true =>
      right
      unfold finishClose
      rw [if_pos finished]
  | false => exact .inl (requested finished)

theorem endsChild_steady {taskId : TaskId}
    (taken : next answers handle (.endsChild taskId) = some after) : Steady handle after := by
  simp only [next] at taken
  split at taken
  · cases taken
  · rename_i task found
    have ends := Marks.rests (.ends handle taskId (some taskId))
    have calm := finallyBlock_calms (cancel_calms answers handle) answers taskId task
      { handle with live := handle.live.erase taskId, cursor := some taskId }
    split at taken
    · cases taken
    · cases taken
    · cases taken
    · rename_i noListener noWatcher noConnection
      obtain rfl := Option.some.inj taken
      refine .after_rests ends (.unchanged calm (.inr ?_))
      unfold finallyBlock
      split
      · exact absurd ‹_› noListener
      · exact absurd ‹_› noWatcher
      · rfl
      · exact absurd ‹_› (noConnection _)
      · rfl
      · rfl
      · rfl

theorem cancelsHandler_steady (sound : Sound handle) {taskId handler : TaskId}
    (taken : next answers handle (.cancelsHandler taskId handler) = some after) :
    Steady handle after := by
  simp only [next] at taken
  split at taken
  · cases taken
  · rename_i task stream running
    split at taken
    · rename_i listed
      obtain rfl := Option.some.inj taken
      obtain ⟨found, -, -⟩ := runningConnection_eq running
      have child : handler ∈ task.children :=
        List.mem_append_left _ (List.mem_append_left _ (List.contains_iff_mem.mp listed))
      have marks := Marks.rests (Marks.keeps
        { task with handlers := task.handlers.erase handler } found rfl
        (fun other member => by
          simp only [Task.children, List.mem_append] at member ⊢
          exact member.imp_left (Or.imp_left List.mem_of_mem_erase)) (some taskId))
      have childlike : Childlike handle handler :=
        sound.roster.children taskId task found handler child
      exact .after_rests marks (.of_rests
        (cancelOrRetainTask_rests (cancel_calms answers handle) (childlike.shrinks marks.live)))
    · cases taken

theorem tearsDown_steady (sound : Sound handle) {taskId : TaskId}
    (taken : next answers handle (.tearsDown taskId) = some after) : Steady handle after := by
  obtain ⟨⟨task, stream⟩, running, rfl⟩ := Option.map_eq_some_iff.mp taken
  obtain ⟨found, serves, -⟩ := runningConnection_eq running
  have marks := Marks.rests (Marks.keeps { routine := .connection stream, started := true } found
    serves (fun _ member => by cases member) (some taskId))
  have torn := tearDownConnection_rests (cancel_calms answers handle) task fun child member =>
    (show Childlike handle child from sound.roster.children taskId task found child member).shrinks
      marks.live
  exact .after_rests marks (.of_rests ⟨⟨torn.requested, torn.live⟩, torn.connections⟩)

theorem finishesConnection_steady (sound : Sound handle) {taskId : TaskId}
    {primary : Option Fault}
    (taken : next answers handle (.finishesConnection taskId primary) = some after) :
    Steady handle after := by
  obtain ⟨⟨task, stream⟩, running, rfl⟩ := Option.map_eq_some_iff.mp taken
  obtain ⟨found, serves, -⟩ := runningConnection_eq running
  have ends := Marks.rests (.ends handle taskId (some taskId))
  have calm := endConnection_calms (cancel_calms answers handle) answers taskId task stream
    primary { handle with live := handle.live.erase taskId, cursor := some taskId }
  have left := endConnection_leaves (cancel_calms answers handle) answers taskId task stream
    primary { handle with live := handle.live.erase taskId, cursor := some taskId }
    fun child member =>
    (show Childlike handle child from sound.roster.children taskId task found child member).shrinks
      ends.live
  refine ⟨ends.toCalms.trans calm, fun entered => entered.keeps (ends.toCalms.trans calm) ?_⟩
  refine left.imp_right fun erased other otherTask otherStream otherFound otherServes entry => ?_
  obtain ⟨before, live, same, -⟩ := calm.live other otherTask otherFound
  change (handle.live.erase taskId).lookup other = some before at live
  rw [OrderedDict.lookup_erase_eq] at live
  split at live
  · cases live
  · rename_i others
    rw [erased, OrderedDict.lookup_erase_eq]
    split
    · rename_i sameStream
      subst sameStream
      exact absurd (sound.roster.single other before taskId task _ live found
        (same.trans otherServes) serves) others
    · exact entry

theorem forcesClose_steady {taskId : TaskId} {primary : Option Fault}
    (taken : next answers handle (.forcesClose taskId primary) = some after) :
    Steady handle after := by
  simp only [next] at taken
  split at taken
  · cases taken
  · split at taken
    · obtain rfl := Option.some.inj taken
      obtain ⟨calm, same⟩ := forceConnectionClose_calms
        (finishing_calms (cancel_calms answers handle)) answers
        { handle with live := handle.live.erase taskId, cursor := some taskId } _ (some taskId)
        primary
      exact .after_rests (Marks.rests (.ends handle taskId (some taskId)))
        (.unchanged ⟨calm.requested, calm.live⟩ same)
    · cases taken

theorem wakesWatcher_steady {taskId : TaskId}
    (taken : next answers handle (.wakesWatcher taskId) = some after) : Steady handle after := by
  simp only [next] at taken
  split at taken
  · cases taken
  · split at taken
    · obtain rfl := Option.some.inj taken
      exact .after_rests (Marks.rests (.ends handle taskId (some taskId)))
        (finishClose_steady (cancel_calms answers handle) answers false (some taskId) _)
    · cases taken

theorem close_steady (answers : Nat → Bool) (handle : ServerHandle) :
    Steady handle (close answers handle) := by
  unfold close
  split
  · exact .of_rests (.refl handle)
  · dsimp only
    split
    · exact .unchanged ⟨fun _ => rfl, .refl _⟩ (.inl rfl)
    · split
      · rename_i tried
        obtain rfl := of_attempt tried
        exact .unchanged ⟨fun _ => rfl, .refl _⟩ (.inl rfl)
      · rename_i tried
        obtain rfl := of_attempt tried
        exact .unchanged ⟨fun _ => rfl, .refl _⟩ (.inl rfl)

theorem finalize_steady (answers : Nat → Bool) (handle : ServerHandle) :
    Steady handle (finalize answers handle) := by
  have begins : Rests handle { handle with cursor := none } := ⟨.same rfl rfl, rfl⟩
  exact .after_rests begins (finishClose_steady (cancel_calms answers handle) answers true none _)

theorem closeFromTask_steady (answers : Nat → Bool) (task : TaskId) (handle : ServerHandle) :
    Steady handle (closeFromTask answers task handle) := by
  unfold closeFromTask
  split
  · exact .of_rests (.refl handle)
  · have requests : Steady handle { handle with
        closeRequested := true, finalizationAttempted := true, cursor := some task } :=
      .unchanged ⟨fun _ => rfl, .refl _⟩ (.inl rfl)
    have finishes := finishClose_steady (cancel_calms answers handle) answers false (some task)
      { handle with
        closeRequested := true, finalizationAttempted := true, cursor := some task }
    exact ⟨requests.1.trans finishes.1, finishes.2 ∘ requests.2⟩

theorem next_steady (sound : Sound handle) (taken : next answers handle step = some after) :
    (∃ outcome, step = .runsListener outcome) ∨ (∃ task kind, step = .spawns task kind) ∨
      Steady handle after := by
  cases step with
  | runsListener outcome => exact .inl ⟨outcome, rfl⟩
  | spawns task kind => exact .inr (.inl ⟨task, kind, rfl⟩)
  | starts taskId =>
      obtain ⟨task, found, rfl⟩ := Option.map_eq_some_iff.mp taken
      exact .inr (.inr (.of_rests (Marks.rests (Marks.keeps { task with started := true } found rfl
        (fun _ => id) handle.cursor))))
  | endsChild taskId => exact .inr (.inr (endsChild_steady taken))
  | cancelsHandler taskId handler => exact .inr (.inr (cancelsHandler_steady sound taken))
  | registersGraceful taskId =>
      obtain ⟨running, -, rfl⟩ := Option.map_eq_some_iff.mp taken
      exact .inr (.inr (.of_rests ⟨.same rfl rfl, rfl⟩))
  | registersWebsocket taskId =>
      obtain ⟨running, -, rfl⟩ := Option.map_eq_some_iff.mp taken
      exact .inr (.inr (.of_rests ⟨.same rfl rfl, rfl⟩))
  | tearsDown taskId => exact .inr (.inr (tearsDown_steady sound taken))
  | finishesConnection taskId primary =>
      exact .inr (.inr (finishesConnection_steady sound taken))
  | forcesClose taskId primary => exact .inr (.inr (forcesClose_steady taken))
  | wakesWatcher taskId => exact .inr (.inr (wakesWatcher_steady taken))
  | close =>
      obtain rfl := Option.some.inj taken
      exact .inr (.inr (close_steady answers handle))
  | finalize =>
      obtain rfl := Option.some.inj taken
      exact .inr (.inr (finalize_steady answers handle))
  | closesFromTask task =>
      obtain rfl := Option.some.inj taken
      exact .inr (.inr (closeFromTask_steady answers task handle))

end Stepping

section Housing

def Routine.isControl : Routine → Bool
  | .acceptLoop => true
  | .closeWatcher => true
  | .routeObserver => true
  | _ => false

theorem control_apart (routine : Routine) : Routine.isControl routine = true →
    Routine.isConnection routine = false ∧ Routine.isChild routine = false := by
  cases routine <;> first | exact fun _ => ⟨rfl, rfl⟩ | exact fun control => nomatch control

theorem tasksThat_set {kind : Routine → Bool} {routine : Routine} (other : kind routine = false)
    (live : OrderedDict TaskId Task) (added : TaskId) :
    tasksThat kind (live.set added { routine }) ⊆ tasksThat kind live := by
  intro taskId member
  obtain ⟨task, found, is⟩ := mem_tasksThat.mp member
  rw [OrderedDict.lookup_set_eq] at found
  split at found
  · obtain rfl := Option.some.inj found
    exact absurd (other.symm.trans is) Bool.false_ne_true
  · exact mem_tasksThat.mpr ⟨task, found, is⟩

/-- The tasks a server keeps within its bounds, whatever its connections spawn. -/
structure Housed (maxConnections controls : Nat) (handle : ServerHandle) : Prop where
  entered : Entered handle
  bounded : (tasksThat Routine.isConnection handle.live).card ≤ maxConnections
  control : tasksThat Routine.isControl handle.live ⊆ Finset.range controls

variable {maxConnections controls : Nat} {step : Step}

theorem Housed.steady (housed : Housed maxConnections controls handle)
    (steady : Steady handle after) : Housed maxConnections controls after where
  entered := steady.2 housed.entered
  bounded := (Finset.card_le_card (tasksThat_shrinks steady.1.live)).trans housed.bounded
  control := (tasksThat_shrinks steady.1.live).trans housed.control

theorem Housed.registered (housed : Housed maxConnections controls handle) (sound : Sound handle)
    (accepting : Accepting handle) (unrequested : handle.closeRequested = false)
    (capacity : handle.maxConnections = maxConnections) :
    Housed maxConnections controls (registered handle) := by
  have arrives : Arrives handle (ServerCapacity.registered handle) := .registered
  have tables := (arrives.sound accepting sound).tables.bounded
  have entered := housed.entered.registered sound
  have counted := entered.bounded unrequested
  refine ⟨entered, ?_, (tasksThat_set rfl handle.live handle.nextTask).trans housed.control⟩
  rw [← capacity]
  exact counted.trans ((Nat.le_add_right _ _).trans tables)

theorem Housed.turned (housed : Housed maxConnections controls handle) (sound : Sound handle)
    (accepting : Accepting handle) (capacity : handle.maxConnections = maxConnections)
    (turned : Turned handle after) : Housed maxConnections controls after := by
  obtain ⟨base, entry, calms, ends⟩ := turned
  have based : Housed maxConnections controls base := by
    rcases entry with rests | ⟨unrequested, rfl⟩
    · exact housed.steady (.of_rests rests)
    · exact housed.registered sound accepting unrequested capacity
  exact based.steady (.unchanged calms ends)

theorem runListener_turned (sound : Sound handle) (listens : Listening handle.live)
    {listener : TaskId} (is : handle.listenerTask = some listener) (outcome : AcceptOutcome) :
    ∃ middle, Rests handle middle ∧ Sound middle ∧
      middle.maxConnections = handle.maxConnections ∧
        (middle = runListener answers listener outcome handle ∨
          Accepting middle ∧ Turned middle (runListener answers listener outcome handle)) := by
  have moved : ∀ {later}, ListenerMove answers handle later → Rests handle later →
      later.maxConnections = handle.maxConnections → ∃ middle, Rests handle middle ∧
        Sound middle ∧ middle.maxConnections = handle.maxConnections ∧
          (middle = later ∨ Accepting middle ∧ Turned middle later) :=
    fun move rests capacity => ⟨_, rests, (move.follows sound).1, capacity, .inl rfl⟩
  unfold runListener
  split
  · rename_i phase
    split
    · exact moved (.ends handle listener is) (listenerEnds_rests listener handle) rfl
    · split
      · rename_i full
        exact moved (.waitsCapacity handle full) ⟨.same rfl rfl, rfl⟩ rfl
      · rename_i room
        exact ⟨handle, .refl handle, sound, rfl,
          .inr ⟨⟨Nat.lt_of_not_le room, phase⟩, acceptTurn_turned answers listener outcome handle⟩⟩
  · exact moved (.wakes handle) ⟨.same rfl rfl, rfl⟩ rfl
  · rename_i phase
    have room := sound.watch.room listens phase
    have turn : ListenerMove answers handle { handle with listenerPhase := .atHead } :=
      .turns handle
    refine ⟨{ handle with listenerPhase := .atHead }, ⟨.same rfl rfl, rfl⟩, (turn.follows sound).1,
      rfl, .inr ⟨⟨room, rfl⟩, acceptTurn_turned answers listener outcome _⟩⟩

theorem runsListener_turned (sound : Sound handle) {outcome : AcceptOutcome}
    (taken : next answers handle (.runsListener outcome) = some after) :
    ∃ middle, Rests handle middle ∧ Sound middle ∧
      middle.maxConnections = handle.maxConnections ∧
        (middle = after ∨ Accepting middle ∧ Turned middle after) := by
  simp only [next] at taken
  split at taken
  · cases taken
  · rename_i listener is
    obtain ⟨task, found, rfl⟩ := Option.map_eq_some_iff.mp taken
    have accepts := (sound.roster.listener listener is).2 task found
    have marks := Marks.keeps { task with started := true } found rfl (fun _ => id) (some listener)
    have listens : Listening (handle.live.set listener { task with started := true }) :=
      ⟨listener, _, OrderedDict.lookup_set _ _ _, accepts⟩
    obtain ⟨middle, rests, middleSound, capacity, turned⟩ :=
      runListener_turned (marks.follows sound).1 listens is outcome
    exact ⟨middle, (Marks.rests marks).trans rests, middleSound, capacity, turned⟩

theorem spawn_live {parent : TaskId} {task : Task} (stream : StreamId) (kind : ChildKind)
    (found : handle.live.lookup parent = some task) {taskId : TaskId} {later : Task}
    (live : (spawn parent task stream kind handle).live.lookup taskId = some later) :
    Routine.isChild later.routine = true ∨
      ∃ before, handle.live.lookup taskId = some before ∧ before.routine = later.routine := by
  have added : ∀ (routine : Routine), Routine.isChild routine = true →
      ∀ known : Task, known.routine = task.routine →
      ((handle.live.set parent known).set handle.nextTask { routine }).lookup taskId = some later →
      Routine.isChild later.routine = true ∨
        ∃ before, handle.live.lookup taskId = some before ∧ before.routine = later.routine := by
    intro routine child known same present
    rw [OrderedDict.lookup_set_eq] at present
    split at present
    · obtain rfl := Option.some.inj present
      exact .inl child
    · rw [OrderedDict.lookup_set_eq] at present
      split at present
      · rename_i isParent
        obtain rfl := Option.some.inj present
        exact .inr ⟨task, isParent ▸ found, same.symm⟩
      · exact .inr ⟨later, present, rfl⟩
  cases kind with
  | handler =>
      exact added (.handler parent) rfl
        { task with handlers := task.handlers ++ [handle.nextTask] } rfl live
  | helper =>
      exact added (.helper stream) rfl
        { task with helpers := task.helpers ++ [handle.nextTask] } rfl live
  | websocketChild =>
      exact added .websocketChild rfl
        { task with websocketChildren := task.websocketChildren ++ [handle.nextTask] } rfl live

theorem spawn_tasksThat {parent : TaskId} {task : Task} (stream : StreamId) (kind : ChildKind)
    (found : handle.live.lookup parent = some task) {among : Routine → Bool}
    (apart : ∀ routine, Routine.isChild routine = true → among routine = false) :
    tasksThat among (spawn parent task stream kind handle).live ⊆ tasksThat among handle.live := by
  intro taskId member
  obtain ⟨later, live, is⟩ := mem_tasksThat.mp member
  rcases spawn_live stream kind found live with child | ⟨before, known, same⟩
  · exact absurd ((apart _ child).symm.trans is) Bool.false_ne_true
  · exact mem_tasksThat.mpr ⟨before, known, same ▸ is⟩

theorem Housed.spawned (housed : Housed maxConnections controls handle) {parent : TaskId}
    {task : Task} (stream : StreamId) (kind : ChildKind)
    (found : handle.live.lookup parent = some task) :
    Housed maxConnections controls (spawn parent task stream kind handle) where
  entered := by
    intro unrequested taskId later served live serves
    have entries : (spawn parent task stream kind handle).connections = handle.connections := by
      cases kind <;> rfl
    have before : handle.closeRequested = false := by
      cases kind <;> exact unrequested
    rw [entries]
    rcases spawn_live stream kind found live with child | ⟨known, present, same⟩
    · rw [serves] at child
      cases child
    · exact housed.entered before taskId known served present (same.trans serves)
  bounded := by
    refine (Finset.card_le_card (spawn_tasksThat stream kind found ?_)).trans housed.bounded
    intro routine child
    cases routine <;> first | rfl | cases child
  control := by
    refine (spawn_tasksThat stream kind found ?_).trans housed.control
    intro routine child
    cases routine <;> first | rfl | cases child

theorem next_housed (sound : Sound handle) (housed : Housed maxConnections controls handle)
    (capacity : handle.maxConnections = maxConnections)
    (taken : next answers handle step = some after) : Housed maxConnections controls after := by
  rcases next_steady sound taken with ⟨outcome, rfl⟩ | ⟨parent, kind, rfl⟩ | steady
  · obtain ⟨middle, rests, middleSound, same, turned⟩ := runsListener_turned sound taken
    have first := housed.steady (.of_rests rests)
    rcases turned with rfl | ⟨accepting, turned⟩
    · exact first
    · exact first.turned middleSound accepting (same.trans capacity) turned
  · obtain ⟨⟨task, stream⟩, running, rfl⟩ := Option.map_eq_some_iff.mp taken
    exact housed.spawned stream kind (runningConnection_eq running).1
  · exact housed.steady steady

theorem next_childless (sound : Sound handle) (taken : next answers handle step = some after)
    (quiet : ∀ task kind, step ≠ .spawns task kind) :
    tasksThat Routine.isChild after.live ⊆ tasksThat Routine.isChild handle.live := by
  rcases next_steady sound taken with ⟨outcome, rfl⟩ | ⟨parent, kind, rfl⟩ | steady
  · obtain ⟨middle, rests, -, -, turned⟩ := runsListener_turned sound taken
    refine subset_trans ?_ (tasksThat_shrinks rests.live)
    rcases turned with rfl | ⟨-, base, entry, calms, -⟩
    · exact subset_refl _
    · refine (tasksThat_shrinks calms.live).trans ?_
      rcases entry with based | ⟨-, rfl⟩
      · exact tasksThat_shrinks based.live
      · exact tasksThat_set rfl middle.live middle.nextTask
  · exact absurd rfl (quiet parent kind)
  · exact tasksThat_shrinks steady.1.live

end Housing

section Reachable

variable {maxConnections : Nat} {hasWakeup hasObserver : Bool} {steps : List Step}

def controlTasks (hasWakeup hasObserver : Bool) : Nat := 1 + hasWakeup.toNat + hasObserver.toNat

theorem scheduled_control (maxConnections : Nat) (hasWakeup hasObserver : Bool) {taskId : TaskId}
    {task : Task} (found : (scheduled maxConnections hasWakeup hasObserver).live.lookup taskId =
      some task) :
    Routine.isControl task.routine = true ∧ taskId < controlTasks hasWakeup hasObserver := by
  cases hasWakeup <;> cases hasObserver <;>
    simp only [scheduled, Bool.false_eq_true, if_true, if_false, List.append_nil, List.nil_append,
      List.cons_append, List.mapIdx_cons, List.mapIdx_nil, List.foldl_cons, List.foldl_nil,
      OrderedDict.lookup_set_eq, AList.lookup_empty] at found <;>
    split_ifs at found <;> cases found <;> subst_vars <;> decide

theorem scheduled_housed (maxConnections : Nat) (hasWakeup hasObserver : Bool) :
    Housed maxConnections (controlTasks hasWakeup hasObserver)
      (scheduled maxConnections hasWakeup hasObserver) := by
  have control : ∀ {taskId task},
      (scheduled maxConnections hasWakeup hasObserver).live.lookup taskId = some task → _ :=
    fun found => scheduled_control maxConnections hasWakeup hasObserver found
  refine ⟨fun _ taskId task stream found serves => ?_, ?_, fun taskId member => ?_⟩
  · have first := (control found).1
    rw [serves] at first
    cases first
  · refine (Nat.le_of_eq (Finset.card_eq_zero.mpr (Finset.eq_empty_of_forall_notMem ?_))).trans
      (Nat.zero_le _)
    intro taskId member
    obtain ⟨task, found, serves⟩ := mem_tasksThat.mp member
    exact Bool.false_ne_true ((control_apart _ (control found).1).1.symm.trans serves)
  · obtain ⟨task, found, -⟩ := mem_tasksThat.mp member
    exact Finset.mem_range.mpr (control found).2

variable {handle : ServerHandle}

/-- A server keeps within its bounds, whatever the kernel answers. -/
theorem reachable_housed
    (run : Runs.Run (Steps answers) (scheduled maxConnections hasWakeup hasObserver) steps handle) :
    Housed maxConnections (controlTasks hasWakeup hasObserver) handle := by
  induction run with
  | nil => exact scheduled_housed maxConnections hasWakeup hasObserver
  | snoc step run taken induction =>
      obtain ⟨sound, capacity, -, -⟩ := reachable_sound run
      exact next_housed sound induction capacity taken

theorem reachable_childless
    (run : Runs.Run (Steps answers) (scheduled maxConnections hasWakeup hasObserver) steps handle)
    (quiet : ∀ task kind, Step.spawns task kind ∉ steps) :
    tasksThat Routine.isChild handle.live = ∅ := by
  induction run with
  | nil =>
      refine Finset.eq_empty_of_forall_notMem fun taskId member => ?_
      obtain ⟨task, found, child⟩ := mem_tasksThat.mp member
      have apart := control_apart _ (scheduled_control maxConnections hasWakeup hasObserver found).1
      exact Bool.false_ne_true (apart.2.symm.trans child)
  | snoc step run taken induction =>
      have fewer := next_childless (reachable_sound run).1 taken fun task kind same =>
        quiet task kind (List.mem_append_right _ (List.mem_singleton.mpr same.symm))
      have none := induction fun task kind member =>
        quiet task kind (List.mem_append_left _ member)
      rw [none] at fewer
      exact Finset.subset_empty.mp fewer

def standingTasks (handle : ServerHandle) : Finset TaskId :=
  tasksThat (fun routine => !Routine.isChild routine) handle.live

theorem Housed.standing {controls : Nat} (housed : Housed maxConnections controls handle) :
    (standingTasks handle).card ≤ maxConnections + controls := by
  have split : standingTasks handle ⊆
      tasksThat Routine.isConnection handle.live ∪ tasksThat Routine.isControl handle.live := by
    intro taskId member
    obtain ⟨task, found, is⟩ := mem_tasksThat.mp member
    rw [Finset.mem_union, mem_tasksThat, mem_tasksThat]
    cases routine : task.routine with
    | connection stream => exact .inl ⟨task, found, by rw [routine]; rfl⟩
    | acceptLoop => exact .inr ⟨task, found, by rw [routine]; rfl⟩
    | closeWatcher => exact .inr ⟨task, found, by rw [routine]; rfl⟩
    | routeObserver => exact .inr ⟨task, found, by rw [routine]; rfl⟩
    | _ => rw [routine] at is; cases is
  calc (standingTasks handle).card
      ≤ (tasksThat Routine.isConnection handle.live ∪
          tasksThat Routine.isControl handle.live).card := Finset.card_le_card split
    _ ≤ (tasksThat Routine.isConnection handle.live).card +
          (tasksThat Routine.isControl handle.live).card := Finset.card_union_le _ _
    _ ≤ maxConnections + (Finset.range controls).card :=
        Nat.add_le_add housed.bounded (Finset.card_le_card housed.control)
    _ = maxConnections + controls := by rw [Finset.card_range]

theorem standing_all (childless : tasksThat Routine.isChild handle.live = ∅) :
    handle.live.entries.length ≤ (standingTasks handle).card := by
  have inside : handle.live.keys.toFinset ⊆ standingTasks handle := by
    intro taskId member
    obtain ⟨task, found⟩ := Option.isSome_iff_exists.mp
      (AList.lookup_isSome.mpr (AList.mem_keys.mpr (List.mem_toFinset.mp member)))
    refine mem_tasksThat.mpr ⟨task, found, ?_⟩
    cases child : Routine.isChild task.routine with
    | false => rfl
    | true =>
        have spawned : taskId ∈ tasksThat Routine.isChild handle.live :=
          mem_tasksThat.mpr ⟨task, found, child⟩
        rw [childless] at spawned
        exact absurd spawned (Finset.notMem_empty taskId)
  calc handle.live.entries.length
      = handle.live.keys.length := (List.length_map _).symm
    _ = handle.live.keys.toFinset.card := (List.toFinset_card_of_nodup handle.live.keys_nodup).symm
    _ ≤ (standingTasks handle).card := Finset.card_le_card inside

end Reachable

section Filling

/-- The accept loop runs, and has accepted so many connections. -/
structure Filling (controls accepted : Nat) (handle : ServerHandle) : Prop where
  unrequested : handle.closeRequested = false
  running : handle.listenerPhase = .atHead
  listener : ∃ taskId task, handle.listenerTask = some taskId ∧
    handle.live.lookup taskId = some task
  owned : handle.ownedConnectionCount = accepted
  tasks : handle.live.entries.length = controls + accepted

variable {controls accepted : Nat}

theorem runListener_accepts (answers : Nat → Bool) (listener : TaskId)
    (running : handle.listenerPhase = .atHead) (unrequested : handle.closeRequested = false)
    (room : handle.ownedConnectionCount < handle.maxConnections) :
    runListener answers listener (.stream none .forked) handle = registered handle := by
  have unclosing : ¬handle.closeRequested = true := Bool.eq_false_iff.mp unrequested
  unfold runListener
  rw [running]
  dsimp only
  rw [if_neg unclosing, if_neg (Nat.not_le_of_lt room)]
  unfold acceptTurn admitStream
  dsimp only
  rw [if_neg unclosing]
  rfl

theorem Filling.starts (filling : Filling controls accepted handle) {listener : TaskId}
    {task : Task} (is : handle.listenerTask = some listener)
    (found : handle.live.lookup listener = some task) :
    Filling controls accepted { handle with
      live := handle.live.set listener { task with started := true }
      cursor := some listener } where
  unrequested := filling.unrequested
  running := filling.running
  listener := ⟨listener, _, is, OrderedDict.lookup_set _ _ _⟩
  owned := filling.owned
  tasks := by
    have marked := OrderedDict.length_set handle.live listener { task with started := true }
    rw [if_pos (OrderedDict.mem_of_lookup found), filling.tasks] at marked
    change (handle.live.set listener { task with started := true }).entries.length = _
    omega

theorem Filling.registered (filling : Filling controls accepted handle) (sound : Sound handle) :
    Filling controls (accepted + 1) (registered handle) where
  unrequested := filling.unrequested
  running := filling.running
  listener := by
    obtain ⟨listener, task, is, found⟩ := filling.listener
    refine ⟨listener, task, is, (OrderedDict.lookup_set_ne _ _ ?_).trans found⟩
    exact Nat.ne_of_lt (sound.roster.known listener (OrderedDict.mem_of_lookup found))
  owned := by
    have entered := OrderedDict.length_set handle.connections handle.acceptedStreams
      handle.nextTask
    have counted : handle.connections.entries.length +
      handle.closingConnections.entries.length = accepted := filling.owned
    rw [if_neg (unregistered sound).2.1] at entered
    change (handle.connections.set handle.acceptedStreams handle.nextTask).entries.length +
      handle.closingConnections.entries.length = accepted + 1
    omega
  tasks := by
    have added := OrderedDict.length_set handle.live handle.nextTask
      { routine := .connection handle.acceptedStreams }
    have fresh : handle.nextTask ∉ handle.live := fun member =>
      Nat.lt_irrefl _ (sound.roster.known _ member)
    rw [if_neg fresh, filling.tasks] at added
    change (handle.live.set handle.nextTask
      { routine := .connection handle.acceptedStreams }).entries.length = controls + (accepted + 1)
    omega

theorem Filling.accepts (filling : Filling controls accepted handle) (sound : Sound handle)
    (room : accepted < handle.maxConnections) :
    ∃ after, next answers handle (.runsListener (.stream none .forked)) = some after ∧
      Filling controls (accepted + 1) after := by
  obtain ⟨listener, task, is, found⟩ := filling.listener
  have started := filling.starts is found
  have marks := Marks.keeps { task with started := true } found rfl (fun _ => id) (some listener)
  refine ⟨_, ?_, started.registered (marks.follows sound).1⟩
  simp only [next, is, found, Option.map_some]
  exact congrArg some (runListener_accepts answers listener started.running started.unrequested
    (started.owned ▸ room))

theorem scheduled_filling (maxConnections : Nat) (hasWakeup hasObserver : Bool) :
    Filling (controlTasks hasWakeup hasObserver) 0
      (scheduled maxConnections hasWakeup hasObserver) where
  unrequested := rfl
  running := rfl
  listener := ⟨0, { routine := .acceptLoop }, rfl, by
    cases hasWakeup <;> cases hasObserver <;> rfl⟩
  owned := rfl
  tasks := by cases hasWakeup <;> cases hasObserver <;> rfl

theorem filled (answers : Nat → Bool) (maxConnections : Nat) (hasWakeup hasObserver : Bool)
    (accepted : Nat) (room : accepted ≤ maxConnections) :
    ∃ handle, Runs.Run (Steps answers) (scheduled maxConnections hasWakeup hasObserver)
        (List.replicate accepted (.runsListener (.stream none .forked))) handle ∧
      Filling (controlTasks hasWakeup hasObserver) accepted handle := by
  induction accepted with
  | zero => exact ⟨_, .nil, scheduled_filling maxConnections hasWakeup hasObserver⟩
  | succ accepted induction =>
      obtain ⟨handle, run, filling⟩ := induction (Nat.le_of_succ_le room)
      obtain ⟨sound, capacity, -, -⟩ := reachable_sound run
      obtain ⟨after, taken, filled⟩ := filling.accepts sound (capacity ▸ room)
      rw [List.replicate_succ']
      exact ⟨after, .snoc _ run taken, filled⟩

end Filling

section Configuration

structure ManagedRuntimeConfig where
  taskCapacity : Nat := 2 ^ 10
  priorityLevels : Nat := 10
  accepted : 0 < taskCapacity ∧ 2 ≤ priorityLevels := by decide
deriving DecidableEq

structure ServerConfig where
  maxConnections : Nat := 100
  listenerPriority : Nat := 1
  connectionPriority : Nat := 2
  managedRuntime : Option ManagedRuntimeConfig := none
  accepted : 0 < maxConnections ∧ 0 < listenerPriority ∧ 0 < connectionPriority := by decide
deriving DecidableEq

/-- `config.managed_runtime or ManagedRuntimeConfig()`. -/
def ServerConfig.runtimeConfig (config : ServerConfig) : ManagedRuntimeConfig :=
  config.managedRuntime.getD {}

inductive ConfigArgument where
  | absent
  | config (config : ServerConfig)
  | other
deriving DecidableEq

variable {Exc : Type}

/-- `control_tasks`. -/
def reservedTasks (hasObserver : Bool) : Nat := if hasObserver then 3 else 2

/-- The tests of `_resolve_server_config` on a runtime that the server creates. -/
def managedError (hasObserver : Bool) (config : ServerConfig) : Option (Raised Exc) :=
  if config.runtimeConfig.priorityLevels ≤
      max config.listenerPriority config.connectionPriority then
    some (.valueError
      "server task priorities must be lower than managed runtime priority_levels")
  else if config.runtimeConfig.taskCapacity <
      config.maxConnections + reservedTasks hasObserver then
    some (.valueError ("managed runtime task_capacity must be at least max_connections + " ++
      toString (reservedTasks hasObserver) ++ " for server control tasks"))
  else none

def configError (hasObserver managed : Bool) (config : ServerConfig) : Option (Raised Exc) :=
  if !managed && config.managedRuntime.isSome then
    some (.valueError ("managed_runtime config applies only when SmallServer creates " ++
      "the runtime; configure a caller-supplied SmallOS directly"))
  else if managed then managedError hasObserver config
  else none

def resolveServerConfig (hasObserver : Bool) (argument : ConfigArgument) (managed : Bool) :
    Except (Raised Exc) ServerConfig :=
  let resolved (config : ServerConfig) :=
    match configError hasObserver managed config with
    | some error => .error error
    | none => .ok config
  match argument with
  | .other => .error (.typeError "config must be a ServerConfig or None")
  | .absent => resolved {}
  | .config config => resolved config

/-- The defaults suit a managed runtime, with an observer or without one. -/
example : (resolveServerConfig true .absent true : Except (Raised Unit) ServerConfig) = .ok {} :=
  rfl

theorem configError_of_resolved {hasObserver managed : Bool} {argument : ConfigArgument}
    {config : ServerConfig}
    (resolved : (resolveServerConfig hasObserver argument managed :
      Except (Raised Exc) ServerConfig) = .ok config) :
    (configError hasObserver managed config : Option (Raised Exc)) = none := by
  have passed : ∀ given : ServerConfig,
      (match configError hasObserver managed given with
        | some error => .error error
        | none => .ok given : Except (Raised Exc) ServerConfig) = .ok config →
      (configError hasObserver managed config : Option (Raised Exc)) = none := by
    intro given same
    split at same
    · cases same
    · rename_i none
      cases same
      exact none
  cases argument with
  | absent => exact passed {} resolved
  | config given => exact passed given resolved
  | other => cases resolved

theorem managed_bounds {hasObserver : Bool} {argument : ConfigArgument} {config : ServerConfig}
    (resolved : (resolveServerConfig hasObserver argument true :
      Except (Raised Exc) ServerConfig) = .ok config) :
    config.maxConnections + reservedTasks hasObserver ≤ config.runtimeConfig.taskCapacity := by
  have passed := configError_of_resolved resolved
  unfold configError managedError at passed
  simp only [Bool.not_true, Bool.false_and, Bool.false_eq_true, if_false, if_true] at passed
  split at passed
  · cases passed
  · split at passed
    · cases passed
    · rename_i enough
      exact Nat.le_of_not_lt enough

theorem controlTasks_le (hasWakeup hasObserver : Bool) :
    controlTasks hasWakeup hasObserver ≤ reservedTasks hasObserver := by
  cases hasWakeup <;> cases hasObserver <;> decide

end Configuration

/-- What `_resolve_server_config` asks of a managed runtime is enough, and no more than it takes:
in every state a server reaches there are at most `max_connections` connection tasks, the tasks
that no connection spawned fit into `task_capacity`, as all do while no connection spawns any;
and where there is a wakeup channel some run needs every slot that is asked for. -/
theorem task_capacity_suffices {Exc : Type} {hasObserver : Bool} {argument : ConfigArgument}
    {config : ServerConfig}
    (resolved : (resolveServerConfig hasObserver argument true :
      Except (Raised Exc) ServerConfig) = .ok config) :
    (∀ (answers : Nat → Bool) (hasWakeup : Bool) (steps : List Step) (handle : ServerHandle),
      Runs.Run (Steps answers) (scheduled config.maxConnections hasWakeup hasObserver) steps
        handle →
      (tasksThat Routine.isConnection handle.live).card ≤ config.maxConnections ∧
        (standingTasks handle).card ≤ config.runtimeConfig.taskCapacity ∧
          ((∀ task kind, Step.spawns task kind ∉ steps) →
            handle.live.entries.length ≤ config.runtimeConfig.taskCapacity)) ∧
      ∀ answers, ∃ steps handle,
        Runs.Run (Steps answers) (scheduled config.maxConnections true hasObserver) steps handle ∧
          handle.live.entries.length = config.maxConnections + reservedTasks hasObserver := by
  have asked := managed_bounds resolved
  refine ⟨fun answers hasWakeup steps handle run => ?_, fun answers => ?_⟩
  · have housed := reachable_housed run
    have controls := controlTasks_le hasWakeup hasObserver
    have standing : (standingTasks handle).card ≤ config.runtimeConfig.taskCapacity :=
      housed.standing.trans ((Nat.add_le_add_left controls _).trans asked)
    exact ⟨housed.bounded, standing, fun quiet =>
      (standing_all (reachable_childless run quiet)).trans standing⟩
  · obtain ⟨handle, run, filling⟩ :=
      filled answers config.maxConnections true hasObserver config.maxConnections (Nat.le_refl _)
    refine ⟨_, handle, run, filling.tasks.trans ?_⟩
    cases hasObserver <;> exact Nat.add_comm _ _

section Samples

def tightConfig : ServerConfig where
  maxConnections := 1
  managedRuntime := some { taskCapacity := 3 }

def acceptedOne : ServerHandle :=
  Runs.endOf (next fun _ => true) (scheduled 1 true false) [.runsListener (.stream none .forked)]

theorem task_capacity_suffices_sample :
    (tasksThat Routine.isConnection acceptedOne.live).card ≤ 1 ∧
      acceptedOne.live.entries.length ≤ 3 := by
  have resolved : (resolveServerConfig false (.config tightConfig) true :
      Except (Raised Unit) ServerConfig) = .ok tightConfig := rfl
  obtain ⟨bounded, -, all⟩ := (task_capacity_suffices resolved).1 (fun _ => true) true
    [.runsListener (.stream none .forked)] acceptedOne
    (Runs.run_endOf (fun _ _ _ => id) (by decide +kernel))
  exact ⟨bounded, all (by simp)⟩

end Samples

end SmallServer.ServerCapacity
