import SmallServer.OrderedDict
import Mathlib.Data.Finset.Card

/-!
# The server handle

`ServerHandle` and the tasks it owns. The calls that leave the server (closes, `notify`,
`cancel_task`, signals) are answered by a sequence fixed in advance and kept in a log, so
that every pattern of failures is some sequence. Cancelling a task that is suspended runs
its `finally` block before `cancel_task` returns, and that block may call the handle again;
the calls of a handle therefore take `cancel` as a parameter, and `cancelAt` closes the
recursion by the number of tasks that are still to be ended.

What touches nothing of the handle is left out: `resume_task`, `RouteObserverChannel.stop`
and a WebSocket's `request_shutdown`.
-/

namespace SmallServer.Server

open SmallServer

set_option autoImplicit false

/-- The identity of a `TransportHandle`: the number of its accept. -/
abbrev StreamId := Nat

abbrev TaskId := Nat

inductive Resource where
  | wakeup
  | listener
  | connection (stream : StreamId)
deriving DecidableEq

/-- The calls that may fail. A task is cancelled with a note of whether it had ended. -/
inductive Call where
  | close (resource : Resource)
  | notify
  | cancelTask (task : TaskId) (ended : Bool)
  | capacitySignal
  | gracefulClose (stream : StreamId)
deriving DecidableEq

/-- An exception: raised by the call of this number, or come from elsewhere. -/
inductive Fault where
  | raised (call : Nat)
  | given (number : Nat)
  | closeFailed
  | generatorExit
deriving DecidableEq

inductive CleanupKey where
  | wakeup
  | listener
  | connection (stream : StreamId)
  | task (task : TaskId)
deriving DecidableEq

/-- The coroutines whose ends concern the handle. -/
inductive Routine where
  | acceptLoop
  | closeWatcher
  | routeObserver
  | connection (stream : StreamId)
  | handler (connection : TaskId)
  | helper (stream : StreamId)
  | websocketChild
deriving DecidableEq

/-- A task the runtime has not ended. A connection task knows its children: the handlers and
the writer, enforcer and watchdog of HTTP/2, and the tasks of a WebSocket. -/
structure Task where
  routine : Routine
  started : Bool := false
  handlers : List TaskId := []
  helpers : List TaskId := []
  websocketChildren : List TaskId := []
deriving DecidableEq

def Task.children (task : Task) : List TaskId :=
  task.handlers ++ task.helpers ++ task.websocketChildren

/-- Where `_accept_loop` is suspended; `atHead` also while it runs. -/
inductive ListenerPhase where
  | atHead
  | waitsCapacity
  | waitsAccept
deriving DecidableEq

/-- What `_listener_failed`, `_connection_close_failed` and `_accepted_setup_failed` are told. -/
structure FatalError where
  primary : Option Fault
  cleanup : Option Fault
deriving DecidableEq

/-- The primary error, or the cleanup failure where there is none. -/
def FatalError.identified (fatal : FatalError) : Option Fault := fatal.primary <|> fatal.cleanup

/-- `ServerHandle`, with the state of the `TransportHandle`s it knows and of the runtime's
tasks. The last fields are history. -/
structure ServerHandle where
  maxConnections : Nat
  hasWakeup : Bool
  wakeupClosed : Bool := false
  listenerClosed : Bool := false
  onFinalized : Bool := true
  closeRequested : Bool := false
  notificationSent : Bool := false
  finalizationAttempted : Bool := false
  finished : Bool := false
  failure : Option Fault := none
  cleanupErrors : OrderedDict CleanupKey Fault := ∅
  listenerTask : Option TaskId := none
  ownedTasks : List TaskId := []
  cancelledTaskIds : Finset TaskId := ∅
  connections : OrderedDict StreamId TaskId := ∅
  closingConnections : OrderedDict StreamId Unit := ∅
  pendingTaskCancellations : OrderedDict TaskId Unit := ∅
  websocketStates : Finset StreamId := ∅
  capacityWaiting : Bool := false
  gracefulClosers : Finset StreamId := ∅
  acceptedStreams : Nat := 0
  closedStreams : Finset StreamId := ∅
  closeErrors : OrderedDict StreamId Fault := ∅
  live : OrderedDict TaskId Task := ∅
  cursor : Option TaskId := none
  listenerPhase : ListenerPhase := .atHead
  nextTask : TaskId := 0
  log : List (Call × Bool) := []
  fatalErrors : List FatalError := []
  finalizedCalls : Nat := 0
  signalled : Bool := false
  signalFailed : Bool := false
  starved : Bool := false

namespace ServerHandle

variable (handle : ServerHandle)

def ownedConnectionCount : Nat :=
  handle.connections.entries.length + handle.closingConnections.entries.length

def nextFault : Fault := .raised handle.log.length

/-- `_failure` is kept once it is set. -/
def fail (fatal : FatalError) : ServerHandle :=
  { handle with
    failure := handle.failure <|> fatal.identified
    fatalErrors := handle.fatalErrors ++ [fatal] }

/-- `stream.close_error or RuntimeError(...)`. -/
def closeError (stream : StreamId) : Fault := (handle.closeErrors.lookup stream).getD .closeFailed

/-- The condition of `_update_finished`. -/
def complete : Bool :=
  handle.closeRequested && (!handle.hasWakeup || handle.wakeupClosed) && handle.listenerClosed &&
    handle.connections.entries.isEmpty && handle.closingConnections.entries.isEmpty &&
      handle.pendingTaskCancellations.entries.isEmpty && decide (handle.websocketStates = ∅)

def updateFinished : ServerHandle :=
  if handle.complete then
    { handle with
      finished := true
      cleanupErrors := ∅
      onFinalized := handle.onFinalized && handle.finished
      finalizedCalls :=
        if !handle.finished && handle.onFinalized then handle.finalizedCalls + 1
        else handle.finalizedCalls }
  else { handle with finished := false }

end ServerHandle

section Calls

variable (answers : Nat → Bool)

def attempt (call : Call) (handle : ServerHandle) : Bool × ServerHandle :=
  (answers handle.log.length,
    { handle with log := handle.log ++ [(call, answers handle.log.length)] })

/-- `KernelTransport.close_safely` on a connection. -/
def closeSafely (stream : StreamId) (handle : ServerHandle) : Bool × ServerHandle :=
  if stream ∈ handle.closedStreams then (true, handle)
  else
    match attempt answers (.close (.connection stream)) handle with
    | (true, next) =>
        (true, { next with
          closedStreams := insert stream next.closedStreams
          closeErrors := next.closeErrors.erase stream })
    | (false, next) =>
        (false, { next with closeErrors := next.closeErrors.set stream handle.nextFault })

section Failures

variable (finish : Option TaskId → ServerHandle → ServerHandle)

def listenerFailed (error : Fault) (task : Option TaskId) (handle : ServerHandle) :
    ServerHandle :=
  let noted := { handle.fail ⟨some error, none⟩ with closeRequested := true }
  if noted.hasWakeup && !noted.notificationSent then
    match attempt answers .notify noted with
    | (true, next) => { next with notificationSent := true }
    | (false, next) => finish task next
  else if noted.notificationSent then noted
  else finish task noted

def connectionCloseFailed (error : Fault) (task : Option TaskId) (primary : Option Fault)
    (handle : ServerHandle) : ServerHandle :=
  let noted := { handle.fail ⟨primary, some error⟩ with closeRequested := true }
  if noted.finalizationAttempted then noted
  else if noted.hasWakeup && !noted.notificationSent then
    match attempt answers .notify noted with
    | (true, next) => { next with notificationSent := true }
    | (false, next) => finish task next
  else if !noted.hasWakeup then finish task noted
  else noted

def closeOrRetain (stream : StreamId) (task : Option TaskId) (primary : Option Fault)
    (handle : ServerHandle) : Bool × ServerHandle :=
  match closeSafely answers stream handle with
  | (true, next) =>
      (true, { next with
        closingConnections := next.closingConnections.erase stream
        cleanupErrors := next.cleanupErrors.erase (.connection stream) })
  | (false, next) =>
      let error := next.closeError stream
      let retained := { next with
        closingConnections :=
          if stream ∈ next.connections then next.closingConnections
          else next.closingConnections.set stream ()
        cleanupErrors := next.cleanupErrors.set (.connection stream) error }
      (false, connectionCloseFailed answers finish error task primary retained)

def forceConnectionClose (stream : StreamId) (task : Option TaskId) (primary : Option Fault)
    (handle : ServerHandle) : Bool × ServerHandle :=
  closeOrRetain answers finish stream task primary
    { handle with gracefulClosers := handle.gracefulClosers.erase stream }

def acceptedSetupFailed (primary : Fault) (stream : StreamId) (task : Option TaskId)
    (handle : ServerHandle) : ServerHandle :=
  let error := handle.closeError stream
  let retained := { handle with
    closingConnections := handle.closingConnections.set stream ()
    cleanupErrors := handle.cleanupErrors.set (.connection stream) error
    failure := handle.failure <|> some primary }
  connectionCloseFailed answers finish error task (some primary) retained

def notifyCapacityReleased (previous : Nat) (handle : ServerHandle) : ServerHandle :=
  if !handle.capacityWaiting || decide (previous < handle.maxConnections) ||
      decide (handle.maxConnections ≤ handle.ownedConnectionCount) ||
        handle.listenerTask.isNone then handle
  else
    match attempt answers .capacitySignal handle with
    | (true, next) => { next with signalled := true }
    | (false, next) =>
        listenerFailed answers finish handle.nextFault handle.cursor
          { next with signalFailed := true }

def connectionFinished (task : TaskId) (stream : StreamId) (primary : Option Fault)
    (handle : ServerHandle) : ServerHandle :=
  let ownedTask := (handle.connections.lookup stream).getD task
  let left := { handle with
    connections := handle.connections.erase stream
    gracefulClosers := handle.gracefulClosers.erase stream
    ownedTasks := handle.ownedTasks.erase ownedTask }
  let settled := (closeOrRetain answers finish stream (some task) primary left).2
  (notifyCapacityReleased answers finish handle.ownedConnectionCount settled).updateFinished

end Failures

section Finalization

variable (cancel : TaskId → ServerHandle → Bool × ServerHandle)

def cancelOrRetainTask (task : TaskId) (handle : ServerHandle) : Bool × ServerHandle :=
  match cancel task handle with
  | (true, next) =>
      (true, { next with
        pendingTaskCancellations := next.pendingTaskCancellations.erase task
        cleanupErrors := next.cleanupErrors.erase (.task task) })
  | (false, next) =>
      (false, { next with
        pendingTaskCancellations := next.pendingTaskCancellations.set task ()
        cleanupErrors := next.cleanupErrors.set (.task task) handle.nextFault })

/-- `_cancel_or_retain_task`, noting a success in `_cancelled_task_ids`. -/
def cancelAndNote (task : TaskId) (handle : ServerHandle) : ServerHandle :=
  match cancelOrRetainTask cancel task handle with
  | (true, next) => { next with cancelledTaskIds := insert task next.cancelledTaskIds }
  | (false, next) => next

/-- `_finish_close` on the wakeup channel. -/
def closeWakeup (handle : ServerHandle) : ServerHandle :=
  if handle.hasWakeup && !handle.wakeupClosed then
    match attempt answers (.close .wakeup) handle with
    | (true, next) =>
        { next with wakeupClosed := true, cleanupErrors := next.cleanupErrors.erase .wakeup }
    | (false, next) =>
        { next with cleanupErrors := next.cleanupErrors.set .wakeup handle.nextFault }
  else handle

/-- `_finish_close` on a stream whose close failed before. -/
def retryConnection (handle : ServerHandle) (stream : StreamId) : ServerHandle :=
  match closeSafely answers stream handle with
  | (true, next) =>
      { next with
        closingConnections := next.closingConnections.erase stream
        cleanupErrors := next.cleanupErrors.erase (.connection stream) }
  | (false, next) =>
      { next with
        cleanupErrors := next.cleanupErrors.set (.connection stream) (next.closeError stream) }

/-- `attempted_task_ids` beside the handle, within one finalization. -/
abbrev Attempted := List TaskId × ServerHandle

/-- `_finish_close` on the task of a connection, on the owner thread. -/
def cancelOnce (current : Option TaskId) (state : Attempted) (task : TaskId) : Attempted :=
  if decide (current = some task) || decide (task ∈ state.2.cancelledTaskIds) ||
      state.1.contains task then state
  else (task :: state.1, cancelAndNote cancel task state.2)

/-- Whether a connection answers for its own close, elsewhere than on the owner thread. -/
def requestGracefulClose (current : Option TaskId) (stream : StreamId) (task : TaskId)
    (handle : ServerHandle) : Bool × ServerHandle :=
  if current = some task then (false, handle)
  else
    let websocketOwned := decide (stream ∈ handle.websocketStates)
    if stream ∈ handle.gracefulClosers then
      match attempt answers (.gracefulClose stream) handle with
      | (requested, next) => (requested || websocketOwned, next)
    else (websocketOwned, handle)

/-- `_finish_close` on a connection that leaves `_connections`. Finalization has been
attempted by now, so that a failing close asks for no other one. -/
def releaseConnection (current : Option TaskId) (stream : StreamId) (handle : ServerHandle) :
    ServerHandle :=
  (closeOrRetain answers (fun _ next => next) stream current none
    { handle with connections := handle.connections.erase stream }).2

def finishConnection (current : Option TaskId) (ownerThread : Bool) (state : Attempted)
    (entry : Sigma fun _ : StreamId => TaskId) : Attempted :=
  if ownerThread then
    let stopped := cancelOnce cancel current state entry.2
    if current = some entry.2 then stopped
    else (stopped.1, releaseConnection answers current entry.1 stopped.2)
  else
    let asked := requestGracefulClose answers current entry.1 entry.2 state.2
    if current = some entry.2 ∨ asked.1 = true then (state.1, asked.2)
    else (state.1, releaseConnection answers current entry.1 asked.2)

def closeListener (handle : ServerHandle) : ServerHandle :=
  if !handle.listenerClosed then
    match attempt answers (.close .listener) handle with
    | (true, next) =>
        { next with
          listenerClosed := true
          cleanupErrors := next.cleanupErrors.erase .listener }
    | (false, next) =>
        { next with cleanupErrors := next.cleanupErrors.set .listener handle.nextFault }
  else handle

/-- The flags `_finish_close` sets first. -/
def begun (handle : ServerHandle) : ServerHandle :=
  { handle with closeRequested := true, finalizationAttempted := true }

def finishClose (ownerThread : Bool) (current : Option TaskId) (handle : ServerHandle) :
    ServerHandle :=
  if handle.finished then handle
  else
    let opened := closeWakeup answers (begun handle)
    let retried := opened.closingConnections.keys.foldl (retryConnection answers) opened
    let pending := retried.pendingTaskCancellations.keys
    let cancelled := pending.foldl (fun next task => cancelAndNote cancel task next) retried
    let released := cancelled.connections.entries.foldl
      (finishConnection answers cancel current ownerThread) (pending, cancelled)
    let stopped :=
      if ownerThread then
        released.2.ownedTasks.foldl (cancelOnce cancel current) released
      else released
    (closeListener answers stopped.2).updateFinished

end Finalization

section Cancellation

variable (inner : TaskId → ServerHandle → Bool × ServerHandle)

def finishing (current : Option TaskId) (handle : ServerHandle) : ServerHandle :=
  finishClose answers inner false current handle

/-- The `finally` blocks of a connection: HTTP/2 cancels the handlers and the helpers, a
WebSocket its tasks. -/
def tearDownConnection (task : Task) (handle : ServerHandle) : ServerHandle :=
  let handlers := task.handlers.foldl
    (fun next child => (cancelOrRetainTask inner child next).2) handle
  let helpers := task.helpers.foldl
    (fun next child =>
      let cancelled := (cancelOrRetainTask inner child next).2
      { cancelled with ownedTasks := cancelled.ownedTasks.erase child }) handlers
  task.websocketChildren.foldl
    (fun next child =>
      match cancelOrRetainTask inner child next with
      | (true, cancelled) => { cancelled with ownedTasks := cancelled.ownedTasks.erase child }
      | (false, cancelled) => cancelled) helpers

def endConnection (taskId : TaskId) (task : Task) (stream : StreamId) (primary : Option Fault)
    (handle : ServerHandle) : ServerHandle :=
  let torn := tearDownConnection inner task handle
  connectionFinished answers (finishing answers inner) taskId stream primary
    { torn with websocketStates := torn.websocketStates.erase stream }

def dropHandler (connection handler : TaskId) (live : OrderedDict TaskId Task) :
    OrderedDict TaskId Task :=
  match live.lookup connection with
  | none => live
  | some task => live.set connection { task with handlers := task.handlers.erase handler }

/-- What a task that was started does when it is closed where it waits. -/
def finallyBlock (taskId : TaskId) (task : Task) (handle : ServerHandle) : ServerHandle :=
  match task.routine with
  | .acceptLoop =>
      match handle.listenerPhase with
      | .atHead => handle
      | .waitsCapacity => { handle with capacityWaiting := false }
      | .waitsAccept =>
          if handle.closeRequested then handle
          else
            listenerFailed answers (finishing answers inner) .generatorExit (some taskId) handle
  | .closeWatcher => finishing answers inner (some taskId) handle
  | .routeObserver => handle
  | .connection stream =>
      endConnection answers inner taskId task stream (some .generatorExit) handle
  | .handler connection =>
      { handle with
        ownedTasks := handle.ownedTasks.erase taskId
        live := dropHandler connection taskId handle.live }
  | .helper _ => { handle with ownedTasks := handle.ownedTasks.erase taskId }
  | .websocketChild => handle

/-- `cancel_task`. It has nothing to do on a task that is not live any more. -/
def cancelStep (taskId : TaskId) (handle : ServerHandle) : Bool × ServerHandle :=
  match attempt answers (.cancelTask taskId (decide (taskId ∉ handle.live))) handle with
  | (false, next) => (false, next)
  | (true, next) =>
      match next.live.lookup taskId with
      | none => (true, next)
      | some task =>
          let stopped := { next with live := next.live.erase taskId }
          if task.started then (true, finallyBlock answers inner taskId task stopped)
          else (true, stopped)

end Cancellation

/-- `cancel_task` within a call that is itself inside the `finally` blocks of other tasks.
Each of these has ended a live task; a bound on their number bounds the nesting. -/
def cancelAt : Nat → TaskId → ServerHandle → Bool × ServerHandle
  | 0 => cancelStep answers fun task next =>
      (true, { next with live := next.live.erase task, starved := true })
  | bound + 1 => cancelStep answers (cancelAt bound)

/-- `cancel_task` with the bound that the live tasks give. A step can add one task. -/
def cancel (handle : ServerHandle) : TaskId → ServerHandle → Bool × ServerHandle :=
  cancelAt answers (handle.live.entries.length + 1)

/-- `close`, as far as it leaves a trace; where it raises it has done nothing more. -/
def close (handle : ServerHandle) : ServerHandle :=
  if handle.finished || !handle.hasWakeup then handle
  else
    let requested := { handle with closeRequested := true }
    if requested.notificationSent then requested
    else
      match attempt answers .notify requested with
      | (true, next) => { next with notificationSent := true }
      | (false, next) => next

def finalize (handle : ServerHandle) : ServerHandle :=
  finishClose answers (cancel answers handle) true none { handle with cursor := none }

def closeFromTask (task : TaskId) (handle : ServerHandle) : ServerHandle :=
  if handle.finished then handle
  else
    finishClose answers (cancel answers handle) false (some task)
      { handle with closeRequested := true, finalizationAttempted := true, cursor := some task }

section Listener

variable (listener : TaskId)

def finishingFrom (handle : ServerHandle) : Option TaskId → ServerHandle → ServerHandle :=
  finishing answers (cancel answers handle)

/-- An exception leaves `_accept_loop`. -/
def listenerEnds (handle : ServerHandle) : ServerHandle :=
  { handle with live := handle.live.erase listener }

/-- `except BaseException` around `accept`. -/
def acceptRaised (error : Fault) (handle : ServerHandle) : ServerHandle :=
  if handle.closeRequested then listenerEnds listener handle
  else
    listenerFailed answers (finishingFrom answers handle) error (some listener)
      (listenerEnds listener handle)

/-- How the registration of a connection goes. `built` is whether there is a task. -/
inductive Registration where
  | forked
  | failed (error : Fault) (built : Bool)
deriving DecidableEq

/-- What `KernelTransport.accept` makes of the kernel's next answer. -/
inductive AcceptOutcome where
  | wouldBlock
  | raised (error : Fault)
  | stream (setup : Option Fault) (registration : Registration)
deriving DecidableEq

def register (stream : StreamId) (handle : ServerHandle) : ServerHandle :=
  { handle with
    connections := handle.connections.set stream handle.nextTask
    ownedTasks := handle.ownedTasks ++ [handle.nextTask]
    live := handle.live.set handle.nextTask { routine := .connection stream }
    nextTask := handle.nextTask + 1 }

/-- The end of `except BaseException as registration_error`. -/
def registrationFailed (error : Fault) (stream : StreamId) (handle : ServerHandle) :
    ServerHandle :=
  let popped := { handle with connections := handle.connections.erase stream }
  let released := (closeOrRetain answers (finishingFrom answers popped) stream (some listener)
    (some error) popped).2
  listenerFailed answers (finishingFrom answers released) error (some listener)
    (listenerEnds listener released)

def admitStream (stream : StreamId) (registration : Registration) (handle : ServerHandle) :
    ServerHandle :=
  if handle.closeRequested then
    match closeOrRetain answers (finishingFrom answers handle) stream (some listener) none
      handle with
    | (true, next) => next
    | (false, next) => listenerEnds listener next
  else
    match registration with
    | .forked => register stream handle
    | .failed error false => registrationFailed answers listener error stream handle
    | .failed error true =>
        let registered := register stream handle
        match cancelOrRetainTask (cancel answers registered) handle.nextTask registered with
        | (true, next) =>
            registrationFailed answers listener error stream
              { next with ownedTasks := next.ownedTasks.erase handle.nextTask }
        | (false, next) => registrationFailed answers listener error stream next

/-- `_accept_loop` from `socket_accept` to its next suspension or turn. -/
def acceptTurn (outcome : AcceptOutcome) (handle : ServerHandle) : ServerHandle :=
  match outcome with
  | .wouldBlock => { handle with listenerPhase := .waitsAccept }
  | .raised error => acceptRaised answers listener error handle
  | .stream setup registration =>
      let stream := handle.acceptedStreams
      let accepted := { handle with acceptedStreams := stream + 1 }
      match setup with
      | none => admitStream answers listener stream registration accepted
      | some error =>
          match closeSafely answers stream accepted with
          | (true, next) => acceptRaised answers listener error next
          | (false, next) =>
              acceptedSetupFailed answers (finishingFrom answers next) error stream
                (some listener) (listenerEnds listener next)

def runListener (outcome : AcceptOutcome) (handle : ServerHandle) : ServerHandle :=
  match handle.listenerPhase with
  | .atHead =>
      if handle.closeRequested then listenerEnds listener handle
      else if handle.maxConnections ≤ handle.ownedConnectionCount then
        { handle with
          capacityWaiting := true
          listenerPhase := .waitsCapacity
          signalled := false }
      else acceptTurn answers listener outcome handle
  | .waitsCapacity => { handle with capacityWaiting := false, listenerPhase := .atHead }
  | .waitsAccept => acceptTurn answers listener outcome { handle with listenerPhase := .atHead }

end Listener

inductive ChildKind where
  | handler
  | helper
  | websocketChild
deriving DecidableEq

def spawn (parent : TaskId) (task : Task) (stream : StreamId) (kind : ChildKind)
    (handle : ServerHandle) : ServerHandle :=
  let child := handle.nextTask
  let known := match kind with
    | .handler => { task with handlers := task.handlers ++ [child] }
    | .helper => { task with helpers := task.helpers ++ [child] }
    | .websocketChild => { task with websocketChildren := task.websocketChildren ++ [child] }
  let routine := match kind with
    | .handler => .handler parent
    | .helper => .helper stream
    | .websocketChild => .websocketChild
  { handle with
    ownedTasks := handle.ownedTasks ++ [child]
    live := (handle.live.set parent known).set child { routine }
    nextTask := child + 1 }

inductive Step where
  | runsListener (outcome : AcceptOutcome)
  /-- A task runs for the first time. -/
  | starts (task : TaskId)
  | spawns (task : TaskId) (kind : ChildKind)
  /-- A handler, helper, WebSocket task or observer ends by itself. -/
  | endsChild (task : TaskId)
  /-- HTTP/2: the peer reset the stream of a handler. -/
  | cancelsHandler (task handler : TaskId)
  | registersGraceful (task : TaskId)
  | registersWebsocket (task : TaskId)
  /-- The `finally` blocks of a connection before `_connection_finished`. -/
  | tearsDown (task : TaskId)
  | finishesConnection (task : TaskId) (primary : Option Fault)
  /-- A helper forces its connection closed and ends. -/
  | forcesClose (task : TaskId) (primary : Option Fault)
  | wakesWatcher (task : TaskId)
  | close
  | finalize
  | closesFromTask (task : TaskId)
deriving DecidableEq

def runningConnection (taskId : TaskId) (handle : ServerHandle) : Option (Task × StreamId) :=
  match handle.live.lookup taskId with
  | none => none
  | some task =>
      match task.routine with
      | .connection stream => if task.started then some (task, stream) else none
      | _ => none

def next (handle : ServerHandle) : Step → Option ServerHandle
  | .runsListener outcome =>
      match handle.listenerTask with
      | none => none
      | some listener =>
          (handle.live.lookup listener).map fun task =>
            runListener answers listener outcome
              { handle with
                live := handle.live.set listener { task with started := true }
                cursor := some listener }
  | .starts taskId =>
      (handle.live.lookup taskId).map fun task =>
        { handle with live := handle.live.set taskId { task with started := true } }
  | .spawns taskId kind =>
      (runningConnection taskId handle).map fun (task, stream) =>
        spawn taskId task stream kind handle
  | .endsChild taskId =>
      match handle.live.lookup taskId with
      | none => none
      | some task =>
          match task.routine with
          | .acceptLoop => none
          | .closeWatcher => none
          | .connection _ => none
          | _ =>
              some (finallyBlock answers (cancel answers handle) taskId task
                { handle with live := handle.live.erase taskId, cursor := some taskId })
  | .cancelsHandler taskId handler =>
      match runningConnection taskId handle with
      | none => none
      | some (task, _) =>
          if task.handlers.contains handler then
            some (cancelOrRetainTask (cancel answers handle) handler
              { handle with
                live := handle.live.set taskId
                  { task with handlers := task.handlers.erase handler }
                cursor := some taskId }).2
          else none
  | .registersGraceful taskId =>
      (runningConnection taskId handle).map fun (_, stream) =>
        { handle with gracefulClosers := insert stream handle.gracefulClosers }
  | .registersWebsocket taskId =>
      (runningConnection taskId handle).map fun (_, stream) =>
        { handle with websocketStates := insert stream handle.websocketStates }
  | .tearsDown taskId =>
      (runningConnection taskId handle).map fun (task, stream) =>
        let torn := tearDownConnection (cancel answers handle) task
          { handle with
            live := handle.live.set taskId { routine := .connection stream, started := true }
            cursor := some taskId }
        { torn with websocketStates := torn.websocketStates.erase stream }
  | .finishesConnection taskId primary =>
      (runningConnection taskId handle).map fun (task, stream) =>
        endConnection answers (cancel answers handle) taskId task stream primary
          { handle with live := handle.live.erase taskId, cursor := some taskId }
  | .forcesClose taskId primary =>
      match handle.live.lookup taskId with
      | none => none
      | some task =>
          match task.routine with
          | .helper stream =>
              let forced := (forceConnectionClose answers
                (finishing answers (cancel answers handle)) stream (some taskId) primary
                { handle with live := handle.live.erase taskId, cursor := some taskId }).2
              some { forced with ownedTasks := forced.ownedTasks.erase taskId }
          | _ => none
  | .wakesWatcher taskId =>
      match handle.live.lookup taskId with
      | none => none
      | some task =>
          if task.routine = .closeWatcher then
            some (finishing answers (cancel answers handle) (some taskId)
              { handle with live := handle.live.erase taskId, cursor := some taskId })
          else none
  | .close => some (close answers handle)
  | .finalize => some (finalize answers handle)
  | .closesFromTask task => some (closeFromTask answers task handle)

def Steps (handle : ServerHandle) (step : Step) (after : ServerHandle) : Prop :=
  next answers handle step = some after

end Calls

/-- A handle after `_bind_and_schedule`: the listener, the close watcher where there is a
wakeup channel, and the observer where there is one are scheduled. -/
def scheduled (maxConnections : Nat) (hasWakeup hasObserver : Bool) : ServerHandle :=
  let watchers := (if hasWakeup then [Routine.closeWatcher] else []) ++
    (if hasObserver then [Routine.routeObserver] else [])
  let tasks := (Routine.acceptLoop :: watchers).mapIdx fun taskId routine => (taskId, routine)
  { maxConnections
    hasWakeup
    listenerTask := some 0
    ownedTasks := tasks.map Prod.fst
    live := tasks.foldl (fun live entry => live.set entry.1 { routine := entry.2 }) ∅
    nextTask := tasks.length }

end SmallServer.Server
