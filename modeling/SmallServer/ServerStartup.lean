import SmallServer.CleanupTransaction
import SmallServer.Raising
import SmallServer.ServerFinalization

/-!
# Starting a server

`_bind_and_schedule` with the acquisitions of `KernelTransport` it calls, and what a
`ServerStartupError` does when its cleanup is retried. Every operation of the kernel and the
runtime happens at most once in a call, so that a `Kernel` is the answers to one call, or to
one retry. `KeyboardInterrupt` and `SystemExit` are the exceptions that `interrupts` tells.
-/

namespace SmallServer.ServerStartup

open SmallServer HttpValues CleanupTransaction Raising Server

set_option autoImplicit false

variable {Exc : Type}

section Exceptions

/-- The exceptions of a startup: those of the kernel and the runtime, those the code raises
itself, and those that a `ServerHandle` keeps of its cleanup. -/
inductive Raised (Exc : Type) where
  | external (error : Exc)
  | typeError (detail : String)
  | valueError (detail : String)
  | runtimeError (detail : String)
  | kept (fault : Fault)
deriving DecidableEq

inductive Operation where
  | checkArguments
  | requireHttp2
  | reserveInvocation
  | constructTransport
  | resolvePassiveAddress
  | socketOpen
  | setReuseAddress
  | socketBind
  | socketListen
  | setBlocking
  | createWakeupChannel
  | inspectChannel
  | readWaitObject
  | validateWaitObject
  | constructObserverChannel
  | localAddress
  | replaceInvocation
  | constructTask (routine : Routine)
  | fork
  | closeListener
  | closeChannel
deriving DecidableEq

def Operation.isCleanup : Operation → Bool
  | .closeListener => true
  | .closeChannel => true
  | _ => false

/-- What `socket_local_address` returns: a sequence of a host, a port that may be no integer,
and possibly more; or anything else. -/
inductive LocalAddress where
  | sequence (host : Text) (port : Option Int)
  | other

structure Kernel (Exc : Type) where
  /-- What an operation raises, if it does. -/
  answers : Operation → Option Exc
  interrupts : Exc → Bool
  supportsWakeupChannel : Bool
  /-- Which methods of a raw wakeup channel can be called. -/
  hasNotify : Bool
  hasDrain : Bool
  hasClose : Bool
  waitObjectValid : Bool
  validationError : Option Exc
  localAddress : LocalAddress
  /-- How many tasks are registered when `fork` raises. -/
  registered : Nat
  /-- What the calls of a `ServerHandle` meet, by their number in its log. -/
  server : Nat → Bool

/-- What the caller passes. `none` is a value of another type. -/
structure Arguments where
  host : Option Text
  port : Option Int
  protocol : Text
  /-- `http2_config`: absent, an `HTTP2Config`, or something else. -/
  http2Config : Option Bool
  maxConnections : Nat
  hasObserver : Bool

end Exceptions

section Ownership

inductive Cleanup where
  | listener
  | channel
  | rawChannel
  | server
deriving DecidableEq

namespace Cleanup

def number : Cleanup → Nat
  | listener => 0
  | channel => 1
  | rawChannel => 2
  | server => 3

def ofNumber : Nat → Cleanup
  | 0 => listener
  | 1 => channel
  | 2 => rawChannel
  | _ => server

@[simp] theorem ofNumber_number (cleanup : Cleanup) : ofNumber cleanup.number = cleanup := by
  cases cleanup <;> rfl

end Cleanup

/-- A `_CleanupTransaction` of a startup. -/
abbrev Cleanups (Exc : Type) := Transaction (Raised Exc)

def addCleanup (transaction : Cleanups Exc) (name : String) (cleanup : Cleanup)
    (error : Raised Exc) : Cleanups Exc :=
  transaction.add name.toList cleanup.number (some error)

/-- What `_active_invocation` refers to: the marker or the handle of the startup of this
number. -/
inductive Invocation where
  | marker (startup : Nat)
  | handle (startup : Nat)
deriving DecidableEq

/-- One call of `_bind_and_schedule`: the listener and the raw wakeup channel that it has
acquired, with whether they are closed; the handle, which has taken both over once there is
one; the local `tasks`. The last fields are history. -/
structure Startup (Exc : Type) where
  number : Nat
  listener : Option Bool := none
  channel : Option Bool := none
  handle : Option ServerHandle := none
  tasks : List (TaskId × Routine) := []
  reserved : Bool := false
  releases : Nat := 0
  log : List (Operation × Option (Raised Exc)) := []

structure World (Exc : Type) where
  active : Option Invocation
  startup : Startup Exc

/-- What `open_listener` and `create_wakeup_channel` raise: an exception, or a
`_TransportAcquisitionFailure`. -/
inductive Acquisition (Exc : Type) where
  | error (error : Raised Exc)
  | failure (primary : Raised Exc) (transaction : Cleanups Exc)

/-- What `_bind_and_schedule` raises: an exception; a `ServerStartupError`; or an interrupt
whose `__cause__` is one. -/
inductive Ending (Exc : Type) where
  | error (error : Raised Exc)
  | startupError (primary : Raised Exc) (owner : Owner (Raised Exc))
  | interrupted (primary : Raised Exc) (owner : Owner (Raised Exc))

inductive Acquired where
  | listener
  | channel
deriving DecidableEq

namespace Startup

variable (startup : Startup Exc)

def isOpen : Acquired → Bool
  | .listener =>
      match startup.handle with
      | some handle => !handle.listenerClosed
      | none => startup.listener == some false
  | .channel =>
      match startup.handle with
      | some handle => handle.hasWakeup && !handle.wakeupClosed
      | none => startup.channel == some false

def cancelling : Bool :=
  match startup.handle with
  | some handle => !handle.pendingTaskCancellations.entries.isEmpty
  | none => false

def clear : Bool :=
  !startup.isOpen .listener && !startup.isOpen .channel && !startup.cancelling

/-- What `_active_invocation` refers to while it is held for the startup. -/
def slot : Invocation :=
  if startup.handle.isSome then .handle startup.number else .marker startup.number

end Startup

def World.release (world : World Exc) (expected : Invocation) : World Exc :=
  if world.active = some expected then
    { active := none
      startup := { world.startup with releases := world.startup.releases + 1 } }
  else world

def World.update (world : World Exc) (change : Startup Exc → Startup Exc) : World Exc :=
  { world with startup := change world.startup }

/-- A call of the handle, with the callback it makes when it is finished. -/
def World.callHandle (world : World Exc) (call : ServerHandle → ServerHandle) : World Exc :=
  match world.startup.handle with
  | none => world
  | some handle =>
      let called := world.update fun startup => { startup with handle := some (call handle) }
      if handle.finalizedCalls < (call handle).finalizedCalls then
        called.release (.handle world.startup.number)
      else called

end Ownership

section Operations

abbrev Starting (Exc Error Result : Type) := Code Error (World Exc) Result

def settle (operation : Operation) (failure : Option (Raised Exc)) :
    Starting Exc (Raised Exc) Unit := do
  modify fun world => world.update fun startup =>
    { startup with log := startup.log ++ [(operation, failure)] }
  match failure with
  | none => pure ()
  | some error => raise error

variable (kernel : Kernel Exc)

def perform (operation : Operation) : Starting Exc (Raised Exc) Unit :=
  settle operation ((kernel.answers operation).map .external)

def argumentError (arguments : Arguments) : Option (Raised Exc) :=
  if arguments.host = none ∨ arguments.host = some [] then
    some (.valueError "host must be a non-empty string")
  else if ¬ ∃ port ∈ arguments.port, 0 ≤ port ∧ port ≤ 65535 then
    some (.valueError "port must be an integer between 0 and 65535")
  else if arguments.protocol ≠ "http1".toList ∧ arguments.protocol ≠ "http2".toList then
    some (.valueError "protocol must be 'http1' or 'http2'")
  else if arguments.http2Config = some false then
    some (.typeError "http2_config must be an HTTP2Config or None")
  else if arguments.protocol = "http1".toList ∧ arguments.http2Config ≠ none then
    some (.valueError "http2_config requires protocol='http2'")
  else none

def reserveInvocation : Starting Exc (Raised Exc) Unit := do
  let world ← get
  if world.active.isSome then
    settle .reserveInvocation
      (some (.runtimeError "this SmallServer already has an active listener"))
  else
    settle .reserveInvocation none
    modify fun world => { world.update fun startup => { startup with reserved := true } with
      active := some (.marker world.startup.number) }

def replaceInvocation : Starting Exc (Raised Exc) Unit := do
  let world ← get
  if world.active ≠ some (.marker world.startup.number) then
    settle .replaceInvocation
      (some (.runtimeError "SmallServer listener ownership changed unexpectedly"))
  else
    settle .replaceInvocation none
    modify fun world => { world with active := some (.handle world.startup.number) }

def releaseMarker {Error : Type} : Starting Exc Error Unit :=
  modify fun world => world.release (.marker world.startup.number)

/-- `KernelTransport.close` on the listener. -/
def closeListener : Starting Exc (Raised Exc) Unit := do
  let world ← get
  if world.startup.listener = some true then pure ()
  else
    perform kernel .closeListener
    modify fun world => world.update fun startup => { startup with listener := some true }

/-- `close()` of the raw wakeup channel. -/
def closeRaw : Starting Exc (Raised Exc) Unit := do
  perform kernel .closeChannel
  modify fun world => world.update fun startup => { startup with channel := some true }

def closeChannel : Starting Exc (Raised Exc) Unit := do
  let world ← get
  if world.startup.channel = some true then pure ()
  else closeRaw kernel

/-- `close` of the raw channel if it can be called, and the error if it cannot. -/
def closeIfCallable (error : Raised Exc) : Starting Exc (Raised Exc) Unit :=
  if kernel.hasClose then closeRaw kernel else settle .closeChannel (some error)

def openListener : Starting Exc (Acquisition Exc) Unit := do
  tryExcept (perform kernel .resolvePassiveAddress) fun error => raise (.error error)
  tryExcept (perform kernel .socketOpen) fun error => raise (.error error)
  modify fun world => world.update fun startup => { startup with listener := some false }
  tryExcept (do
      perform kernel .setReuseAddress
      perform kernel .socketBind
      perform kernel .socketListen
      perform kernel .setBlocking)
    fun primary => do
      tryExcept (closeListener kernel) fun cleanup =>
        raise (.failure primary (addCleanup {} "listener" .listener cleanup))
      raise (.error primary)

/-- The tests on what the kernel returned for a wakeup channel. -/
def validateChannel : Starting Exc (Raised Exc) Unit := do
  settle .inspectChannel
    (if kernel.hasNotify && kernel.hasDrain && kernel.hasClose then none
    else some (.typeError "the active kernel returned an invalid wakeup channel"))
  perform kernel .readWaitObject
  settle .validateWaitObject
    (match kernel.answers .validateWaitObject with
    | some error => some (.external error)
    | none =>
        if kernel.waitObjectValid then none
        else
          match kernel.validationError with
          | some error => some (.external error)
          | none => some (.valueError
              "the active kernel returned an invalid wakeup wait object"))

def createWakeupChannel : Starting Exc (Acquisition Exc) Bool :=
  if kernel.supportsWakeupChannel then do
    tryExcept (perform kernel .createWakeupChannel) fun error => raise (.error error)
    modify fun world => world.update fun startup => { startup with channel := some false }
    tryExcept (validateChannel kernel) fun primary => do
      tryExcept (closeIfCallable kernel (.typeError "the wakeup channel cannot be closed"))
        fun cleanup => raise (.failure primary (addCleanup {} "wakeup" .rawChannel cleanup))
      raise (.error primary)
    pure true
  else pure false

def addressError : LocalAddress → Option (Raised Exc)
  | .other => some (.valueError "the active kernel returned an invalid local address")
  | .sequence _ answered =>
      if ∃ port ∈ answered, 0 ≤ port ∧ port ≤ 65535 then none
      else some (.valueError "the active kernel returned an invalid local port")

def constructHandle (arguments : Arguments) (hasWakeup : Bool) :
    Starting Exc (Raised Exc) Unit := do
  if arguments.hasObserver then perform kernel .constructObserverChannel
  settle .localAddress
    (((kernel.answers .localAddress).map .external).or (addressError kernel.localAddress))
  modify fun world => world.update fun startup => { startup with
    handle := some { maxConnections := arguments.maxConnections, hasWakeup } }

def ownTask (routine : Routine) (handle : ServerHandle) : ServerHandle :=
  { handle with
    listenerTask := if routine = .acceptLoop then some handle.nextTask else handle.listenerTask
    ownedTasks := handle.ownedTasks ++ [handle.nextTask]
    nextTask := handle.nextTask + 1 }

/-- A task is constructed, owned by the handle and noted in `tasks`. -/
def constructTask (routine : Routine) : Starting Exc (Raised Exc) Unit := do
  perform kernel (.constructTask routine)
  modify fun world => world.update fun startup =>
    match startup.handle with
    | none => startup
    | some handle => { startup with
        tasks := startup.tasks ++ [(handle.nextTask, routine)]
        handle := some (ownTask routine handle) }

def registerTasks (tasks : List (TaskId × Routine)) (handle : ServerHandle) : ServerHandle :=
  { handle with
    live := tasks.foldl (fun live entry => live.set entry.1 { routine := entry.2 }) handle.live }

/-- `runtime.fork(list(tasks))`; when it raises it may have registered some. -/
def forkTasks : Starting Exc (Raised Exc) Unit := do
  let registered := match kernel.answers .fork with
    | none => fun startup : Startup Exc => startup.tasks
    | some _ => fun startup => startup.tasks.take kernel.registered
  modify fun world => world.update fun startup =>
    { startup with handle := startup.handle.map (registerTasks (registered startup)) }
  perform kernel .fork

/-- A task that is constructed only if there is something for it to watch. -/
def constructTaskIf (present : Bool) (routine : Routine) : Starting Exc (Raised Exc) Unit :=
  if present then constructTask kernel routine else pure ()

def scheduleTasks (arguments : Arguments) (hasWakeup : Bool) :
    Starting Exc (Raised Exc) Unit := do
  constructTask kernel .acceptLoop
  constructTaskIf kernel hasWakeup .closeWatcher
  constructTaskIf kernel arguments.hasObserver .routeObserver
  forkTasks kernel

def abortStartup (answers : Nat → Bool) (tasks : List TaskId) (handle : ServerHandle) :
    ServerHandle :=
  finishClose answers (cancel answers handle) true none
    { handle with closeRequested := true, ownedTasks := tasks }

/-- `isinstance(primary_error, (KeyboardInterrupt, SystemExit))`. -/
def isInterrupt : Raised Exc → Bool
  | .external error => kernel.interrupts error
  | _ => false

def raiseStartupCleanup {Result : Type} (primary : Raised Exc) (transaction : Cleanups Exc)
    (onCleanupComplete : Bool) : Starting Exc (Ending Exc) Result :=
  let owner := { transaction, onCleanupComplete }
  if isInterrupt kernel primary then raise (.interrupted primary owner)
  else raise (.startupError primary owner)

def raiseAcquisitionCleanup {Result : Type} (primary : Raised Exc)
    (transaction : Cleanups Exc) : Starting Exc (Ending Exc) Result :=
  raiseStartupCleanup kernel primary transaction true

/-- The error that `_HandleCleanupTransaction` reports of a handle. -/
def handleError (handle : ServerHandle) : Raised Exc :=
  match handle.cleanupErrors.entries with
  | entry :: _ => .kept entry.2
  | [] => .runtimeError "server finalization cleanup is incomplete"

def handleCleanupTransaction (handle : ServerHandle) : Cleanups Exc :=
  addCleanup {} "server" .server (handleError handle)

end Operations

section Stages

variable (kernel : Kernel Exc) (arguments : Arguments)

/-- `release_marker()` and `raise`. -/
def releaseAndRaise {Result : Type} (primary : Raised Exc) : Starting Exc (Ending Exc) Result := do
  releaseMarker
  raise (.error primary)

def requireHttp2 : Starting Exc (Raised Exc) Unit :=
  if arguments.protocol = "http2".toList then perform kernel .requireHttp2 else pure ()

/-- The tests before anything is acquired, and `KernelTransport(runtime.kernel)`. -/
def reserve : Starting Exc (Ending Exc) Unit := do
  tryExcept (do
      settle .checkArguments (argumentError arguments)
      requireHttp2 kernel arguments
      reserveInvocation)
    fun error => raise (.error error)
  tryExcept (perform kernel .constructTransport) fun error => releaseAndRaise error

def acquireListener : Starting Exc (Ending Exc) Unit :=
  tryExcept (openListener kernel) fun raised =>
    match raised with
    | .failure primary transaction => raiseAcquisitionCleanup kernel primary transaction
    | .error primary => releaseAndRaise primary

def closeOrAdd (close : Starting Exc (Raised Exc) Unit) (name : String) (cleanup : Cleanup)
    (transaction : Cleanups Exc) : Starting Exc (Ending Exc) (Cleanups Exc) :=
  tryExcept (do close; pure transaction) fun error =>
    pure (addCleanup transaction name cleanup error)

def acquireChannel : Starting Exc (Ending Exc) Bool :=
  tryExcept (createWakeupChannel kernel) fun raised =>
    match raised with
    | .failure primary transaction => do
        let transaction ← closeOrAdd (closeListener kernel) "listener" .listener transaction
        raiseAcquisitionCleanup kernel primary transaction
    | .error primary => do
        tryExcept (closeListener kernel) fun cleanup =>
          raiseAcquisitionCleanup kernel primary (addCleanup {} "listener" .listener cleanup)
        releaseAndRaise primary

def closeWakeupOrAdd (hasWakeup : Bool) : Starting Exc (Ending Exc) (Cleanups Exc) :=
  if hasWakeup then closeOrAdd (closeChannel kernel) "wakeup" .channel {} else pure {}

/-- The handle could not be constructed: what was acquired for it is closed. -/
def rollback (hasWakeup : Bool) (primary : Raised Exc) : Starting Exc (Ending Exc) Unit := do
  let transaction ← closeWakeupOrAdd kernel hasWakeup
  let transaction ← closeOrAdd (closeListener kernel) "listener" .listener transaction
  if transaction.complete then releaseAndRaise primary
  else raiseAcquisitionCleanup kernel primary transaction

def transferToHandle (hasWakeup : Bool) : Starting Exc (Ending Exc) Unit :=
  tryExcept (constructHandle kernel arguments hasWakeup) (rollback kernel hasWakeup)

/-- The tasks could not be scheduled: what the handle owns is released, or left to the error
that is raised. -/
def abort (primary : Raised Exc) : Starting Exc (Ending Exc) Unit := do
  modify fun world =>
    world.callHandle (abortStartup kernel.server (world.startup.tasks.map Prod.fst))
  let world ← get
  match world.startup.handle with
  | none => raise (.error primary)
  | some handle =>
      if handle.finished then raise (.error primary)
      else raiseStartupCleanup kernel primary (handleCleanupTransaction handle) false

def schedule (hasWakeup : Bool) : Starting Exc (Ending Exc) Unit :=
  tryExcept (scheduleTasks kernel arguments hasWakeup) (abort kernel)

/-- `_bind_and_schedule`. The handle it returns is that of the startup. -/
def bindAndSchedule : Starting Exc (Ending Exc) Unit := do
  reserve kernel arguments
  acquireListener kernel
  let hasWakeup ← acquireChannel kernel
  transferToHandle kernel arguments hasWakeup
  tryExcept replaceInvocation fun error => raise (.error error)
  schedule kernel arguments hasWakeup

end Stages

section Retries

variable (kernel : Kernel Exc)

def raisedBy (action : Starting Exc (Raised Exc) Unit) (world : World Exc) :
    Option (Raised Exc) × World Exc :=
  match outcome action world with
  | (.ok (), next) => (none, next)
  | (.error error, next) => (some error, next)

def retryHandleCleanup (world : World Exc) : Option (Raised Exc) × World Exc :=
  let next := world.callHandle (finalize kernel.server)
  match next.startup.handle with
  | none => (none, next)
  | some handle => (if handle.finished then none else some (handleError handle), next)

def runAction (world : World Exc) : Cleanup → Option (Raised Exc) × World Exc
  | .listener => raisedBy (closeListener kernel) world
  | .channel => raisedBy (closeChannel kernel) world
  | .rawChannel =>
      raisedBy (closeIfCallable kernel
        (.runtimeError "wakeup channel cleanup remains unavailable")) world
  | .server => retryHandleCleanup kernel world

/-- The actions in order, each from the state that the one before it leaves. -/
def runActions : List Nat → World Exc → Outcomes (Raised Exc) × World Exc
  | [], world => (fun _ => none, world)
  | action :: actions, world =>
      let (raised, next) := runAction kernel world (Cleanup.ofNumber action)
      let (outcomes, last) := runActions actions next
      (Function.update outcomes action raised, last)

def retryCleanup (owner : Owner (Raised Exc)) (world : World Exc) :
    Bool × Owner (Raised Exc) × World Exc :=
  let (outcomes, next) := runActions kernel owner.transaction.pendingActions world
  let (complete, later) := owner.retryCleanup outcomes
  (complete, later,
    if owner.onCleanupComplete && !later.onCleanupComplete then
      next.release (.marker next.startup.number)
    else next)

end Retries

end SmallServer.ServerStartup
