import SmallServer.CleanupTransaction
import SmallServer.KernelTransport
import SmallServer.Raising

/-!
# Streams of the kernel

`KernelTransport.accept`, `recv` and `close` as any number of tasks call them against a kernel
that may answer anything. Between two waits a call runs to its end, so that a step is a turn of
its loop; the closes and the retries of a failed acquisition come in between. A stream is known
by the number of its accept.
-/

namespace SmallServer.TransportStreams

open SmallServer HttpValues CleanupTransaction KernelTransport Raising Runs

set_option autoImplicit false

abbrev StreamId := Nat

abbrev TaskId := Nat

variable {Exc Address : Type}

section Kernel

inductive RetriedOperation where
  | accept
  | recv
deriving DecidableEq

inductive KernelCall where
  | socketAccept
  | socketSetblocking (stream : StreamId) (flag : Bool)
  | socketPeerAddress (stream : StreamId)
  | socketRecv (stream : StreamId) (size : Nat)
  | socketClose (stream : StreamId)
  | socketRetryMode (operation : RetriedOperation)
deriving DecidableEq

/-- What a call returns. `socket_recv` may return what is no `bytes`, and `socket_retry_mode`
what is no mode. -/
@[reducible] def KernelCall.Value (Address : Type) : KernelCall → Type
  | .socketAccept => Address
  | .socketSetblocking _ _ => Unit
  | .socketPeerAddress _ => Option Address
  | .socketRecv _ _ => Option Bytes
  | .socketClose _ => Unit
  | .socketRetryMode _ => Option RetryMode

/-- What the kernel returns or raises, by the number of the call. -/
structure Kernel (Exc Address : Type) where
  answers : Nat → (call : KernelCall) → Except Exc (call.Value Address)

abbrev Entry (Exc Address : Type) := Sigma fun call : KernelCall => Except Exc (call.Value Address)

end Kernel

section Transport

structure TransportHandle (Exc : Type) where
  closed : Bool := false
  closeError : Option Exc := none
deriving DecidableEq

structure Transport (Exc Address : Type) where
  handles : List (TransportHandle Exc) := []
  log : List (Entry Exc Address) := []

structure AcceptedConnection (Address : Type) where
  stream : StreamId
  peerAddress : Address
deriving DecidableEq

/-- `_TransportAcquisitionFailure`. The one action of its transaction closes the handle;
`transferred` tells whether `transfer` was called. -/
structure AcquisitionFailure (Exc : Type) where
  primaryError : Exc
  transaction : Transaction Exc
  handle : StreamId
  transferred : Bool := false

inductive Raised (Exc : Type) where
  | external (error : Exc)
  | typeError (detail : String)
  | acquisitionFailure (failure : AcquisitionFailure Exc)

/-- How a turn of a loop ends: in a wait for readiness, or with a value. -/
inductive Turn (Value : Type) where
  | suspended (mode : RetryMode)
  | returned (value : Value)

variable (kernel : Kernel Exc Address)

abbrev Transporting (Exc Address Error Result : Type) := Code Error (Transport Exc Address) Result

def Transport.note (transport : Transport Exc Address) (call : KernelCall)
    (answer : Except Exc (call.Value Address)) : Transport Exc Address :=
  { transport with log := transport.log ++ [⟨call, answer⟩] }

def perform (call : KernelCall) : Transporting Exc Address Exc (call.Value Address) :=
  ExceptT.mk fun transport =>
    (kernel.answers transport.log.length call,
      transport.note call (kernel.answers transport.log.length call))

/-- `_wait_for_retry` up to its wait. -/
def waitForRetry (operation : RetriedOperation) (error : Exc) :
    Transporting Exc Address Exc RetryMode := do
  match ← perform kernel (.socketRetryMode operation) with
  | some mode => pure mode
  | none => raise error

def tryCall (call : KernelCall) (operation : RetriedOperation) :
    Transporting Exc Address (Raised Exc) (Turn (call.Value Address)) :=
  tryExcept (do
      let value ← perform kernel call
      pure (.returned value))
    fun error =>
      tryExcept (do
          let mode ← waitForRetry kernel operation error
          pure (.suspended mode))
        fun error => raise (.external error)

def Transport.setHandle (transport : Transport Exc Address) (stream : StreamId)
    (handle : TransportHandle Exc) : Transport Exc Address :=
  { transport with handles := transport.handles.set stream handle }

def Transport.isClosed (transport : Transport Exc Address) (stream : StreamId) : Bool :=
  (transport.handles[stream]?.map TransportHandle.closed).getD false

def close (stream : StreamId) : Transporting Exc Address Exc Unit := do
  let transport ← get
  match transport.handles[stream]? with
  | none => pure ()
  | some handle =>
      if handle.closed then pure ()
      else
        tryExcept (perform kernel (.socketClose stream)) fun error => do
          modify fun transport =>
            transport.setHandle stream { handle with closeError := some error }
          raise error
        modify fun transport =>
          transport.setHandle stream { closed := true, closeError := none }

/-- A stream whose setup raised is closed, or left to the failure that is raised. -/
def rollBack {Result : Type} (stream : StreamId) (primary : Exc) :
    Transporting Exc Address (Raised Exc) Result := do
  tryExcept (close kernel stream) fun cleanup =>
    raise (.acquisitionFailure {
      primaryError := primary
      transaction := ({} : Transaction Exc).add "accepted-connection".toList stream (some cleanup)
      handle := stream })
  raise (.external primary)

def Transport.withHandle (transport : Transport Exc Address) : Transport Exc Address :=
  { transport with handles := transport.handles ++ [{}] }

/-- `TransportHandle(raw_stream)`. -/
def newHandle : Transporting Exc Address (Raised Exc) StreamId := do
  let transport ← get
  modify Transport.withHandle
  pure transport.handles.length

def configure (stream : StreamId) : Transporting Exc Address Exc (Option Address) := do
  perform kernel (.socketSetblocking stream false)
  perform kernel (.socketPeerAddress stream)

def accept : Transporting Exc Address (Raised Exc) (Turn (AcceptedConnection Address)) := do
  match ← tryCall kernel .socketAccept .accept with
  | .suspended mode => pure (.suspended mode)
  | .returned address =>
      let stream ← newHandle
      let peer ← tryExcept (configure kernel stream) (rollBack kernel stream)
      pure (.returned { stream, peerAddress := peer.getD address })

def recv (stream : StreamId) (size : Nat) :
    Transporting Exc Address (Raised Exc) (Turn Bytes) := do
  match ← tryCall kernel (.socketRecv stream size) .recv with
  | .suspended mode => pure (.suspended mode)
  | .returned (some data) => pure (.returned data)
  | .returned none => raise (.typeError "the active kernel returned non-bytes socket data")

end Transport

section World

inductive Call where
  | accept
  | recv (stream : StreamId) (size : Nat)
deriving DecidableEq

/-- How a call ended. A failed acquisition is kept with its failure. -/
inductive Outcome (Exc Address : Type) where
  | accepted (connection : AcceptedConnection Address)
  | received (stream : StreamId) (data : Bytes)
  | raised (error : Exc)
  | typeError (detail : String)
  | acquisitionFailure (stream : StreamId)
deriving DecidableEq

/-- A transport with the calls that are suspended on it. The last fields are history. -/
structure World (Exc Address : Type) where
  transport : Transport Exc Address := {}
  pending : OrderedDict TaskId (Call × RetryMode) := ∅
  outcomes : List (TaskId × Outcome Exc Address) := []
  failures : List (AcquisitionFailure Exc) := []

/-- What happens: a task calls; its wait ends well or raises; some code closes a stream, or
retries or transfers what a failed acquisition has left. -/
inductive Label (Exc : Type) where
  | calls (task : TaskId) (call : Call)
  | ready (task : TaskId)
  | interrupted (task : TaskId) (error : Exc)
  | closes (stream : StreamId)
  | retries (failure : Nat)
  | transfers (failure : Nat)

namespace World

variable (world : World Exc Address)

def conclude (task : TaskId) (transport : Transport Exc Address)
    (outcome : Outcome Exc Address) : World Exc Address :=
  { world with transport, outcomes := world.outcomes ++ [(task, outcome)] }

def settle {Value : Type} (task : TaskId) (call : Call) (returned : Value → Outcome Exc Address) :
    Except (Raised Exc) (Turn Value) → Transport Exc Address → World Exc Address
  | .ok (.suspended mode), transport =>
      { world with transport, pending := world.pending.set task (call, mode) }
  | .ok (.returned value), transport => world.conclude task transport (returned value)
  | .error (.external error), transport => world.conclude task transport (.raised error)
  | .error (.typeError detail), transport => world.conclude task transport (.typeError detail)
  | .error (.acquisitionFailure failure), transport =>
      { world.conclude task transport (.acquisitionFailure failure.handle) with
        failures := world.failures ++ [failure] }

variable (kernel : Kernel Exc Address)

def turn (task : TaskId) : Call → World Exc Address
  | .accept =>
      let ran := outcome (accept kernel) world.transport
      world.settle task .accept .accepted ran.1 ran.2
  | .recv stream size =>
      let ran := outcome (recv kernel stream size) world.transport
      world.settle task (.recv stream size) (.received stream) ran.1 ran.2

def closeStream (stream : StreamId) : World Exc Address :=
  { world with transport := (outcome (close kernel stream) world.transport).2 }

/-- `retry` on a failure's transaction: the action, if it is still there, closes the handle. -/
def retryFailure (index : Nat) (failure : AcquisitionFailure Exc) : World Exc Address :=
  if failure.transaction.complete then world
  else
    let ran := outcome (close kernel failure.handle) world.transport
    let raised := match ran.1 with
      | .ok () => none
      | .error error => some error
    { world with
      transport := ran.2
      failures := world.failures.set index
        { failure with transaction := (failure.transaction.retry fun _ => raised).1 } }

def transferFailure (index : Nat) (failure : AcquisitionFailure Exc) : World Exc Address :=
  { world with
    failures := world.failures.set index
      { failure with transaction := {}, transferred := true } }

end World

inductive Step (kernel : Kernel Exc Address) :
    World Exc Address → Label Exc → World Exc Address → Prop
  | calls {world : World Exc Address} {task : TaskId} {call : Call}
      (free : task ∉ world.pending) :
      Step kernel world (.calls task call) (world.turn kernel task call)
  | ready {world : World Exc Address} {task : TaskId} {call : Call} {mode : RetryMode}
      (waiting : world.pending.lookup task = some (call, mode)) :
      Step kernel world (.ready task)
        ({ world with pending := world.pending.erase task }.turn kernel task call)
  | interrupted {world : World Exc Address} {task : TaskId} {call : Call} {mode : RetryMode}
      {error : Exc} (waiting : world.pending.lookup task = some (call, mode)) :
      Step kernel world (.interrupted task error)
        ({ world with pending := world.pending.erase task }.conclude task world.transport
          (.raised error))
  | closes {world : World Exc Address} {stream : StreamId} :
      Step kernel world (.closes stream) (world.closeStream kernel stream)
  | retries {world : World Exc Address} {index : Nat} {failure : AcquisitionFailure Exc}
      (kept : world.failures[index]? = some failure) :
      Step kernel world (.retries index) (world.retryFailure kernel index failure)
  | transfers {world : World Exc Address} {index : Nat} {failure : AcquisitionFailure Exc}
      (kept : world.failures[index]? = some failure) :
      Step kernel world (.transfers index) (world.transferFailure index failure)

end World

section Specification

def handedOut (log : List (Entry Exc Address)) : Nat :=
  log.countP fun
    | ⟨.socketAccept, .ok _⟩ => true
    | _ => false

/-- What the kernel answered when it was asked to close a stream: nothing, or an error. -/
def closeAnswers (stream : StreamId) (log : List (Entry Exc Address)) : List (Option Exc) :=
  log.filterMap fun
    | ⟨.socketClose closed, .ok ()⟩ => if closed = stream then some none else none
    | ⟨.socketClose closed, .error error⟩ => if closed = stream then some (some error) else none
    | _ => none

def delivered (stream : StreamId) (log : List (Entry Exc Address)) : List Bytes :=
  log.filterMap fun
    | ⟨.socketRecv read _, .ok (some data)⟩ => if read = stream then some data else none
    | _ => none

def received (stream : StreamId) (outcomes : List (TaskId × Outcome Exc Address)) : List Bytes :=
  outcomes.filterMap fun
    | (_, .received read data) => if read = stream then some data else none
    | _ => none

def World.returned (world : World Exc Address) : List StreamId :=
  world.outcomes.filterMap fun
    | (_, .accepted connection) => some connection.stream
    | _ => none

def World.failed (world : World Exc Address) : List StreamId :=
  world.failures.map AcquisitionFailure.handle

/-- The close failed until it succeeded, after which it was not asked for any more; the handle
shows the last failure until then. -/
def TransportHandle.Shows (handle : TransportHandle Exc) (answers : List (Option Exc)) : Prop :=
  ∃ errors : List Exc,
    answers = errors.map Option.some ++ (if handle.closed then [none] else []) ∧
    handle.closeError = if handle.closed then none else errors.getLast?

def RaisedInCall (log : List (Entry Exc Address)) (error : Exc) : Prop :=
  ∃ call : KernelCall, (∀ stream, call ≠ .socketClose stream) ∧ ⟨call, .error error⟩ ∈ log

end Specification

section Transports

variable {transport : Transport Exc Address} {stream : StreamId}

/-- Every stream the kernel has handed out has a handle, which shows how its closes went. -/
structure Transport.Sound (transport : Transport Exc Address) : Prop where
  handed : handedOut transport.log = transport.handles.length
  shows_answers : ∀ stream (handle : TransportHandle Exc),
    transport.handles[stream]? = some handle →
    handle.Shows (closeAnswers stream transport.log)
  unborn : ∀ stream, transport.handles.length ≤ stream → closeAnswers stream transport.log = []

theorem closeAnswers_append (stream : StreamId) (log more : List (Entry Exc Address)) :
    closeAnswers stream (log ++ more) = closeAnswers stream log ++ closeAnswers stream more :=
  List.filterMap_append

theorem delivered_append (stream : StreamId) (log more : List (Entry Exc Address)) :
    delivered stream (log ++ more) = delivered stream log ++ delivered stream more :=
  List.filterMap_append

theorem handedOut_append (log more : List (Entry Exc Address)) :
    handedOut (log ++ more) = handedOut log + handedOut more :=
  List.countP_append

structure Calm (transport next : Transport Exc Address) : Prop where
  handles : next.handles = transport.handles
  log : ∃ more, next.log = transport.log ++ more ∧ handedOut more = 0 ∧
    ∀ stream, closeAnswers stream more = []

structure Quiet (transport next : Transport Exc Address) : Prop extends Calm transport next where
  delivered : ∀ stream, delivered stream next.log = delivered stream transport.log

theorem Quiet.note {call : KernelCall} {answer : Except Exc (call.Value Address)}
    (handsOut : handedOut [(⟨call, answer⟩ : Entry Exc Address)] = 0)
    (silent : ∀ stream, closeAnswers stream [(⟨call, answer⟩ : Entry Exc Address)] = [] ∧
      TransportStreams.delivered stream [(⟨call, answer⟩ : Entry Exc Address)] = []) :
    Quiet transport (transport.note call answer) where
  handles := rfl
  log := ⟨_, rfl, handsOut, fun stream => (silent stream).1⟩
  delivered := by
    intro stream
    unfold Transport.note
    rw [delivered_append, (silent stream).2, List.append_nil]

theorem Quiet.trans {middle next : Transport Exc Address} (first : Quiet transport middle)
    (second : Quiet middle next) : Quiet transport next where
  handles := second.handles.trans first.handles
  log := by
    obtain ⟨front, grown, frontHands, frontCloses⟩ := first.log
    obtain ⟨back, later, backHands, backCloses⟩ := second.log
    refine ⟨front ++ back, ?_, ?_, fun stream => ?_⟩
    · rw [later, grown, List.append_assoc]
    · rw [handedOut_append, frontHands, backHands]
    · rw [closeAnswers_append, frontCloses, backCloses, List.nil_append]
  delivered := fun stream => (second.delivered stream).trans (first.delivered stream)

theorem Transport.Sound.calm (sound : transport.Sound) {next : Transport Exc Address}
    (calm : Calm transport next) : next.Sound := by
  obtain ⟨more, grown, handsOut, silent⟩ := calm.log
  have sameAnswers : ∀ stream,
      closeAnswers stream next.log = closeAnswers stream transport.log := by
    intro stream
    rw [grown, closeAnswers_append, silent, List.append_nil]
  refine ⟨?_, ?_, ?_⟩
  · rw [grown, handedOut_append, handsOut, calm.handles]
    exact sound.handed
  · intro stream handle found
    rw [sameAnswers]
    exact sound.shows_answers stream handle (calm.handles ▸ found)
  · intro stream past
    rw [sameAnswers]
    exact sound.unborn stream (calm.handles ▸ past)

theorem Transport.Sound.accepted (sound : transport.Sound) (address : Address) :
    (transport.note .socketAccept (.ok address)).withHandle.Sound where
  handed := by
    unfold Transport.note Transport.withHandle
    rw [handedOut_append, sound.handed, List.length_append]
    rfl
  shows_answers := by
    intro stream handle found
    unfold Transport.note Transport.withHandle at found ⊢
    rw [closeAnswers_append]
    rw [List.getElem?_append] at found
    split at found
    · exact (List.append_nil _).symm ▸ sound.shows_answers stream handle found
    · rename_i past
      have fresh : handle = {} := by
        have member := List.mem_of_getElem? found
        exact List.mem_singleton.mp member
      rw [fresh, sound.unborn stream (Nat.le_of_not_lt past)]
      exact ⟨[], rfl, rfl⟩
  unborn := by
    intro stream past
    unfold Transport.note Transport.withHandle at past ⊢
    rw [List.length_append] at past
    change transport.handles.length + 1 ≤ stream at past
    rw [closeAnswers_append, sound.unborn stream (by omega)]
    rfl

/-- A close of an open handle: what it changes of the handle follows the kernel's answer. -/
theorem Transport.Sound.closeAnswered (sound : transport.Sound)
    {handle later : TransportHandle Exc} (found : transport.handles[stream]? = some handle)
    (unclosed : handle.closed = false) (answer : Except Exc Unit)
    (becomes : later = match answer with
      | .ok () => { closed := true, closeError := none }
      | .error error => { handle with closeError := some error }) :
    ((transport.note (.socketClose stream) answer).setHandle stream later).Sound where
  handed := by
    unfold Transport.note Transport.setHandle
    rw [handedOut_append, sound.handed, List.length_set]
    rfl
  shows_answers := by
    intro other otherHandle otherFound
    unfold Transport.note Transport.setHandle at otherFound ⊢
    rw [closeAnswers_append]
    by_cases same : stream = other
    · subst same
      obtain ⟨inside, -⟩ := List.getElem?_eq_some_iff.mp found
      rw [List.getElem?_set_self inside] at otherFound
      cases otherFound
      obtain ⟨errors, answered, -⟩ := sound.shows_answers stream handle found
      rw [unclosed, if_neg Bool.false_ne_true, List.append_nil] at answered
      rw [answered, becomes]
      cases answer with
      | ok value =>
          refine ⟨errors, ?_, rfl⟩
          simp [closeAnswers]
      | error error =>
          refine ⟨errors ++ [error], ?_, ?_⟩
          · simp [closeAnswers, unclosed]
          · simp [unclosed]
    · rw [List.getElem?_set_ne same] at otherFound
      have none :
          closeAnswers other [(⟨.socketClose stream, answer⟩ : Entry Exc Address)] = [] := by
        cases answer <;> simp [closeAnswers, same]
      rw [none, List.append_nil]
      exact sound.shows_answers other otherHandle otherFound
  unborn := by
    intro other past
    unfold Transport.note Transport.setHandle at past ⊢
    rw [List.length_set] at past
    change transport.handles.length ≤ other at past
    obtain ⟨inside, -⟩ := List.getElem?_eq_some_iff.mp found
    have different : stream ≠ other := Nat.ne_of_lt (Nat.lt_of_lt_of_le inside past)
    have none : closeAnswers other [(⟨.socketClose stream, answer⟩ : Entry Exc Address)] = [] := by
      cases answer <;> simp [closeAnswers, different]
    rw [closeAnswers_append, none, List.append_nil]
    exact sound.unborn other past

end Transports

section Turns

variable {kernel : Kernel Exc Address} {transport : Transport Exc Address}

@[simp] theorem ends_perform {call : KernelCall}
    {condition : Except Exc (call.Value Address) → Transport Exc Address → Prop} :
    Ends (perform kernel call) transport condition ↔
      condition (kernel.answers transport.log.length call)
        (transport.note call (kernel.answers transport.log.length call)) :=
  Iff.rfl

/-- How a call in a loop goes: it returns; or it raises, and then there is a mode to wait for,
or none, or `socket_retry_mode` raises itself. -/
inductive Tries (call : KernelCall) (operation : RetriedOperation)
    (transport : Transport Exc Address) :
    Except (Raised Exc) (Turn (call.Value Address)) → Transport Exc Address → Prop
  | returned (value : call.Value Address) :
      Tries call operation transport (.ok (.returned value)) (transport.note call (.ok value))
  | suspended (error : Exc) (mode : RetryMode) :
      Tries call operation transport (.ok (.suspended mode))
        ((transport.note call (.error error)).note (.socketRetryMode operation) (.ok (some mode)))
  | raised (error : Exc) :
      Tries call operation transport (.error (.external error))
        ((transport.note call (.error error)).note (.socketRetryMode operation) (.ok none))
  | confused (first error : Exc) :
      Tries call operation transport (.error (.external error))
        ((transport.note call (.error first)).note (.socketRetryMode operation) (.error error))

theorem tryCall_spec (call : KernelCall) (operation : RetriedOperation) :
    Ends (tryCall kernel call operation) transport (Tries call operation transport) := by
  unfold tryCall
  rw [ends_tryExcept, ends_bind, ends_perform]
  cases kernel.answers transport.log.length call with
  | ok value => exact .returned value
  | error error =>
      unfold waitForRetry
      simp only [ends_tryExcept, ends_bind]
      refine ends_perform.mpr ?_
      cases kernel.answers (transport.note call (.error error)).log.length
          (.socketRetryMode operation) with
      | error second => exact .confused error second
      | ok mode =>
          cases mode with
          | none => exact .raised error
          | some mode => exact .suspended error mode

inductive Closes (stream : StreamId) (transport : Transport Exc Address) :
    Except Exc Unit → Transport Exc Address → Prop
  | unknown (missing : transport.handles[stream]? = none) :
      Closes stream transport (.ok ()) transport
  | already {handle : TransportHandle Exc} (found : transport.handles[stream]? = some handle)
      (closed : handle.closed = true) : Closes stream transport (.ok ()) transport
  | closed {handle : TransportHandle Exc} (found : transport.handles[stream]? = some handle)
      (unclosed : handle.closed = false) :
      Closes stream transport (.ok ()) ((transport.note (.socketClose stream) (.ok ())).setHandle
        stream { closed := true, closeError := none })
  | failed {handle : TransportHandle Exc} (found : transport.handles[stream]? = some handle)
      (unclosed : handle.closed = false) (error : Exc) :
      Closes stream transport (.error error)
        ((transport.note (.socketClose stream) (.error error)).setHandle
          stream { handle with closeError := some error })

theorem close_spec (stream : StreamId) :
    Ends (close kernel stream) transport (Closes stream transport) := by
  unfold close
  rw [ends_bind, ends_get]
  dsimp only
  cases found : transport.handles[stream]? with
  | none => exact .unknown found
  | some handle =>
      dsimp only
      rw [ends_ite]
      split
      · rename_i closed
        exact .already found closed
      · rename_i unclosed
        rw [Bool.not_eq_true] at unclosed
        simp only [ends_bind, ends_tryExcept]
        refine ends_perform.mpr ?_
        cases kernel.answers transport.log.length (.socketClose stream) with
        | ok value => exact .closed found unclosed
        | error error => exact .failed found unclosed error

def Transport.afterAccept (transport : Transport Exc Address) (address : Address) :
    Transport Exc Address :=
  (transport.note .socketAccept (.ok address)).withHandle

inductive Configures (stream : StreamId) (transport : Transport Exc Address) :
    Except Exc (Option Address) → Transport Exc Address → Prop
  | returned (peer : Option Address) :
      Configures stream transport (.ok peer)
        ((transport.note (.socketSetblocking stream false) (.ok ())).note
          (.socketPeerAddress stream) (.ok peer))
  | setblocking (error : Exc) :
      Configures stream transport (.error error)
        (transport.note (.socketSetblocking stream false) (.error error))
  | peerAddress (error : Exc) :
      Configures stream transport (.error error)
        ((transport.note (.socketSetblocking stream false) (.ok ())).note
          (.socketPeerAddress stream) (.error error))

theorem configure_spec (stream : StreamId) :
    Ends (configure kernel stream) transport (Configures stream transport) := by
  unfold configure
  rw [ends_bind]
  refine ends_perform.mpr ?_
  cases kernel.answers transport.log.length (.socketSetblocking stream false) with
  | error error => exact .setblocking error
  | ok value =>
      refine ends_perform.mpr ?_
      cases kernel.answers (transport.note (.socketSetblocking stream false) (.ok ())).log.length
          (.socketPeerAddress stream) with
      | error error => exact .peerAddress error
      | ok peer => exact .returned peer

inductive Accepts (transport : Transport Exc Address) :
    Except (Raised Exc) (Turn (AcceptedConnection Address)) → Transport Exc Address → Prop
  | suspended {mode : RetryMode} {next : Transport Exc Address}
      (tried : Tries .socketAccept .accept transport (.ok (.suspended mode)) next) :
      Accepts transport (.ok (.suspended mode)) next
  | raised {error : Raised Exc} {next : Transport Exc Address}
      (tried : Tries .socketAccept .accept transport (.error error) next) :
      Accepts transport (.error error) next
  | returned {address : Address} {peer : Option Address} {next : Transport Exc Address}
      (configures : Configures transport.handles.length (transport.afterAccept address)
        (.ok peer) next) :
      Accepts transport
        (.ok (.returned {
          stream := transport.handles.length
          peerAddress := peer.getD address })) next
  | rolledBack {address : Address} {primary : Exc} {middle next : Transport Exc Address}
      (configures : Configures transport.handles.length (transport.afterAccept address)
        (.error primary) middle)
      (closes : Closes transport.handles.length middle (.ok ()) next) :
      Accepts transport (.error (.external primary)) next
  | left {address : Address} {primary cleanup : Exc} {middle next : Transport Exc Address}
      (configures : Configures transport.handles.length (transport.afterAccept address)
        (.error primary) middle)
      (closes : Closes transport.handles.length middle (.error cleanup) next) :
      Accepts transport
        (.error (.acquisitionFailure {
          primaryError := primary
          transaction := ({} : Transaction Exc).add "accepted-connection".toList
            transport.handles.length (some cleanup)
          handle := transport.handles.length })) next

/-- Whatever a rollback raises is what `accept` raises. -/
theorem rollBack_spec {Result : Type} {address : Address} {primary : Exc}
    {middle : Transport Exc Address}
    (configures : Configures transport.handles.length (transport.afterAccept address)
      (.error primary) middle) :
    Ends (rollBack kernel transport.handles.length primary) middle
      fun (result : Except (Raised Exc) Result) next =>
        ∃ error, result = .error error ∧ Accepts transport (.error error) next := by
  unfold rollBack
  rw [ends_bind, ends_tryExcept]
  apply (close_spec transport.handles.length).mono
  intro result next closes
  cases result with
  | ok value => exact ⟨_, rfl, .rolledBack configures closes⟩
  | error cleanup => exact ⟨_, rfl, .left configures closes⟩

theorem accept_spec : Ends (accept kernel) transport (Accepts transport) := by
  unfold accept
  rw [ends_bind]
  apply (tryCall_spec .socketAccept .accept).mono
  intro result next tried
  cases tried with
  | suspended error mode => exact .suspended (.suspended error mode)
  | raised error => exact .raised (.raised error)
  | confused first error => exact .raised (.confused first error)
  | returned address =>
      dsimp only
      unfold newHandle
      simp only [ends_bind, ends_get, ends_modify, ends_pure, ends_tryExcept]
      apply (configure_spec transport.handles.length).mono
      intro result middle configures
      cases result with
      | ok peer => exact .returned configures
      | error primary =>
          apply (rollBack_spec configures).mono
          rintro result next ⟨error, rfl, accepts⟩
          exact accepts

inductive Receives (stream : StreamId) (size : Nat) (transport : Transport Exc Address) :
    Except (Raised Exc) (Turn Bytes) → Transport Exc Address → Prop
  | suspended {mode : RetryMode} {next : Transport Exc Address}
      (tried : Tries (.socketRecv stream size) .recv transport (.ok (.suspended mode)) next) :
      Receives stream size transport (.ok (.suspended mode)) next
  | raised {error : Raised Exc} {next : Transport Exc Address}
      (tried : Tries (.socketRecv stream size) .recv transport (.error error) next) :
      Receives stream size transport (.error error) next
  | returned (data : Bytes) :
      Receives stream size transport (.ok (.returned data))
        (transport.note (.socketRecv stream size) (.ok (some data)))
  | notBytes :
      Receives stream size transport
        (.error (.typeError "the active kernel returned non-bytes socket data"))
        (transport.note (.socketRecv stream size) (.ok none))

theorem recv_spec (stream : StreamId) (size : Nat) :
    Ends (recv kernel stream size) transport (Receives stream size transport) := by
  unfold recv
  rw [ends_bind]
  apply (tryCall_spec (.socketRecv stream size) .recv).mono
  intro result next tried
  cases tried with
  | suspended error mode => exact .suspended (.suspended error mode)
  | raised error => exact .raised (.raised error)
  | confused first error => exact .raised (.confused first error)
  | returned data =>
      cases data with
      | none => exact .notBytes
      | some data => exact .returned data

end Turns

section Growth

variable {transport middle next : Transport Exc Address}

/-- The log and the handles only grow, and what is closed stays closed. -/
structure Grows (transport next : Transport Exc Address) : Prop where
  log : transport.log ⊆ next.log
  handles : transport.handles.length ≤ next.handles.length
  closed : ∀ stream, transport.isClosed stream = true → next.isClosed stream = true

theorem Grows.refl (transport : Transport Exc Address) : Grows transport transport where
  log := List.Subset.refl _
  handles := le_rfl
  closed := fun _ closed => closed

theorem Grows.trans (first : Grows transport middle) (second : Grows middle next) :
    Grows transport next where
  log := List.Subset.trans first.log second.log
  handles := first.handles.trans second.handles
  closed := fun stream closed => second.closed stream (first.closed stream closed)

theorem Calm.grows (calm : Calm transport next) : Grows transport next where
  log := by
    obtain ⟨more, grown, -⟩ := calm.log
    rw [grown]
    exact List.subset_append_left _ _
  handles := calm.handles ▸ le_rfl
  closed := by
    intro stream closed
    unfold Transport.isClosed
    rw [calm.handles]
    exact closed

@[simp] theorem afterAccept_handles (address : Address) :
    (transport.afterAccept address).handles = transport.handles ++ [({} : TransportHandle Exc)] :=
  rfl

theorem afterAccept_grows (address : Address) :
    Grows transport (transport.afterAccept address) where
  log := List.subset_append_left _ _
  handles := by
    rw [afterAccept_handles, List.length_append]
    exact Nat.le_add_right _ _
  closed := by
    intro stream closed
    unfold Transport.isClosed at closed ⊢
    rw [afterAccept_handles, List.getElem?_append]
    split
    · exact closed
    · rename_i past
      rw [List.getElem?_eq_none (Nat.le_of_not_lt past)] at closed
      cases closed

theorem refused_quiet {call : KernelCall} (error : Exc)
    (noClose : ∀ stream, call ≠ .socketClose stream) :
    Quiet transport (transport.note call (.error error)) := by
  cases call with
  | socketClose stream => exact absurd rfl (noClose stream)
  | _ => exact .note rfl fun stream => ⟨rfl, rfl⟩

theorem retryMode_quiet {operation : RetriedOperation}
    (answer : Except Exc (Option RetryMode)) :
    Quiet transport (transport.note (.socketRetryMode operation) answer) := by
  cases answer <;> exact .note rfl fun stream => ⟨rfl, rfl⟩

theorem Tries.suspended_quiet {call : KernelCall} {operation : RetriedOperation}
    {mode : RetryMode} (noClose : ∀ stream, call ≠ .socketClose stream)
    (tried : Tries call operation transport (.ok (.suspended mode)) next) :
    Quiet transport next := by
  cases tried with
  | suspended error _ => exact (refused_quiet error noClose).trans (retryMode_quiet _)

/-- A call that raises has only asked, and raises what it or `socket_retry_mode` raised. -/
theorem Tries.raised_quiet {call : KernelCall} {operation : RetriedOperation}
    {raised : Raised Exc} (tried : Tries call operation transport (.error raised) next)
    (noClose : ∀ stream, call ≠ .socketClose stream) :
    Quiet transport next ∧ ∃ error, raised = .external error ∧ RaisedInCall next.log error := by
  cases tried with
  | raised error =>
      refine ⟨(refused_quiet error noClose).trans (retryMode_quiet _), error, rfl, call, noClose,
        ?_⟩
      simp [Transport.note]
  | confused first error =>
      refine ⟨(refused_quiet first noClose).trans (retryMode_quiet _), error, rfl,
        .socketRetryMode operation, nofun, ?_⟩
      simp [Transport.note]

/-- The setup of a stream only asks. Where it returns, the stream does not block any more;
where it raises, one of its two calls did. -/
theorem Configures.quiet {stream : StreamId} {result : Except Exc (Option Address)}
    (configures : Configures stream transport result next) : Quiet transport next := by
  have unblocked : ∀ answer : Except Exc Unit,
      Quiet transport (transport.note (.socketSetblocking stream false) answer) := by
    intro answer
    cases answer <;> exact .note rfl fun stream => ⟨rfl, rfl⟩
  have asked : ∀ (start : Transport Exc Address) (answer : Except Exc (Option Address)),
      Quiet start (start.note (.socketPeerAddress stream) answer) := by
    intro start answer
    cases answer <;> exact .note rfl fun stream => ⟨rfl, rfl⟩
  cases configures with
  | returned peer => exact (unblocked _).trans (asked _ _)
  | setblocking error => exact unblocked _
  | peerAddress error => exact (unblocked _).trans (asked _ _)

def RaisedInSetup (stream : StreamId) (log : List (Entry Exc Address)) (error : Exc) : Prop :=
  ⟨.socketSetblocking stream false, .error error⟩ ∈ log ∨
    ⟨.socketPeerAddress stream, .error error⟩ ∈ log

theorem RaisedInSetup.inCall {stream : StreamId} {log : List (Entry Exc Address)} {error : Exc}
    (raised : RaisedInSetup stream log error) : RaisedInCall log error := by
  rcases raised with first | second
  · exact ⟨.socketSetblocking stream false, nofun, first⟩
  · exact ⟨.socketPeerAddress stream, nofun, second⟩

theorem Configures.unblocked {stream : StreamId} {peer : Option Address}
    (configures : Configures stream transport (.ok peer) next) :
    ⟨.socketSetblocking stream false, .ok ()⟩ ∈ next.log := by
  cases configures with
  | returned _ => simp [Transport.note]

theorem Configures.raised {stream : StreamId} {error : Exc}
    (configures : Configures stream transport (.error error) next) :
    RaisedInSetup stream next.log error := by
  cases configures with
  | setblocking _ => exact .inl (by simp [Transport.note])
  | peerAddress _ => exact .inr (by simp [Transport.note])

section Closing

variable {stream : StreamId} {result : Except Exc Unit}

theorem isClosed_setHandle (transport : Transport Exc Address)
    {handle : TransportHandle Exc} (other : StreamId)
    (inside : stream < transport.handles.length) :
    (transport.setHandle stream handle).isClosed other =
      if stream = other then handle.closed else transport.isClosed other := by
  unfold Transport.isClosed Transport.setHandle
  dsimp only
  rw [List.getElem?_set]
  split
  · rfl
  · rfl

theorem isClosed_of_found {handle : TransportHandle Exc}
    (found : transport.handles[stream]? = some handle) :
    transport.isClosed stream = handle.closed := by
  unfold Transport.isClosed
  rw [found]
  rfl

theorem Closes.sound (closes : Closes stream transport result next) (sound : transport.Sound) :
    next.Sound := by
  cases closes with
  | unknown missing => exact sound
  | already found closed => exact sound
  | closed found unclosed => exact sound.closeAnswered found unclosed (.ok ()) rfl
  | failed found unclosed error => exact sound.closeAnswered found unclosed (.error error) rfl

theorem closeAnswered_grows {handle later : TransportHandle Exc} {answer : Except Exc Unit}
    (found : transport.handles[stream]? = some handle) (unclosed : handle.closed = false) :
    Grows transport
      ((transport.note (.socketClose stream) answer).setHandle stream later) where
  log := List.subset_append_left _ _
  handles := by
    unfold Transport.setHandle
    dsimp only
    rw [List.length_set]
    exact le_rfl
  closed := by
    intro other closed
    obtain ⟨inside, -⟩ := List.getElem?_eq_some_iff.mp found
    rw [isClosed_setHandle (transport.note _ _) other inside]
    split
    · rename_i same
      rw [← same, isClosed_of_found found, unclosed] at closed
      cases closed
    · exact closed

theorem Closes.grows (closes : Closes stream transport result next) : Grows transport next := by
  cases closes with
  | unknown missing => exact Grows.refl _
  | already found closed => exact Grows.refl _
  | closed found unclosed => exact closeAnswered_grows found unclosed
  | failed found unclosed error => exact closeAnswered_grows found unclosed

theorem Closes.handles_length (closes : Closes stream transport result next) :
    next.handles.length = transport.handles.length := by
  cases closes with
  | unknown missing => rfl
  | already found closed => rfl
  | closed found unclosed => exact List.length_set
  | failed found unclosed error => exact List.length_set

theorem Closes.delivered_same (closes : Closes stream transport result next) (other : StreamId) :
    delivered other next.log = delivered other transport.log := by
  have silent : ∀ answer : Except Exc Unit,
      delivered other (transport.note (.socketClose stream) answer).log =
        delivered other transport.log := by
    intro answer
    unfold Transport.note
    rw [delivered_append]
    exact List.append_nil _
  cases closes with
  | unknown missing => rfl
  | already found closed => rfl
  | closed found unclosed => exact silent _
  | failed found unclosed error => exact silent _

theorem Closes.closed_of_ok (closes : Closes stream transport (.ok ()) next)
    (inside : stream < transport.handles.length) : next.isClosed stream = true := by
  cases closes with
  | unknown missing => exact absurd (List.getElem?_eq_none_iff.mp missing) (Nat.not_le_of_lt inside)
  | already found closed => exact (isClosed_of_found found).trans closed
  | closed found unclosed =>
      rw [isClosed_setHandle (transport.note _ _) stream inside, if_pos rfl]

theorem Closes.raised {error : Exc} (closes : Closes stream transport (.error error) next) :
    ⟨.socketClose stream, .error error⟩ ∈ next.log := by
  cases closes with
  | failed found unclosed _ => simp [Transport.note, Transport.setHandle]

end Closing

end Growth

section Ownership

variable {kernel : Kernel Exc Address} {world : World Exc Address}
  {transport next : Transport Exc Address} {labels : List (Label Exc)} {label : Label Exc}

/-- What a failure has: the first error of the setup, and the action that closes the handle
until that has happened, with the error of its last failure. -/
structure AcquisitionFailure.Keeps (failure : AcquisitionFailure Exc)
    (transport : Transport Exc Address) : Prop where
  primary : RaisedInSetup failure.handle transport.log failure.primaryError
  transferred : failure.transferred = true → failure.transaction = {}
  owned : failure.transferred = false →
    (failure.transaction.pendingActions = [failure.handle] ∧
      ∃ error, failure.transaction.errorList = [error] ∧
        ⟨.socketClose failure.handle, .error error⟩ ∈ transport.log) ∨
    (failure.transaction.complete = true ∧ transport.isClosed failure.handle = true)
  consistent : Owned failure.transaction

structure World.Sound (labels : List (Label Exc)) (world : World Exc Address) : Prop where
  transport : world.transport.Sound
  once : (world.returned ++ world.failed).Nodup
  born : ∀ stream ∈ world.returned ++ world.failed, stream < world.transport.handles.length
  ownerless : ∀ stream, stream < world.transport.handles.length →
    stream ∉ world.returned ++ world.failed → world.transport.isClosed stream = true
  unblocked : ∀ stream ∈ world.returned,
    ⟨.socketSetblocking stream false, .ok ()⟩ ∈ world.transport.log
  keeps : ∀ failure ∈ world.failures, failure.Keeps world.transport
  received : ∀ stream, received stream world.outcomes = delivered stream world.transport.log
  truthful : ∀ task error, (task, .raised error) ∈ world.outcomes →
    RaisedInCall world.transport.log error ∨ .interrupted task error ∈ labels

theorem AcquisitionFailure.Keeps.grows {failure : AcquisitionFailure Exc}
    (keeps : failure.Keeps transport) (grows : Grows transport next) : failure.Keeps next where
  primary := keeps.primary.imp (grows.log ·) (grows.log ·)
  transferred := keeps.transferred
  owned := fun own => (keeps.owned own).imp
    (fun ⟨pending, error, errors, member⟩ => ⟨pending, error, errors, grows.log member⟩)
    (fun ⟨complete, closed⟩ => ⟨complete, grows.closed _ closed⟩)
  consistent := keeps.consistent

theorem RaisedInCall.grows {error : Exc} (raised : RaisedInCall transport.log error)
    (grows : Grows transport next) : RaisedInCall next.log error := by
  obtain ⟨call, noClose, member⟩ := raised
  exact ⟨call, noClose, grows.log member⟩

/-- A step that neither hands out nor gives bytes, and after which the outcomes are the same. -/
theorem World.Sound.move (sound : world.Sound labels) (grows : Grows world.transport next)
    (nextSound : next.Sound) (handles : next.handles.length = world.transport.handles.length)
    (silent : ∀ stream, delivered stream next.log = delivered stream world.transport.log) :
    World.Sound (labels ++ [label]) { world with transport := next } where
  transport := nextSound
  once := sound.once
  born := fun stream member => handles ▸ sound.born stream member
  ownerless := fun stream inside unowned =>
    grows.closed stream (sound.ownerless stream (handles ▸ inside) unowned)
  unblocked := fun stream member => grows.log (sound.unblocked stream member)
  keeps := fun failure member => (sound.keeps failure member).grows grows
  received := fun stream => (sound.received stream).trans (silent stream).symm
  truthful := fun task error member => (sound.truthful task error member).imp
    (fun raised => raised.grows grows) (List.mem_append_left _)

theorem World.Sound.quiet (sound : world.Sound labels) (quiet : Quiet world.transport next) :
    World.Sound (labels ++ [label]) { world with transport := next } :=
  sound.move quiet.toCalm.grows (sound.transport.calm quiet.toCalm)
    (congrArg List.length quiet.handles) quiet.delivered

theorem World.Sound.withPending (sound : world.Sound labels)
    (pending : OrderedDict TaskId (Call × RetryMode)) :
    World.Sound labels { world with pending } :=
  { sound with }

theorem returned_conclude (task : TaskId) {outcome : Outcome Exc Address}
    (plain : ∀ connection, outcome ≠ .accepted connection) :
    (world.conclude task next outcome).returned = world.returned := by
  unfold World.returned World.conclude
  rw [List.filterMap_append]
  cases outcome with
  | accepted connection => exact absurd rfl (plain connection)
  | _ => exact List.append_nil _

theorem received_conclude (task : TaskId) {outcome : Outcome Exc Address} (stream : StreamId)
    (noBytes : ∀ read data, outcome ≠ .received read data) :
    received stream (world.conclude task next outcome).outcomes =
      received stream world.outcomes := by
  unfold received World.conclude
  rw [List.filterMap_append]
  cases outcome with
  | received read data => exact absurd rfl (noBytes read data)
  | _ => exact List.append_nil _

/-- With one more outcome, what the calls raised is still what was raised to them. -/
theorem World.Sound.truthful_conclude {told : List (Label Exc)} (sound : world.Sound labels)
    (known : labels ⊆ told) (grows : Grows world.transport next) (task : TaskId)
    {outcome : Outcome Exc Address}
    (truly : ∀ error, outcome = .raised error →
      RaisedInCall next.log error ∨ .interrupted task error ∈ told) (ended : TaskId) (error : Exc)
    (member : (ended, .raised error) ∈ (world.conclude task next outcome).outcomes) :
    RaisedInCall next.log error ∨ .interrupted ended error ∈ told := by
  rcases List.mem_append.mp member with earlier | last
  · exact (sound.truthful ended error earlier).imp (fun raised => raised.grows grows) (known ·)
  · cases List.mem_singleton.mp last
    exact truly error rfl

theorem World.Sound.concluded (sound : world.Sound labels) (task : TaskId)
    (outcome : Outcome Exc Address) (plain : ∀ connection, outcome ≠ .accepted connection)
    (noBytes : ∀ stream data, outcome ≠ .received stream data)
    (truly : ∀ error, outcome = .raised error →
      RaisedInCall world.transport.log error ∨ .interrupted task error ∈ labels) :
    (world.conclude task world.transport outcome).Sound labels := by
  have returned : (world.conclude task world.transport outcome).returned = world.returned :=
    returned_conclude task plain
  refine { sound with once := ?_, born := ?_, ownerless := ?_, unblocked := ?_, received := ?_
                      truthful := ?_ }
  · rw [returned]
    exact sound.once
  · rw [returned]
    exact sound.born
  · rw [returned]
    exact sound.ownerless
  · rw [returned]
    exact sound.unblocked
  · exact fun stream => (received_conclude task stream noBytes).trans (sound.received stream)
  · exact sound.truthful_conclude (List.Subset.refl labels) (Grows.refl _) task truly

theorem World.Sound.owned (sound : world.Sound labels) (later : World Exc Address)
    (grows : Grows world.transport later.transport)
    (handles : later.transport.handles.length = world.transport.handles.length + 1)
    {new : List StreamId} (owners : (later.returned ++ later.failed).Perm
      (world.returned ++ world.failed ++ new))
    (owner : new = [world.transport.handles.length] ∨
      new = [] ∧ later.transport.isClosed world.transport.handles.length = true) :
    (later.returned ++ later.failed).Nodup ∧
      (∀ stream ∈ later.returned ++ later.failed, stream < later.transport.handles.length) ∧
      ∀ stream, stream < later.transport.handles.length →
        stream ∉ later.returned ++ later.failed → later.transport.isClosed stream = true := by
  have newest : ∀ stream ∈ new, stream = world.transport.handles.length := by
    rcases owner with rfl | ⟨rfl, -⟩
    · exact fun stream member => List.mem_singleton.mp member
    · exact nofun
  refine ⟨?_, ?_, ?_⟩
  · rw [owners.nodup_iff, List.nodup_append]
    refine ⟨sound.once, ?_, ?_⟩
    · rcases owner with rfl | ⟨rfl, -⟩
      · exact List.nodup_singleton _
      · exact List.nodup_nil
    · intro old oldMember fresh freshMember same
      have below := sound.born old oldMember
      rw [same, newest fresh freshMember] at below
      exact Nat.lt_irrefl _ below
  · intro stream member
    rw [handles]
    rcases List.mem_append.mp (owners.mem_iff.mp member) with old | fresh
    · exact Nat.lt_succ_of_lt (sound.born stream old)
    · rw [newest stream fresh]
      exact Nat.lt_succ_self _
  · intro stream inside unowned
    rw [owners.mem_iff, List.mem_append, not_or] at unowned
    rw [handles] at inside
    rcases Nat.lt_succ_iff_lt_or_eq.mp inside with old | rfl
    · exact grows.closed stream (sound.ownerless stream old unowned.1)
    · rcases owner with rfl | ⟨rfl, closed⟩
      · exact absurd (List.mem_singleton_self _) unowned.2
      · exact closed

theorem afterAccept_delivered (address : Address) (stream : StreamId) :
    delivered stream (transport.afterAccept address).log = delivered stream transport.log := by
  change delivered stream (transport.log ++ [⟨.socketAccept, .ok address⟩]) = _
  rw [delivered_append]
  exact List.append_nil _

structure Opens (transport next : Transport Exc Address) : Prop where
  grows : Grows transport next
  sound : transport.Sound → next.Sound
  handles : next.handles.length = transport.handles.length + 1
  delivered : ∀ stream, delivered stream next.log = delivered stream transport.log

theorem Configures.opens {address : Address} {result : Except Exc (Option Address)}
    (configures : Configures transport.handles.length (transport.afterAccept address)
      result next) : Opens transport next where
  grows := (afterAccept_grows address).trans configures.quiet.toCalm.grows
  sound := fun sound => (sound.accepted address).calm configures.quiet.toCalm
  handles := by
    rw [configures.quiet.handles, afterAccept_handles, List.length_append]
    rfl
  delivered := fun stream =>
    (configures.quiet.delivered stream).trans (afterAccept_delivered address stream)

theorem Opens.closes {middle : Transport Exc Address} {stream : StreamId}
    {result : Except Exc Unit} (opens : Opens transport middle)
    (closes : Closes stream middle result next) : Opens transport next where
  grows := opens.grows.trans closes.grows
  sound := fun sound => closes.sound (opens.sound sound)
  handles := closes.handles_length.trans opens.handles
  delivered := fun stream => (closes.delivered_same stream).trans (opens.delivered stream)

theorem World.Sound.accepted (sound : world.Sound labels) (task : TaskId) (peer : Address)
    (opens : Opens world.transport next)
    (unblocked : ⟨.socketSetblocking world.transport.handles.length false, .ok ()⟩ ∈ next.log) :
    (world.conclude task next (.accepted {
      stream := world.transport.handles.length
      peerAddress := peer })).Sound (labels ++ [label]) := by
  have returned : (world.conclude task next (.accepted {
      stream := world.transport.handles.length
      peerAddress := peer })).returned = world.returned ++ [world.transport.handles.length] := by
    unfold World.returned World.conclude
    rw [List.filterMap_append]
    rfl
  have owners : ((world.conclude task next (.accepted {
      stream := world.transport.handles.length
      peerAddress := peer })).returned ++ world.failed).Perm
        (world.returned ++ world.failed ++ [world.transport.handles.length]) := by
    rw [returned, List.append_assoc, List.append_assoc]
    exact List.perm_append_comm.append_left _
  obtain ⟨once, born, ownerless⟩ := sound.owned _ opens.grows opens.handles owners (.inl rfl)
  refine ⟨opens.sound sound.transport, once, born, ownerless, ?_, ?_, ?_, ?_⟩
  · intro stream member
    rw [returned] at member
    rcases List.mem_append.mp member with old | fresh
    · exact opens.grows.log (sound.unblocked stream old)
    · rw [List.mem_singleton.mp fresh]
      exact unblocked
  · exact fun failure member => (sound.keeps failure member).grows opens.grows
  · intro stream
    have same := (sound.received stream).trans (opens.delivered stream).symm
    refine (received_conclude task stream ?_).trans same
    exact nofun
  · exact sound.truthful_conclude (List.subset_append_left labels _) opens.grows task nofun

theorem World.Sound.opened (sound : world.Sound labels) (opens : Opens world.transport next)
    (more : List (AcquisitionFailure Exc))
    (owner : more.map AcquisitionFailure.handle = [world.transport.handles.length] ∨
      more.map AcquisitionFailure.handle = [] ∧
        next.isClosed world.transport.handles.length = true)
    (keeps : ∀ failure ∈ more, failure.Keeps next) :
    World.Sound (labels ++ [label])
      { world with transport := next, failures := world.failures ++ more } := by
  have owners : (world.returned ++ (world.failures ++ more).map AcquisitionFailure.handle).Perm
      (world.returned ++ world.failed ++ more.map AcquisitionFailure.handle) := by
    rw [List.map_append, ← List.append_assoc]
    exact List.Perm.refl _
  let later : World Exc Address :=
    { world with transport := next, failures := world.failures ++ more }
  obtain ⟨once, born, ownerless⟩ :=
    sound.owned later opens.grows opens.handles owners owner
  refine ⟨opens.sound sound.transport, once, born, ownerless, ?_, ?_, ?_, ?_⟩
  · exact fun stream member => opens.grows.log (sound.unblocked stream member)
  · intro failure member
    rcases List.mem_append.mp member with old | new
    · exact (sound.keeps failure old).grows opens.grows
    · exact keeps failure new
  · exact fun stream => (sound.received stream).trans (opens.delivered stream).symm
  · exact fun task error member => (sound.truthful task error member).imp
      (fun raised => raised.grows opens.grows) (List.mem_append_left _)

theorem newFailure_keeps {primary cleanup : Exc} {stream : StreamId}
    (setup : RaisedInSetup stream transport.log primary)
    (cleaned : ⟨.socketClose stream, .error cleanup⟩ ∈ transport.log) :
    AcquisitionFailure.Keeps {
      primaryError := primary
      transaction := ({} : Transaction Exc).add "accepted-connection".toList stream (some cleanup)
      handle := stream } transport where
  primary := setup
  transferred := nofun
  owned := fun _ => .inl ⟨add_pendingActions _ _ _ _, cleanup, rfl, cleaned⟩
  consistent := add_owned (fun key member => absurd member (AList.notMem_empty key)) _ _ _

theorem settle_accepts (sound : world.Sound labels) (task : TaskId)
    {result : Except (Raised Exc) (Turn (AcceptedConnection Address))}
    (accepts : Accepts world.transport result next) :
    (world.settle task .accept .accepted result next).Sound (labels ++ [label]) := by
  have noClose : ∀ stream, KernelCall.socketAccept ≠ .socketClose stream := nofun
  cases accepts with
  | suspended tried =>
      have quiet := tried.suspended_quiet noClose
      exact (sound.quiet quiet).withPending _
  | raised tried =>
      obtain ⟨quiet, error, rfl, raised⟩ := tried.raised_quiet noClose
      exact (sound.quiet quiet).concluded task (.raised error) nofun nofun
        fun _ same => by cases same; exact .inl raised
  | returned configures => exact sound.accepted task _ configures.opens configures.unblocked
  | rolledBack configures closes =>
      rename_i address primary middle
      have inside : world.transport.handles.length < middle.handles.length := by
        rw [configures.opens.handles]
        exact Nat.lt_succ_self _
      have opened : World.Sound (labels ++ [label])
          { world with transport := next, failures := world.failures ++ [] } :=
        sound.opened (configures.opens.closes closes) []
          (.inr ⟨rfl, closes.closed_of_ok inside⟩) nofun
      rw [List.append_nil] at opened
      exact opened.concluded task (.raised primary) nofun nofun fun _ same => by
        cases same
        exact .inl (configures.raised.inCall.grows closes.grows)
  | left configures closes =>
      rename_i address primary cleanup middle
      have setup : RaisedInSetup world.transport.handles.length next.log primary :=
        configures.raised.imp (closes.grows.log ·) (closes.grows.log ·)
      exact (sound.opened (configures.opens.closes closes) [_] (.inl rfl) fun failure member => by
        rw [List.mem_singleton.mp member]
        exact newFailure_keeps setup closes.raised).concluded task
          (.acquisitionFailure world.transport.handles.length) nofun nofun nofun

theorem World.Sound.receives (sound : world.Sound labels) (task : TaskId) {stream : StreamId}
    {size : Nat} (data : Bytes) :
    (world.conclude task (world.transport.note (.socketRecv stream size) (.ok (some data)))
      (.received stream data)).Sound (labels ++ [label]) := by
  have calm : Calm world.transport
      (world.transport.note (.socketRecv stream size) (.ok (some data))) :=
    ⟨rfl, _, rfl, rfl, fun _ => rfl⟩
  have returned : (world.conclude task
      (world.transport.note (.socketRecv stream size) (.ok (some data)))
      (.received stream data)).returned = world.returned :=
    returned_conclude task nofun
  refine ⟨sound.transport.calm calm, ?_, ?_, ?_, ?_, ?_, ?_, ?_⟩
  · rw [returned]
    exact sound.once
  · rw [returned]
    exact sound.born
  · rw [returned]
    exact sound.ownerless
  · rw [returned]
    exact fun other member => calm.grows.log (sound.unblocked other member)
  · exact fun failure member => (sound.keeps failure member).grows calm.grows
  · intro other
    have before := sound.received other
    unfold TransportStreams.received World.conclude Transport.note at *
    rw [List.filterMap_append, before, delivered_append]
    rfl
  · exact sound.truthful_conclude (List.subset_append_left labels _) calm.grows task nofun

theorem settle_receives (sound : world.Sound labels) (task : TaskId) {stream : StreamId}
    {size : Nat} {result : Except (Raised Exc) (Turn Bytes)}
    (receives : Receives stream size world.transport result next) :
    (world.settle task (.recv stream size) (.received stream) result next).Sound
      (labels ++ [label]) := by
  have noClose : ∀ other, KernelCall.socketRecv stream size ≠ .socketClose other := nofun
  cases receives with
  | suspended tried =>
      have quiet := tried.suspended_quiet noClose
      exact (sound.quiet quiet).withPending _
  | raised tried =>
      obtain ⟨quiet, error, rfl, raised⟩ := tried.raised_quiet noClose
      exact (sound.quiet quiet).concluded task (.raised error) nofun nofun
        fun _ same => by cases same; exact .inl raised
  | notBytes =>
      have quiet : Quiet world.transport
          (world.transport.note (.socketRecv stream size) (.ok none)) :=
        .note rfl fun _ => ⟨rfl, rfl⟩
      exact (sound.quiet quiet).concluded task (.typeError _) nofun nofun nofun
  | returned data => exact sound.receives task data

theorem turn_sound (sound : world.Sound labels) (task : TaskId) (call : Call) :
    (world.turn kernel task call).Sound (labels ++ [label]) := by
  cases call with
  | accept => exact settle_accepts sound task accept_spec
  | recv stream size => exact settle_receives sound task (recv_spec stream size)

theorem close_sound (sound : world.Sound labels) (stream : StreamId) :
    (world.closeStream kernel stream).Sound (labels ++ [label]) := by
  have closes : Ends (close kernel stream) world.transport (Closes stream world.transport) :=
    close_spec stream
  exact sound.move (Closes.grows closes) (Closes.sound closes sound.transport)
    (Closes.handles_length closes) (Closes.delivered_same closes)

theorem World.Sound.replaced (sound : world.Sound labels) {index : Nat}
    {failure later : AcquisitionFailure Exc} (kept : world.failures[index]? = some failure)
    (same : later.handle = failure.handle) (keeps : later.Keeps world.transport) :
    World.Sound labels { world with failures := world.failures.set index later } := by
  have failed : (world.failures.set index later).map AcquisitionFailure.handle = world.failed := by
    obtain ⟨inside, found⟩ := List.getElem?_eq_some_iff.mp kept
    unfold World.failed
    rw [List.map_set, same]
    apply List.ext_getElem?
    intro other
    rw [List.getElem?_set]
    split
    · rename_i here
      rw [← here, List.getElem?_map, kept]
      rw [if_pos (by rw [List.length_map]; exact inside)]
      rfl
    · rfl
  have owners : World.returned { world with failures := world.failures.set index later } ++
      World.failed { world with failures := world.failures.set index later } =
        world.returned ++ world.failed := by
    unfold World.failed at failed ⊢
    rw [failed]
    rfl
  refine { sound with once := ?_, born := ?_, ownerless := ?_, keeps := ?_ }
  · rw [owners]
    exact sound.once
  · rw [owners]
    exact sound.born
  · rw [owners]
    exact sound.ownerless
  · intro other member
    rcases List.mem_or_eq_of_mem_set member with old | rfl
    · exact sound.keeps other old
    · exact keeps

theorem World.Sound.later (sound : world.Sound labels) : world.Sound (labels ++ [label]) :=
  { sound with
    truthful := fun task error member =>
      (sound.truthful task error member).imp_right (List.mem_append_left _) }

/-- A retry of a failure whose action is left closes its handle or keeps the new error. -/
theorem retried_keeps {failure : AcquisitionFailure Exc} {result : Except Exc Unit}
    {raised : Option Exc} (keeps : failure.Keeps transport)
    (inside : failure.handle < transport.handles.length)
    (incomplete : ¬failure.transaction.complete = true)
    (same : raised = match result with
      | .ok () => none
      | .error error => some error)
    (closes : Closes failure.handle transport result next) :
    AcquisitionFailure.Keeps
      { failure with transaction := (failure.transaction.retry fun _ => raised).1 } next := by
  have own : failure.transferred = false := by
    cases transferred : failure.transferred with
    | false => rfl
    | true =>
        rw [keeps.transferred transferred] at incomplete
        exact absurd rfl incomplete
  have pending : failure.transaction.pendingActions = [failure.handle] := by
    rcases keeps.owned own with ⟨pending, -⟩ | ⟨complete, -⟩
    · exact pending
    · exact absurd complete incomplete
  have left : (failure.transaction.retry fun _ => raised).1.pendingActions =
      [failure.handle].filter (fails fun _ => raised) := by
    rw [(retry_spec _ _).2, pending]
  refine ⟨(keeps.grows closes.grows).primary, ?_, fun _ => ?_, retry_owned keeps.consistent⟩
  · intro transferred
    exact absurd (own.symm.trans transferred) nofun
  · cases result with
    | ok value =>
        refine .inr ⟨?_, closes.closed_of_ok inside⟩
        rw [complete_iff, left, same]
        rfl
    | error error =>
        have still : (failure.transaction.retry fun _ => raised).1.pendingActions =
            [failure.handle] := by
          rw [left, same]
          rfl
        refine .inl ⟨still, error, ?_, closes.raised⟩
        have errors : (failure.transaction.retry fun _ => raised).1.errorList.Perm
            ((failure.transaction.retry fun _ => raised).1.pendingActions.filterMap
              fun _ => raised) := retry_errorList keeps.consistent
        rw [still, same] at errors
        rw [same]
        exact List.perm_singleton.mp errors

theorem retry_sound (sound : world.Sound labels) {index : Nat}
    {failure : AcquisitionFailure Exc} (kept : world.failures[index]? = some failure) :
    (world.retryFailure kernel index failure).Sound (labels ++ [label]) := by
  unfold World.retryFailure
  split
  · exact sound.later
  · rename_i incomplete
    have member := List.mem_of_getElem? kept
    have inside : failure.handle < world.transport.handles.length :=
      sound.born _ (List.mem_append_right _ (List.mem_map_of_mem member))
    have closes : Ends (close kernel failure.handle) world.transport
      (Closes failure.handle world.transport) := close_spec failure.handle
    have moved : World.Sound (labels ++ [label])
        { world with transport := (outcome (close kernel failure.handle) world.transport).2 } :=
      close_sound sound failure.handle
    exact moved.replaced kept rfl
      (retried_keeps (sound.keeps failure member) inside incomplete rfl closes)

theorem transfer_sound (sound : world.Sound labels) {index : Nat}
    {failure : AcquisitionFailure Exc} (kept : world.failures[index]? = some failure) :
    (world.transferFailure index failure).Sound (labels ++ [label]) :=
  sound.later.replaced kept rfl {
    primary := (sound.keeps failure (List.mem_of_getElem? kept)).primary
    transferred := fun _ => rfl
    owned := nofun
    consistent := fun key member => absurd member (AList.notMem_empty key) }

theorem step_sound {later : World Exc Address} (sound : world.Sound labels)
    (step : Step kernel world label later) : later.Sound (labels ++ [label]) := by
  cases step with
  | calls free => exact turn_sound sound _ _
  | ready waiting => exact turn_sound (sound.withPending _) _ _
  | interrupted waiting =>
      rename_i task call mode error
      have told : Label.interrupted task error ∈ labels ++ [.interrupted task error] :=
        List.mem_append_right _ (List.mem_singleton_self _)
      exact (sound.withPending _).later.concluded task (.raised error) nofun nofun
        fun _ same => by cases same; exact .inr told
  | closes => exact close_sound sound _
  | retries kept => exact retry_sound sound kept
  | transfers kept => exact transfer_sound sound kept

theorem run_sound (run : Run (Step kernel) {} labels world) : world.Sound labels := by
  refine run.invariant ?_ fun labels world label later _ sound step => step_sound sound step
  refine ⟨⟨rfl, nofun, fun _ _ => rfl⟩, List.nodup_nil, nofun, ?_, nofun, nofun,
    fun _ => rfl, nofun⟩
  exact fun stream inside => absurd inside (Nat.not_lt_zero stream)

end Ownership

section Result

variable {kernel : Kernel Exc Address} {labels : List (Label Exc)} {world : World Exc Address}

end Result

section Samples

/-- The first accept has to wait; the second stream has no peer address, and its first close
fails. -/
def sampleKernel : Kernel Nat Nat where
  answers := fun number call =>
    match call with
    | .socketAccept => if number = 0 then .error 11 else .ok number
    | .socketSetblocking _ _ => .ok ()
    | .socketPeerAddress stream => if stream = 1 then .error 5 else .ok none
    | .socketRecv _ _ => .ok (some [104, 105])
    | .socketClose _ => if number = 8 then .error 9 else .ok ()
    | .socketRetryMode _ => .ok (some .read)

def sampleNext (world : World Nat Nat) : Label Nat → Option (World Nat Nat)
  | .calls task call =>
      if task ∈ world.pending then none else some (world.turn sampleKernel task call)
  | .ready task =>
      (world.pending.lookup task).map fun waiting =>
        { world with pending := world.pending.erase task }.turn sampleKernel task waiting.1
  | .retries index =>
      world.failures[index]?.map fun failure => world.retryFailure sampleKernel index failure
  | _ => none

def sampleLabels : List (Label Nat) :=
  [.calls 0 .accept, .ready 0, .calls 0 .accept, .calls 1 (.recv 0 16), .retries 0]

def sampleEnd : World Nat Nat := endOf sampleNext {} sampleLabels

end Samples

end SmallServer.TransportStreams
