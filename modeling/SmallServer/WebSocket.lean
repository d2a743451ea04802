import SmallServer.KernelTransport
import SmallServer.WebSocketFrames
import Mathlib.Logic.Function.Basic

/-!
# A WebSocket connection

`_WebSocketState` and the tasks that share it: the coordinator, the handler, the reader, the
writer, the deadline task, and any other tasks the application hands its `WebSocket` to. A
step is a stretch of one task between two points where it waits, or one turn of `send_all`.
A task that waits for a signal goes on whenever what it waits for holds; signals that only
let it wait again leave no trace. What the kernel, the runtime and the clock answer comes
with the step, as do the bytes of the two handshake responses. The protocol engine is a
parameter.
-/

namespace SmallServer.WebSocket

open SmallServer HttpValues KernelTransport WebSocketFrames

set_option autoImplicit false

section Values

inductive HandshakeState where
  | pending
  | accepting
  | rejecting
  | accepted
  | rejected
  | failed
deriving DecidableEq

/-- `handshake_state in {"pending", "accepting", "rejecting"}`. -/
def HandshakeState.undecided : HandshakeState → Bool
  | .pending => true
  | .accepting => true
  | .rejecting => true
  | _ => false

structure Disconnect where
  code : Nat
  reason : String
deriving DecidableEq

/-- The exceptions. `interrupt` is a `KeyboardInterrupt` or a `SystemExit`. -/
inductive Fault where
  | disconnect (disconnect : Disconnect)
  | state (message : String)
  | capacity (message : String)
  | value (message : String)
  | interrupt
  | generatorExit
  | other
deriving DecidableEq

inductive Payload where
  | text (value : String)
  | bytes (value : Bytes)
deriving DecidableEq

inductive MessageKind where
  | text
  | bytes
deriving DecidableEq

def encodeUtf8 (value : String) : Bytes := value.toUTF8.toList

def decodeUtf8 (data : Bytes) : Option String := String.fromUTF8? ⟨data.toArray⟩

def messageSize : Payload → Nat
  | .text value => (encodeUtf8 value).length
  | .bytes value => value.length

inductive Event where
  | textMessage (data : String) (finished : Bool)
  | bytesMessage (data : Bytes) (finished : Bool)
  | ping (payload : Bytes)
  | pong (payload : Bytes)
  | closeConnection (code : Nat) (reason : Option String)
deriving DecidableEq

def Event.isClose : Event → Bool
  | .closeConnection _ _ => true
  | _ => false

/-- The event of a message that is sent whole. -/
def messageEvent : Payload → Event
  | .text value => .textMessage value true
  | .bytes value => .bytesMessage value true

/-- `event.reason or ""`. -/
def closeReason (reason : Option String) : String := reason.getD ""

def closeEventSize (code : Nat) (reason : Option String) : Nat :=
  if code = 1005 then 0 else 2 + (encodeUtf8 (closeReason reason)).length

def validCloseCode (code : Nat) : Bool :=
  decide (1000 ≤ code ∧ code ≤ 1014 ∧ code ≠ 1004 ∧ code ≠ 1005 ∧ code ≠ 1006) ||
    decide (3000 ≤ code ∧ code ≤ 4999)

/-- The `Connection` of the protocol engine. `events` lists what the generator yields, each
with the state it is then in; a `none` is an exception. -/
structure Engine where
  State : Type
  create : State
  send : State → Event → Option (Bytes × State)
  receive : State → Bytes → Option State
  receiveEnd : State → Option State
  events : State → List (Event × State)

/-- `WebSocketConfig`, with the checks that the model relies on. Durations are in ticks. -/
structure WebSocketConfig where
  maxFramePayloadBytes : Nat := 1048576
  maxMessageBytes : Nat := 1048576
  maxInboundMessages : Nat := 16
  maxInboundBytes : Nat := 2097152
  maxOutboundCommands : Nat := 16
  maxOutboundBytes : Nat := 2097152
  writeChunkBytes : Nat := 16384
  handshakeTimeout : Nat := 10000
  idleTimeout : Nat := 300000
  pongTimeout : Nat := 10000
  writeTimeout : Nat := 30000
  closeTimeout : Nat := 5000
  deadlineResolution : Nat := 50
  limits_positive : 0 < maxFramePayloadBytes ∧ 0 < maxInboundMessages ∧ 0 < maxInboundBytes ∧
    0 < maxOutboundCommands ∧ 0 < maxOutboundBytes ∧ 0 < writeChunkBytes := by decide
  timeouts_positive : 0 < handshakeTimeout ∧ 0 < idleTimeout ∧ 0 < pongTimeout ∧
    0 < writeTimeout ∧ 0 < closeTimeout ∧ 0 < deadlineResolution := by decide
  frame_fits : maxFramePayloadBytes ≤ maxMessageBytes := by decide

end Values

section Tasks

/-- The tasks that are inside a call of the state. `deadline` rejects by itself, and the
coordinator enqueues its own Close. -/
inductive Caller where
  | handler
  | other (number : Nat)
  | deadline
  | coordinator
deriving DecidableEq

def Caller.isApplication : Caller → Bool
  | .handler => true
  | .other _ => true
  | _ => false

abbrev CommandId := Nat

structure OutboundCommand where
  event : Event
  size : Nat
  waiter : Option Caller
  done : Bool := false
  error : Option Fault := none
deriving DecidableEq

inductive Call where
  | idle
  | accepts (send : SendAll) (subprotocol : Option Text)
  | rejects (send : SendAll)
  | receives
  | sends (command : CommandId)
  | pings (command : CommandId) (generation : Nat)
  | closes (command : CommandId) (code : Nat) (reason : String)
  | lingers (code : Nat) (reason : String) (wakeAt : Nat)
deriving DecidableEq

inductive Outcome where
  | returned
  | message (payload : Payload)
  | raised (fault : Fault)
deriving DecidableEq

/-- Where `run_websocket_connection` stands. `leaving` is before its `finally` block. -/
inductive Coordinator where
  | starting
  | deciding
  | joining
  | closing
  | lingers (last wakeAt : Nat)
  | leaving
  | finished
deriving DecidableEq

/-- Where `_run_handler` stands. `ending` is in its `finally` block. -/
inductive HandlerTask where
  | absent
  | spawned
  | running
  | ending
  | ended
  | cancelled
deriving DecidableEq

inductive ReaderTask where
  | absent
  | spawned
  | receiving
  | ended
deriving DecidableEq

/-- Where `_run_writer` stands. `looping` is the head of its loops, where it also waits for
the outbox; `rest` is what `send_all` is still to be called with. -/
inductive WriterTask where
  | absent
  | looping
  | sends (command : CommandId) (send : SendAll) (rest : Bytes)
  | ended
deriving DecidableEq

inductive DeadlineTask where
  | absent
  | spawned
  | sleeps (wakeAt : Nat)
  | rejects
  | ended
deriving DecidableEq

/-- What becomes of a `cancel_task`: the task is closed where it waits, or an exception is
swallowed, or an interrupt comes out of it. -/
inductive Cancelling where
  | done
  | failed
  | interrupted
deriving DecidableEq

abbrev HandshakeBytes := { payload : Bytes // 0 < payload.length }

/-- `send_all` at its start. -/
def HandshakeBytes.send (response : HandshakeBytes) : SendAll where
  data := response.1
  offset := 0
  unfinished := response.2

/-- The answers of `cancel_task` within a step, and the response of a handler that is
closed before it decided. -/
structure Cancel where
  handler : Cancelling
  writer : Cancelling
  response : HandshakeBytes
deriving DecidableEq

end Tasks

/-- `_WebSocketState`, its tasks and the clock. Commands keep their place in `commands`, and
`outbox` holds places. The last fields are history: what was appended to the inbox, how
calls ended, what the engine serialized for the commands the writer took (nothing where it
raised) and what the kernel has taken of it. -/
structure WebSocketState (engine : Engine) where
  config : WebSocketConfig
  subprotocols : List Text := []
  offered : List Text := []
  trailingData : Bytes := []
  protocol : Option engine.State := none
  accepted : Bool := false
  rejected : Bool := false
  handshakeState : HandshakeState := .pending
  handshakeError : Option Fault := none
  shutdown : Bool := false
  peerClosed : Bool := false
  closeSent : Bool := false
  subprotocol : Option Text := none
  disconnect : Option Disconnect := none
  handlerError : Option Fault := none
  fatalError : Option Fault := none
  inbox : List Payload := []
  inboxBytes : Nat := 0
  outbox : List CommandId := []
  outboxBytes : Nat := 0
  writerBusy : Bool := false
  activeCommand : Option CommandId := none
  messageKind : Option MessageKind := none
  messageBuffer : Bytes := []
  messageBytes : Nat := 0
  guard : FrameGuard
  createdAt : Nat := 0
  lastActivity : Nat := 0
  pongDeadline : Option Nat := none
  pingGeneration : Nat := 0
  pendingPingGeneration : Option Nat := none
  pendingPingPayload : Option Bytes := none
  closeDeadline : Option Nat := none
  writeDeadline : Option Nat := none
  now : Nat := 0
  coordinator : Coordinator := .starting
  handler : HandlerTask := .absent
  reader : ReaderTask := .absent
  writer : WriterTask := .absent
  deadline : DeadlineTask := .absent
  calls : Caller → Call := fun _ => .idle
  commands : List OutboundCommand := []
  delivered : List Payload := []
  outcomes : List (Caller × Outcome) := []
  frames : List (CommandId × Option Bytes) := []
  wire : Bytes := []

namespace WebSocketState

variable {engine : Engine}

def initial (engine : Engine) (config : WebSocketConfig) (subprotocols offered : List Text)
    (trailingData : Bytes) (now : Nat) : WebSocketState engine where
  config
  subprotocols
  offered
  trailingData
  guard := { maxPayloadBytes := config.maxFramePayloadBytes }
  createdAt := now
  lastActivity := now
  now

variable (state : WebSocketState engine)

def disconnectWith (code : Nat) (reason : String) : WebSocketState engine :=
  { state with disconnect := state.disconnect <|> some ⟨code, reason⟩ }

def failHandshake (error : Fault) : WebSocketState engine :=
  if state.handshakeState = .failed then state
  else
    disconnectWith { state with
      accepted := false
      rejected := false
      protocol := none
      handshakeState := .failed
      handshakeError := some error
      fatalError := if error = .interrupt then some error else state.fatalError } 1006 ""

/-- `_require_open`; what it raises, if it does. -/
def requireOpen : Option Fault :=
  if state.accepted then
    match state.disconnect with
    | some disconnect => some (.disconnect disconnect)
    | none => if state.shutdown then some (.state "WebSocket is closed") else none
  else some (.state "WebSocket must be accepted first")

/-- The checks of `_enqueue` and `_enqueue_control`, negated. -/
def hasRoom (size : Nat) : Bool :=
  decide (state.outbox.length < state.config.maxOutboundCommands ∧
    state.outboxBytes + size ≤ state.config.maxOutboundBytes)

def append (event : Event) (size : Nat) (waiter : Option Caller) : WebSocketState engine :=
  { state with
    commands := state.commands ++ [{ event, size, waiter }]
    outbox := state.outbox ++ [state.commands.length]
    outboxBytes := state.outboxBytes + size }

def enqueueControl (event : Event) (size : Nat) : Bool × WebSocketState engine :=
  if state.hasRoom size then (true, state.append event size none) else (false, state)

def clearPendingPing : WebSocketState engine :=
  { state with pendingPingGeneration := none, pendingPingPayload := none, pongDeadline := none }

/-- A ping that failed clears what it armed. -/
def pingFailed (generation : Nat) : WebSocketState engine :=
  if state.pendingPingGeneration = some generation then state.clearPendingPing else state

def deliverMessage (payload : Payload) : Bool × WebSocketState engine :=
  if state.inbox.length < state.config.maxInboundMessages ∧
      state.inboxBytes + messageSize payload ≤ state.config.maxInboundBytes then
    (true, { state with
      inbox := state.inbox ++ [payload]
      inboxBytes := state.inboxBytes + messageSize payload
      delivered := state.delivered ++ [payload] })
  else (false, state)

/-- These commands are marked done, with an error. -/
def settle (ids : List CommandId) (error : Fault) (commands : List OutboundCommand) :
    List OutboundCommand :=
  commands.mapIdx fun id command =>
    if ids.contains id then { command with done := true, error := some error } else command

def failOutbound (error : Fault) : WebSocketState engine :=
  { state with
    commands := settle (state.activeCommand.toList ++ state.outbox) error state.commands
    outbox := []
    outboxBytes := 0 }

/-- The `finally` block of `_run_writer`'s inner loop. -/
def finishCommand (id : CommandId) : WebSocketState engine :=
  { state with
    writerBusy := false
    activeCommand := none
    writeDeadline := none
    commands := state.commands.modify id fun command => { command with done := true } }

def endCall (caller : Caller) (outcome : Outcome) : WebSocketState engine :=
  { state with
    calls := Function.update state.calls caller .idle
    outcomes := state.outcomes ++ [(caller, outcome)] }

/-- A `GeneratorExit` where a call waits. -/
def closeCall (caller : Caller) : WebSocketState engine :=
  let left := match state.calls caller with
    | .pings _ generation => state.pingFailed generation
    | .closes _ code reason => state.disconnectWith code reason
    | _ => state
  { left with calls := Function.update left.calls caller .idle }

/-- `reject` up to its first `socket_send`. -/
def beginReject (caller : Caller) (response : HandshakeBytes) : WebSocketState engine :=
  { state with
    handshakeState := .rejecting
    calls := Function.update state.calls caller (.rejects response.send) }

/-- The handler task is closed where it waits. Before a decision its `finally` block waits
again, for a response to be sent. -/
def closeHandler (response : HandshakeBytes) : WebSocketState engine :=
  match state.handler with
  | .spawned => { state with handler := .cancelled }
  | .running =>
      let left := state.closeCall .handler
      if left.handshakeState = .pending then
        { left.beginReject .handler response with handler := .ending }
      else { left with handler := .cancelled }
  | .ending => { (state.closeCall .handler).disconnectWith 1006 "" with handler := .cancelled }
  | _ => state

/-- `_cancel_handler`, and whether an interrupt comes out of it. -/
def cancelHandler (cancel : Cancel) : Bool × WebSocketState engine :=
  if state.handler = .absent then (false, state)
  else
    match cancel.handler with
    | .done => (false, state.closeHandler cancel.response)
    | .failed => (false, state)
    | .interrupted => (true, { state with fatalError := some .interrupt })

def closeWriter : WebSocketState engine :=
  match state.writer with
  | .absent => state
  | .sends command _ _ => { state.finishCommand command with writer := .ended }
  | _ => { state with writer := .ended }

/-- `_abort_writer`, and whether an interrupt comes out of it. -/
def abortWriter (error : Fault) (cancel : Cancel) : Bool × WebSocketState engine :=
  let failed := state.failOutbound error
  if failed.writer = .absent then (false, failed)
  else
    match cancel.writer with
    | .done => (false, failed.closeWriter)
    | .failed => (false, failed)
    | .interrupted => (true, { failed with fatalError := some .interrupt })

/-- The Close of `request_shutdown`. -/
def closeForShutdown (code : Nat) : WebSocketState engine :=
  if state.accepted && !state.closeSent && state.protocol.isSome then
    { (state.enqueueControl (.closeConnection code (some "server shutdown")) 17).2 with
      closeSent := true }
  else state

/-- `request_shutdown`, and whether an interrupt comes out of it. -/
def requestShutdown (code : Nat) (cancel : Cancel) : Bool × WebSocketState engine :=
  if state.shutdown then (false, state)
  else
    let closed := closeForShutdown { state with shutdown := true } code
    let told :=
      if closed.handshakeState.undecided then
        closed.failHandshake (.disconnect ⟨code, "server shutdown"⟩)
      else closed.disconnectWith code "server shutdown"
    told.cancelHandler cancel

/-- `_begin_deadline_close`, and whether an interrupt comes out of it. -/
def beginDeadlineClose (code : Nat) (reason : String) (cancel : Cancel) :
    Bool × WebSocketState engine :=
  let closed :=
    if !state.closeSent && state.protocol.isSome then
      { (state.enqueueControl (.closeConnection code (some reason))
          (2 + (encodeUtf8 reason).length)).2 with closeSent := true }
    else state
  let timed := { closed with
    closeDeadline := closed.closeDeadline <|> some (closed.now + closed.config.closeTimeout) }
  (timed.disconnectWith code reason).cancelHandler cancel

def handlePong (payload : Bytes) : WebSocketState engine :=
  if state.pendingPingGeneration.isSome ∧ some payload = state.pendingPingPayload then
    state.clearPendingPing
  else state

/-- A text or binary event in `_drain_protocol_events`. -/
def receiveData (kind : MessageKind) (data : Bytes) (finished : Bool) :
    Except Fault Unit × WebSocketState engine :=
  let begun :=
    if state.messageKind.isNone then
      { state with messageKind := some kind, messageBuffer := [], messageBytes := 0 }
    else state
  if begun.messageKind ≠ some kind then
    (.error (.value "WebSocket message type changed during fragmentation"), begun)
  else
    let counted := { begun with messageBytes := begun.messageBytes + data.length }
    if counted.config.maxMessageBytes < counted.messageBytes then
      (.error (.capacity "WebSocket message is too large"), counted)
    else
      let buffered := { counted with messageBuffer := counted.messageBuffer ++ data }
      if finished then
        let payload := match kind with
          | .text => (decodeUtf8 buffered.messageBuffer).map .text
          | .bytes => some (.bytes buffered.messageBuffer)
        match payload with
        | none => (.error .other, buffered)
        | some payload =>
            let cleared := { buffered with
              messageKind := none
              messageBuffer := []
              messageBytes := 0 }
            match cleared.deliverMessage payload with
            | (true, next) => (.ok (), next)
            | (false, next) => (.error (.capacity "WebSocket inbound queue is full"), next)
      else (.ok (), buffered)

def closeResponse (code : Nat) (reason : Option String) : Nat × Option String :=
  if code = 1002 then (1002, some "protocol error")
  else if code = 1007 then (1007, some "invalid payload")
  else (code, reason)

/-- A Close in `_drain_protocol_events`. -/
def receiveClose (code : Nat) (reason : Option String) :
    Except Fault Unit × WebSocketState engine :=
  let noticed := { state with peerClosed := true }
  let told := if code = 1002 then "protocol error"
    else if code = 1007 then "invalid payload" else closeReason reason
  if noticed.closeSent then (.ok (), noticed.disconnectWith code told)
  else
    let response := closeResponse code reason
    match noticed.enqueueControl (.closeConnection response.1 response.2)
        (closeEventSize response.1 response.2) with
    | (false, next) => (.error (.capacity "WebSocket outbound queue is full"), next)
    | (true, next) => (.ok (), { next with closeSent := true }.disconnectWith code told)

/-- One event in `_drain_protocol_events`, and whether the reader returns. -/
def drainEvent (event : Event) : Except Fault Bool × WebSocketState engine :=
  match event with
  | .textMessage data finished =>
      match state.receiveData .text (encodeUtf8 data) finished with
      | (result, next) => (result.map fun _ => false, next)
  | .bytesMessage data finished =>
      match state.receiveData .bytes data finished with
      | (result, next) => (result.map fun _ => false, next)
  | .ping payload =>
      match state.enqueueControl (.pong payload) payload.length with
      | (true, next) => (.ok false, next)
      | (false, next) => (.error (.capacity "WebSocket outbound queue is full"), next)
  | .pong payload => (.ok false, state.handlePong payload)
  | .closeConnection code reason =>
      match state.receiveClose code reason with
      | (result, next) => (result.map fun _ => true, next)

end WebSocketState

section Reading

variable {engine : Engine}

def drainEvents : List (Event × engine.State) → WebSocketState engine →
    Except Fault Bool × WebSocketState engine
  | [], state => (.ok false, state)
  | (event, protocol) :: events, state =>
      match { state with protocol := some protocol }.drainEvent event with
      | (.ok false, next) => drainEvents events next
      | (result, next) => (result, next)

/-- `_drain_protocol_events`. Without an engine it raises an `AttributeError`. -/
def drainProtocolEvents (state : WebSocketState engine) :
    Except Fault Bool × WebSocketState engine :=
  match state.protocol with
  | none => (.error .other, state)
  | some protocol => drainEvents (engine.events protocol) state

/-- `state.protocol.receive_data` on every chunk the guard forwards. -/
def receiveChunks : List Bytes → WebSocketState engine → Except Fault Unit × WebSocketState engine
  | [], state => (.ok (), state)
  | chunk :: chunks, state =>
      match state.protocol.bind fun protocol => engine.receive protocol chunk with
      | none => (.error .other, state)
      | some protocol => receiveChunks chunks { state with protocol := some protocol }

def guardFault (error : GuardError) : Fault :=
  if error.isCapacity then .capacity error.message else .value error.message

def receiveProtocolData (data : Bytes) (state : WebSocketState engine) :
    Except Fault Unit × WebSocketState engine :=
  match state.guard.feed data with
  | (.error error, guard) => (.error (guardFault error), { state with guard })
  | (.ok chunks, guard) => receiveChunks chunks { state with guard }

def receiveAndDrain (data : Bytes) (state : WebSocketState engine) :
    Except Fault Bool × WebSocketState engine :=
  match receiveProtocolData data state with
  | (.error fault, next) => (.error fault, next)
  | (.ok _, next) => drainProtocolEvents next

end Reading

end SmallServer.WebSocket
