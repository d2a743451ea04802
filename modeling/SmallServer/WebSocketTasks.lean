import SmallServer.WebSocket

/-!
# The tasks of a WebSocket connection

`run_websocket_connection`, `_run_handler`, `_run_reader`, `_run_writer`, `_run_deadlines`
and the calls of the application, each cut where it waits.
-/

namespace SmallServer.WebSocketTasks

open SmallServer HttpValues KernelTransport WebSocketFrames WebSocket WebSocketState

set_option autoImplicit false

variable {engine : Engine}

section Calls

variable (caller : Caller) (state : WebSocketState engine)

def answer (outcome : Outcome) : WebSocketState engine :=
  { state with outcomes := state.outcomes ++ [(caller, outcome)] }

/-- `accept`, up to its first `socket_send`. What it formats is given; where that or a check
of the headers raises, there is none. -/
def accept (subprotocol : Option Text) (response : Option HandshakeBytes) :
    WebSocketState engine :=
  if state.handshakeState ≠ .pending then
    answer caller state (.raised (.state "WebSocket handshake is already decided"))
  else if (subprotocol.all fun name => state.subprotocols.contains name) = false then
    answer caller state
      (.raised (.state "selected subprotocol is not allowed by the route"))
  else if (subprotocol.all fun name => state.offered.contains name) = false then
    answer caller state
      (.raised (.state "selected subprotocol was not offered by the client"))
  else
    match response with
    | none => answer caller state (.raised (.value "handshake headers contain a reserved field"))
    | some response =>
        { state with
          handshakeState := .accepting
          protocol := some engine.create
          calls := Function.update state.calls caller (.accepts response.send subprotocol) }

/-- `reject`, up to its first `socket_send`. The check of the response may fail, and so may
its formatting. -/
def reject (checked : Bool) (response : Option HandshakeBytes) : WebSocketState engine :=
  if state.handshakeState ≠ .pending then
    answer caller state (.raised (.state "WebSocket handshake is already decided"))
  else if checked = false then
    answer caller state
      (.raised (.value "WebSocket rejection response must have status 300 or greater"))
  else
    match response with
    | none =>
        answer caller (failHandshake { state with handshakeState := .rejecting } .other)
          (.raised .other)
    | some response => state.beginReject caller response

def commitAccept (subprotocol : Option Text) : WebSocketState engine :=
  { state with
    subprotocol
    accepted := true
    handshakeState := .accepted
    lastActivity := state.now }.endCall caller .returned

/-- Where `reject` was called: by the application, by the handler's `finally` block or by
the deadline task. -/
def rejectReturned : WebSocketState engine :=
  let ended := state.endCall caller .returned
  match caller with
  | .handler => if ended.handler = .ending then { ended with handler := .ended } else ended
  | .deadline => { ended with deadline := .ended }
  | _ => ended

def rejectRaised (fault : Fault) : WebSocketState engine :=
  let ended := state.endCall caller (.raised fault)
  match caller with
  | .handler =>
      if ended.handler = .ending then
        if fault = .interrupt then
          { ended with
            handlerError := some fault
            fatalError := some fault
            handler := .ended }
        else { ended.disconnectWith 1006 "" with handler := .ended }
      else ended
  | .deadline =>
      if fault = .interrupt then { ended with fatalError := some fault, deadline := .ended }
      else { ended.disconnectWith 1006 "" with deadline := .ended }
  | _ => ended

def commitReject : WebSocketState engine :=
  rejectReturned caller { state with rejected := true, handshakeState := .rejected }

def sendFault (error : SendError) (interrupt : Bool) : Fault :=
  if error = .kernelError ∧ interrupt = true then .interrupt else .other

def sendHandshake (reply : SocketAnswer) (interrupt : Bool) : WebSocketState engine :=
  match state.calls caller with
  | .accepts send subprotocol =>
      match send.turn reply with
      | .returned => commitAccept caller state subprotocol
      | .again send =>
          { state with calls := Function.update state.calls caller (.accepts send subprotocol) }
      | .suspended _ => state
      | .raised error =>
          let fault := sendFault error interrupt
          (state.failHandshake fault).endCall caller (.raised fault)
  | .rejects send =>
      match send.turn reply with
      | .returned => commitReject caller state
      | .again send => { state with calls := Function.update state.calls caller (.rejects send) }
      | .suspended _ => state
      | .raised error =>
          let fault := sendFault error interrupt
          rejectRaised caller (state.failHandshake fault) fault
  | _ => state

def receiveLoop : WebSocketState engine :=
  match state.inbox with
  | [] =>
      match state.disconnect with
      | some disconnect => state.endCall caller (.raised (.disconnect disconnect))
      | none => { state with calls := Function.update state.calls caller .receives }
  | payload :: inbox =>
      { state with
        inbox
        inboxBytes := state.inboxBytes - messageSize payload }.endCall caller (.message payload)

def receive : WebSocketState engine :=
  if state.accepted then receiveLoop caller state
  else answer caller state (.raised (.state "WebSocket must be accepted first"))

/-- `_enqueue` up to its wait; `waiting` is where the call then waits. -/
def enqueue (event : Event) (size : Nat) (waiting : CommandId → Call) :
    Bool × WebSocketState engine :=
  if state.hasRoom size then
    (true, { state.append event size (some caller) with
      calls := Function.update state.calls caller (waiting state.commands.length) })
  else (false, state)

def queueFull : Fault := .capacity "WebSocket outbound queue is full"

def sendMessage (payload : Payload) : WebSocketState engine :=
  match state.requireOpen with
  | some fault => answer caller state (.raised fault)
  | none =>
      if state.config.maxMessageBytes < messageSize payload then
        answer caller state (.raised (.capacity "WebSocket message is too large"))
      else
        match enqueue caller state (messageEvent payload) (messageSize payload) .sends with
        | (true, next) => next
        | (false, next) => answer caller next (.raised queueFull)

def ping (payload : Bytes) : WebSocketState engine :=
  if 125 < payload.length then
    answer caller state (.raised (.value "WebSocket Ping payload must be at most 125 bytes"))
  else
    match state.requireOpen with
    | some fault => answer caller state (.raised fault)
    | none =>
        if state.pendingPingGeneration.isSome then
          answer caller state
            (.raised (.state "a WebSocket Ping is already awaiting Pong"))
        else
          let generation := state.pingGeneration + 1
          let armed := { state with
            pingGeneration := generation
            pendingPingGeneration := some generation
            pendingPingPayload := some payload
            pongDeadline := some (state.now + state.config.pongTimeout) }
          match enqueue caller armed (.ping payload) payload.length
              (fun command => .pings command generation) with
          | (true, next) => next
          | (false, next) => answer caller (next.pingFailed generation) (.raised queueFull)

def close (code : Nat) (reason : String) : WebSocketState engine :=
  match state.requireOpen with
  | some fault => answer caller state (.raised fault)
  | none =>
      if validCloseCode code = false then
        answer caller state (.raised (.value "invalid WebSocket close code"))
      else if 123 < (encodeUtf8 reason).length then
        answer caller state
          (.raised (.value "WebSocket close reason must be at most 123 UTF-8 bytes"))
      else
        let sent := { state with
          closeSent := true
          closeDeadline := some (state.now + state.config.closeTimeout) }
        match enqueue caller sent (.closeConnection code (some reason))
            (2 + (encodeUtf8 reason).length) (fun command => .closes command code reason) with
        | (true, next) => next
        | (false, next) => answer caller (next.disconnectWith code reason) (.raised queueFull)

def closeLoop (code : Nat) (reason : String) : WebSocketState engine :=
  if state.peerClosed = false ∧ state.closeDeadline.any (fun deadline => state.now < deadline) then
    { state with
      calls := Function.update state.calls caller (.lingers code reason
        (state.now + min state.config.deadlineResolution state.config.closeTimeout)) }
  else (state.disconnectWith code reason).endCall caller .returned

def completed (command : CommandId) : Option OutboundCommand :=
  (state.commands[command]?).filter fun command => command.done

/-- A call goes on where it waited, if it can. -/
def resume : Option (WebSocketState engine) :=
  match state.calls caller with
  | .receives =>
      if state.inbox.isEmpty && state.disconnect.isNone then none
      else some (receiveLoop caller state)
  | .sends command =>
      (completed state command).map fun command =>
        match command.error with
        | some fault => state.endCall caller (.raised fault)
        | none => state.endCall caller .returned
  | .pings command generation =>
      (completed state command).map fun command =>
        match command.error with
        | some fault => (state.pingFailed generation).endCall caller (.raised fault)
        | none => state.endCall caller .returned
  | .closes command code reason =>
      (completed state command).map fun command =>
        match command.error with
        | some fault => (state.disconnectWith code reason).endCall caller (.raised fault)
        | none => closeLoop caller state code reason
  | .lingers code reason wakeAt =>
      if wakeAt ≤ state.now then some (closeLoop caller state code reason) else none
  | _ => none

end Calls

section Handler

variable (state : WebSocketState engine)

inductive HandlerEnd where
  | returned
  | disconnected
  | interrupted
  | raised
deriving DecidableEq

/-- `_run_handler` from the end of the application's handler. -/
def handlerEnds (result : HandlerEnd) (response : HandshakeBytes) : WebSocketState engine :=
  let caught := match result with
    | .returned => state
    | .disconnected => state
    | .interrupted =>
        let noted := { state with handlerError := some .interrupt }
        if noted.handshakeState.undecided then noted.failHandshake .interrupt else noted
    | .raised => { state with handlerError := some .other }
  if caught.handshakeState = .pending then
    { caught.beginReject .handler response with handler := .ending }
  else { caught with handler := .ended }

end Handler

section Writer

variable (state : WebSocketState engine)

/-- The writer calls `send_all` with the next slice of the payload, or has none left. -/
def sendNext (command : CommandId) (payload : Bytes) : WebSocketState engine :=
  match SendAll.start (payload.take state.config.writeChunkBytes) with
  | some send =>
      { state with
        writer := .sends command send (payload.drop state.config.writeChunkBytes) }
  | none =>
      { { state with lastActivity := state.now }.finishCommand command with writer := .looping }

/-- `except BaseException` in `_run_writer`. -/
def writeFailed (command : CommandId) (fault : Fault) (cancel : Cancel) : WebSocketState engine :=
  let noted := { state with
    commands := state.commands.modify command fun command => { command with error := some fault }
    fatalError := if fault = Fault.interrupt then some fault else state.fatalError }
  let cancelled := (noted.disconnectWith 1006 "").cancelHandler cancel
  { cancelled.2.finishCommand command with
    writer := if fault = Fault.interrupt ∨ cancelled.1 = true then .ended else .looping }

/-- `_run_writer` at the head of its loops. -/
def writerTakes (cancel : Cancel) : WebSocketState engine :=
  match state.outbox with
  | [] => if state.shutdown then { state with writer := .ended } else state
  | command :: outbox =>
      let taken := { state with
        outbox
        outboxBytes := state.outboxBytes - (state.commands[command]?.elim 0 fun c => c.size)
        writerBusy := true
        activeCommand := some command
        writeDeadline := some (state.now + state.config.writeTimeout) }
      match taken.protocol.bind fun protocol =>
          taken.commands[command]?.bind fun c => engine.send protocol c.event with
      | none =>
          writeFailed { taken with frames := taken.frames ++ [(command, none)] } command .other
            cancel
      | some (payload, protocol) =>
          sendNext { taken with
            protocol := some protocol
            frames := taken.frames ++ [(command, some payload)] } command payload

def writerSends (reply : SocketAnswer) (interrupt : Bool) (cancel : Cancel) :
    WebSocketState engine :=
  match state.writer with
  | .sends command send rest =>
      let sent := { state with wire := state.wire ++ send.accepted reply }
      match send.turn reply with
      | .returned => sendNext sent command rest
      | .again send => { sent with writer := .sends command send rest }
      | .suspended _ => sent
      | .raised error => writeFailed sent command (sendFault error interrupt) cancel
  | _ => state

end Writer

section Reader

variable (state : WebSocketState engine)

/-- The Close with which the reader answers an error. -/
def closeForError (code : Nat) (reason : String) (size : Nat) : WebSocketState engine :=
  { (state.enqueueControl (.closeConnection code (some reason)) size).2 with
    closeSent := true }.disconnectWith code reason

/-- The `except` clauses of `_run_reader`. -/
def readerFailed (fault : Fault) (cancel : Cancel) : WebSocketState engine :=
  let ended := match fault with
    | .interrupt =>
        (({ state with fatalError := some fault }.disconnectWith 1006 "").cancelHandler cancel).2
    | .capacity _ =>
        if state.shutdown then state
        else ((closeForError state 1009 "message too large" 19).cancelHandler cancel).2
    | _ =>
        if state.shutdown then state
        else ((closeForError state 1002 "protocol error" 16).cancelHandler cancel).2
  { ended with reader := .ended }

/-- `_run_reader` after a chunk. -/
def readerGoesOn (result : Except Fault Bool × WebSocketState engine) (cancel : Cancel) :
    WebSocketState engine :=
  match result with
  | (.error fault, next) => readerFailed next fault cancel
  | (.ok returns, next) =>
      { next with reader := if returns = true ∨ next.shutdown = true then .ended else .receiving }

/-- The start of `_run_reader`, on the bytes that came with the request. -/
def readerStarts (cancel : Cancel) : WebSocketState engine :=
  if state.trailingData = [] then readerGoesOn (.ok false, state) cancel
  else
    match receiveProtocolData state.trailingData state with
    | (.error fault, next) => readerFailed next fault cancel
    | (.ok _, next) => readerGoesOn (drainProtocolEvents { next with trailingData := [] }) cancel

def readerReceives (chunk : Bytes) (cancel : Cancel) : WebSocketState engine :=
  readerGoesOn (receiveAndDrain chunk { state with lastActivity := state.now }) cancel

/-- `recv` returns nothing: the peer has ended its side. -/
def readerEnds (cancel again : Cancel) : WebSocketState engine :=
  match state.protocol.bind engine.receiveEnd with
  | none => readerFailed state .other cancel
  | some protocol =>
      match drainProtocolEvents { state with protocol := some protocol } with
      | (.error fault, next) => readerFailed next fault cancel
      | (.ok _, next) =>
          match (next.disconnectWith 1006 "").cancelHandler cancel with
          | (false, next) => { next with reader := .ended }
          | (true, next) => readerFailed next .interrupt again

end Reader

section Deadlines

variable (state : WebSocketState engine)

/-- The head of the loop of `_run_deadlines`. -/
def deadlineLoop : WebSocketState engine :=
  { state with
    deadline :=
      if state.shutdown then .ended else .sleeps (state.now + state.config.deadlineResolution) }

def passed (deadline : Option Nat) : Bool := deadline.any fun deadline => deadline ≤ state.now

def handshakeTimedOut (response : HandshakeBytes) (cancel : Cancel) : WebSocketState engine :=
  if state.handshakeState = .pending then
    { state.beginReject .deadline response with deadline := .rejects }
  else
    { ((state.failHandshake (.disconnect ⟨1006, "handshake timed out"⟩)).cancelHandler cancel).2
      with deadline := .ended }

/-- The end of `_run_deadlines` on a write or close that takes too long. -/
def deadlineAborts (error : Disconnect) (cancel : Cancel) : WebSocketState engine :=
  match state.abortWriter (.disconnect error) cancel with
  | (true, next) => { next with deadline := .ended }
  | (false, next) =>
      match next.cancelHandler cancel with
      | (true, next) => { next with deadline := .ended }
      | (false, next) => { next.disconnectWith error.code error.reason with deadline := .ended }

def deadlineCloses (cancel : Cancel) : Bool × WebSocketState engine :=
  if passed state state.pongDeadline then state.beginDeadlineClose 1002 "Pong timeout" cancel
  else if state.accepted = true ∧ state.config.idleTimeout ≤ state.now - state.lastActivity then
    state.beginDeadlineClose 1001 "idle timeout" cancel
  else (false, state)

/-- `_run_deadlines` after a sleep. `closing` answers the cancellation of a Close. -/
def deadlineWakes (response : HandshakeBytes) (closing cancel : Cancel) : WebSocketState engine :=
  if state.handshakeState.undecided then
    if state.config.handshakeTimeout ≤ state.now - state.createdAt then
      handshakeTimedOut state response cancel
    else deadlineLoop state
  else
    match deadlineCloses state closing with
    | (true, next) => { next with deadline := .ended }
    | (false, next) =>
        if passed next next.writeDeadline then
          deadlineAborts next ⟨1006, "write timed out"⟩ cancel
        else if passed next next.closeDeadline then
          deadlineAborts next (next.disconnect.getD ⟨1006, "close timed out"⟩) cancel
        else deadlineLoop next

/-- The deadline task is closed where it waits. A `reject` of its own is then over, and
`_run_deadlines` returns. -/
def closeDeadlineTask : WebSocketState engine :=
  match state.deadline with
  | .absent => state
  | .rejects => { (state.closeCall .deadline).disconnectWith 1006 "" with deadline := .ended }
  | _ => { state with deadline := .ended }

end Deadlines

section Coordinator

variable (state : WebSocketState engine)

/-- The last loop of `run_websocket_connection`. -/
def lingerLoop (last : Nat) : WebSocketState engine :=
  { state with
    coordinator :=
      if (state.outbox ≠ [] ∨ state.writerBusy = true ∨ state.peerClosed = false) ∧
          state.now < last then
        .lingers last (state.now + min state.config.deadlineResolution state.config.closeTimeout)
      else .leaving }

def linger : WebSocketState engine := lingerLoop state (state.now + state.config.closeTimeout)

/-- The end-of-handler Close. -/
def closeFromCoordinator (code : Nat) (reason : String) (size : Nat) : WebSocketState engine :=
  let timed := { state with closeDeadline := some (state.now + state.config.closeTimeout) }
  match enqueue .coordinator timed (.closeConnection code (some reason)) size .sends with
  | (true, next) => { next with coordinator := .closing }
  | (false, next) => linger next

/-- `run_websocket_connection` from the end of `task.join`. -/
def joined (error : Option Fault) : WebSocketState engine :=
  let noted : WebSocketState engine := { state with handlerError := error <|> state.handlerError }
  if noted.handlerError = some .interrupt ∨ noted.fatalError.isSome = true then
    { noted with coordinator := .leaving }
  else if noted.handlerError.isSome = true ∧ noted.closeSent = false then
    closeFromCoordinator noted 1011 "handler failed" 16
  else if noted.closeSent = false ∧ noted.disconnect.isNone = true then
    closeFromCoordinator noted 1000 "" 2
  else linger noted

/-- What `task.join` makes of a handler that has ended. -/
inductive Join where
  | returned
  | disconnected
  | raised (fault : Fault)
deriving DecidableEq

def Join.error : Join → Option Fault
  | .raised fault => some fault
  | _ => none

/-- The end of the coordinator's `_enqueue`. -/
def closeEnqueued (command : OutboundCommand) : WebSocketState engine :=
  let ended := { state with calls := Function.update state.calls .coordinator .idle }
  match command.error with
  | none => linger { ended with closeSent := true }
  | some fault =>
      if fault = .interrupt then { ended with coordinator := .leaving } else linger ended

/-- The coordinator is closed where it waits. In `task.join` and in `_enqueue` it catches the
`GeneratorExit` and goes on. -/
def coordinatorCancelled : WebSocketState engine :=
  match state.coordinator with
  | .deciding => { state with coordinator := .leaving }
  | .joining => joined state (some .generatorExit)
  | .closing => linger { state with calls := Function.update state.calls .coordinator .idle }
  | .lingers _ _ => { state with coordinator := .leaving }
  | _ => state

/-- `_cancel_or_retain_task` on the children, each of which may resist. -/
structure Children where
  handler : Bool
  deadline : Bool
  writer : Bool
  reader : Bool
deriving DecidableEq

def closeChildren (closes : Children) (response : HandshakeBytes) : WebSocketState engine :=
  let handlerClosed := if closes.handler then state.closeHandler response else state
  let deadlineClosed :=
    if closes.deadline then closeDeadlineTask handlerClosed else handlerClosed
  let writerClosed := if closes.writer then deadlineClosed.closeWriter else deadlineClosed
  if closes.reader ∧ writerClosed.reader ≠ .absent then { writerClosed with reader := .ended }
  else writerClosed

/-- The `finally` block of `run_websocket_connection`. -/
def coordinatorFinishes (cancel : Cancel) (closes : Children) : WebSocketState engine :=
  match state.requestShutdown 1001 cancel with
  | (true, next) => { next with coordinator := .finished }
  | (false, next) =>
      { closeChildren next closes cancel.response with coordinator := .finished }

end Coordinator

inductive Step where
  | passes (duration : Nat)
  | coordinatorStarts
  | coordinatorDecides
  | coordinatorJoins (result : Join)
  | coordinatorResumes
  | coordinatorWakes
  | coordinatorCancelled
  | coordinatorFinishes (cancel : Cancel) (closes : Children)
  | handlerStarts
  | handlerEnds (result : HandlerEnd) (response : HandshakeBytes)
  | accepts (caller : Caller) (subprotocol : Option Text) (response : Option HandshakeBytes)
  | rejects (caller : Caller) (checked : Bool) (response : Option HandshakeBytes)
  | receives (caller : Caller)
  | sendsMessage (caller : Caller) (payload : Payload)
  | pings (caller : Caller) (payload : Bytes)
  | closes (caller : Caller) (code : Nat) (reason : String)
  /-- A turn of `send_all` within `accept` or `reject`. -/
  | sendsHandshake (caller : Caller) (reply : SocketAnswer) (interrupt : Bool)
  | resumes (caller : Caller)
  /-- A task of the application other than the handler is closed within a call. -/
  | cancelsOther (number : Nat)
  | readerStarts (cancel : Cancel)
  | readerReceives (chunk : Bytes) (cancel : Cancel)
  | readerEnds (cancel again : Cancel)
  /-- `recv` raises. -/
  | readerRaises (interrupt : Bool) (cancel : Cancel)
  | writerTakes (cancel : Cancel)
  | writerSends (reply : SocketAnswer) (interrupt : Bool) (cancel : Cancel)
  | deadlineStarts
  | deadlineWakes (response : HandshakeBytes) (closing cancel : Cancel)
  | requestsShutdown (code : Nat) (cancel : Cancel)
deriving DecidableEq

def mayCall (caller : Caller) (state : WebSocketState engine) : Bool :=
  caller.isApplication && decide (state.calls caller = .idle) &&
    (decide (caller ≠ .handler) || decide (state.handler = .running))

def next (state : WebSocketState engine) : Step → Option (WebSocketState engine)
  | .passes duration => some { state with now := state.now + duration }
  | .coordinatorStarts =>
      if state.coordinator = .starting then
        some { state with handler := .spawned, deadline := .spawned, coordinator := .deciding }
      else none
  | .coordinatorDecides =>
      if state.coordinator = .deciding ∧ state.handshakeState.undecided = false then
        if state.accepted then
          some { state with writer := .looping, reader := .spawned, coordinator := .joining }
        else some { state with coordinator := .leaving }
      else none
  | .coordinatorJoins result =>
      if state.coordinator = .joining ∧ (state.handler = .ended ∨ state.handler = .cancelled) then
        some (joined state result.error)
      else none
  | .coordinatorResumes =>
      if state.coordinator = .closing then
        match state.calls .coordinator with
        | .sends command => (completed state command).map (closeEnqueued state)
        | _ => none
      else none
  | .coordinatorWakes =>
      match state.coordinator with
      | .lingers last wakeAt => if wakeAt ≤ state.now then some (lingerLoop state last) else none
      | _ => none
  | .coordinatorCancelled => some (coordinatorCancelled state)
  | .coordinatorFinishes cancel closes =>
      if state.coordinator = .leaving then some (coordinatorFinishes state cancel closes) else none
  | .handlerStarts =>
      if state.handler = .spawned then some { state with handler := .running } else none
  | .handlerEnds result response =>
      if mayCall .handler state then some (handlerEnds state result response) else none
  | .accepts caller subprotocol response =>
      if mayCall caller state then some (accept caller state subprotocol response) else none
  | .rejects caller checked response =>
      if mayCall caller state then some (reject caller state checked response) else none
  | .receives caller => if mayCall caller state then some (receive caller state) else none
  | .sendsMessage caller payload =>
      if mayCall caller state then some (sendMessage caller state payload) else none
  | .pings caller payload =>
      if mayCall caller state then some (ping caller state payload) else none
  | .closes caller code reason =>
      if mayCall caller state then some (close caller state code reason) else none
  | .sendsHandshake caller reply interrupt => some (sendHandshake caller state reply interrupt)
  | .resumes caller => if caller.isApplication then resume caller state else none
  | .cancelsOther number => some (state.closeCall (.other number))
  | .readerStarts cancel =>
      if state.reader = .spawned then some (readerStarts state cancel) else none
  | .readerReceives chunk cancel =>
      if state.reader = .receiving ∧ chunk ≠ [] then some (readerReceives state chunk cancel)
      else none
  | .readerEnds cancel again =>
      if state.reader = .receiving then some (readerEnds state cancel again) else none
  | .readerRaises interrupt cancel =>
      if state.reader = .receiving then
        some (readerFailed state (if interrupt then .interrupt else .other) cancel)
      else none
  | .writerTakes cancel =>
      if state.writer = .looping then some (writerTakes state cancel) else none
  | .writerSends reply interrupt cancel => some (writerSends state reply interrupt cancel)
  | .deadlineStarts =>
      if state.deadline = .spawned then some (deadlineLoop state) else none
  | .deadlineWakes response closing cancel =>
      match state.deadline with
      | .sleeps wakeAt =>
          if wakeAt ≤ state.now then some (deadlineWakes state response closing cancel) else none
      | _ => none
  | .requestsShutdown code cancel => some (state.requestShutdown code cancel).2

def Steps (state : WebSocketState engine) (step : Step) (after : WebSocketState engine) : Prop :=
  next state step = some after

end SmallServer.WebSocketTasks
