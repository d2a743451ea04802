import SmallServer.WebSocketMail
import SmallServer.Runs
import Mathlib.Logic.Relation

/-!
# What the tasks of a WebSocket connection exchange

`Exchange` is the mail, the message that the reader puts together, the Ping that waits for its
Pong, the deadline task, and the calls with what came of them. Each step is a chain of moves on
it. A move that answers the peer says which event of the protocol engine it answers.
-/

namespace SmallServer.WebSocketMoves

open SmallServer HttpValues KernelTransport WebSocket WebSocketState WebSocketTasks
  WebSocketMailboxes

set_option autoImplicit false

section Exchange

structure Exchange where
  mail : Mail
  delivered : List Payload
  messageKind : Option MessageKind
  messageBuffer : Bytes
  messageBytes : Nat
  pongDeadline : Option Nat
  pingGeneration : Nat
  pendingPingGeneration : Option Nat
  pendingPingPayload : Option Bytes
  deadline : DeadlineTask
  calls : Caller → Call
  outcomes : List (Caller × Outcome)

def exchange {engine : Engine} (state : WebSocketState engine) : Exchange where
  mail := mail state
  delivered := state.delivered
  messageKind := state.messageKind
  messageBuffer := state.messageBuffer
  messageBytes := state.messageBytes
  pongDeadline := state.pongDeadline
  pingGeneration := state.pingGeneration
  pendingPingGeneration := state.pendingPingGeneration
  pendingPingPayload := state.pendingPingPayload
  deadline := state.deadline
  calls := state.calls
  outcomes := state.outcomes

def pingOf : Call → Option Nat
  | .pings _ generation => some generation
  | _ => none

def isMessage : Outcome → Bool
  | .message _ => true
  | _ => false

def isData : Event → Bool
  | .textMessage _ _ => true
  | .bytesMessage _ _ => true
  | _ => false

namespace Exchange

variable (exchange : Exchange)

def append (event : Event) (size : Nat) : Exchange :=
  { exchange with
    mail := { exchange.mail with
      outbox := exchange.mail.outbox ++ [exchange.mail.letters.length]
      outboxBytes := exchange.mail.outboxBytes + size
      letters := exchange.mail.letters ++ [(event, size)] } }

def deliver (payload : Payload) : Exchange :=
  { exchange with
    mail := { exchange.mail with
      inbox := exchange.mail.inbox ++ [payload]
      inboxBytes := exchange.mail.inboxBytes + messageSize payload }
    delivered := exchange.delivered ++ [payload] }

def take (payload : Payload) (rest : List Payload) : Exchange :=
  { exchange with
    mail := { exchange.mail with
      inbox := rest
      inboxBytes := exchange.mail.inboxBytes - messageSize payload } }

def armPing (payload : Bytes) (deadline : Nat) : Exchange :=
  { exchange with
    pingGeneration := exchange.pingGeneration + 1
    pendingPingGeneration := some (exchange.pingGeneration + 1)
    pendingPingPayload := some payload
    pongDeadline := some deadline }

def clearPing : Exchange :=
  { exchange with
    pendingPingGeneration := none
    pendingPingPayload := none
    pongDeadline := none }

def atCall (caller : Caller) (call : Call) : Exchange :=
  { exchange with calls := Function.update exchange.calls caller call }

def answered (caller : Caller) (outcome : Outcome) : Exchange :=
  { exchange with outcomes := exchange.outcomes ++ [(caller, outcome)] }

end Exchange

/-- What a step is about: the events that the reader drains, and whether the deadline task finds
that a pending handshake takes too long. -/
structure Occasion where
  heard : Event → Prop
  overdue : Prop

inductive Move (occasion : Occasion) : Exchange → Exchange → Prop
  | appended (exchange : Exchange) (event : Event) (size : Nat)
      (short : exchange.mail.outbox.length < exchange.mail.config.maxOutboundCommands)
      (fits : exchange.mail.outboxBytes + size ≤ exchange.mail.config.maxOutboundBytes)
      (sized : Sized (event, size)) :
      Move occasion exchange (exchange.append event size)
  | taken (exchange : Exchange) (id : CommandId) (rest : List CommandId)
      (queued : exchange.mail.outbox = id :: rest) :
      Move occasion exchange { exchange with
        mail := { exchange.mail with
          outbox := rest
          outboxBytes := exchange.mail.outboxBytes - exchange.mail.size id } }
  | cleared (exchange : Exchange) :
      Move occasion exchange { exchange with
        mail := { exchange.mail with outbox := [], outboxBytes := 0 } }
  | assembled (exchange : Exchange) (event : Event) (asked : occasion.heard event)
      (data : isData event = true) (kind : Option MessageKind) (buffer : Bytes) (bytes : Nat) :
      Move occasion exchange { exchange with
        messageKind := kind
        messageBuffer := buffer
        messageBytes := bytes }
  | delivered (exchange : Exchange) (event : Event) (asked : occasion.heard event)
      (data : isData event = true) (payload : Payload)
      (short : exchange.mail.inbox.length < exchange.mail.config.maxInboundMessages)
      (fits : exchange.mail.inboxBytes + messageSize payload ≤
        exchange.mail.config.maxInboundBytes) :
      Move occasion exchange (exchange.deliver payload)
  | received (exchange : Exchange) (caller : Caller) (payload : Payload) (rest : List Payload)
      (waits : exchange.mail.inbox = payload :: rest) :
      Move occasion exchange
        (((exchange.take payload rest).atCall caller .idle).answered caller (.message payload))
  | called (exchange : Exchange) (caller : Caller) (call : Call) (other : pingOf call = none) :
      Move occasion exchange (exchange.atCall caller call)
  | answered (exchange : Exchange) (caller : Caller) (outcome : Outcome)
      (other : isMessage outcome = false) :
      Move occasion exchange (exchange.answered caller outcome)
  | pingArmed (exchange : Exchange) (caller : Caller) (command : CommandId) (payload : Bytes)
      (deadline : Nat) (free : exchange.pendingPingGeneration = none) :
      Move occasion exchange ((exchange.armPing payload deadline).atCall caller
        (.pings command (exchange.pingGeneration + 1)))
  /-- A Ping is armed and the outbox refuses it. -/
  | pingRefused (exchange : Exchange) (free : exchange.pendingPingGeneration = none) :
      Move occasion exchange
        { exchange.clearPing with pingGeneration := exchange.pingGeneration + 1 }
  /-- A call of `ping` fails. -/
  | pingFailed (exchange : Exchange) (caller : Caller) (command : CommandId) (generation : Nat)
      (was : exchange.calls caller = .pings command generation) :
      Move occasion exchange ((if exchange.pendingPingGeneration = some generation then
        exchange.clearPing else exchange).atCall caller .idle)
  | ponged (exchange : Exchange) (payload : Bytes) (asked : occasion.heard (.pong payload))
      (same : some payload = exchange.pendingPingPayload) :
      Move occasion exchange exchange.clearPing
  | deadlineMoved (exchange : Exchange) (deadline : DeadlineTask)
      (rejects : deadline = .rejects → occasion.overdue) :
      Move occasion exchange { exchange with deadline }

abbrev Moves (occasion : Occasion) : Exchange → Exchange → Prop :=
  Relation.ReflTransGen (Move occasion)

variable {occasion : Occasion} {before after : Exchange}

theorem Moves.one (move : Move occasion before after) : Moves occasion before after :=
  Relation.ReflTransGen.single move

theorem Moves.same (same : after = before) : Moves occasion before after := by
  rw [same]

theorem Moves.keeps {property : Exchange → Prop} (moves : Moves occasion before after)
    (kept : ∀ {left right : Exchange}, Move occasion left right → property left → property right)
    (initially : property before) : property after := by
  induction moves with
  | refl => exact initially
  | tail _ move hypothesis => exact kept move hypothesis

end Exchange

section States

variable {engine : Engine} {occasion : Occasion} (state : WebSocketState engine)

theorem exchange_append (event : Event) (size : Nat) (waiter : Option Caller) :
    exchange (state.append event size waiter) = (exchange state).append event size := by
  have places : (mail state).letters.length = state.commands.length := List.length_map letter
  have letters : (state.commands ++ [(⟨event, size, waiter, false, none⟩ : OutboundCommand)]).map
      letter = (mail state).letters ++ [(event, size)] := List.map_append
  unfold Exchange.append
  show ({ exchange state with mail := mail (state.append event size waiter) } : Exchange) = _
  have mails : mail (state.append event size waiter) = { mail state with
      outbox := (mail state).outbox ++ [(mail state).letters.length]
      outboxBytes := (mail state).outboxBytes + size
      letters := (mail state).letters ++ [(event, size)] } := by
    rw [places, ← letters]
    rfl
  rw [mails]
  rfl

theorem moves_append {event : Event} {size : Nat} (room : state.hasRoom size = true)
    (sized : Sized (event, size)) (waiter : Option Caller) :
    Moves occasion (exchange state) (exchange (state.append event size waiter)) := by
  obtain ⟨short, fits⟩ := of_decide_eq_true room
  rw [exchange_append]
  exact Moves.one (.appended _ event size short fits sized)

theorem moves_enqueueControl {event : Event} {size : Nat} (sized : Sized (event, size)) :
    Moves occasion (exchange state) (exchange (state.enqueueControl event size).2) := by
  unfold enqueueControl
  split
  next room => exact moves_append state room sized none
  next => exact .refl

theorem exchange_failHandshake (error : Fault) :
    exchange (state.failHandshake error) = exchange state := by
  unfold failHandshake
  split
  · rfl
  · rfl

theorem moves_left (caller : Caller) (left : WebSocketState engine)
    (same : exchange left = exchange state) : Moves occasion (exchange state)
      (exchange { left with calls := Function.update left.calls caller .idle }) := by
  show Moves occasion (exchange state) ((exchange left).atCall caller .idle)
  rw [same]
  exact Moves.one (.called _ caller .idle rfl)

theorem moves_pingFailed {caller : Caller} {command : CommandId} {generation : Nat}
    (was : state.calls caller = .pings command generation) :
    Moves occasion (exchange state) (exchange { state.pingFailed generation with
      calls := Function.update (state.pingFailed generation).calls caller .idle }) := by
  have failed : Move occasion _ _ := Move.pingFailed (exchange state) caller command generation was
  unfold pingFailed
  by_cases own : state.pendingPingGeneration = some generation
  · have ownMove : (exchange state).pendingPingGeneration = some generation := own
    rw [if_pos ownMove] at failed
    rw [if_pos own]
    exact Moves.one failed
  · have otherMove : ¬ (exchange state).pendingPingGeneration = some generation := own
    rw [if_neg otherMove] at failed
    rw [if_neg own]
    exact Moves.one failed

theorem moves_closeCall (caller : Caller) :
    Moves occasion (exchange state) (exchange (state.closeCall caller)) := by
  unfold closeCall
  split
  · rename_i command generation was
    exact moves_pingFailed state was
  · exact moves_left state caller _ rfl
  · exact moves_left state caller _ rfl

theorem exchange_finishCommand (id : CommandId) :
    exchange (state.finishCommand id) = exchange state := by
  have letters := letters_modify state.commands id (fun command => { command with done := true })
    fun _ => rfl
  simp only [finishCommand, exchange, mail, letters]

theorem moves_beginReject (caller : Caller) (response : HandshakeBytes) :
    Moves occasion (exchange state) (exchange (state.beginReject caller response)) :=
  Moves.one (.called _ caller _ rfl)

theorem moves_closeHandler (response : HandshakeBytes) :
    Moves occasion (exchange state) (exchange (state.closeHandler response)) := by
  have left : Moves occasion (exchange state) (exchange (state.closeCall .handler)) :=
    moves_closeCall state .handler
  unfold closeHandler
  split
  · exact .refl
  · dsimp only
    split
    · exact left.trans (moves_beginReject _ .handler response)
    · exact left
  · exact left
  · exact .refl

theorem moves_cancelHandler (cancel : Cancel) :
    Moves occasion (exchange state) (exchange (state.cancelHandler cancel).2) := by
  unfold cancelHandler
  split
  · exact .refl
  · split
    · exact moves_closeHandler state cancel.response
    · exact .refl
    · exact .refl

theorem exchange_closeWriter : exchange state.closeWriter = exchange state := by
  unfold closeWriter
  split
  · rfl
  · exact exchange_finishCommand state _
  · rfl

theorem moves_failOutbound (error : Fault) :
    Moves occasion (exchange state) (exchange (state.failOutbound error)) := by
  have letters := letters_settle (state.activeCommand.toList ++ state.outbox) error state.commands
  have emptied : Move occasion _ _ := Move.cleared (exchange state)
  refine Moves.one ?_
  simpa only [exchange, mail, failOutbound, letters] using emptied

theorem moves_abortWriter (error : Fault) (cancel : Cancel) :
    Moves occasion (exchange state) (exchange (state.abortWriter error cancel).2) := by
  have failed : Moves occasion (exchange state) (exchange (state.failOutbound error)) :=
    moves_failOutbound state error
  unfold abortWriter
  dsimp only
  split
  · exact failed
  · split
    · exact failed.trans (Moves.same (exchange_closeWriter _))
    · exact failed
    · exact failed

theorem moves_closeForShutdown (code : Nat) :
    Moves occasion (exchange state) (exchange (state.closeForShutdown code)) := by
  unfold closeForShutdown
  split
  · exact moves_enqueueControl state (sized_shutdown code)
  · exact .refl

theorem moves_requestShutdown (code : Nat) (cancel : Cancel) :
    Moves occasion (exchange state) (exchange (state.requestShutdown code cancel).2) := by
  unfold requestShutdown
  split
  · exact .refl
  · dsimp only
    have closed : Moves occasion (exchange state)
        (exchange (closeForShutdown { state with shutdown := true } code)) :=
      moves_closeForShutdown { state with shutdown := true } code
    refine Relation.ReflTransGen.trans ?_ (moves_cancelHandler _ cancel)
    split
    · rw [exchange_failHandshake]
      exact closed
    · exact closed

theorem moves_beginDeadlineClose {code : Nat} (coded : code ≠ 1005) (reason : String)
    (cancel : Cancel) :
    Moves occasion (exchange state) (exchange (state.beginDeadlineClose code reason cancel).2) := by
  unfold beginDeadlineClose
  dsimp only
  refine Relation.ReflTransGen.trans ?_ (moves_cancelHandler _ cancel)
  split
  · exact moves_enqueueControl state (sized_close coded rfl)
  · exact .refl

theorem moves_deadline (deadline : DeadlineTask)
    (rejects : deadline = .rejects → occasion.overdue) :
    Moves occasion (exchange state) (exchange { state with deadline }) :=
  Moves.one (.deadlineMoved _ deadline rejects)

end States

section Reading

variable {engine : Engine} {occasion : Occasion} (state : WebSocketState engine)

theorem moves_handlePong {payload : Bytes} (asked : occasion.heard (.pong payload)) :
    Moves occasion (exchange state) (exchange (state.handlePong payload)) := by
  unfold handlePong
  split
  · rename_i answered
    exact Moves.one (.ponged _ payload asked answered.2)
  · exact .refl

theorem moves_deliverMessage {event : Event} (asked : occasion.heard event)
    (data : isData event = true) (payload : Payload) :
    Moves occasion (exchange state) (exchange (state.deliverMessage payload).2) := by
  unfold deliverMessage
  split
  next room => exact Moves.one (.delivered _ event asked data payload room.1 room.2)
  next => exact .refl

theorem moves_receiveData {event : Event} (asked : occasion.heard event)
    (isDatum : isData event = true) (kind : MessageKind) (data : Bytes) (finished : Bool) :
    Moves occasion (exchange state) (exchange (state.receiveData kind data finished).2) := by
  have assembles : ∀ (later : WebSocketState engine), exchange later = { exchange state with
      messageKind := later.messageKind
      messageBuffer := later.messageBuffer
      messageBytes := later.messageBytes } → Moves occasion (exchange state) (exchange later) :=
    fun later same => same ▸ Moves.one (.assembled _ event asked isDatum _ _ _)
  unfold receiveData
  generalize is : (if state.messageKind.isNone then
    { state with messageKind := some kind, messageBuffer := [], messageBytes := 0 }
    else state) = begun
  have started : exchange begun = { exchange state with
      messageKind := begun.messageKind
      messageBuffer := begun.messageBuffer
      messageBytes := begun.messageBytes } := by
    rw [← is]
    split
    · rfl
    · rfl
  have later : ∀ (kind : Option MessageKind) (buffer : Bytes) (bytes : Nat),
      Moves occasion (exchange state) (exchange { begun with
        messageKind := kind
        messageBuffer := buffer
        messageBytes := bytes }) := by
    intro kind buffer bytes
    refine assembles _ ?_
    show ({ exchange begun with
      messageKind := kind
      messageBuffer := buffer
      messageBytes := bytes } : Exchange) = _
    rw [started]
  dsimp only
  split
  · exact assembles begun started
  · split
    · exact later _ _ _
    · split
      · split
        · exact later _ _ _
        · rename_i payload _
          have emptied := later none [] 0
          have delivered := moves_deliverMessage { begun with
            messageKind := none
            messageBuffer := []
            messageBytes := 0 } asked isDatum payload
          split
          · rename_i next result
            exact emptied.trans ((congrArg Prod.snd result) ▸ delivered)
          · rename_i next result
            exact emptied.trans ((congrArg Prod.snd result) ▸ delivered)
      · exact later _ _ _

theorem moves_receiveClose (code : Nat) (reason : Option String) :
    Moves occasion (exchange state) (exchange (state.receiveClose code reason).2) := by
  unfold receiveClose
  dsimp only
  split
  · exact .refl
  · generalize closeResponse code reason = response
    have replied : Moves occasion (exchange state) (exchange ({ state with
        peerClosed := true }.enqueueControl (.closeConnection response.1 response.2)
          (closeEventSize response.1 response.2)).2) :=
      moves_enqueueControl { state with peerClosed := true }
        (sized_closeEvent response.1 response.2)
    split
    · rename_i next result
      rw [result] at replied
      exact replied
    · rename_i next result
      rw [result] at replied
      exact replied

theorem moves_drainEvent {event : Event} (asked : occasion.heard event) :
    Moves occasion (exchange state) (exchange (state.drainEvent event).2) := by
  unfold drainEvent
  cases event with
  | textMessage data finished => exact moves_receiveData state asked rfl .text _ finished
  | bytesMessage data finished => exact moves_receiveData state asked rfl .bytes data finished
  | ping payload =>
      have replied : Moves occasion (exchange state)
          (exchange (state.enqueueControl (.pong payload) payload.length).2) :=
        moves_enqueueControl state (sized_pong payload)
      dsimp only
      split
      · rename_i next result
        exact (congrArg Prod.snd result) ▸ replied
      · rename_i next result
        exact (congrArg Prod.snd result) ▸ replied
  | pong payload => exact moves_handlePong state asked
  | closeConnection code reason => exact moves_receiveClose state code reason

theorem moves_drainEvents (events : List (Event × engine.State))
    (asked : ∀ event ∈ events.map Prod.fst, occasion.heard event) :
    Moves occasion (exchange state) (exchange (drainEvents events state).2) := by
  induction events generalizing state with
  | nil => exact .refl
  | cons first events hypothesis =>
      obtain ⟨event, protocol⟩ := first
      have drained : Moves occasion (exchange state)
          (exchange ({ state with protocol := some protocol }.drainEvent event).2) :=
        moves_drainEvent { state with protocol := some protocol } (asked event List.mem_cons_self)
      unfold drainEvents
      split
      · rename_i next result
        rw [result] at drained
        exact drained.trans
          (hypothesis next fun other member => asked other (List.mem_cons_of_mem _ member))
      · rename_i result next _ is
        rw [is] at drained
        exact drained

def yielded (protocol : Option engine.State) : List Event :=
  protocol.elim [] fun protocol => (engine.events protocol).map Prod.fst

theorem moves_drainProtocolEvents (asked : ∀ event ∈ yielded state.protocol, occasion.heard event) :
    Moves occasion (exchange state) (exchange (drainProtocolEvents state).2) := by
  unfold drainProtocolEvents
  split
  · exact .refl
  · rename_i protocol is
    rw [is] at asked
    exact moves_drainEvents state _ asked

theorem exchange_receiveChunks (chunks : List Bytes) :
    exchange (receiveChunks chunks state).2 = exchange state := by
  induction chunks generalizing state with
  | nil => rfl
  | cons chunk chunks hypothesis =>
      unfold receiveChunks
      split
      · rfl
      · exact hypothesis _

theorem exchange_receiveProtocolData (data : Bytes) :
    exchange (receiveProtocolData data state).2 = exchange state := by
  unfold receiveProtocolData
  split
  · rfl
  · exact exchange_receiveChunks _ _

def received (result : Except Fault Unit × WebSocketState engine) : List Event :=
  match result with
  | (.error _, _) => []
  | (.ok _, next) => yielded next.protocol

theorem moves_receiveAndDrain (data : Bytes)
    (asked : ∀ event ∈ received (receiveProtocolData data state), occasion.heard event) :
    Moves occasion (exchange state) (exchange (receiveAndDrain data state).2) := by
  have same := exchange_receiveProtocolData state data
  unfold receiveAndDrain
  split
  · rename_i fault next result
    rw [result] at same
    exact Moves.same same
  · rename_i next result
    rw [result] at same asked
    exact (Moves.same same).trans (moves_drainProtocolEvents next asked)

end Reading

section Calls

variable {engine : Engine} {occasion : Occasion} (caller : Caller)
variable (state : WebSocketState engine)

theorem moves_answer {outcome : Outcome} (other : isMessage outcome = false) :
    Moves occasion (exchange state) (exchange (answer caller state outcome)) :=
  Moves.one (.answered _ caller outcome other)

theorem moves_endCall {outcome : Outcome} (other : isMessage outcome = false) :
    Moves occasion (exchange state) (exchange (state.endCall caller outcome)) :=
  (Moves.one (.called _ caller .idle rfl)).trans (Moves.one (.answered _ caller outcome other))

theorem moves_accept (subprotocol : Option Text) (response : Option HandshakeBytes) :
    Moves occasion (exchange state) (exchange (accept caller state subprotocol response)) := by
  unfold accept
  split
  · exact moves_answer caller state rfl
  · split
    · exact moves_answer caller state rfl
    · split
      · exact moves_answer caller state rfl
      · split
        · exact moves_answer caller state rfl
        · exact Moves.one (.called _ caller _ rfl)

theorem moves_reject (checked : Bool) (response : Option HandshakeBytes) :
    Moves occasion (exchange state) (exchange (reject caller state checked response)) := by
  unfold reject
  split
  · exact moves_answer caller state rfl
  · split
    · exact moves_answer caller state rfl
    · split
      · have same := exchange_failHandshake { state with handshakeState := .rejecting } .other
        exact (Moves.same same).trans (moves_answer caller _ rfl)
      · exact moves_beginReject state caller _

theorem moves_rejectReturned :
    Moves occasion (exchange state) (exchange (rejectReturned caller state)) := by
  have ended : Moves occasion (exchange state) (exchange (state.endCall caller .returned)) :=
    moves_endCall caller state rfl
  unfold rejectReturned
  dsimp only
  split
  · split
    · exact ended
    · exact ended
  · exact ended.trans (moves_deadline _ .ended nofun)
  · exact ended

theorem moves_rejectRaised (fault : Fault) :
    Moves occasion (exchange state) (exchange (rejectRaised caller state fault)) := by
  have ended : Moves occasion (exchange state) (exchange (state.endCall caller (.raised fault))) :=
    moves_endCall caller state rfl
  unfold rejectRaised
  dsimp only
  split
  · split
    · split
      · exact ended
      · exact ended
    · exact ended
  · split
    · exact ended.trans (Moves.one (.deadlineMoved _ .ended nofun))
    · exact ended.trans (Moves.one (.deadlineMoved _ .ended nofun))
  · exact ended

theorem moves_sendHandshake (reply : SocketAnswer) (interrupt : Bool) :
    Moves occasion (exchange state) (exchange (sendHandshake caller state reply interrupt)) := by
  unfold sendHandshake
  split
  · split
    · exact moves_endCall caller { state with
        subprotocol := _
        accepted := true
        handshakeState := .accepted
        lastActivity := state.now } rfl
    · exact Moves.one (.called _ caller _ rfl)
    · exact .refl
    · rename_i error _
      have same := exchange_failHandshake state (sendFault error interrupt)
      exact (Moves.same same).trans (moves_endCall caller _ rfl)
  · split
    · exact moves_rejectReturned caller { state with rejected := true, handshakeState := .rejected }
    · exact Moves.one (.called _ caller _ rfl)
    · exact .refl
    · rename_i error _
      have same := exchange_failHandshake state (sendFault error interrupt)
      exact (Moves.same same).trans (moves_rejectRaised caller _ _)
  · exact .refl

theorem moves_receiveLoop :
    Moves occasion (exchange state) (exchange (receiveLoop caller state)) := by
  unfold receiveLoop
  split
  · split
    · exact moves_endCall caller state rfl
    · exact Moves.one (.called _ caller _ rfl)
  · rename_i payload inbox waits
    exact Moves.one (.received _ caller payload inbox waits)

theorem moves_receive : Moves occasion (exchange state) (exchange (receive caller state)) := by
  unfold receive
  split
  · exact moves_receiveLoop caller state
  · exact moves_answer caller state rfl

theorem moves_enqueue {event : Event} {size : Nat} (sized : Sized (event, size))
    {waiting : CommandId → Call} (other : ∀ command, pingOf (waiting command) = none) :
    Moves occasion (exchange state) (exchange (enqueue caller state event size waiting).2) := by
  unfold enqueue
  split
  · rename_i room
    exact (moves_append state room sized (some caller)).trans
      (Moves.one (.called _ caller _ (other _)))
  · exact .refl

theorem moves_sendMessage (payload : Payload) :
    Moves occasion (exchange state) (exchange (sendMessage caller state payload)) := by
  have enqueued : Moves occasion (exchange state) (exchange
      (enqueue caller state (messageEvent payload) (messageSize payload) .sends).2) :=
    moves_enqueue caller state (sized_message payload) fun _ => rfl
  unfold sendMessage
  split
  · exact moves_answer caller state rfl
  · split
    · exact moves_answer caller state rfl
    · split
      · rename_i next result
        rw [result] at enqueued
        exact enqueued
      · rename_i next result
        rw [result] at enqueued
        exact enqueued.trans (moves_answer caller next rfl)

/-- A Ping is armed before it is enqueued. Where the outbox refuses it, it is cleared again. -/
theorem moves_ping (payload : Bytes) :
    Moves occasion (exchange state) (exchange (ping caller state payload)) := by
  unfold ping
  split
  · exact moves_answer caller state rfl
  · split
    · exact moves_answer caller state rfl
    · split
      · exact moves_answer caller state rfl
      · rename_i free
        have none : state.pendingPingGeneration = none :=
          Option.not_isSome_iff_eq_none.mp free
        dsimp only
        unfold enqueue
        by_cases room : hasRoom { state with
            pingGeneration := state.pingGeneration + 1
            pendingPingGeneration := some (state.pingGeneration + 1)
            pendingPingPayload := some payload
            pongDeadline := some (state.now + state.config.pongTimeout) } payload.length = true
        · rw [if_pos room]
          have appended : Moves occasion (exchange state)
              (exchange (state.append (.ping payload) payload.length (some caller))) :=
            moves_append state room (sized_ping payload) (some caller)
          exact appended.trans (Moves.one (.pingArmed _ caller _ payload _ none))
        · rw [if_neg room]
          dsimp only
          unfold pingFailed
          rw [if_pos rfl]
          exact (Moves.one (.pingRefused _ none)).trans (moves_answer caller { state with
            pingGeneration := state.pingGeneration + 1
            pendingPingGeneration := Option.none
            pendingPingPayload := Option.none
            pongDeadline := Option.none } rfl)

theorem moves_close (code : Nat) (reason : String) :
    Moves occasion (exchange state) (exchange (close caller state code reason)) := by
  unfold close
  split
  · exact moves_answer caller state rfl
  · split
    · exact moves_answer caller state rfl
    · rename_i invalid
      split
      · exact moves_answer caller state rfl
      · dsimp only
        have coded := coded_of_valid (Bool.not_eq_false _ ▸ invalid)
        have sized : Sized (.closeConnection code (some reason), 2 + (encodeUtf8 reason).length) :=
          sized_close coded rfl
        have enqueued : Moves occasion (exchange state) (exchange (enqueue caller { state with
            closeSent := true
            closeDeadline := some (state.now + state.config.closeTimeout) }
              (.closeConnection code (some reason)) (2 + (encodeUtf8 reason).length)
                fun command => .closes command code reason).2) :=
          moves_enqueue caller { state with
            closeSent := true
            closeDeadline := some (state.now + state.config.closeTimeout) } sized fun _ => rfl
        split
        · rename_i next result
          rw [result] at enqueued
          exact enqueued
        · rename_i next result
          rw [result] at enqueued
          exact enqueued.trans (moves_answer caller (next.disconnectWith code reason) rfl)

theorem moves_closeLoop (code : Nat) (reason : String) :
    Moves occasion (exchange state) (exchange (closeLoop caller state code reason)) := by
  unfold closeLoop
  split
  · exact Moves.one (.called _ caller _ rfl)
  · exact moves_endCall caller (state.disconnectWith code reason) rfl

theorem moves_resume {after : WebSocketState engine} (resumes : resume caller state = some after) :
    Moves occasion (exchange state) (exchange after) := by
  unfold resume at resumes
  split at resumes
  · split at resumes
    · cases resumes
    · cases resumes
      exact moves_receiveLoop caller state
  · obtain ⟨command, _, is⟩ := Option.map_eq_some_iff.mp resumes
    subst is
    split
    · exact moves_endCall caller state rfl
    · exact moves_endCall caller state rfl
  · rename_i id generation was
    obtain ⟨command, _, is⟩ := Option.map_eq_some_iff.mp resumes
    subst is
    split
    · rename_i fault _
      have failed : Moves occasion (exchange state) _ := moves_pingFailed state was
      exact failed.trans (Moves.one (.answered _ caller (.raised fault) rfl))
    · exact moves_endCall caller state rfl
  · obtain ⟨command, _, is⟩ := Option.map_eq_some_iff.mp resumes
    subst is
    split
    · exact moves_endCall caller (state.disconnectWith _ _) rfl
    · exact moves_closeLoop caller state _ _
  · split at resumes
    · cases resumes
      exact moves_closeLoop caller state _ _
    · cases resumes
  · cases resumes

end Calls

section Tasks

variable {engine : Engine} {occasion : Occasion} (state : WebSocketState engine)

theorem moves_handlerEnds (result : HandlerEnd) (response : HandshakeBytes) :
    Moves occasion (exchange state) (exchange (handlerEnds state result response)) := by
  have decides : ∀ caught : WebSocketState engine, exchange caught = exchange state →
      Moves occasion (exchange state) (exchange (if caught.handshakeState = .pending then
        { caught.beginReject .handler response with handler := .ending }
        else { caught with handler := .ended })) := by
    intro caught same
    rw [← same]
    split
    · exact moves_beginReject caught .handler response
    · exact .refl
  refine decides _ ?_
  cases result with
  | interrupted =>
      dsimp only
      split
      · exact exchange_failHandshake { state with handlerError := some .interrupt } .interrupt
      · rfl
  | _ => rfl

theorem exchange_sendNext (command : CommandId) (payload : Bytes) :
    exchange (sendNext state command payload) = exchange state := by
  unfold sendNext
  split
  · rfl
  · exact exchange_finishCommand { state with lastActivity := state.now } command

theorem moves_writeFailed (command : CommandId) (fault : Fault) (cancel : Cancel) :
    Moves occasion (exchange state) (exchange (writeFailed state command fault cancel)) := by
  have letters := letters_modify state.commands command
    (fun command => { command with error := some fault }) fun _ => rfl
  unfold writeFailed
  dsimp only
  generalize (if fault = Fault.interrupt then some fault else state.fatalError) = fatal
  have noted : exchange { state with
      commands := state.commands.modify command fun command => { command with error := some fault }
      fatalError := fatal } = exchange state := by
    simp only [exchange, mail, letters]
  generalize cancels : cancelHandler (disconnectWith _ 1006 "") cancel = cancelled
  have left : Moves occasion (exchange state) (exchange cancelled.2) := by
    rw [← cancels]
    refine Relation.ReflTransGen.trans ?_ (moves_cancelHandler _ cancel)
    exact Moves.same noted
  exact left.trans (Moves.same (exchange_finishCommand cancelled.2 command))

theorem moves_writerTakes (cancel : Cancel) :
    Moves occasion (exchange state) (exchange (writerTakes state cancel)) := by
  unfold writerTakes
  split
  · split
    · exact .refl
    · exact .refl
  · rename_i command outbox queued
    have popped : Move occasion _ _ := Move.taken (exchange state) command outbox queued
    have size : (exchange state).mail.size command =
        state.commands[command]?.elim 0 fun c => c.size := size_mail state command
    rw [size] at popped
    dsimp only
    split
    · refine Relation.ReflTransGen.trans ?_ (moves_writeFailed _ command .other cancel)
      exact Moves.one popped
    · rw [exchange_sendNext]
      exact Moves.one popped

theorem moves_writerSends (reply : SocketAnswer) (interrupt : Bool) (cancel : Cancel) :
    Moves occasion (exchange state) (exchange (writerSends state reply interrupt cancel)) := by
  unfold writerSends
  split
  · rename_i command send rest _
    dsimp only
    generalize is : ({ state with
      wire := state.wire ++ send.accepted reply } : WebSocketState engine) = sent
    have same : exchange sent = exchange state := by
      rw [← is]
      rfl
    rw [← same]
    split
    · exact Moves.same (exchange_sendNext sent command rest)
    · exact Moves.same same.symm
    · exact .refl
    · exact moves_writeFailed sent command _ cancel
  · exact .refl

theorem moves_closeForError {code size : Nat} {reason : String}
    (sized : Sized (.closeConnection code (some reason), size)) :
    Moves occasion (exchange state) (exchange (closeForError state code reason size)) :=
  moves_enqueueControl state sized

theorem moves_readerFailed (fault : Fault) (cancel : Cancel) :
    Moves occasion (exchange state) (exchange (readerFailed state fault cancel)) := by
  have closed : ∀ {code size : Nat} {reason : String},
      Sized (.closeConnection code (some reason), size) →
      Moves occasion (exchange state) (exchange (if state.shutdown then state
        else ((closeForError state code reason size).cancelHandler cancel).2)) := by
    intro code size reason sized
    split
    · exact .refl
    · exact (moves_closeForError state sized).trans (moves_cancelHandler _ cancel)
  have tooLarge : Sized (.closeConnection 1009 (some "message too large"), 19) :=
    sized_close (by decide) (by decide +kernel)
  have broken : Sized (.closeConnection 1002 (some "protocol error"), 16) :=
    sized_close (by decide) (by decide +kernel)
  unfold readerFailed
  cases fault with
  | interrupt =>
      exact moves_cancelHandler
        ({ state with fatalError := some .interrupt }.disconnectWith 1006 "") cancel
  | capacity message => exact closed tooLarge
  | _ => exact closed broken

theorem moves_readerGoesOn (result : Except Fault Bool × WebSocketState engine)
    (cancel : Cancel) :
    Moves occasion (exchange result.2) (exchange (readerGoesOn result cancel)) := by
  unfold readerGoesOn
  split
  · exact moves_readerFailed _ _ cancel
  · exact .refl

theorem moves_readerStarts (cancel : Cancel) (asked : state.trailingData ≠ [] →
      ∀ event ∈ received (receiveProtocolData state.trailingData state), occasion.heard event) :
    Moves occasion (exchange state) (exchange (readerStarts state cancel)) := by
  have same := exchange_receiveProtocolData state state.trailingData
  unfold readerStarts
  split
  · exact moves_readerGoesOn (.ok false, state) cancel
  · rename_i some
    have events := asked some
    split
    · rename_i fault next result
      rw [result] at same
      exact (Moves.same same).trans (moves_readerFailed next fault cancel)
    · rename_i next result
      rw [result] at same events
      have emptied : Moves occasion (exchange state) (exchange { next with trailingData := [] }) :=
        Moves.same same
      have drained : Moves occasion _ _ :=
        moves_drainProtocolEvents { next with trailingData := [] } events
      exact (emptied.trans drained).trans (moves_readerGoesOn _ cancel)

theorem moves_readerReceives (chunk : Bytes) (cancel : Cancel) (asked :
      ∀ event ∈ received (receiveProtocolData chunk { state with lastActivity := state.now }),
        occasion.heard event) :
    Moves occasion (exchange state) (exchange (readerReceives state chunk cancel)) := by
  have drained : Moves occasion (exchange state)
      (exchange (receiveAndDrain chunk { state with lastActivity := state.now }).2) :=
    moves_receiveAndDrain { state with lastActivity := state.now } chunk asked
  exact drained.trans (moves_readerGoesOn _ cancel)

theorem moves_readerEnds (cancel again : Cancel)
    (asked : ∀ event ∈ yielded (state.protocol.bind engine.receiveEnd), occasion.heard event) :
    Moves occasion (exchange state) (exchange (readerEnds state cancel again)) := by
  unfold readerEnds
  split
  · exact moves_readerFailed state .other cancel
  · rename_i protocol is
    rw [is] at asked
    have drained : Moves occasion (exchange state)
        (exchange (drainProtocolEvents { state with protocol := some protocol }).2) :=
      moves_drainProtocolEvents { state with protocol := some protocol } asked
    split
    · rename_i fault next result
      rw [result] at drained
      exact drained.trans (moves_readerFailed next fault cancel)
    · rename_i next result
      rw [result] at drained
      have cancelled : Moves occasion (exchange next)
          (exchange ((next.disconnectWith 1006 "").cancelHandler cancel).2) :=
        moves_cancelHandler (next.disconnectWith 1006 "") cancel
      split
      · rename_i last left
        rw [left] at cancelled
        exact drained.trans cancelled
      · rename_i last left
        rw [left] at cancelled
        exact (drained.trans cancelled).trans (moves_readerFailed last .interrupt again)

theorem moves_deadlineLoop : Moves occasion (exchange state) (exchange (deadlineLoop state)) := by
  refine moves_deadline state _ fun rejects => ?_
  split at rejects
  · cases rejects
  · cases rejects

theorem moves_handshakeTimedOut (response : HandshakeBytes) (cancel : Cancel)
    (overdue : state.handshakeState = .pending → occasion.overdue) :
    Moves occasion (exchange state) (exchange (handshakeTimedOut state response cancel)) := by
  unfold handshakeTimedOut
  split
  · rename_i pending
    exact (moves_beginReject state .deadline response).trans
      (moves_deadline _ .rejects fun _ => overdue pending)
  · have same := exchange_failHandshake state (.disconnect ⟨1006, "handshake timed out"⟩)
    exact ((Moves.same same).trans (moves_cancelHandler _ cancel)).trans
      (moves_deadline _ .ended nofun)

theorem moves_deadlineAborts (error : Disconnect) (cancel : Cancel) :
    Moves occasion (exchange state) (exchange (deadlineAborts state error cancel)) := by
  have aborted : Moves occasion (exchange state)
      (exchange (state.abortWriter (.disconnect error) cancel).2) :=
    moves_abortWriter state (.disconnect error) cancel
  unfold deadlineAborts
  split
  · rename_i next result
    rw [result] at aborted
    exact aborted.trans (moves_deadline next .ended nofun)
  · rename_i next result
    rw [result] at aborted
    have cancelled : Moves occasion (exchange next) (exchange (next.cancelHandler cancel).2) :=
      moves_cancelHandler next cancel
    split
    · rename_i last left
      rw [left] at cancelled
      exact (aborted.trans cancelled).trans (moves_deadline last .ended nofun)
    · rename_i last left
      rw [left] at cancelled
      exact (aborted.trans cancelled).trans
        (moves_deadline (last.disconnectWith error.code error.reason) .ended nofun)

theorem moves_deadlineCloses (cancel : Cancel) :
    Moves occasion (exchange state) (exchange (deadlineCloses state cancel).2) := by
  unfold deadlineCloses
  split
  · exact moves_beginDeadlineClose state (by decide) "Pong timeout" cancel
  · split
    · exact moves_beginDeadlineClose state (by decide) "idle timeout" cancel
    · exact .refl

theorem moves_deadlineWakes (response : HandshakeBytes) (closing cancel : Cancel)
    (overdue : state.handshakeState = .pending →
      state.config.handshakeTimeout ≤ state.now - state.createdAt → occasion.overdue) :
    Moves occasion (exchange state) (exchange (deadlineWakes state response closing cancel)) := by
  have closed : Moves occasion (exchange state) (exchange (deadlineCloses state closing).2) :=
    moves_deadlineCloses state closing
  unfold deadlineWakes
  split
  · split
    · rename_i elapsed
      exact moves_handshakeTimedOut state response cancel fun pending => overdue pending elapsed
    · exact moves_deadlineLoop state
  · split
    · rename_i next result
      rw [result] at closed
      exact closed.trans (moves_deadline next .ended nofun)
    · rename_i next result
      rw [result] at closed
      split
      · exact closed.trans (moves_deadlineAborts next _ cancel)
      · split
        · exact closed.trans (moves_deadlineAborts next _ cancel)
        · exact closed.trans (moves_deadlineLoop next)

theorem moves_closeDeadlineTask :
    Moves occasion (exchange state) (exchange (closeDeadlineTask state)) := by
  unfold closeDeadlineTask
  split
  · exact .refl
  · exact (moves_closeCall state .deadline).trans
      (moves_deadline ((state.closeCall .deadline).disconnectWith 1006 "") .ended nofun)
  · exact moves_deadline state .ended nofun

theorem moves_closeFromCoordinator {code size : Nat} {reason : String}
    (sized : Sized (.closeConnection code (some reason), size)) :
    Moves occasion (exchange state) (exchange (closeFromCoordinator state code reason size)) := by
  have enqueued : Moves occasion (exchange state) (exchange (enqueue .coordinator { state with
      closeDeadline := some (state.now + state.config.closeTimeout) }
        (.closeConnection code (some reason)) size .sends).2) :=
    moves_enqueue .coordinator { state with
      closeDeadline := some (state.now + state.config.closeTimeout) } sized fun _ => rfl
  unfold closeFromCoordinator
  dsimp only
  split
  · rename_i next result
    rw [result] at enqueued
    exact enqueued
  · rename_i next result
    rw [result] at enqueued
    exact enqueued

theorem moves_joined (error : Option Fault) :
    Moves occasion (exchange state) (exchange (joined state error)) := by
  have failed : Sized (.closeConnection 1011 (some "handler failed"), 16) :=
    sized_close (by decide) (by decide +kernel)
  have normal : Sized (.closeConnection 1000 (some ""), 2) :=
    sized_close (by decide) (by decide +kernel)
  unfold joined
  dsimp only
  split
  · exact .refl
  · split
    · exact moves_closeFromCoordinator { state with
        handlerError := error <|> state.handlerError } failed
    · split
      · exact moves_closeFromCoordinator { state with
          handlerError := error <|> state.handlerError } normal
      · exact .refl

theorem moves_closeEnqueued (command : OutboundCommand) :
    Moves occasion (exchange state) (exchange (closeEnqueued state command)) := by
  have left : Moves occasion (exchange state) ((exchange state).atCall .coordinator .idle) :=
    Moves.one (.called _ .coordinator .idle rfl)
  unfold closeEnqueued
  dsimp only
  split
  · exact left
  · split
    · exact left
    · exact left

theorem moves_coordinatorCancelled :
    Moves occasion (exchange state) (exchange (coordinatorCancelled state)) := by
  unfold coordinatorCancelled
  split
  · exact .refl
  · exact moves_joined state _
  · exact Moves.one (.called _ .coordinator .idle rfl)
  · exact .refl
  · exact .refl

theorem moves_closeChildren (closes : Children) (response : HandshakeBytes) :
    Moves occasion (exchange state) (exchange (closeChildren state closes response)) := by
  unfold closeChildren
  generalize handled : (if closes.handler then state.closeHandler response else state) = first
  have firstMoves : Moves occasion (exchange state) (exchange first) := by
    rw [← handled]
    split
    · exact moves_closeHandler state response
    · exact .refl
  dsimp only
  generalize timed : (if closes.deadline then closeDeadlineTask first else first) = second
  have secondMoves : Moves occasion (exchange first) (exchange second) := by
    rw [← timed]
    split
    · exact moves_closeDeadlineTask first
    · exact .refl
  generalize written : (if closes.writer then second.closeWriter else second) = third
  have thirdSame : exchange third = exchange second := by
    rw [← written]
    split
    · exact exchange_closeWriter second
    · rfl
  have three := (firstMoves.trans secondMoves).trans (Moves.same thirdSame)
  split
  · exact three
  · exact three

theorem moves_coordinatorFinishes (cancel : Cancel) (closes : Children) :
    Moves occasion (exchange state) (exchange (coordinatorFinishes state cancel closes)) := by
  have asked : Moves occasion (exchange state) (exchange (state.requestShutdown 1001 cancel).2) :=
    moves_requestShutdown state 1001 cancel
  unfold coordinatorFinishes
  split
  · rename_i next result
    rw [result] at asked
    exact asked
  · rename_i next result
    rw [result] at asked
    exact asked.trans (moves_closeChildren next closes cancel.response)

end Tasks

section Steps

variable {engine : Engine} {state after : WebSocketState engine}

/-- The events that the reader drains in a step. -/
def events (state : WebSocketState engine) : Step → List Event
  | .readerStarts _ =>
      if state.trailingData = [] then []
      else received (receiveProtocolData state.trailingData state)
  | .readerReceives chunk _ =>
      received (receiveProtocolData chunk { state with lastActivity := state.now })
  | .readerEnds _ _ => yielded (state.protocol.bind engine.receiveEnd)
  | _ => []

def overdue (state : WebSocketState engine) : Step → Prop
  | .deadlineWakes _ _ _ =>
      state.handshakeState = .pending ∧
        state.config.handshakeTimeout ≤ state.now - state.createdAt
  | _ => False

def occasion (state : WebSocketState engine) (step : Step) : Occasion where
  heard event := event ∈ events state step
  overdue := overdue state step

/-- A step that is possible only under a condition, and then does this. -/
theorem guarded_moves {about : Occasion} {condition : Prop} [Decidable condition]
    {next : WebSocketState engine}
    (goes : condition → Moves about (exchange state) (exchange next))
    (taken : (if condition then some next else none) = some after) :
    Moves about (exchange state) (exchange after) := by
  split at taken
  · rename_i holds
    cases taken
    exact goes holds
  · cases taken

theorem next_moves (step : Step) (taken : next state step = some after) :
    Moves (occasion state step) (exchange state) (exchange after) := by
  cases step with
  | passes duration =>
      cases taken
      exact .refl
  | coordinatorStarts =>
      refine guarded_moves (fun _ => ?_) taken
      exact Moves.one (.deadlineMoved _ .spawned nofun)
  | coordinatorDecides =>
      unfold next at taken
      dsimp only at taken
      split at taken
      · split at taken
        · cases taken
          exact .refl
        · cases taken
          exact .refl
      · cases taken
  | coordinatorJoins result =>
      exact guarded_moves (fun _ => moves_joined state result.error) taken
  | coordinatorResumes =>
      unfold next at taken
      dsimp only at taken
      split at taken
      · split at taken
        · obtain ⟨command, _, is⟩ := Option.map_eq_some_iff.mp taken
          exact is ▸ moves_closeEnqueued state command
        · cases taken
      · cases taken
  | coordinatorWakes =>
      unfold next at taken
      dsimp only at taken
      split at taken
      · refine guarded_moves (fun _ => ?_) taken
        exact .refl
      · cases taken
  | coordinatorCancelled =>
      cases taken
      exact moves_coordinatorCancelled state
  | coordinatorFinishes cancel closes =>
      exact guarded_moves (fun _ => moves_coordinatorFinishes state cancel closes) taken
  | handlerStarts =>
      refine guarded_moves (fun _ => ?_) taken
      exact .refl
  | handlerEnds result response =>
      exact guarded_moves (fun _ => moves_handlerEnds state result response) taken
  | accepts caller subprotocol response =>
      exact guarded_moves (fun _ => moves_accept caller state subprotocol response) taken
  | rejects caller checked response =>
      exact guarded_moves (fun _ => moves_reject caller state checked response) taken
  | receives caller => exact guarded_moves (fun _ => moves_receive caller state) taken
  | sendsMessage caller payload =>
      exact guarded_moves (fun _ => moves_sendMessage caller state payload) taken
  | pings caller payload => exact guarded_moves (fun _ => moves_ping caller state payload) taken
  | closes caller code reason =>
      exact guarded_moves (fun _ => moves_close caller state code reason) taken
  | sendsHandshake caller reply interrupt =>
      cases taken
      exact moves_sendHandshake caller state reply interrupt
  | resumes caller =>
      unfold next at taken
      dsimp only at taken
      split at taken
      · exact moves_resume caller state taken
      · cases taken
  | cancelsOther number =>
      cases taken
      exact moves_closeCall state (.other number)
  | readerStarts cancel =>
      refine guarded_moves (fun _ => moves_readerStarts state cancel fun some event member => ?_)
        taken
      show event ∈ events state (.readerStarts cancel)
      unfold events
      rw [if_neg some]
      exact member
  | readerReceives chunk cancel =>
      exact guarded_moves (fun _ => moves_readerReceives state chunk cancel fun _ => id) taken
  | readerEnds cancel again =>
      exact guarded_moves (fun _ => moves_readerEnds state cancel again fun _ => id) taken
  | readerRaises interrupt cancel =>
      exact guarded_moves (fun _ => moves_readerFailed state _ cancel) taken
  | writerTakes cancel => exact guarded_moves (fun _ => moves_writerTakes state cancel) taken
  | writerSends reply interrupt cancel =>
      cases taken
      exact moves_writerSends state reply interrupt cancel
  | deadlineStarts => exact guarded_moves (fun _ => moves_deadlineLoop state) taken
  | deadlineWakes response closing cancel =>
      unfold next at taken
      dsimp only at taken
      split at taken
      · exact guarded_moves (fun _ => moves_deadlineWakes state response closing cancel
          fun pending elapsed => ⟨pending, elapsed⟩) taken
      · cases taken
  | requestsShutdown code cancel =>
      cases taken
      exact moves_requestShutdown state code cancel

end Steps

end SmallServer.WebSocketMoves
