import SmallServer.WebSocketTasks
import SmallServer.Runs
import Mathlib.Logic.Relation

/-!
# What a step of a WebSocket connection can do

`Core` is what the results about the handshake, the Closes, the senders and the wire depend
on, and `Change` is what can happen to it. Some changes are wrong in some states; a step that
makes such a change commits a `Defect`.
-/

namespace SmallServer.WebSocketEffects

open SmallServer HttpValues KernelTransport WebSocket WebSocketState WebSocketTasks

set_option autoImplicit false

section Cores

structure Core where
  handshakeState : HandshakeState
  accepted : Bool
  rejected : Bool
  hasProtocol : Bool
  closeSent : Bool
  outbox : List CommandId
  activeCommand : Option CommandId
  coordinator : Coordinator
  writer : WriterTask
  deadline : DeadlineTask
  calls : Caller → Call
  commands : List OutboundCommand
  frames : List (CommandId × Option Bytes)
  wire : Bytes

def core {engine : Engine} (state : WebSocketState engine) : Core where
  handshakeState := state.handshakeState
  accepted := state.accepted
  rejected := state.rejected
  hasProtocol := state.protocol.isSome
  closeSent := state.closeSent
  outbox := state.outbox
  activeCommand := state.activeCommand
  coordinator := state.coordinator
  writer := state.writer
  deadline := state.deadline
  calls := state.calls
  commands := state.commands
  frames := state.frames
  wire := state.wire

def inFlight : Call → Bool
  | .accepts _ _ => true
  | .rejects _ => true
  | _ => false

/-- The `finally` block of the coordinator has begun, or is next. -/
def leaving : Coordinator → Bool
  | .leaving => true
  | .finished => true
  | _ => false

/-- The exceptions of a write, and not those of an abort. -/
def fromWrite : Fault → Bool
  | .disconnect _ => false
  | _ => true

namespace Core

variable (core : Core)

def Closed : Prop := ∃ command ∈ core.commands, command.event.isClose = true

/-- The coordinator has enqueued its Close and has not set `close_sent`. -/
def Owes : Prop :=
  core.closeSent = false ∧ ∃ command ∈ core.commands, command.waiter = some .coordinator

/-- A Close appended now is not the first. -/
def Repeats : Prop := (core.closeSent = true ∧ core.Closed) ∨ core.Owes

def Waits : Prop :=
  ∃ id ∈ core.outbox, ∃ command, core.commands[id]? = some command ∧
    command.waiter.isSome = true ∧ command.done = false

/-- Nobody is left to complete a command. -/
def Orphaned : Prop :=
  core.writer = .ended ∧ core.deadline = .ended ∧ leaving core.coordinator = false

/-- The kernel refused bytes of a frame, or a queued command was dropped. -/
def Broken : Prop :=
  ∃ id command fault, core.commands[id]? = some command ∧ command.error = some fault ∧
    ((fromWrite fault = true ∧ ∃ payload, (id, some payload) ∈ core.frames) ∨
      ∀ frame, (id, frame) ∉ core.frames)

end Core

inductive Defect where
  /-- `accept` or `reject` decides a handshake that has failed. -/
  | lateDecision
  /-- A second Close is appended. -/
  | secondClose
  /-- `close_sent` is set although the outbox has refused the only Close. -/
  | refusedClose
  /-- A command is left to nobody. -/
  | strandedSender
  /-- The writer goes on behind a frame that was not sent. -/
  | brokenWire
deriving DecidableEq

end Cores

section Changes

variable (allows : Defect → Prop)

/-- What can happen to a core, where a defect that is not allowed does not occur. -/
inductive Change : Core → Core → Prop
  | handshakeFailed (core : Core) (unfailed : core.handshakeState ≠ .failed)
      (undecided : core.handshakeState.undecided = true ∨
        ∃ caller, inFlight (core.calls caller) = true) :
      Change core { core with
        accepted := false
        rejected := false
        hasProtocol := false
        handshakeState := .failed }
  | acceptBegun (core : Core) (caller : Caller) (send : SendAll) (subprotocol : Option Text)
      (pending : core.handshakeState = .pending) :
      Change core { core with
        handshakeState := .accepting
        hasProtocol := true
        calls := Function.update core.calls caller (.accepts send subprotocol) }
  | rejectBegun (core : Core) (caller : Caller) (send : SendAll)
      (pending : core.handshakeState = .pending) :
      Change core { core with
        handshakeState := .rejecting
        calls := Function.update core.calls caller (.rejects send) }
  | acceptTurned (core : Core) (caller : Caller) (send later : SendAll)
      (subprotocol : Option Text) (was : core.calls caller = .accepts send subprotocol) :
      Change core { core with
        calls := Function.update core.calls caller (.accepts later subprotocol) }
  | rejectTurned (core : Core) (caller : Caller) (send later : SendAll)
      (was : core.calls caller = .rejects send) :
      Change core { core with calls := Function.update core.calls caller (.rejects later) }
  | acceptCommitted (core : Core) (caller : Caller) (send : SendAll)
      (subprotocol : Option Text) (was : core.calls caller = .accepts send subprotocol)
      (late : core.handshakeState = .failed → allows .lateDecision) :
      Change core { core with
        accepted := true
        handshakeState := .accepted
        calls := Function.update core.calls caller .idle }
  | rejectCommitted (core : Core) (caller : Caller) (send : SendAll)
      (was : core.calls caller = .rejects send)
      (late : core.handshakeState = .failed → allows .lateDecision) :
      Change core { core with
        rejected := true
        handshakeState := .rejected
        calls := Function.update core.calls caller .idle }
  | callLeft (core : Core) (caller : Caller) :
      Change core { core with calls := Function.update core.calls caller .idle }
  | callMoved (core : Core) (caller : Caller) (call : Call) (other : caller ≠ .coordinator)
      (was : inFlight (core.calls caller) = false) (waits : inFlight call = false) :
      Change core { core with calls := Function.update core.calls caller call }
  | enqueued (core : Core) (event : Event) (size : Nat) (waiter : Option Caller)
      (other : event.isClose = false) (asked : waiter ≠ some .coordinator)
      (stranded : waiter.isSome = true → core.Orphaned → allows .strandedSender) :
      Change core { core with
        commands := core.commands ++ [{ event, size, waiter }]
        outbox := core.outbox ++ [core.commands.length] }
  /-- A Close with which `close_sent` is set. -/
  | closeEnqueued (core : Core) (event : Event) (size : Nat) (waiter : Option Caller)
      (closes : event.isClose = true) (repeats : core.Repeats → allows .secondClose)
      (stranded : waiter.isSome = true → core.Orphaned → allows .strandedSender) :
      Change core { core with
        closeSent := true
        commands := core.commands ++ [{ event, size, waiter }]
        outbox := core.outbox ++ [core.commands.length] }
  | closeRefused (core : Core) (refused : ¬core.Closed → allows .refusedClose) :
      Change core { core with closeSent := true }
  /-- The Close of the coordinator. -/
  | coordinatorCloses (core : Core) (event : Event) (size : Nat) (closes : event.isClose = true)
      (unsent : core.closeSent = false) (repeats : core.Repeats → allows .secondClose)
      (stranded : core.Orphaned → allows .strandedSender)
      (stays : leaving core.coordinator = false) :
      Change core { core with
        commands := core.commands ++ [{ event, size, waiter := some .coordinator }]
        outbox := core.outbox ++ [core.commands.length]
        calls := Function.update core.calls .coordinator (.sends core.commands.length)
        coordinator := .closing }
  | closeConfirmed (core : Core) (command : CommandId)
      (was : core.calls .coordinator = .sends command) :
      Change core { core with
        closeSent := true
        calls := Function.update core.calls .coordinator .idle }
  | coordinatorMoved (core : Core) (coordinator : Coordinator)
      (stays : leaving core.coordinator = true → leaving coordinator = true)
      (spawned : coordinator = .starting ∨ coordinator = .deciding →
        core.coordinator = .starting ∨ core.coordinator = .deciding) :
      Change core { core with coordinator }
  | writerSpawned (core : Core) (decides : core.coordinator = .deciding) :
      Change core { core with writer := .looping, coordinator := .joining }
  | frameTaken (core : Core) (command : CommandId) (outbox : List CommandId) (payload : Bytes)
      (send : SendAll) (rest : Bytes) (loops : core.writer = .looping)
      (queued : core.outbox = command :: outbox) (whole : send.offer ++ rest = payload)
      (broken : core.Broken → allows .brokenWire) :
      Change core { core with
        outbox
        activeCommand := some command
        frames := core.frames ++ [(command, some payload)]
        writer := .sends command send rest }
  /-- A command without a byte to be sent, or without a frame. -/
  | commandPassed (core : Core) (command : CommandId) (outbox : List CommandId)
      (frame : Option Bytes) (fault : Option Fault) (writer : WriterTask)
      (loops : core.writer = .looping) (queued : core.outbox = command :: outbox)
      (passed : (frame = some [] ∧ fault = none) ∨ (frame = none ∧ fault.isSome = true))
      (broken : core.Broken → allows .brokenWire)
      (goes : writer = .looping ∨ (writer = .ended ∧ (core.deadline = .ended →
        Core.Waits { core with outbox } → leaving core.coordinator = false →
          allows .strandedSender))) :
      Change core { core with
        outbox
        activeCommand := none
        frames := core.frames ++ [(command, frame)]
        commands := core.commands.modify command fun command =>
          { command with done := true, error := fault <|> command.error }
        writer }
  | frameTurned (core : Core) (command : CommandId) (send later : SendAll)
      (rest laterRest accepted : Bytes) (sends : core.writer = .sends command send rest)
      (whole : accepted ++ (later.offer ++ laterRest) = send.offer ++ rest) :
      Change core { core with
        wire := core.wire ++ accepted
        writer := .sends command later laterRest }
  | frameFinished (core : Core) (command : CommandId) (send : SendAll) (rest accepted : Bytes)
      (sends : core.writer = .sends command send rest) (whole : accepted = send.offer ++ rest) :
      Change core { core with
        wire := core.wire ++ accepted
        activeCommand := none
        commands := core.commands.modify command fun command => { command with done := true }
        writer := .looping }
  | frameFailed (core : Core) (command : CommandId) (send : SendAll) (rest : Bytes)
      (fault : Fault) (writer : WriterTask) (sends : core.writer = .sends command send rest)
      (written : fromWrite fault = true)
      (goes : writer = .looping ∨ (writer = .ended ∧ (core.deadline = .ended → core.Waits →
        leaving core.coordinator = false → allows .strandedSender))) :
      Change core { core with
        activeCommand := none
        commands := core.commands.modify command fun command =>
          { command with done := true, error := some fault }
        writer }
  /-- The writer is closed within a write. -/
  | frameClosed (core : Core) (command : CommandId) (send : SendAll) (rest : Bytes)
      (sends : core.writer = .sends command send rest)
      (idle : core.outbox = [] ∨ leaving core.coordinator = true) :
      Change core { core with
        activeCommand := none
        commands := core.commands.modify command fun command => { command with done := true }
        writer := .ended }
  | writerEnded (core : Core) (loops : core.writer = .looping ∨ core.writer = .ended)
      (idle : core.outbox = [] ∨ leaving core.coordinator = true) :
      Change core { core with writer := .ended }
  | outboundFailed (core : Core) (disconnect : Disconnect) :
      Change core { core with
        commands := settle (core.activeCommand.toList ++ core.outbox) (.disconnect disconnect)
          core.commands
        outbox := [] }
  | deadlineMoved (core : Core) (deadline : DeadlineTask)
      (stranded : deadline = .ended → core.writer = .ended → core.Waits →
        leaving core.coordinator = false → allows .strandedSender) :
      Change core { core with deadline }

abbrev Changes : Core → Core → Prop := Relation.ReflTransGen (Change allows)

end Changes

section Defects

variable {engine : Engine} (state : WebSocketState engine)

/-- The outbox has no room for the only Close. -/
def Refuses (size : Nat) : Prop := state.hasRoom size = false ∧ ¬(core state).Closed

def Repeated (size : Nat) : Prop := state.hasRoom size = true ∧ (core state).Repeats

def callCloses (code : Nat) (reason : String) : Prop :=
  state.requireOpen = none ∧ validCloseCode code = true ∧ (encodeUtf8 reason).length ≤ 123

def shutdownCloses : Prop :=
  state.shutdown = false ∧ state.accepted = true ∧ state.closeSent = false ∧
    state.protocol.isSome = true

def deadlineReason : Option String :=
  if state.handshakeState.undecided then none
  else if passed state state.pongDeadline then some "Pong timeout"
  else if state.accepted = true ∧ state.config.idleTimeout ≤ state.now - state.lastActivity then
    some "idle timeout"
  else none

def deadlineSize : Option Nat :=
  if !state.closeSent && state.protocol.isSome then
    (deadlineReason state).map fun reason => 2 + (encodeUtf8 reason).length
  else none

def joinSize (error : Option Fault) : Option Nat :=
  let noted := error <|> state.handlerError
  if noted = some .interrupt ∨ state.fatalError.isSome = true then none
  else if noted.isSome = true ∧ state.closeSent = false then some 16
  else if state.closeSent = false ∧ state.disconnect.isNone = true then some 2
  else none

def readerResult : Step → Option (Except Fault Bool × WebSocketState engine)
  | .readerStarts _ =>
      if state.trailingData = [] then none
      else
        match receiveProtocolData state.trailingData state with
        | (.error fault, next) => some (.error fault, next)
        | (.ok _, next) => some (drainProtocolEvents { next with trailingData := [] })
  | .readerReceives chunk _ =>
      some (receiveAndDrain chunk { state with lastActivity := state.now })
  | .readerEnds _ _ =>
      match state.protocol.bind engine.receiveEnd with
      | none => some (.error .other, state)
      | some protocol => some (drainProtocolEvents { state with protocol := some protocol })
  | .readerRaises interrupt _ =>
      some (.error (if interrupt then .interrupt else .other), state)
  | _ => none

def errorSize : Fault → Option Nat
  | .interrupt => none
  | .capacity _ => some 19
  | _ => some 16

/-- The reader enqueues a Close of this size in this state, if there is room. -/
def readerCloses (step : Step) (failed : WebSocketState engine) (size : Nat) : Prop :=
  ∃ fault, readerResult state step = some (.error fault, failed) ∧
    failed.shutdown = false ∧ errorSize fault = some size

def readerReplies (step : Step) : Prop :=
  state.closeSent = false ∧ ∃ next, readerResult state step = some (.ok true, next)

/-- A step that sets `close_sent` although the outbox has refused the only Close. -/
def refusesClose (step : Step) : Prop :=
  (∃ failed size, readerCloses state step failed size ∧ Refuses failed size) ∨
    match step with
    | .closes _ code reason =>
        callCloses state code reason ∧ Refuses state (2 + (encodeUtf8 reason).length)
    | .requestsShutdown _ _ => shutdownCloses state ∧ Refuses state 17
    | .coordinatorFinishes _ _ => shutdownCloses state ∧ Refuses state 17
    | .deadlineWakes _ _ _ => ∃ size, deadlineSize state = some size ∧ Refuses state size
    | _ => False

/-- A step that appends a Close after another: on a path that does not ask for `close_sent`,
or while the coordinator has enqueued its own and not yet set it. -/
def repeatsClose (step : Step) : Prop :=
  (∃ failed size, readerCloses state step failed size ∧ Repeated failed size) ∨
    (readerReplies state step ∧ (core state).Owes) ∨
      match step with
      | .closes _ code reason =>
          callCloses state code reason ∧ Repeated state (2 + (encodeUtf8 reason).length)
      | .requestsShutdown _ _ => shutdownCloses state ∧ Repeated state 17
      | .coordinatorFinishes _ _ => shutdownCloses state ∧ Repeated state 17
      | .deadlineWakes _ _ _ => ∃ size, deadlineSize state = some size ∧ Repeated state size
      | .coordinatorJoins result =>
          ∃ size, joinSize state result.error = some size ∧ Repeated state size
      | .coordinatorCancelled =>
          state.coordinator = .joining ∧
            ∃ size, joinSize state (some .generatorExit) = some size ∧ Repeated state size
      | _ => False

def deadlineLeaves (closing : Cancel) : Prop :=
  if state.handshakeState.undecided then True
  else
    match deadlineCloses state closing with
    | (true, _) => True
    | (false, next) =>
        passed next next.writeDeadline = false ∧ passed next next.closeDeadline = false ∧
          next.shutdown = true

def writerInterrupted : Step → Prop
  | .writerTakes cancel => cancel.handler = .interrupted
  | .writerSends _ interrupt cancel => interrupt = true ∨ cancel.handler = .interrupted
  | _ => False

/-- A step that leaves a command to nobody: a task enqueues one after the writer and the
deadline task have ended, or the second of the two ends without completing the queued ones. -/
def strandsSender (step : Step) : Prop :=
  match step with
  | .sendsMessage _ payload =>
      (core state).Orphaned ∧ state.requireOpen = none ∧
        messageSize payload ≤ state.config.maxMessageBytes ∧
          state.hasRoom (messageSize payload) = true
  | .pings _ payload =>
      (core state).Orphaned ∧ state.requireOpen = none ∧
        state.pendingPingGeneration = none ∧ state.hasRoom payload.length = true
  | .closes _ code reason =>
      (core state).Orphaned ∧ callCloses state code reason ∧
        state.hasRoom (2 + (encodeUtf8 reason).length) = true
  | .coordinatorJoins result =>
      (core state).Orphaned ∧
        ∃ size, joinSize state result.error = some size ∧ state.hasRoom size = true
  | .coordinatorCancelled =>
      (core state).Orphaned ∧ state.coordinator = .joining ∧
        ∃ size, joinSize state (some .generatorExit) = some size ∧ state.hasRoom size = true
  | .writerTakes cancel =>
      state.deadline = .ended ∧ leaving state.coordinator = false ∧
        Core.Waits { core state with outbox := state.outbox.tail } ∧
          writerInterrupted (.writerTakes cancel)
  | .writerSends reply interrupt cancel =>
      state.deadline = .ended ∧ leaving state.coordinator = false ∧ (core state).Waits ∧
        writerInterrupted (.writerSends reply interrupt cancel)
  | .deadlineStarts =>
      state.writer = .ended ∧ leaving state.coordinator = false ∧ (core state).Waits ∧
        state.shutdown = true
  | .sendsHandshake .deadline _ _ =>
      state.writer = .ended ∧ leaving state.coordinator = false ∧ (core state).Waits
  | .deadlineWakes _ closing _ =>
      state.writer = .ended ∧ leaving state.coordinator = false ∧ (core state).Waits ∧
        deadlineLeaves state closing
  | _ => False

/-- A step that decides a handshake that has failed: `send_all` returns to an `accept` or a
`reject` after the deadline task, a shutdown or an interrupt has failed the handshake. -/
def decidesLate : Step → Prop
  | .sendsHandshake caller reply _ =>
      state.handshakeState = .failed ∧
        match state.calls caller with
        | .accepts send _ => send.turn reply = .returned
        | .rejects send => send.turn reply = .returned
        | _ => False
  | _ => False

/-- A step in which the writer goes on behind a frame that was not sent. -/
def goesOnBroken : Step → Prop
  | .writerTakes _ => state.outbox ≠ [] ∧ (core state).Broken
  | _ => False

/-- What is wrong with a step, seen from the state before it. -/
def Commits : Defect → Step → Prop
  | .lateDecision => decidesLate state
  | .secondClose => repeatsClose state
  | .refusedClose => refusesClose state
  | .strandedSender => strandsSender state
  | .brokenWire => goesOnBroken state

end Defects

section Helpers

variable {engine : Engine} {allows : Defect → Prop} {state : WebSocketState engine}

theorem failHandshake_changes (state : WebSocketState engine) (error : Fault)
    (undecided : state.handshakeState ≠ .failed → state.handshakeState.undecided = true ∨
      ∃ caller, inFlight (state.calls caller) = true) :
    Changes allows (core state) (core (state.failHandshake error)) := by
  unfold failHandshake
  split
  · exact .refl
  · rename_i unfailed
    exact .single (.handshakeFailed (core state) unfailed (undecided unfailed))

theorem core_pingFailed (generation : Nat) : core (state.pingFailed generation) = core state := by
  unfold pingFailed
  split
  · rfl
  · rfl

theorem core_closeCall (state : WebSocketState engine) (caller : Caller) :
    core (state.closeCall caller) =
      { core state with calls := Function.update state.calls caller .idle } := by
  unfold closeCall
  cases state.calls caller with
  | pings command generation =>
      change { core (state.pingFailed generation) with
        calls := Function.update (core (state.pingFailed generation)).calls caller .idle } = _
      rw [core_pingFailed]
      rfl
  | _ => rfl

inductive HandlerLeft : Core → Core → Prop
  | stays (core : Core) : HandlerLeft core core
  | leaves (core : Core) :
      HandlerLeft core { core with calls := Function.update core.calls .handler .idle }
  | rejects (core : Core) (send : SendAll) (pending : core.handshakeState = .pending) :
      HandlerLeft core { core with
        handshakeState := .rejecting
        calls := Function.update (Function.update core.calls .handler .idle) .handler
          (.rejects send) }

theorem HandlerLeft.changes {before after : Core} (left : HandlerLeft before after) :
    Changes allows before after := by
  cases left with
  | stays => exact .refl
  | leaves => exact .single (.callLeft before .handler)
  | rejects send pending =>
      have idle : Change allows before { before with
          calls := Function.update before.calls .handler .idle } := .callLeft before .handler
      refine (Relation.ReflTransGen.single idle).tail ?_
      exact .rejectBegun { before with calls := Function.update before.calls .handler .idle }
        .handler send pending

theorem closeHandler_left (response : HandshakeBytes) :
    HandlerLeft (core state) (core (state.closeHandler response)) := by
  have closed := core_closeCall state .handler
  unfold closeHandler
  cases state.handler with
  | running =>
      dsimp only
      split
      · rename_i pending
        have waits : (state.closeCall .handler).handshakeState = state.handshakeState :=
          congrArg Core.handshakeState closed
        have same : core { (state.closeCall .handler).beginReject .handler response with
            handler := .ending } =
            { core (state.closeCall .handler) with
              handshakeState := .rejecting
              calls := Function.update (core (state.closeCall .handler)).calls .handler
                (.rejects response.send) } := rfl
        rw [same, closed]
        exact .rejects (core state) response.send (waits.symm.trans pending)
      · have same : core { state.closeCall .handler with handler := .cancelled } =
            core (state.closeCall .handler) := rfl
        rw [same, closed]
        exact .leaves (core state)
  | ending =>
      have same : core { (state.closeCall .handler).disconnectWith 1006 "" with
          handler := .cancelled } = core (state.closeCall .handler) := rfl
      dsimp only
      rw [same, closed]
      exact .leaves (core state)
  | _ => exact .stays (core state)

theorem cancelHandler_left (state : WebSocketState engine) (cancel : Cancel) :
    HandlerLeft (core state) (core (state.cancelHandler cancel).2) := by
  unfold cancelHandler
  split
  · exact .stays (core state)
  · cases cancel.handler with
    | done => exact closeHandler_left cancel.response
    | failed => exact .stays (core state)
    | interrupted => exact .stays (core state)

theorem HandlerLeft.unchanged {before after : Core} (left : HandlerLeft before after) :
    after.outbox = before.outbox ∧ after.commands = before.commands ∧
      after.writer = before.writer ∧ after.deadline = before.deadline ∧
        after.coordinator = before.coordinator ∧ after.activeCommand = before.activeCommand := by
  cases left with
  | stays => exact ⟨rfl, rfl, rfl, rfl, rfl, rfl⟩
  | leaves => exact ⟨rfl, rfl, rfl, rfl, rfl, rfl⟩
  | rejects => exact ⟨rfl, rfl, rfl, rfl, rfl, rfl⟩

theorem HandlerLeft.frames {before after : Core} (left : HandlerLeft before after) :
    after.frames = before.frames := by
  cases left with
  | stays => rfl
  | leaves => rfl
  | rejects => rfl

theorem HandlerLeft.aside {before after : Core} (left : HandlerLeft before after)
    (outbox : List CommandId) (activeCommand : Option CommandId)
    (frames : List (CommandId × Option Bytes)) (commands : List OutboundCommand) :
    HandlerLeft { before with outbox, activeCommand, frames, commands }
      { after with outbox, activeCommand, frames, commands } := by
  cases left with
  | stays => exact .stays _
  | leaves => exact .leaves { before with outbox, activeCommand, frames, commands }
  | rejects send pending =>
      exact .rejects { before with outbox, activeCommand, frames, commands } send pending

theorem HandlerLeft.waits {before after : Core} (left : HandlerLeft before after)
    (waits : after.Waits) : before.Waits := by
  obtain ⟨outbox, commands, -⟩ := left.unchanged
  unfold Core.Waits at waits ⊢
  rw [← outbox, ← commands]
  exact waits

theorem controlClose_changes (state : WebSocketState engine) {event : Event} {size : Nat}
    (closes : event.isClose = true)
    (repeats : Repeated state size → allows .secondClose)
    (refused : Refuses state size → allows .refusedClose) :
    Changes allows (core state)
      (core { (state.enqueueControl event size).2 with closeSent := true }) := by
  unfold enqueueControl
  split
  · rename_i room
    exact .single (.closeEnqueued (core state) event size none closes
      (fun again => repeats ⟨room, again⟩) nofun)
  · rename_i full
    exact .single (.closeRefused (core state)
      (fun none => refused ⟨Bool.eq_false_iff.mpr full, none⟩))

structure Keeps (before after : Core) : Prop where
  writer : after.writer = before.writer
  coordinator : after.coordinator = before.coordinator
  waits : after.Waits → before.Waits

theorem Keeps.refl (core : Core) : Keeps core core := ⟨rfl, rfl, id⟩

theorem Keeps.trans {first second third : Core} (left : Keeps first second)
    (right : Keeps second third) : Keeps first third :=
  ⟨right.writer.trans left.writer, right.coordinator.trans left.coordinator,
    fun waits => left.waits (right.waits waits)⟩

theorem HandlerLeft.keeps {before after : Core} (left : HandlerLeft before after) :
    Keeps before after :=
  ⟨left.unchanged.2.2.1, left.unchanged.2.2.2.2.1, left.waits⟩

theorem failHandshake_keeps (state : WebSocketState engine) (error : Fault) :
    Keeps (core state) (core (state.failHandshake error)) := by
  unfold failHandshake
  split
  · exact .refl (core state)
  · exact ⟨rfl, rfl, id⟩

theorem controlClose_keeps (state : WebSocketState engine) (event : Event) (size : Nat) :
    Keeps (core state) (core { (state.enqueueControl event size).2 with closeSent := true }) := by
  unfold enqueueControl
  split
  · refine ⟨rfl, rfl, ?_⟩
    rintro ⟨id, queued, command, is, waits, undone⟩
    change id ∈ state.outbox ++ [state.commands.length] at queued
    change (state.commands ++ [_])[id]? = some command at is
    obtain former | last := List.mem_append.mp queued
    · rw [List.getElem?_append] at is
      split at is
      · exact ⟨id, former, command, is, waits, undone⟩
      · rw [List.getElem?_singleton] at is
        split at is
        · cases is
          cases waits
        · cases is
    · rw [List.mem_singleton.mp last, List.getElem?_concat_length] at is
      cases is
      cases waits
  · exact ⟨rfl, rfl, fun waits => waits⟩

theorem closeForShutdown_changes (code : Nat) (unshut : state.shutdown = false)
    (repeats : shutdownCloses state → Repeated state 17 → allows .secondClose)
    (refused : shutdownCloses state → Refuses state 17 → allows .refusedClose) :
    Changes allows (core state) (core (closeForShutdown { state with shutdown := true } code)) := by
  unfold closeForShutdown
  split
  · rename_i closes
    simp only [Bool.and_eq_true, Bool.not_eq_true'] at closes
    have path : shutdownCloses state := ⟨unshut, closes.1.1, closes.1.2, closes.2⟩
    exact controlClose_changes { state with shutdown := true } rfl (repeats path)
      (refused path)
  · exact .refl

theorem requestShutdown_changes (code : Nat) (cancel : Cancel)
    (repeats : shutdownCloses state → Repeated state 17 → allows .secondClose)
    (refused : shutdownCloses state → Refuses state 17 → allows .refusedClose) :
    Changes allows (core state) (core (state.requestShutdown code cancel).2) := by
  unfold requestShutdown
  split
  · exact .refl
  · rename_i unasked
    have closed := closeForShutdown_changes code (Bool.eq_false_iff.mpr unasked) repeats refused
    refine closed.trans ?_
    dsimp only
    split
    · rename_i undecided
      exact (failHandshake_changes _ _ fun _ => .inl undecided).trans
        (cancelHandler_left _ cancel).changes
    · exact (cancelHandler_left ((closeForShutdown { state with shutdown := true }
        code).disconnectWith code "server shutdown") cancel).changes

theorem requestShutdown_keeps (state : WebSocketState engine) (code : Nat) (cancel : Cancel) :
    Keeps (core state) (core (state.requestShutdown code cancel).2) := by
  unfold requestShutdown
  split
  · exact .refl (core state)
  · have closed : Keeps (core state)
        (core (closeForShutdown { state with shutdown := true } code)) := by
      unfold closeForShutdown
      split
      · exact controlClose_keeps { state with shutdown := true } _ 17
      · exact .refl (core state)
    refine closed.trans ?_
    dsimp only
    split
    · exact (failHandshake_keeps _ _).trans (cancelHandler_left _ cancel).keeps
    · exact (cancelHandler_left ((closeForShutdown { state with shutdown := true }
        code).disconnectWith code "server shutdown") cancel).keeps

end Helpers

section Handshaking

variable {engine : Engine} {allows : Defect → Prop} {state : WebSocketState engine}

theorem accept_changes (caller : Caller) (subprotocol : Option Text)
    (response : Option HandshakeBytes) :
    Changes allows (core state) (core (accept caller state subprotocol response)) := by
  unfold accept
  split
  · exact .refl
  · rename_i decided
    have pending : state.handshakeState = .pending := Decidable.of_not_not decided
    split
    · exact .refl
    · split
      · exact .refl
      · split
        · exact .refl
        · rename_i response
          exact .single (.acceptBegun (core state) caller response.send subprotocol pending)

theorem reject_changes (caller : Caller) (checked : Bool) (response : Option HandshakeBytes) :
    Changes allows (core state) (core (reject caller state checked response)) := by
  unfold reject
  split
  · exact .refl
  · rename_i decided
    have pending : state.handshakeState = .pending := Decidable.of_not_not decided
    split
    · exact .refl
    · split
      · have unfailed : (core state).handshakeState ≠ .failed := by
          change state.handshakeState ≠ .failed
          rw [pending]
          exact nofun
        have undecided : (core state).handshakeState.undecided = true := by
          change state.handshakeState.undecided = true
          rw [pending]
          rfl
        exact .single (.handshakeFailed (core state) unfailed (.inl undecided))
      · rename_i response
        exact .single (.rejectBegun (core state) caller response.send pending)

/-- The end of a `reject` of the deadline task is the end of that task. -/
def Strands (state : WebSocketState engine) : Prop :=
  state.writer = .ended ∧ leaving state.coordinator = false ∧ (core state).Waits

theorem Keeps.strands {before after : WebSocketState engine}
    (keeps : Keeps (core before) (core after)) (strands : Strands after) : Strands before :=
  ⟨keeps.writer.symm.trans strands.1, (congrArg leaving keeps.coordinator).symm.trans strands.2.1,
    keeps.waits strands.2.2⟩

theorem rejectReturned_changes (state : WebSocketState engine) (caller : Caller)
    (stranded : caller = .deadline → Strands state → allows .strandedSender) :
    Changes allows { core state with calls := Function.update state.calls caller .idle }
      (core (rejectReturned caller state)) := by
  unfold rejectReturned
  cases caller with
  | handler =>
      dsimp only
      split
      · exact .refl
      · exact .refl
  | other number => exact .refl
  | coordinator => exact .refl
  | deadline =>
      refine .single (.deadlineMoved { core state with
        calls := Function.update state.calls .deadline .idle } .ended ?_)
      exact fun _ ended waits stays => stranded rfl ⟨ended, stays, waits⟩

theorem rejectRaised_changes (caller : Caller) (fault : Fault)
    (stranded : caller = .deadline → Strands state → allows .strandedSender) :
    Changes allows { core state with calls := Function.update state.calls caller .idle }
      (core (rejectRaised caller state fault)) := by
  unfold rejectRaised
  cases caller with
  | handler =>
      dsimp only
      split
      · split
        · exact .refl
        · exact .refl
      · exact .refl
  | other number => exact .refl
  | coordinator => exact .refl
  | deadline =>
      have ends : Change allows { core state with
          calls := Function.update state.calls .deadline .idle } { core state with
            calls := Function.update state.calls .deadline .idle
            deadline := .ended } :=
        .deadlineMoved { core state with calls := Function.update state.calls .deadline .idle }
          .ended fun _ ended waits stays => stranded rfl ⟨ended, stays, waits⟩
      dsimp only
      split
      · exact .single ends
      · exact .single ends

theorem sendHandshake_changes (caller : Caller) (reply : SocketAnswer) (interrupt : Bool)
    (late : decidesLate state (.sendsHandshake caller reply interrupt) → allows .lateDecision)
    (stranded : caller = .deadline → Strands state → allows .strandedSender) :
    Changes allows (core state) (core (sendHandshake caller state reply interrupt)) := by
  unfold sendHandshake
  cases call : state.calls caller with
  | accepts send subprotocol =>
      dsimp only
      split
      · rename_i returned
        refine .single (.acceptCommitted (core state) caller send subprotocol call fun failed => ?_)
        refine late ⟨failed, ?_⟩
        rw [call]
        exact returned
      · rename_i later again
        exact .single (.acceptTurned (core state) caller send later subprotocol call)
      · exact .refl
      · rename_i error raised
        have failed : Changes allows (core state)
            (core (state.failHandshake (sendFault error interrupt))) :=
          failHandshake_changes state _ fun _ => .inr ⟨caller, by rw [call]; rfl⟩
        exact failed.tail (.callLeft _ caller)
  | rejects send =>
      dsimp only
      split
      · rename_i returned
        have committed : Change allows (core state) { core state with
            rejected := true
            handshakeState := .rejected
            calls := Function.update state.calls caller .idle } :=
          .rejectCommitted (core state) caller send call fun failed => late ⟨failed, by
            rw [call]
            exact returned⟩
        exact (Relation.ReflTransGen.single committed).trans
          (rejectReturned_changes { state with
            rejected := true
            handshakeState := .rejected } caller stranded)
      · rename_i later again
        exact .single (.rejectTurned (core state) caller send later call)
      · exact .refl
      · rename_i error raised
        have failed : Changes allows (core state)
            (core (state.failHandshake (sendFault error interrupt))) :=
          failHandshake_changes state _ fun _ => .inr ⟨caller, by rw [call]; rfl⟩
        have left : Changes allows (core (state.failHandshake (sendFault error interrupt)))
            { core (state.failHandshake (sendFault error interrupt)) with
              calls := Function.update
                (state.failHandshake (sendFault error interrupt)).calls caller .idle } :=
          .single (.callLeft _ caller)
        refine (failed.trans left).trans (rejectRaised_changes caller _ fun is strands => ?_)
        refine stranded is ?_
        unfold failHandshake at strands
        split at strands
        · exact strands
        · exact strands
  | _ => exact .refl

theorem handlerEnds_changes (result : HandlerEnd) (response : HandshakeBytes) :
    Changes allows (core state) (core (handlerEnds state result response)) := by
  have rejects : ∀ caught : WebSocketState engine, Changes allows (core caught)
      (core (if caught.handshakeState = .pending then
        { caught.beginReject .handler response with handler := .ending }
      else { caught with handler := .ended })) := by
    intro caught
    split
    · rename_i pending
      exact .single (.rejectBegun (core caught) .handler response.send pending)
    · exact .refl
  unfold handlerEnds
  refine Relation.ReflTransGen.trans ?_ (rejects _)
  cases result with
  | returned => exact .refl
  | disconnected => exact .refl
  | raised => exact .refl
  | interrupted =>
      dsimp only
      split
      · rename_i undecided
        exact failHandshake_changes { state with handlerError := some .interrupt } _
          fun _ => .inl undecided
      · exact .refl

end Handshaking

section Calling

variable {engine : Engine} {allows : Defect → Prop} {state : WebSocketState engine}
  {caller : Caller}

structure Free (caller : Caller) (state : WebSocketState engine) : Prop where
  application : caller ≠ .coordinator
  calls : inFlight (state.calls caller) = false

theorem mayCall_free (may : mayCall caller state = true) : Free caller state := by
  simp only [mayCall, Bool.and_eq_true, decide_eq_true_eq] at may
  refine ⟨?_, ?_⟩
  · rintro rfl
    exact Bool.noConfusion may.1.1
  · rw [may.1.2]
    rfl

theorem callMoved_changes (free : Free caller state) {call : Call} (waits : inFlight call = false) :
    Changes allows (core state) { core state with
      calls := Function.update state.calls caller call } :=
  .single (.callMoved (core state) caller call free.application free.calls waits)

theorem receiveLoop_changes (free : Free caller state) :
    Changes allows (core state) (core (receiveLoop caller state)) := by
  unfold receiveLoop
  split
  · split
    · exact .single (.callLeft (core state) caller)
    · exact callMoved_changes free rfl
  · exact .single (.callLeft (core state) caller)

theorem receive_changes (free : Free caller state) :
    Changes allows (core state) (core (receive caller state)) := by
  unfold receive
  split
  · exact receiveLoop_changes free
  · exact .refl

theorem enqueue_changes (free : Free caller state) (event : Event) (size : Nat)
    (waiting : CommandId → Call) (other : event.isClose = false)
    (waits : ∀ id, inFlight (waiting id) = false)
    (stranded : state.hasRoom size = true → (core state).Orphaned → allows .strandedSender) :
    Changes allows (core state) (core (enqueue caller state event size waiting).2) := by
  unfold enqueue
  split
  · rename_i room
    have appended : Change allows (core state) (core (state.append event size (some caller))) :=
      .enqueued (core state) event size (some caller) other
        (fun same => free.application (Option.some.inj same)) fun _ => stranded room
    refine (Relation.ReflTransGen.single appended).tail ?_
    exact .callMoved (core (state.append event size (some caller))) caller _ free.application
      free.calls (waits _)
  · exact .refl

theorem sendMessage_changes (free : Free caller state) (payload : Payload)
    (stranded : strandsSender state (.sendsMessage caller payload) → allows .strandedSender) :
    Changes allows (core state) (core (sendMessage caller state payload)) := by
  unfold sendMessage
  split
  · exact .refl
  · rename_i opened
    split
    · exact .refl
    · rename_i small
      have queued := enqueue_changes free (messageEvent payload) (messageSize payload) .sends
        (by cases payload <;> rfl) (fun _ => rfl) fun room orphaned =>
          stranded ⟨orphaned, opened, Nat.le_of_not_lt small, room⟩
      split
      · rename_i next result
        rw [result] at queued
        exact queued
      · rename_i next result
        rw [result] at queued
        exact queued

theorem ping_changes (free : Free caller state) (payload : Bytes)
    (stranded : strandsSender state (.pings caller payload) → allows .strandedSender) :
    Changes allows (core state) (core (ping caller state payload)) := by
  unfold ping
  split
  · exact .refl
  · split
    · exact .refl
    · rename_i opened
      split
      · exact .refl
      · rename_i unarmed
        have cleared : state.pendingPingGeneration = none := by
          simpa using unarmed
        let armed : WebSocketState engine := { state with
          pingGeneration := state.pingGeneration + 1
          pendingPingGeneration := some (state.pingGeneration + 1)
          pendingPingPayload := some payload
          pongDeadline := some (state.now + state.config.pongTimeout) }
        have armedFree : Free caller armed := ⟨free.application, free.calls⟩
        have queued := enqueue_changes armedFree (.ping payload) payload.length
          (fun command => .pings command (state.pingGeneration + 1)) rfl (fun _ => rfl)
          fun room orphaned => stranded ⟨orphaned, opened, cleared, room⟩
        dsimp only
        split
        · rename_i next result
          rw [result] at queued
          exact queued
        · rename_i next result
          rw [result] at queued
          have same : core (answer caller (next.pingFailed (state.pingGeneration + 1))
              (.raised queueFull)) = core (next.pingFailed (state.pingGeneration + 1)) := rfl
          rw [same, core_pingFailed]
          exact queued

theorem close_changes (free : Free caller state) (code : Nat) (reason : String)
    (repeats : repeatsClose state (.closes caller code reason) → allows .secondClose)
    (refused : refusesClose state (.closes caller code reason) → allows .refusedClose)
    (stranded : strandsSender state (.closes caller code reason) → allows .strandedSender) :
    Changes allows (core state) (core (close caller state code reason)) := by
  unfold close
  split
  · exact .refl
  · rename_i opened
    split
    · exact .refl
    · rename_i valid
      split
      · exact .refl
      · rename_i short
        have path : callCloses state code reason :=
          ⟨opened, Bool.not_eq_false _ ▸ valid, Nat.le_of_not_lt short⟩
        dsimp only [enqueue]
        split
        · rename_i next result
          split at result
          · rename_i room
            obtain ⟨-, rfl⟩ := Prod.mk.inj result
            have appended : Change allows (core state) { core state with
                closeSent := true
                commands := state.commands ++ [{
                  event := .closeConnection code (some reason)
                  size := 2 + (encodeUtf8 reason).length
                  waiter := some caller }]
                outbox := state.outbox ++ [state.commands.length] } :=
              .closeEnqueued (core state) _ _ (some caller) rfl
                (fun again => repeats (.inr (.inr ⟨path, room, again⟩)))
                fun _ orphaned => stranded ⟨orphaned, path, room⟩
            refine (Relation.ReflTransGen.single appended).tail ?_
            exact .callMoved _ caller _ free.application free.calls rfl
          · cases result
        · rename_i next result
          split at result
          · cases result
          · rename_i full
            obtain ⟨-, rfl⟩ := Prod.mk.inj result
            exact .single (.closeRefused (core state) fun none =>
              refused (.inr ⟨path, Bool.eq_false_iff.mpr full, none⟩))

theorem closeLoop_changes (free : Free caller state) (code : Nat) (reason : String) :
    Changes allows (core state) (core (closeLoop caller state code reason)) := by
  unfold closeLoop
  split
  · exact callMoved_changes free rfl
  · exact .single (.callLeft (core state) caller)

theorem resume_changes (application : caller ≠ .coordinator) {after : WebSocketState engine}
    (resumed : resume caller state = some after) :
    Changes allows (core state) (core after) := by
  unfold resume at resumed
  cases call : state.calls caller with
  | idle => rw [call] at resumed; cases resumed
  | accepts send subprotocol => rw [call] at resumed; cases resumed
  | rejects send => rw [call] at resumed; cases resumed
  | receives =>
      rw [call] at resumed
      dsimp only at resumed
      split at resumed
      · cases resumed
      · cases resumed
        exact receiveLoop_changes ⟨application, by rw [call]; rfl⟩
  | sends command =>
      rw [call] at resumed
      obtain ⟨done, -, rfl⟩ := Option.map_eq_some_iff.mp resumed
      split
      · exact .single (.callLeft (core state) caller)
      · exact .single (.callLeft (core state) caller)
  | pings command generation =>
      rw [call] at resumed
      obtain ⟨done, -, rfl⟩ := Option.map_eq_some_iff.mp resumed
      split
      · have same : ∀ fault, core ((state.pingFailed generation).endCall caller (.raised fault)) =
            { core (state.pingFailed generation) with
              calls := Function.update (core (state.pingFailed generation)).calls caller .idle } :=
          fun _ => rfl
        rw [same, core_pingFailed]
        exact .single (.callLeft (core state) caller)
      · exact .single (.callLeft (core state) caller)
  | closes command code reason =>
      rw [call] at resumed
      obtain ⟨done, -, rfl⟩ := Option.map_eq_some_iff.mp resumed
      split
      · exact .single (.callLeft (core state) caller)
      · exact closeLoop_changes ⟨application, by rw [call]; rfl⟩ code reason
  | lingers code reason wakeAt =>
      rw [call] at resumed
      dsimp only at resumed
      split at resumed
      · cases resumed
        exact closeLoop_changes ⟨application, by rw [call]; rfl⟩ code reason
      · cases resumed

end Calling

end SmallServer.WebSocketEffects
