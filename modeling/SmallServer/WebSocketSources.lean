import SmallServer.WebSocketSteps

/-!
# What other tasks leave to the reader

The reader has the frame guard and the data behind the request to itself, and shares the
protocol engine with the writer. A step of any other task leaves all of it as it is, or sends
through the engine, or ends the connection, unless the handshake had failed before.
-/

namespace SmallServer.WebSocketSources

open SmallServer HttpValues KernelTransport WebSocket WebSocketState WebSocketTasks
  WebSocketFrames WebSocketEffects WebSocketSteps

set_option autoImplicit false

variable {engine : Engine}

section Sources

/-- What the reader reads from, and whether the handshake has failed. -/
structure Source (engine : Engine) where
  guard : FrameGuard
  trailingData : Bytes
  reader : ReaderTask
  protocol : Option engine.State
  failed : Bool

def source (state : WebSocketState engine) : Source engine where
  guard := state.guard
  trailingData := state.trailingData
  reader := state.reader
  protocol := state.protocol
  failed := decide (state.handshakeState = .failed)

def Disturbed (state : WebSocketState engine) : Prop :=
  state.disconnect ≠ none ∨ state.shutdown = true

structure Settled (core : Core) : Prop where
  decided : core.handshakeState.undecided = false
  spawned : ¬(core.coordinator = .starting ∨ core.coordinator = .deciding)

/-- What a step of another task leaves to the reader. -/
inductive Leaves (state after : WebSocketState engine) : Prop
  | same (same : source after = source state)
  | sent (protocol later : engine.State) (event : Event) (payload : Bytes)
      (had : state.protocol = some protocol)
      (sends : engine.send protocol event = some (payload, later))
      (same : source after = { source state with protocol := some later })
  | created (pending : (core state).handshakeState = .pending)
      (same : source after = { source state with protocol := some engine.create })
  | spawned (deciding : (core state).coordinator = .deciding) (accepted : state.accepted = true)
      (settled : Settled (core after))
      (same : source after = { source state with reader := .spawned })
  | late (failed : state.handshakeState = .failed)
  | disturbed (disturbed : Disturbed after)

variable {state middle after : WebSocketState engine}

/-- Nothing changes for the reader, or the connection is over. -/
def Unmoved (state after : WebSocketState engine) : Prop :=
  source after = source state ∨ Disturbed after

theorem Unmoved.refl (state : WebSocketState engine) : Unmoved state state := .inl rfl

theorem Unmoved.leaves (unmoved : Unmoved state after) : Leaves state after := by
  rcases unmoved with same | disturbed
  · exact .same same
  · exact .disturbed disturbed

theorem Unmoved.still (unmoved : Unmoved state middle) (same : source after = source middle)
    (disturbed : Disturbed middle → Disturbed after) : Unmoved state after :=
  unmoved.imp same.trans disturbed

end Sources

section States

variable (state : WebSocketState engine)

theorem disturbed_disconnectWith (code : Nat) (reason : String) :
    Disturbed (state.disconnectWith code reason) := by
  refine .inl ?_
  unfold disconnectWith
  cases state.disconnect with
  | none => exact nofun
  | some disconnect => exact nofun

theorem source_enqueueControl (event : Event) (size : Nat) :
    source (state.enqueueControl event size).2 = source state := by
  unfold enqueueControl
  split
  · rfl
  · rfl

theorem source_pingFailed (generation : Nat) :
    source (state.pingFailed generation) = source state := by
  unfold pingFailed
  split
  · rfl
  · rfl

theorem disturbed_failHandshake (error : Fault) (unfailed : state.handshakeState ≠ .failed) :
    Disturbed (state.failHandshake error) := by
  unfold failHandshake
  rw [if_neg unfailed]
  exact disturbed_disconnectWith _ 1006 ""

theorem unmoved_failHandshake (error : Fault) : Unmoved state (state.failHandshake error) := by
  by_cases failed : state.handshakeState = .failed
  · unfold failHandshake
    rw [if_pos failed]
    exact .refl state
  · exact .inr (disturbed_failHandshake state error failed)

theorem source_closeCall (caller : Caller) :
    source (state.closeCall caller) = source state := by
  unfold closeCall
  split
  · rename_i command generation _
    exact source_pingFailed state generation
  · rfl
  · rfl

theorem disturbed_pingFailed (generation : Nat) (disturbed : Disturbed state) :
    Disturbed (state.pingFailed generation) := by
  unfold pingFailed
  split
  · exact disturbed
  · exact disturbed

theorem disturbed_closeCall (caller : Caller) (disturbed : Disturbed state) :
    Disturbed (state.closeCall caller) := by
  unfold closeCall
  split
  · rename_i command generation _
    exact disturbed_pingFailed state generation disturbed
  · rename_i command code reason _
    exact disturbed_disconnectWith state code reason
  · exact disturbed

theorem source_decides {left : WebSocketState engine} (pending : left.handshakeState = .pending)
    (handshakeState : HandshakeState) (decides : handshakeState ≠ .failed) :
    source { left with handshakeState } = source left := by
  unfold source
  rw [pending, decide_eq_false decides]
  rfl

theorem source_closeHandler (response : HandshakeBytes) :
    source (state.closeHandler response) = source state := by
  have left := source_closeCall state .handler
  unfold closeHandler
  split
  · rfl
  · dsimp only
    split
    · rename_i pending
      exact (source_decides pending .rejecting nofun).trans left
    · exact left
  · exact left
  · rfl

theorem disturbed_closeHandler (response : HandshakeBytes) (disturbed : Disturbed state) :
    Disturbed (state.closeHandler response) := by
  have left := disturbed_closeCall state .handler disturbed
  unfold closeHandler
  split
  · exact disturbed
  · dsimp only
    split
    · exact left
    · exact left
  · exact disturbed_disconnectWith (state.closeCall .handler) 1006 ""
  · exact disturbed

theorem source_cancelHandler (cancel : Cancel) :
    source (state.cancelHandler cancel).2 = source state := by
  unfold cancelHandler
  split
  · rfl
  · split
    · exact source_closeHandler state cancel.response
    · rfl
    · rfl

theorem disturbed_cancelHandler (cancel : Cancel) (disturbed : Disturbed state) :
    Disturbed (state.cancelHandler cancel).2 := by
  unfold cancelHandler
  split
  · exact disturbed
  · split
    · exact disturbed_closeHandler state cancel.response disturbed
    · exact disturbed
    · exact disturbed

theorem source_closeWriter : source state.closeWriter = source state := by
  unfold closeWriter
  split
  · rfl
  · rfl
  · rfl

theorem disturbed_closeWriter (disturbed : Disturbed state) : Disturbed state.closeWriter := by
  unfold closeWriter
  split
  · exact disturbed
  · exact disturbed
  · exact disturbed

theorem source_abortWriter (error : Fault) (cancel : Cancel) :
    source (state.abortWriter error cancel).2 = source state := by
  unfold abortWriter
  dsimp only
  split
  · rfl
  · split
    · exact source_closeWriter (state.failOutbound error)
    · rfl
    · rfl

theorem shutdown_enqueueControl (event : Event) (size : Nat) :
    (state.enqueueControl event size).2.shutdown = state.shutdown := by
  unfold enqueueControl
  split
  · rfl
  · rfl

theorem shutdown_closeForShutdown (code : Nat) :
    (state.closeForShutdown code).shutdown = state.shutdown := by
  unfold closeForShutdown
  split
  · exact shutdown_enqueueControl state _ 17
  · rfl

theorem shutdown_failHandshake (error : Fault) :
    (state.failHandshake error).shutdown = state.shutdown := by
  unfold failHandshake
  split
  · rfl
  · rfl

theorem disturbed_requestShutdown (code : Nat) (cancel : Cancel) :
    Disturbed (state.requestShutdown code cancel).2 := by
  unfold requestShutdown
  split
  · rename_i already
    exact .inr already
  · have shut := shutdown_closeForShutdown { state with shutdown := true } code
    refine disturbed_cancelHandler _ cancel (.inr ?_)
    split
    · rw [shutdown_failHandshake]
      exact shut
    · exact shut

end States

section Calls

variable (caller : Caller) (state : WebSocketState engine)

theorem accept_leaves (subprotocol : Option Text) (response : Option HandshakeBytes) :
    Leaves state (accept caller state subprotocol response) := by
  unfold accept
  split
  · exact .same rfl
  · rename_i decided
    have pending : state.handshakeState = .pending := not_not.mp decided
    split
    · exact .same rfl
    · split
      · exact .same rfl
      · split
        · exact .same rfl
        · have same := source_decides pending .accepting nofun
          exact .created pending (congrArg ({ · with protocol := some engine.create }) same)

theorem reject_leaves (checked : Bool) (response : Option HandshakeBytes) :
    Leaves state (reject caller state checked response) := by
  unfold reject
  split
  · exact .same rfl
  · rename_i decided
    have pending : state.handshakeState = .pending := not_not.mp decided
    split
    · exact .same rfl
    · split
      · exact .disturbed (disturbed_disconnectWith _ 1006 "")
      · exact .same (source_decides pending .rejecting nofun)

theorem source_rejectReturned : source (rejectReturned caller state) = source state := by
  unfold rejectReturned
  dsimp only
  split
  · split
    · rfl
    · rfl
  · rfl
  · rfl

theorem source_rejectRaised (fault : Fault) :
    source (rejectRaised caller state fault) = source state := by
  unfold rejectRaised
  dsimp only
  split
  · split
    · split
      · rfl
      · rfl
    · rfl
  · split
    · rfl
    · rfl
  · rfl

theorem disturbed_rejectRaised (fault : Fault) (disturbed : Disturbed state) :
    Disturbed (rejectRaised caller state fault) := by
  unfold rejectRaised
  dsimp only
  split
  · split
    · split
      · exact disturbed
      · exact disturbed_disconnectWith (state.endCall _ _) 1006 ""
    · exact disturbed
  · split
    · exact disturbed
    · exact disturbed_disconnectWith (state.endCall _ _) 1006 ""
  · exact disturbed

theorem sendHandshake_leaves (reply : SocketAnswer) (interrupt : Bool) :
    Leaves state (sendHandshake caller state reply interrupt) := by
  by_cases failed : state.handshakeState = .failed
  · exact .late failed
  have decides : ∀ handshakeState : HandshakeState, handshakeState ≠ .failed →
      source { state with handshakeState } = source state := by
    intro handshakeState other
    unfold source
    rw [decide_eq_false failed, decide_eq_false other]
  unfold sendHandshake
  split
  · split
    · exact .same (decides .accepted nofun)
    · exact .same rfl
    · exact .same rfl
    · rename_i error _
      refine Unmoved.leaves ?_
      exact (unmoved_failHandshake state _).still rfl id
  · split
    · exact .same ((source_rejectReturned caller _).trans (decides .rejected nofun))
    · exact .same rfl
    · exact .same rfl
    · rename_i error _
      refine Unmoved.leaves ?_
      exact (unmoved_failHandshake state _).still (source_rejectRaised caller _ _)
        (disturbed_rejectRaised caller _ _)
  · exact .same rfl

theorem source_receiveLoop : source (receiveLoop caller state) = source state := by
  unfold receiveLoop
  split
  · split
    · rfl
    · rfl
  · rfl

theorem source_receive : source (receive caller state) = source state := by
  unfold receive
  split
  · exact source_receiveLoop caller state
  · rfl

variable {caller state} in
theorem source_enqueue {event : Event} {size : Nat} {waiting : CommandId → Call} {room : Bool}
    {next : WebSocketState engine}
    (queued : enqueue caller state event size waiting = (room, next)) :
    source next = source state := by
  unfold enqueue at queued
  split at queued
  · cases queued
    rfl
  · cases queued
    rfl

theorem source_sendMessage (payload : Payload) :
    source (sendMessage caller state payload) = source state := by
  unfold sendMessage
  split
  · rfl
  · split
    · rfl
    · split
      · rename_i next queued
        have left := source_enqueue queued
        exact left
      · rename_i next queued
        have left := source_enqueue queued
        exact left

theorem source_ping (payload : Bytes) : source (ping caller state payload) = source state := by
  unfold ping
  split
  · rfl
  · split
    · rfl
    · split
      · rfl
      · dsimp only
        split
        · rename_i next queued
          have left := source_enqueue queued
          exact left
        · rename_i next queued
          have left := source_enqueue queued
          exact (source_pingFailed next _).trans left

theorem source_close (code : Nat) (reason : String) :
    source (close caller state code reason) = source state := by
  unfold close
  split
  · rfl
  · split
    · rfl
    · split
      · rfl
      · dsimp only
        split
        · rename_i next queued
          have left := source_enqueue queued
          exact left
        · rename_i next queued
          have left := source_enqueue queued
          exact left

theorem source_closeLoop (code : Nat) (reason : String) :
    source (closeLoop caller state code reason) = source state := by
  unfold closeLoop
  split
  · rfl
  · rfl

theorem source_resume {after : WebSocketState engine}
    (resumes : resume caller state = some after) : source after = source state := by
  unfold resume at resumes
  split at resumes
  · split at resumes
    · cases resumes
    · cases resumes
      exact source_receiveLoop caller state
  · obtain ⟨command, _, rfl⟩ := Option.map_eq_some_iff.mp resumes
    split
    · rfl
    · rfl
  · obtain ⟨command, _, rfl⟩ := Option.map_eq_some_iff.mp resumes
    split
    · exact source_pingFailed state _
    · rfl
  · obtain ⟨command, _, rfl⟩ := Option.map_eq_some_iff.mp resumes
    split
    · rfl
    · exact source_closeLoop caller state _ _
  · split at resumes
    · cases resumes
      exact source_closeLoop caller state _ _
    · cases resumes
  · cases resumes

end Calls

section Tasks

variable (state : WebSocketState engine)

theorem handlerEnds_leaves (result : HandlerEnd) (response : HandshakeBytes) :
    Leaves state (handlerEnds state result response) := by
  have caught : ∀ {middle : WebSocketState engine}, Unmoved state middle →
      Leaves state (if middle.handshakeState = .pending then
        { middle.beginReject .handler response with handler := .ending }
      else { middle with handler := .ended }) := by
    intro middle unmoved
    refine Unmoved.leaves ?_
    split
    · rename_i pending
      exact unmoved.still (source_decides pending .rejecting nofun) id
    · exact unmoved.still rfl id
  cases result with
  | returned => exact caught (.refl state)
  | disconnected => exact caught (.refl state)
  | interrupted =>
      unfold handlerEnds
      dsimp only
      by_cases undecided : state.handshakeState.undecided = true
      · rw [if_pos undecided]
        refine caught (.inr (disturbed_failHandshake _ .interrupt fun failed => ?_))
        rw [show state.handshakeState = .failed from failed] at undecided
        cases undecided
      · rw [if_neg undecided]
        exact caught (.inl rfl)
  | raised => exact caught (.inl rfl)

theorem source_sendNext (command : CommandId) (payload : Bytes) :
    source (sendNext state command payload) = source state := by
  unfold sendNext
  split
  · rfl
  · rfl

theorem source_writeFailed (command : CommandId) (fault : Fault) (cancel : Cancel) :
    source (writeFailed state command fault cancel) = source state := by
  unfold writeFailed
  exact source_cancelHandler _ cancel

theorem writerTakes_leaves (cancel : Cancel) : Leaves state (writerTakes state cancel) := by
  unfold writerTakes
  split
  · split
    · exact .same rfl
    · exact .same rfl
  · rename_i command outbox _
    dsimp only
    split
    · exact .same (source_writeFailed _ command .other cancel)
    · rename_i payload protocol sends
      obtain ⟨before, had, sent⟩ := Option.bind_eq_some_iff.mp sends
      obtain ⟨queued, _, serialized⟩ := Option.bind_eq_some_iff.mp sent
      exact .sent before protocol queued.event payload had serialized
        (source_sendNext _ command payload)

theorem source_writerSends (reply : SocketAnswer) (interrupt : Bool) (cancel : Cancel) :
    source (writerSends state reply interrupt cancel) = source state := by
  unfold writerSends
  split
  · dsimp only
    split
    · exact source_sendNext _ _ _
    · rfl
    · rfl
    · exact source_writeFailed _ _ _ cancel
  · rfl

theorem source_beginDeadlineClose (code : Nat) (reason : String) (cancel : Cancel) :
    source (state.beginDeadlineClose code reason cancel).2 = source state := by
  unfold beginDeadlineClose
  rw [source_cancelHandler]
  dsimp only
  split
  · exact source_enqueueControl state _ _
  · rfl

theorem handshakeTimedOut_leaves (response : HandshakeBytes) (cancel : Cancel) :
    Leaves state (handshakeTimedOut state response cancel) := by
  unfold handshakeTimedOut
  split
  · rename_i pending
    exact .same (source_decides pending .rejecting nofun)
  · refine Unmoved.leaves ?_
    exact (unmoved_failHandshake state _).still (source_cancelHandler _ cancel)
      (disturbed_cancelHandler _ cancel)

theorem source_deadlineAborts (error : Disconnect) (cancel : Cancel) :
    source (deadlineAborts state error cancel) = source state := by
  have aborted := source_abortWriter state (.disconnect error) cancel
  unfold deadlineAborts
  split
  · rename_i next result
    rw [result] at aborted
    exact aborted
  · rename_i next result
    rw [result] at aborted
    have cancelled := source_cancelHandler next cancel
    split
    · rename_i last left
      rw [left] at cancelled
      exact cancelled.trans aborted
    · rename_i last left
      rw [left] at cancelled
      exact cancelled.trans aborted

theorem source_deadlineCloses (cancel : Cancel) :
    source (deadlineCloses state cancel).2 = source state := by
  unfold deadlineCloses
  split
  · exact source_beginDeadlineClose state 1002 "Pong timeout" cancel
  · split
    · exact source_beginDeadlineClose state 1001 "idle timeout" cancel
    · rfl

theorem deadlineWakes_leaves (response : HandshakeBytes) (closing cancel : Cancel) :
    Leaves state (deadlineWakes state response closing cancel) := by
  have closed := source_deadlineCloses state closing
  unfold deadlineWakes
  split
  · split
    · exact handshakeTimedOut_leaves state response cancel
    · exact .same rfl
  · split
    · rename_i next result
      rw [result] at closed
      exact .same closed
    · rename_i next result
      rw [result] at closed
      split
      · exact .same ((source_deadlineAborts next _ cancel).trans closed)
      · split
        · exact .same ((source_deadlineAborts next _ cancel).trans closed)
        · exact .same closed

theorem disturbed_closeDeadlineTask (disturbed : Disturbed state) :
    Disturbed (closeDeadlineTask state) := by
  unfold closeDeadlineTask
  split
  · exact disturbed
  · exact disturbed_disconnectWith (state.closeCall .deadline) 1006 ""
  · exact disturbed

theorem source_closeFromCoordinator (code : Nat) (reason : String) (size : Nat) :
    source (closeFromCoordinator state code reason size) = source state := by
  unfold closeFromCoordinator
  dsimp only
  split
  · rename_i next queued
    have left := source_enqueue queued
    exact left
  · rename_i next queued
    have left := source_enqueue queued
    exact left

theorem source_joined (error : Option Fault) : source (joined state error) = source state := by
  unfold joined
  dsimp only
  split
  · rfl
  · split
    · exact source_closeFromCoordinator _ 1011 "handler failed" 16
    · split
      · exact source_closeFromCoordinator _ 1000 "" 2
      · rfl

theorem source_closeEnqueued (command : OutboundCommand) :
    source (closeEnqueued state command) = source state := by
  unfold closeEnqueued
  dsimp only
  split
  · rfl
  · split
    · rfl
    · rfl

theorem source_coordinatorCancelled : source (coordinatorCancelled state) = source state := by
  unfold coordinatorCancelled
  split
  · rfl
  · exact source_joined state _
  · rfl
  · rfl
  · rfl

theorem disturbed_closeChildren (closes : Children) (response : HandshakeBytes)
    (disturbed : Disturbed state) : Disturbed (closeChildren state closes response) := by
  have handler : Disturbed (if closes.handler then state.closeHandler response else state) := by
    split
    · exact disturbed_closeHandler state response disturbed
    · exact disturbed
  have deadline := fun middle : WebSocketState engine => fun disturbed : Disturbed middle =>
    show Disturbed (if closes.deadline then closeDeadlineTask middle else middle) by
      split
      · exact disturbed_closeDeadlineTask middle disturbed
      · exact disturbed
  have writer := fun middle : WebSocketState engine => fun disturbed : Disturbed middle =>
    show Disturbed (if closes.writer then middle.closeWriter else middle) by
      split
      · exact disturbed_closeWriter middle disturbed
      · exact disturbed
  have reader := fun middle : WebSocketState engine => fun disturbed : Disturbed middle =>
    show Disturbed (if closes.reader ∧ middle.reader ≠ .absent then
        { middle with reader := .ended } else middle) by
      split
      · exact disturbed
      · exact disturbed
  exact reader _ (writer _ (deadline _ handler))

theorem disturbed_coordinatorFinishes (cancel : Cancel) (closes : Children) :
    Disturbed (coordinatorFinishes state cancel closes) := by
  have shut := disturbed_requestShutdown state 1001 cancel
  unfold coordinatorFinishes
  split
  · rename_i next result
    rw [result] at shut
    exact shut
  · rename_i next result
    rw [result] at shut
    exact disturbed_closeChildren next closes cancel.response shut

end Tasks

section Steps

def ofReader : Step → Bool
  | .readerStarts _ => true
  | .readerReceives _ _ => true
  | .readerEnds _ _ => true
  | .readerRaises _ _ => true
  | _ => false

variable {state after : WebSocketState engine}

theorem guarded_leaves {condition : Prop} [Decidable condition] {next : WebSocketState engine}
    (goes : condition → Leaves state next)
    (taken : (if condition then some next else none) = some after) : Leaves state after := by
  split at taken
  · rename_i holds
    cases taken
    exact goes holds
  · cases taken

/-- **What a step of another task leaves to the reader.** -/
theorem next_leaves (step : Step) (other : ofReader step = false)
    (taken : next state step = some after) : Leaves state after := by
  cases step with
  | passes duration =>
      cases taken
      exact .same rfl
  | coordinatorStarts =>
      refine guarded_leaves (fun _ => ?_) taken
      exact .same rfl
  | coordinatorDecides =>
      unfold next at taken
      dsimp only at taken
      split at taken
      · rename_i decides
        split at taken
        · rename_i accepted
          cases taken
          exact .spawned decides.1 accepted ⟨decides.2, nofun⟩ rfl
        · cases taken
          exact .same rfl
      · cases taken
  | coordinatorJoins result =>
      exact guarded_leaves (fun _ => .same (source_joined state result.error)) taken
  | coordinatorResumes =>
      unfold next at taken
      dsimp only at taken
      split at taken
      · split at taken
        · obtain ⟨command, _, rfl⟩ := Option.map_eq_some_iff.mp taken
          exact .same (source_closeEnqueued state command)
        · cases taken
      · cases taken
  | coordinatorWakes =>
      unfold next at taken
      dsimp only at taken
      split at taken
      · refine guarded_leaves (fun _ => ?_) taken
        exact .same rfl
      · cases taken
  | coordinatorCancelled =>
      cases taken
      exact .same (source_coordinatorCancelled state)
  | coordinatorFinishes cancel closes =>
      exact guarded_leaves
        (fun _ => .disturbed (disturbed_coordinatorFinishes state cancel closes)) taken
  | handlerStarts =>
      refine guarded_leaves (fun _ => ?_) taken
      exact .same rfl
  | handlerEnds result response =>
      exact guarded_leaves (fun _ => handlerEnds_leaves state result response) taken
  | accepts caller subprotocol response =>
      exact guarded_leaves (fun _ => accept_leaves caller state subprotocol response) taken
  | rejects caller checked response =>
      exact guarded_leaves (fun _ => reject_leaves caller state checked response) taken
  | receives caller =>
      exact guarded_leaves (fun _ => .same (source_receive caller state)) taken
  | sendsMessage caller payload =>
      exact guarded_leaves (fun _ => .same (source_sendMessage caller state payload)) taken
  | pings caller payload =>
      exact guarded_leaves (fun _ => .same (source_ping caller state payload)) taken
  | closes caller code reason =>
      exact guarded_leaves (fun _ => .same (source_close caller state code reason)) taken
  | sendsHandshake caller reply interrupt =>
      cases taken
      exact sendHandshake_leaves caller state reply interrupt
  | resumes caller =>
      unfold next at taken
      dsimp only at taken
      split at taken
      · exact .same (source_resume caller state taken)
      · cases taken
  | cancelsOther number =>
      cases taken
      exact .same (source_closeCall state (.other number))
  | readerStarts cancel => cases other
  | readerReceives chunk cancel => cases other
  | readerEnds cancel again => cases other
  | readerRaises interrupt cancel => cases other
  | writerTakes cancel => exact guarded_leaves (fun _ => writerTakes_leaves state cancel) taken
  | writerSends reply interrupt cancel =>
      cases taken
      exact .same (source_writerSends state reply interrupt cancel)
  | deadlineStarts =>
      refine guarded_leaves (fun _ => ?_) taken
      exact .same rfl
  | deadlineWakes response closing cancel =>
      unfold next at taken
      dsimp only at taken
      split at taken
      · exact guarded_leaves
          (fun _ => deadlineWakes_leaves state response closing cancel) taken
      · cases taken
  | requestsShutdown code cancel =>
      cases taken
      exact .disturbed (disturbed_requestShutdown state code cancel)

end Steps

section Settling

variable {before after : Core} {allows : Defect → Prop}

theorem change_settled (change : Change allows before after) (settled : Settled before) :
    Settled after := by
  cases change with
  | handshakeFailed unfailed undecided => exact ⟨rfl, settled.spawned⟩
  | acceptBegun caller send subprotocol pending =>
      exact absurd settled.decided (by rw [pending]; decide)
  | rejectBegun caller send pending =>
      exact absurd settled.decided (by rw [pending]; decide)
  | acceptCommitted caller send subprotocol was late => exact ⟨rfl, settled.spawned⟩
  | rejectCommitted caller send was late => exact ⟨rfl, settled.spawned⟩
  | coordinatorCloses event size closes unsent repeats stranded stays =>
      exact ⟨settled.decided, nofun⟩
  | coordinatorMoved coordinator stays spawned =>
      exact ⟨settled.decided, fun early => settled.spawned (spawned early)⟩
  | writerSpawned decides => exact ⟨settled.decided, nofun⟩
  | _ => exact ⟨settled.decided, settled.spawned⟩

end Settling

end SmallServer.WebSocketSources
