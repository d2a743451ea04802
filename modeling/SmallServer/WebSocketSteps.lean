import SmallServer.WebSocketEffects

/-!
# The changes of each step

What the writer, the reader, the deadline task and the coordinator do to a core. Together
with the calls of the application this is every step of a connection.
-/

namespace SmallServer.WebSocketSteps

open SmallServer HttpValues KernelTransport WebSocket WebSocketState WebSocketTasks
  WebSocketEffects Runs

set_option autoImplicit false

section Writing

variable {engine : Engine} {allows : Defect → Prop} {state : WebSocketState engine}

theorem modify_twice (commands : List OutboundCommand) (id : CommandId)
    (first second : OutboundCommand → OutboundCommand) :
    (commands.modify id first).modify id second = commands.modify id (second ∘ first) := by
  refine List.ext_getElem? fun place => ?_
  rw [List.getElem?_modify, List.getElem?_modify, List.getElem?_modify]
  cases commands[place]? with
  | none => rfl
  | some command =>
      by_cases here : id = place
      · simp [here]
      · simp [here]

theorem cancelHandler_interrupted {cancel : Cancel}
    (interrupted : (state.cancelHandler cancel).1 = true) : cancel.handler = .interrupted := by
  unfold cancelHandler at interrupted
  split at interrupted
  · cases interrupted
  · split at interrupted
    · cases interrupted
    · cases interrupted
    · assumption

theorem writeFailed_core (state : WebSocketState engine) (command : CommandId) (fault : Fault)
    (cancel : Cancel) :
    ∃ after writer, HandlerLeft (core state) after ∧
      (writer = .looping ∨ (writer = .ended ∧
        (fault = .interrupt ∨ cancel.handler = .interrupted))) ∧
      core (writeFailed state command fault cancel) = { after with
        activeCommand := none
        commands := state.commands.modify command fun command =>
          { command with done := true, error := some fault }
        writer } := by
  let noted : WebSocketState engine := { state with
    commands := state.commands.modify command fun command => { command with error := some fault }
    fatalError := if fault = .interrupt then some fault else state.fatalError }
  have left := cancelHandler_left (noted.disconnectWith 1006 "") cancel
  have same : core (noted.disconnectWith 1006 "") = { core state with
      commands := state.commands.modify command fun command =>
        { command with error := some fault } } := rfl
  rw [same] at left
  have unchanged := left.unchanged
  refine ⟨_, if fault = .interrupt ∨
      ((noted.disconnectWith 1006 "").cancelHandler cancel).1 = true then .ended else .looping,
    left.aside state.outbox state.activeCommand state.frames state.commands, ?_, ?_⟩
  · split
    · rename_i ends
      exact .inr ⟨rfl, ends.imp_right cancelHandler_interrupted⟩
    · exact .inl rfl
  · have result : core (writeFailed state command fault cancel) =
        { core ((noted.disconnectWith 1006 "").cancelHandler cancel).2 with
          activeCommand := none
          commands := (core ((noted.disconnectWith 1006 "").cancelHandler cancel).2).commands.modify
            command fun command => { command with done := true }
          writer := if fault = .interrupt ∨
            ((noted.disconnectWith 1006 "").cancelHandler cancel).1 = true then .ended
            else .looping } := rfl
    rw [result, unchanged.2.1, modify_twice]
    generalize core ((noted.disconnectWith 1006 "").cancelHandler cancel).2 = after at left
    cases left with
    | stays => rfl
    | leaves => rfl
    | rejects => rfl

theorem sendFault_fromWrite (error : SendError) (interrupt : Bool) :
    fromWrite (sendFault error interrupt) = true := by
  unfold sendFault
  split
  · rfl
  · rfl

theorem sendFault_interrupt {error : SendError} {interrupt : Bool}
    (same : sendFault error interrupt = .interrupt) : interrupt = true := by
  unfold sendFault at same
  split at same
  · rename_i raised
    exact raised.2
  · cases same

theorem take_empty {payload : Bytes} {size : Nat} (positive : 0 < size)
    (empty : SendAll.start (payload.take size) = none) : payload = [] := by
  have nothing := SendAll.start_eq_none empty
  rw [List.take_eq_nil_iff] at nothing
  exact nothing.resolve_left (Nat.pos_iff_ne_zero.mp positive)

theorem sendNext_core (state : WebSocketState engine) (command : CommandId) (payload : Bytes) :
    (∃ send, send.offer ++ payload.drop state.config.writeChunkBytes = payload ∧
        core (sendNext state command payload) = { core state with
          writer := .sends command send (payload.drop state.config.writeChunkBytes) }) ∨
      (payload = [] ∧ core (sendNext state command payload) = { core state with
        activeCommand := none
        commands := state.commands.modify command fun command => { command with done := true }
        writer := .looping }) := by
  unfold sendNext
  split
  · rename_i send begun
    refine .inl ⟨send, ?_, rfl⟩
    rw [SendAll.start_offer begun]
    exact List.take_append_drop _ _
  · rename_i nothing
    exact .inr ⟨take_empty state.config.limits_positive.2.2.2.2.2 nothing, rfl⟩

theorem framePassed_changes {command : CommandId} {outbox : List CommandId} (cancel : Cancel)
    {taken : WebSocketState engine} (loops : state.writer = .looping)
    (queued : state.outbox = command :: outbox)
    (is : core taken = { core state with
      outbox
      activeCommand := some command
      frames := state.frames ++ [(command, none)] })
    (broken : (core state).Broken → allows .brokenWire)
    (stranded : cancel.handler = .interrupted → state.deadline = .ended →
      Core.Waits { core state with outbox } → leaving state.coordinator = false →
        allows .strandedSender) :
    Changes allows (core state) (core (writeFailed taken command .other cancel)) := by
  obtain ⟨after, writer, left, goes, result⟩ := writeFailed_core taken command .other cancel
  rw [is] at left
  have commands : taken.commands = state.commands := congrArg Core.commands is
  have aside : HandlerLeft (core state) { after with
      outbox := state.outbox
      activeCommand := state.activeCommand
      frames := state.frames
      commands := state.commands } :=
    left.aside state.outbox state.activeCommand state.frames state.commands
  refine aside.changes.tail ?_
  rw [result, commands]
  obtain ⟨sameOutbox, -, sameWriter, sameDeadline, sameCoordinator, -⟩ := left.unchanged
  have outboxIs : after.outbox = outbox := sameOutbox
  have framesIs : after.frames = state.frames ++ [(command, none)] := left.frames
  have passes : Change allows { after with
      outbox := state.outbox
      activeCommand := state.activeCommand
      frames := state.frames
      commands := state.commands } { after with
        outbox
        activeCommand := none
        frames := state.frames ++ [(command, none)]
        commands := state.commands.modify command fun command =>
          { command with done := true, error := (some .other : Option Fault) <|> command.error }
        writer } := by
    refine .commandPassed _ command outbox none (some .other) writer (sameWriter.trans loops)
      queued (.inr ⟨rfl, rfl⟩) broken (goes.imp_right fun ends => ⟨ends.1, ?_⟩)
    intro ended waits stays
    exact stranded (ends.2.resolve_left nofun) (sameDeadline.symm.trans ended) waits
      ((congrArg leaving sameCoordinator).symm.trans stays)
  rw [← framesIs, ← outboxIs] at passes
  exact passes

theorem writerTakes_changes (cancel : Cancel) (loops : state.writer = .looping)
    (broken : goesOnBroken state (.writerTakes cancel) → allows .brokenWire)
    (stranded : strandsSender state (.writerTakes cancel) → allows .strandedSender) :
    Changes allows (core state) (core (writerTakes state cancel)) := by
  unfold writerTakes
  split
  · rename_i queued
    split
    · exact .single (.writerEnded (core state) (.inl loops) (.inl queued))
    · exact .refl
  · rename_i command outbox queued
    have wrong : (core state).Broken → allows .brokenWire := fun broke =>
      broken ⟨by rw [queued]; exact List.cons_ne_nil _ _, broke⟩
    dsimp only
    split
    · refine framePassed_changes cancel loops queued rfl wrong ?_
      intro interrupted ended waits stays
      refine stranded ⟨ended, stays, ?_, interrupted⟩
      rw [queued]
      exact waits
    · rename_i payload protocol sent
      have present : state.protocol.isSome = true := by
        obtain ⟨before, is, -⟩ := Option.bind_eq_some_iff.mp sent
        exact Option.isSome_iff_exists.mpr ⟨before, is⟩
      obtain ⟨send, whole, begun⟩ | ⟨empty, passed⟩ := sendNext_core { state with
          outbox
          outboxBytes := state.outboxBytes - (state.commands[command]?.elim 0 fun c => c.size)
          writerBusy := true
          activeCommand := some command
          writeDeadline := some (state.now + state.config.writeTimeout)
          protocol := some protocol
          frames := state.frames ++ [(command, some payload)] } command payload
      · have taken : Change allows (core state) _ :=
          .frameTaken (core state) command outbox payload send _ loops queued whole wrong
        rw [begun]
        simp only [core, present] at taken ⊢
        exact .single taken
      · subst empty
        have taken := Change.commandPassed (core state) command outbox (some []) none .looping
          loops queued (.inl ⟨rfl, rfl⟩) wrong (.inl rfl)
        rw [passed]
        simp only [core, present] at taken ⊢
        exact .single taken

theorem accepted_suspended {send : SendAll} {reply : SocketAnswer} {mode : RetryMode}
    (turned : send.turn reply = .suspended mode) : send.accepted reply = [] := by
  have divided := send.accepted_append_rest reply
  rw [turned] at divided
  exact List.append_left_eq_self.mp divided

theorem accepted_raised {send : SendAll} {reply : SocketAnswer} {error : SendError}
    (turned : send.turn reply = .raised error) : send.accepted reply = [] := by
  have divided := send.accepted_append_rest reply
  rw [turned] at divided
  exact List.append_left_eq_self.mp divided

theorem frameFailed_changes {command : CommandId} {send : SendAll} {rest : Bytes}
    (cancel : Cancel) {fault : Fault} (sends : state.writer = .sends command send rest)
    (written : fromWrite fault = true)
    (stranded : fault = .interrupt ∨ cancel.handler = .interrupted → state.deadline = .ended →
      (core state).Waits → leaving state.coordinator = false → allows .strandedSender) :
    Changes allows (core state) (core (writeFailed state command fault cancel)) := by
  obtain ⟨after, writer, left, goes, result⟩ := writeFailed_core state command fault cancel
  obtain ⟨sameOutbox, sameCommands, sameWriter, sameDeadline, sameCoordinator, -⟩ :=
    left.unchanged
  refine left.changes.tail ?_
  have fails : Change allows after { after with
      activeCommand := none
      commands := after.commands.modify command fun command =>
        { command with done := true, error := some fault }
      writer } := by
    refine .frameFailed after command send rest fault writer (sameWriter.trans sends) written
      (goes.imp_right fun ends => ⟨ends.1, ?_⟩)
    intro ended waits stays
    exact stranded ends.2 (sameDeadline.symm.trans ended) (left.waits waits)
      ((congrArg leaving sameCoordinator).symm.trans stays)
  rw [result]
  rw [sameCommands] at fails
  exact fails

theorem writerSends_changes (reply : SocketAnswer) (interrupt : Bool) (cancel : Cancel)
    (stranded : strandsSender state (.writerSends reply interrupt cancel) →
      allows .strandedSender) :
    Changes allows (core state) (core (writerSends state reply interrupt cancel)) := by
  unfold writerSends
  split
  · rename_i command send rest sends
    have divided := send.accepted_append_rest reply
    dsimp only
    split
    · rename_i returned
      rw [returned] at divided
      have all : send.accepted reply = send.offer := (List.append_nil _).symm.trans divided
      obtain ⟨later, whole, begun⟩ | ⟨empty, finished⟩ := sendNext_core
        { state with wire := state.wire ++ send.accepted reply } command rest
      · rw [begun]
        refine .single (.frameTurned (core state) command send later rest
          (rest.drop state.config.writeChunkBytes) (send.accepted reply) sends ?_)
        rw [all]
        exact congrArg (send.offer ++ ·) whole
      · rw [finished]
        refine .single
          (.frameFinished (core state) command send rest (send.accepted reply) sends ?_)
        rw [all, empty, List.append_nil]
    · rename_i later again
      rw [again] at divided
      refine .single (.frameTurned (core state) command send later rest rest
        (send.accepted reply) sends ?_)
      rw [← List.append_assoc]
      exact congrArg (· ++ rest) divided
    · rename_i mode suspended
      rw [accepted_suspended suspended, List.append_nil]
    · rename_i error raised
      rw [accepted_raised raised, List.append_nil]
      refine frameFailed_changes cancel sends (sendFault_fromWrite error interrupt) ?_
      intro ends ended waits stays
      exact stranded ⟨ended, stays, waits, ends.imp_left sendFault_interrupt⟩
  · exact .refl

end Writing

section Reading

variable {engine : Engine} {allows : Defect → Prop} {state : WebSocketState engine}

theorem core_protocol (state : WebSocketState engine) (protocol : engine.State)
    (present : state.protocol.isSome = true) :
    core { state with protocol := some protocol } = core state := by
  unfold core
  rw [present]
  rfl

theorem core_handlePong (payload : Bytes) : core (state.handlePong payload) = core state := by
  unfold handlePong
  split
  · rfl
  · rfl

theorem core_deliverMessage (state : WebSocketState engine) (payload : Payload) :
    core (state.deliverMessage payload).2 = core state := by
  unfold deliverMessage
  split
  · rfl
  · rfl

theorem core_receiveData (state : WebSocketState engine) (kind : MessageKind) (data : Bytes)
    (finished : Bool) : core (state.receiveData kind data finished).2 = core state := by
  have begun : core (if state.messageKind.isNone then
      { state with messageKind := some kind, messageBuffer := [], messageBytes := 0 }
    else state) = core state := by
    split
    · rfl
    · rfl
  unfold receiveData
  dsimp only
  generalize (if state.messageKind.isNone then
      { state with messageKind := some kind, messageBuffer := [], messageBytes := 0 }
    else state) = next at begun
  split
  · exact begun
  · split
    · exact begun
    · split
      · split
        · exact begun
        · rename_i payload _
          have delivered := core_deliverMessage { next with
            messageBytes := 0
            messageBuffer := []
            messageKind := none } payload
          split
          · rename_i after is
            rw [is] at delivered
            exact delivered.trans begun
          · rename_i after is
            rw [is] at delivered
            exact delivered.trans begun
      · exact begun

theorem core_receiveChunks (chunks : List Bytes) (state : WebSocketState engine) :
    core (receiveChunks chunks state).2 = core state := by
  induction chunks generalizing state with
  | nil => rfl
  | cons chunk chunks hypothesis =>
      unfold receiveChunks
      split
      · rfl
      · rename_i protocol received
        obtain ⟨before, is, -⟩ := Option.bind_eq_some_iff.mp received
        rw [hypothesis]
        exact core_protocol state protocol (Option.isSome_iff_exists.mpr ⟨before, is⟩)

theorem core_receiveProtocolData (data : Bytes) (state : WebSocketState engine) :
    core (receiveProtocolData data state).2 = core state := by
  unfold receiveProtocolData
  split
  · rfl
  · exact core_receiveChunks _ { state with guard := _ }

inductive Replied : Core → Core → Prop
  | silent (core : Core) : Replied core core
  | pong (core : Core) (payload : Bytes) (size : Nat) :
      Replied core { core with
        commands := core.commands ++ [{ event := .pong payload, size, waiter := none }]
        outbox := core.outbox ++ [core.commands.length] }

theorem Replied.changes {before after : Core} (replied : Replied before after) :
    Changes allows before after := by
  cases replied with
  | silent => exact .refl
  | pong payload size => exact .single (.enqueued before (.pong payload) size none rfl nofun nofun)

theorem Replied.closeSent {before after : Core} (replied : Replied before after) :
    after.closeSent = before.closeSent := by
  cases replied with
  | silent => rfl
  | pong => rfl

theorem Replied.hasProtocol {before after : Core} (replied : Replied before after) :
    after.hasProtocol = before.hasProtocol := by
  cases replied with
  | silent => rfl
  | pong => rfl

theorem Replied.owes {before after : Core} (replied : Replied before after)
    (owes : after.Owes) : before.Owes := by
  cases replied with
  | silent => exact owes
  | pong payload size =>
      obtain ⟨unsent, command, member, waits⟩ := owes
      refine ⟨unsent, command, ?_, waits⟩
      obtain former | appended := List.mem_append.mp member
      · exact former
      · rw [List.mem_singleton.mp appended] at waits
        cases waits

/-- An event leaves the core, but for a Pong or the reply to a Close. -/
theorem drainEvent_core (state : WebSocketState engine) (event : Event) :
    Replied (core state) (core (state.drainEvent event).2) ∨
      ((∃ next, state.drainEvent event = (.ok true, next)) ∧ state.closeSent = false ∧
        ∃ reply size, Event.isClose reply = true ∧
          core (state.drainEvent event).2 = { core state with
            closeSent := true
            commands := state.commands ++ [{ event := reply, size, waiter := none }]
            outbox := state.outbox ++ [state.commands.length] }) := by
  cases event with
  | textMessage data finished =>
      refine .inl ?_
      have same := core_receiveData state .text (encodeUtf8 data) finished
      change Replied (core state) (core (state.receiveData .text (encodeUtf8 data) finished).2)
      rw [same]
      exact .silent (core state)
  | bytesMessage data finished =>
      refine .inl ?_
      have same := core_receiveData state .bytes data finished
      change Replied (core state) (core (state.receiveData .bytes data finished).2)
      rw [same]
      exact .silent (core state)
  | ping payload =>
      refine .inl ?_
      unfold drainEvent enqueueControl
      dsimp only
      split
      · rename_i next result
        split at result
        · cases result
          exact .pong (core state) payload payload.length
        · cases result
      · rename_i next result
        split at result
        · cases result
        · cases result
          exact .silent (core state)
  | pong payload =>
      refine .inl ?_
      change Replied (core state) (core (state.handlePong payload))
      rw [core_handlePong]
      exact .silent (core state)
  | closeConnection code reason =>
      unfold drainEvent receiveClose enqueueControl
      dsimp only
      split
      · exact .inl (.silent (core state))
      · rename_i unsent
        split
        · rename_i next result
          split at result
          · cases result
          · cases result
            exact .inl (.silent (core state))
        · rename_i next result
          split at result
          · cases result
            exact .inr ⟨⟨_, rfl⟩, Bool.eq_false_iff.mpr unsent, _, _, rfl, rfl⟩
          · cases result

theorem drainEvents_changes (events : List (Event × engine.State))
    (state : WebSocketState engine) (present : state.protocol.isSome = true)
    (repeats : (∃ next, drainEvents events state = (.ok true, next)) → state.closeSent = false →
      (core state).Owes → allows .secondClose) :
    Changes allows (core state) (core (drainEvents events state).2) := by
  induction events generalizing state with
  | nil => exact .refl
  | cons first events hypothesis =>
      obtain ⟨event, protocol⟩ := first
      have same := core_protocol state protocol present
      obtain replied | ⟨⟨next, result⟩, unsent, reply, size, closes, after⟩ :=
        drainEvent_core { state with protocol := some protocol } event
      · rw [same] at replied
        have protocolStays := replied.hasProtocol
        unfold drainEvents at repeats ⊢
        split
        · rename_i next result
          rw [result] at replied repeats protocolStays
          refine replied.changes.trans (hypothesis next ?_ ?_)
          · exact protocolStays.trans present
          · intro answers unsent owes
            exact repeats answers (replied.closeSent.symm.trans unsent) (replied.owes owes)
        · rename_i result next _ is
          rw [is] at replied
          exact replied.changes
      · rw [result] at after
        have replies : Change allows (core state) { core state with
            closeSent := true
            commands := state.commands ++ [{ event := reply, size, waiter := none }]
            outbox := state.outbox ++ [state.commands.length] } := by
          refine .closeEnqueued (core state) reply size none closes ?_ nofun
          intro again
          refine repeats ⟨next, ?_⟩ unsent (again.resolve_left fun sent => ?_)
          · unfold drainEvents
            rw [result]
          · exact Bool.noConfusion (unsent.symm.trans sent.1)
        rw [same] at after
        unfold drainEvents
        rw [result]
        dsimp only
        rw [after]
        exact .single replies

theorem drainProtocolEvents_changes (state : WebSocketState engine)
    (repeats : (∃ next, drainProtocolEvents state = (.ok true, next)) →
      state.closeSent = false → (core state).Owes → allows .secondClose) :
    Changes allows (core state) (core (drainProtocolEvents state).2) := by
  unfold drainProtocolEvents at repeats ⊢
  split
  · exact .refl
  · rename_i protocol is
    rw [is] at repeats
    exact drainEvents_changes _ state (by rw [is]; rfl) repeats

theorem closeForError_changes (state : WebSocketState engine) (code : Nat) (reason : String)
    (size : Nat) (repeats : Repeated state size → allows .secondClose)
    (refused : Refuses state size → allows .refusedClose) :
    Changes allows (core state) (core (closeForError state code reason size)) :=
  controlClose_changes state rfl repeats refused

theorem readerFailed_changes (state : WebSocketState engine) (fault : Fault) (cancel : Cancel)
    (repeats : ∀ size, state.shutdown = false → errorSize fault = some size →
      Repeated state size → allows .secondClose)
    (refused : ∀ size, state.shutdown = false → errorSize fault = some size →
      Refuses state size → allows .refusedClose) :
    Changes allows (core state) (core (readerFailed state fault cancel)) := by
  have closes : ∀ code reason size, errorSize fault = some size →
      Changes allows (core state) (core (if state.shutdown then state
        else ((closeForError state code reason size).cancelHandler cancel).2)) := by
    intro code reason size answers
    split
    · exact .refl
    · rename_i unasked
      have unshut := Bool.eq_false_iff.mpr unasked
      have closed : Changes allows (core state) (core (closeForError state code reason size)) :=
        closeForError_changes state code reason size (repeats size unshut answers)
          (refused size unshut answers)
      exact closed.trans (cancelHandler_left _ cancel).changes
  cases fault with
  | interrupt =>
      exact (cancelHandler_left ({ state with fatalError := some .interrupt }.disconnectWith 1006
        "") cancel).changes
  | capacity message => exact closes 1009 "message too large" 19 rfl
  | _ => exact closes 1002 "protocol error" 16 rfl

theorem readerGoesOn_changes (result : Except Fault Bool × WebSocketState engine)
    (cancel : Cancel)
    (repeats : ∀ fault size, result.1 = .error fault → result.2.shutdown = false →
      errorSize fault = some size → Repeated result.2 size → allows .secondClose)
    (refused : ∀ fault size, result.1 = .error fault → result.2.shutdown = false →
      errorSize fault = some size → Refuses result.2 size → allows .refusedClose) :
    Changes allows (core result.2) (core (readerGoesOn result cancel)) := by
  obtain ⟨outcome, next⟩ := result
  cases outcome with
  | error fault =>
      exact readerFailed_changes next fault cancel (fun size => repeats fault size rfl)
        fun size => refused fault size rfl
  | ok returns => exact .refl

/-- What a step of the reader must not do. -/
structure ReaderAllows (allows : Defect → Prop) (state : WebSocketState engine) (step : Step) :
    Prop where
  fails : ∀ failed size, readerCloses state step failed size → Repeated failed size →
    allows .secondClose
  refuses : ∀ failed size, readerCloses state step failed size → Refuses failed size →
    allows .refusedClose
  replies : readerReplies state step → (core state).Owes → allows .secondClose

theorem readerReceives_changes (chunk : Bytes) (cancel : Cancel)
    (permits : ReaderAllows allows state (.readerReceives chunk cancel)) :
    Changes allows (core state) (core (readerReceives state chunk cancel)) := by
  let touched : WebSocketState engine := { state with lastActivity := state.now }
  have received := core_receiveProtocolData chunk touched
  have drained : Changes allows (core state) (core (receiveAndDrain chunk touched).2) := by
    have replies : readerReplies state (.readerReceives chunk cancel) → _ := permits.replies
    unfold readerReplies readerResult at replies
    change (_ ∧ ∃ next, some (receiveAndDrain chunk touched) = _) → _ at replies
    unfold receiveAndDrain at replies ⊢
    split
    · rename_i fault next is
      rw [is] at received
      rw [received]
      exact .refl
    · rename_i next is
      rw [is] at received replies
      have unsent : next.closeSent = state.closeSent := congrArg Core.closeSent received
      rw [show core state = core next from received.symm]
      refine drainProtocolEvents_changes next ?_
      rintro ⟨last, answers⟩ unclosed owes
      refine replies ⟨unsent.symm.trans unclosed, last, congrArg some answers⟩ ?_
      rw [show core next = core state from received] at owes
      exact owes
  refine drained.trans (readerGoesOn_changes _ cancel ?_ ?_)
  · intro fault size failed unshut answers
    exact permits.fails _ size ⟨fault, congrArg some (Prod.ext failed rfl), unshut, answers⟩
  · intro fault size failed unshut answers
    exact permits.refuses _ size ⟨fault, congrArg some (Prod.ext failed rfl), unshut, answers⟩

theorem readerStarts_changes (cancel : Cancel)
    (permits : ReaderAllows allows state (.readerStarts cancel)) :
    Changes allows (core state) (core (readerStarts state cancel)) := by
  unfold readerStarts
  split
  · exact readerGoesOn_changes (.ok false, state) cancel nofun nofun
  · rename_i trailing
    have received := core_receiveProtocolData state.trailingData state
    have result : readerResult state (.readerStarts cancel) = _ := if_neg trailing
    split
    · rename_i fault next is
      rw [is] at received result
      rw [show core state = core next from received.symm]
      refine readerFailed_changes next fault cancel ?_ ?_
      · intro size unshut answers
        exact permits.fails next size ⟨fault, result, unshut, answers⟩
      · intro size unshut answers
        exact permits.refuses next size ⟨fault, result, unshut, answers⟩
    · rename_i next is
      rw [is] at received result
      have same : core { next with trailingData := [] } = core state := received
      have drained : Changes allows (core state)
          (core (drainProtocolEvents { next with trailingData := [] }).2) := by
        rw [← same]
        refine drainProtocolEvents_changes { next with trailingData := [] } ?_
        rintro ⟨last, answers⟩ unsent owes
        rw [same] at owes
        refine permits.replies ⟨?_, last, result.trans (congrArg some answers)⟩ owes
        exact (congrArg Core.closeSent received).symm.trans unsent
      refine drained.trans (readerGoesOn_changes _ cancel ?_ ?_)
      · intro fault size failed unshut answers
        refine permits.fails _ size ⟨fault, ?_, unshut, answers⟩
        exact result.trans (congrArg some (Prod.ext failed rfl))
      · intro fault size failed unshut answers
        refine permits.refuses _ size ⟨fault, ?_, unshut, answers⟩
        exact result.trans (congrArg some (Prod.ext failed rfl))

theorem readerEnds_changes (cancel again : Cancel)
    (permits : ReaderAllows allows state (.readerEnds cancel again)) :
    Changes allows (core state) (core (readerEnds state cancel again)) := by
  have result : readerResult state (.readerEnds cancel again) =
      readerResult state (.readerEnds cancel again) := rfl
  conv at result => rhs; unfold readerResult
  unfold readerEnds
  split
  · rename_i is
    rw [is] at result
    refine readerFailed_changes state .other cancel ?_ ?_
    · intro size unshut answers
      exact permits.fails state size ⟨.other, result, unshut, answers⟩
    · intro size unshut answers
      exact permits.refuses state size ⟨.other, result, unshut, answers⟩
  · rename_i protocol is
    rw [is] at result
    dsimp only at result
    obtain ⟨before, present, -⟩ := Option.bind_eq_some_iff.mp is
    have same := core_protocol state protocol (Option.isSome_iff_exists.mpr ⟨before, present⟩)
    have drained : Changes allows (core state)
        (core (drainProtocolEvents { state with protocol := some protocol }).2) := by
      rw [← same]
      refine drainProtocolEvents_changes { state with protocol := some protocol } ?_
      rintro ⟨last, answers⟩ unsent owes
      rw [same] at owes
      exact permits.replies ⟨unsent, last, result.trans (congrArg some answers)⟩ owes
    refine drained.trans ?_
    split
    · rename_i fault next ends
      rw [ends] at result ⊢
      refine readerFailed_changes next fault cancel ?_ ?_
      · intro size unshut answers
        exact permits.fails next size ⟨fault, result, unshut, answers⟩
      · intro size unshut answers
        exact permits.refuses next size ⟨fault, result, unshut, answers⟩
    · rename_i next ends
      rw [ends]
      have left := cancelHandler_left (next.disconnectWith 1006 "") cancel
      split
      · rename_i last cancelled
        rw [cancelled] at left
        exact left.changes
      · rename_i last cancelled
        rw [cancelled] at left
        exact left.changes.trans (readerFailed_changes last .interrupt again nofun nofun)

theorem readerRaises_changes (interrupt : Bool) (cancel : Cancel)
    (permits : ReaderAllows allows state (.readerRaises interrupt cancel)) :
    Changes allows (core state)
      (core (readerFailed state (if interrupt then .interrupt else .other) cancel)) := by
  refine readerFailed_changes state _ cancel ?_ ?_
  · intro size unshut answers
    exact permits.fails state size ⟨_, rfl, unshut, answers⟩
  · intro size unshut answers
    exact permits.refuses state size ⟨_, rfl, unshut, answers⟩

end Reading

section Deadlines

variable {engine : Engine} {allows : Defect → Prop} {state : WebSocketState engine}

theorem deadlineLoop_changes (state : WebSocketState engine)
    (stranded : state.shutdown = true → Strands state → allows .strandedSender) :
    Changes allows (core state) (core (deadlineLoop state)) := by
  unfold deadlineLoop
  refine .single (.deadlineMoved (core state) _ fun ends ended waits stays => ?_)
  refine stranded ?_ ⟨ended, stays, waits⟩
  by_contra running
  rw [if_neg running] at ends
  cases ends

theorem deadlineEnds_changes (state : WebSocketState engine)
    (stranded : Strands state → allows .strandedSender) :
    Changes allows (core state) (core { state with deadline := .ended }) :=
  .single (.deadlineMoved (core state) .ended fun _ ended waits stays =>
    stranded ⟨ended, stays, waits⟩)

theorem handshakeTimedOut_changes (response : HandshakeBytes) (cancel : Cancel)
    (undecided : state.handshakeState.undecided = true)
    (stranded : Strands state → allows .strandedSender) :
    Changes allows (core state) (core (handshakeTimedOut state response cancel)) := by
  unfold handshakeTimedOut
  split
  · rename_i pending
    have begun : Change allows (core state) (core (state.beginReject .deadline response)) :=
      .rejectBegun (core state) .deadline response.send pending
    refine (Relation.ReflTransGen.single begun).tail ?_
    exact .deadlineMoved (core (state.beginReject .deadline response)) .rejects nofun
  · have left := cancelHandler_left
      (state.failHandshake (.disconnect ⟨1006, "handshake timed out"⟩)) cancel
    have keeps := (failHandshake_keeps state (.disconnect ⟨1006, "handshake timed out"⟩)).trans
      left.keeps
    exact ((failHandshake_changes state _ fun _ => .inl undecided).trans left.changes).trans
      (deadlineEnds_changes _ fun strands => stranded (keeps.strands strands))

theorem noneWaits {core : Core} (empty : core.outbox = []) : ¬core.Waits := by
  rintro ⟨id, queued, -⟩
  rw [empty] at queued
  cases queued

theorem closeWriter_changes (state : WebSocketState engine)
    (idle : state.outbox = [] ∨ leaving state.coordinator = true) :
    Changes allows (core state) (core state.closeWriter) := by
  unfold closeWriter
  cases is : state.writer with
  | absent => exact .refl
  | looping => exact .single (.writerEnded (core state) (.inl is) idle)
  | sends command send rest =>
      exact .single (.frameClosed (core state) command send rest is idle)
  | ended => exact .single (.writerEnded (core state) (.inr is) idle)

theorem closeWriter_outbox (state : WebSocketState engine) :
    state.closeWriter.outbox = state.outbox := by
  unfold closeWriter
  cases state.writer with
  | _ => rfl

theorem abortWriter_changes (state : WebSocketState engine) (error : Disconnect)
    (cancel : Cancel) :
    Changes allows (core state) (core (state.abortWriter (.disconnect error) cancel).2) := by
  have fails : Changes allows (core state) (core (state.failOutbound (.disconnect error))) :=
    .single (.outboundFailed (core state) error)
  unfold abortWriter
  dsimp only
  split
  · exact fails
  · cases cancel.writer with
    | done => exact fails.trans (closeWriter_changes _ (.inl rfl))
    | failed => exact fails
    | interrupted => exact fails

theorem abortWriter_outbox (state : WebSocketState engine) (error : Disconnect)
    (cancel : Cancel) : (state.abortWriter (.disconnect error) cancel).2.outbox = [] := by
  unfold abortWriter
  dsimp only
  split
  · rfl
  · cases cancel.writer with
    | done => exact closeWriter_outbox _
    | failed => rfl
    | interrupted => rfl

theorem deadlineAborts_changes (state : WebSocketState engine) (error : Disconnect)
    (cancel : Cancel) :
    Changes allows (core state) (core (deadlineAborts state error cancel)) := by
  have aborted : Changes allows (core state)
      (core (state.abortWriter (.disconnect error) cancel).2) :=
    abortWriter_changes state error cancel
  have empty := abortWriter_outbox state error cancel
  have ends : ∀ next : WebSocketState engine, next.outbox = [] →
      Changes allows (core next) (core { next with deadline := .ended }) := fun next empty =>
    deadlineEnds_changes next fun strands => absurd strands.2.2 (noneWaits empty)
  unfold deadlineAborts
  split
  · rename_i next is
    rw [is] at aborted empty
    exact aborted.trans (ends next empty)
  · rename_i next is
    rw [is] at aborted empty
    have left := cancelHandler_left next cancel
    have stays : (next.cancelHandler cancel).2.outbox = [] := left.unchanged.1.trans empty
    refine aborted.trans (left.changes.trans ?_)
    split
    · rename_i last cancelled
      rw [cancelled] at stays ⊢
      exact ends last stays
    · rename_i last cancelled
      rw [cancelled] at stays ⊢
      exact ends (last.disconnectWith error.code error.reason) stays

theorem beginDeadlineClose_changes (state : WebSocketState engine) (code : Nat) (reason : String)
    (cancel : Cancel)
    (repeats : (!state.closeSent && state.protocol.isSome) = true →
      Repeated state (2 + (encodeUtf8 reason).length) → allows .secondClose)
    (refused : (!state.closeSent && state.protocol.isSome) = true →
      Refuses state (2 + (encodeUtf8 reason).length) → allows .refusedClose) :
    Changes allows (core state) (core (state.beginDeadlineClose code reason cancel).2) ∧
      Keeps (core state) (core (state.beginDeadlineClose code reason cancel).2) := by
  have left : ∀ closed : WebSocketState engine, HandlerLeft (core closed)
      (core (({ closed with
        closeDeadline := closed.closeDeadline <|>
          some (closed.now + closed.config.closeTimeout) }.disconnectWith code
            reason).cancelHandler cancel).2) := fun closed =>
    cancelHandler_left ({ closed with
      closeDeadline := closed.closeDeadline <|>
        some (closed.now + closed.config.closeTimeout) }.disconnectWith code reason) cancel
  unfold beginDeadlineClose
  dsimp only
  split
  · rename_i closes
    have closed : Changes allows (core state) (core
        { (state.enqueueControl (.closeConnection code (some reason))
          (2 + (encodeUtf8 reason).length)).2 with closeSent := true }) :=
      controlClose_changes state rfl (repeats closes) (refused closes)
    have keeps := controlClose_keeps state (.closeConnection code (some reason))
      (2 + (encodeUtf8 reason).length)
    exact ⟨closed.trans (left _).changes, keeps.trans (left _).keeps⟩
  · exact ⟨(left state).changes, (left state).keeps⟩

theorem deadlineCloses_changes (cancel : Cancel)
    (decided : state.handshakeState.undecided = false)
    (repeats : ∀ size, deadlineSize state = some size → Repeated state size →
      allows .secondClose)
    (refused : ∀ size, deadlineSize state = some size → Refuses state size →
      allows .refusedClose) :
    Changes allows (core state) (core (deadlineCloses state cancel).2) ∧
      Keeps (core state) (core (deadlineCloses state cancel).2) := by
  have closes : ∀ code reason, deadlineReason state = some reason →
      Changes allows (core state) (core (state.beginDeadlineClose code reason cancel).2) ∧
        Keeps (core state) (core (state.beginDeadlineClose code reason cancel).2) := by
    intro code reason is
    have size : (!state.closeSent && state.protocol.isSome) = true →
        deadlineSize state = some (2 + (encodeUtf8 reason).length) := by
      intro path
      unfold deadlineSize
      rw [if_pos path, is]
      rfl
    exact beginDeadlineClose_changes state code reason cancel
      (fun path => repeats _ (size path)) fun path => refused _ (size path)
  have reason : deadlineReason state =
      if passed state state.pongDeadline then some "Pong timeout"
      else if state.accepted = true ∧ state.config.idleTimeout ≤ state.now - state.lastActivity
        then some "idle timeout"
      else none := by
    unfold deadlineReason
    rw [decided]
    rfl
  unfold deadlineCloses
  split
  · rename_i late
    exact closes 1002 "Pong timeout" (reason.trans (if_pos late))
  · rename_i punctual
    split
    · rename_i idle
      exact closes 1001 "idle timeout" (reason.trans ((if_neg punctual).trans (if_pos idle)))
    · exact ⟨.refl, .refl (core state)⟩

theorem deadlineWakes_changes (response : HandshakeBytes) (closing cancel : Cancel)
    (repeats : repeatsClose state (.deadlineWakes response closing cancel) → allows .secondClose)
    (refused : refusesClose state (.deadlineWakes response closing cancel) → allows .refusedClose)
    (stranded : strandsSender state (.deadlineWakes response closing cancel) →
      allows .strandedSender) :
    Changes allows (core state) (core (deadlineWakes state response closing cancel)) := by
  have leaves : Strands state → deadlineLeaves state closing → allows .strandedSender :=
    fun strands ends => stranded ⟨strands.1, strands.2.1, strands.2.2, ends⟩
  unfold deadlineWakes
  split
  · rename_i undecided
    have waiting : deadlineLeaves state closing := by
      unfold deadlineLeaves
      rw [if_pos undecided]
      trivial
    split
    · exact handshakeTimedOut_changes response cancel undecided fun strands =>
        leaves strands waiting
    · exact deadlineLoop_changes state fun _ strands => leaves strands waiting
  · rename_i decided
    obtain ⟨closed, keeps⟩ := deadlineCloses_changes closing
      (Bool.eq_false_iff.mpr decided) (fun size is again => repeats (.inr (.inr ⟨size, is, again⟩)))
      fun size is full => refused (.inr ⟨size, is, full⟩)
    unfold deadlineLeaves at leaves
    rw [if_neg decided] at leaves
    split
    · rename_i next is
      rw [is] at closed keeps leaves
      exact closed.trans (deadlineEnds_changes next fun strands =>
        leaves (keeps.strands strands) trivial)
    · rename_i next is
      rw [is] at closed keeps leaves
      refine closed.trans ?_
      split
      · exact deadlineAborts_changes next _ cancel
      · rename_i writing
        split
        · exact deadlineAborts_changes next _ cancel
        · rename_i closing
          refine deadlineLoop_changes next fun shut strands => ?_
          exact leaves (keeps.strands strands)
            ⟨Bool.eq_false_iff.mpr writing, Bool.eq_false_iff.mpr closing, shut⟩

end Deadlines

section Coordinating

variable {engine : Engine} {allows : Defect → Prop} {state : WebSocketState engine}

/-- A move of the coordinator outside its `finally` block, which does not come back before
the decision. -/
theorem coordinatorGoes_changes (state : WebSocketState engine) (coordinator : Coordinator)
    (inside : leaving state.coordinator = false)
    (later : coordinator ≠ .starting ∧ coordinator ≠ .deciding) :
    Changes allows (core state) (core { state with coordinator }) := by
  refine .single (.coordinatorMoved (core state) coordinator ?_ ?_)
  · intro leaves
    exact Bool.noConfusion (inside.symm.trans leaves)
  · rintro (starts | decides)
    · exact absurd starts later.1
    · exact absurd decides later.2

theorem lingerLoop_changes (state : WebSocketState engine) (last : Nat)
    (inside : leaving state.coordinator = false) :
    Changes allows (core state) (core (lingerLoop state last)) := by
  refine coordinatorGoes_changes state _ inside ⟨?_, ?_⟩
  · split
    · exact nofun
    · exact nofun
  · split
    · exact nofun
    · exact nofun

theorem closeFromCoordinator_changes (state : WebSocketState engine) (code : Nat)
    (reason : String) (size : Nat) (inside : leaving state.coordinator = false)
    (unsent : state.closeSent = false) (repeats : Repeated state size → allows .secondClose)
    (stranded : (core state).Orphaned → state.hasRoom size = true → allows .strandedSender) :
    Changes allows (core state) (core (closeFromCoordinator state code reason size)) := by
  let timed : WebSocketState engine :=
    { state with closeDeadline := some (state.now + state.config.closeTimeout) }
  unfold closeFromCoordinator
  dsimp only [enqueue]
  split
  · rename_i next result
    split at result
    · rename_i room
      obtain ⟨-, rfl⟩ := Prod.mk.inj result
      exact .single (.coordinatorCloses (core state) (.closeConnection code (some reason)) size
        rfl unsent (fun again => repeats ⟨room, again⟩) (fun orphaned => stranded orphaned room)
        inside)
    · cases result
  · rename_i next result
    split at result
    · cases result
    · obtain ⟨-, rfl⟩ := Prod.mk.inj result
      exact lingerLoop_changes timed _ inside

theorem joined_changes (error : Option Fault) (inside : leaving state.coordinator = false)
    (repeats : ∀ size, joinSize state error = some size → Repeated state size →
      allows .secondClose)
    (stranded : ∀ size, joinSize state error = some size → (core state).Orphaned →
      state.hasRoom size = true → allows .strandedSender) :
    Changes allows (core state) (core (joined state error)) := by
  let noted : WebSocketState engine :=
    { state with handlerError := error <|> state.handlerError }
  unfold joinSize at repeats stranded
  unfold joined
  dsimp only at repeats stranded ⊢
  split
  · exact coordinatorGoes_changes noted .leaving inside ⟨nofun, nofun⟩
  · rename_i quiet
    rw [if_neg quiet] at repeats stranded
    split
    · rename_i failed
      rw [if_pos failed] at repeats stranded
      exact closeFromCoordinator_changes noted 1011 "handler failed" 16 inside failed.2
        (repeats 16 rfl) (stranded 16 rfl)
    · rename_i fine
      rw [if_neg fine] at repeats stranded
      split
      · rename_i alone
        rw [if_pos alone] at repeats stranded
        exact closeFromCoordinator_changes noted 1000 "" 2 inside alone.1 (repeats 2 rfl)
          (stranded 2 rfl)
      · exact lingerLoop_changes noted _ inside

theorem closeEnqueued_changes {id : CommandId} (command : OutboundCommand)
    (closing : state.coordinator = .closing) (was : state.calls .coordinator = .sends id) :
    Changes allows (core state) (core (closeEnqueued state command)) := by
  have inside : leaving state.coordinator = false := by
    rw [closing]
    rfl
  have left : Changes allows (core state) (core { state with
      calls := Function.update state.calls .coordinator .idle }) :=
    .single (.callLeft (core state) .coordinator)
  unfold closeEnqueued
  dsimp only
  split
  · have confirmed : Changes allows (core state) (core { state with
        closeSent := true
        calls := Function.update state.calls .coordinator .idle }) :=
      .single (.closeConfirmed (core state) id was)
    exact confirmed.trans (lingerLoop_changes _ _ inside)
  · split
    · exact left.trans (coordinatorGoes_changes _ .leaving inside ⟨nofun, nofun⟩)
    · exact left.trans (lingerLoop_changes _ _ inside)

theorem coordinatorCancelled_changes
    (repeats : repeatsClose state .coordinatorCancelled → allows .secondClose)
    (stranded : strandsSender state .coordinatorCancelled → allows .strandedSender) :
    Changes allows (core state) (core (coordinatorCancelled state)) := by
  unfold coordinatorCancelled
  cases is : state.coordinator with
  | deciding =>
      exact coordinatorGoes_changes state .leaving (by rw [is]; rfl) ⟨nofun, nofun⟩
  | joining =>
      exact joined_changes _ (by rw [is]; rfl)
        (fun size closes again => repeats (.inr (.inr ⟨is, size, closes, again⟩)))
        fun size closes orphaned room => stranded ⟨orphaned, is, size, closes, room⟩
  | closing =>
      have left : Changes allows (core state) (core { state with
          calls := Function.update state.calls .coordinator .idle }) :=
        .single (.callLeft (core state) .coordinator)
      refine left.trans (lingerLoop_changes { state with
        calls := Function.update state.calls .coordinator .idle } _ ?_)
      exact (congrArg leaving is).trans rfl
  | lingers last wakeAt =>
      exact coordinatorGoes_changes state .leaving (by rw [is]; rfl) ⟨nofun, nofun⟩
  | _ => exact .refl

theorem closeDeadlineTask_changes (state : WebSocketState engine)
    (outside : leaving state.coordinator = true) :
    Changes allows (core state) (core (closeDeadlineTask state)) := by
  have ends : ∀ before : Core, leaving before.coordinator = true →
      Change allows before { before with deadline := .ended } := fun before outside =>
    .deadlineMoved before .ended fun _ _ _ stays => Bool.noConfusion (stays.symm.trans outside)
  unfold closeDeadlineTask
  cases state.deadline with
  | absent => exact .refl
  | rejects =>
      have closed := core_closeCall state .deadline
      have same : core { (state.closeCall .deadline).disconnectWith 1006 "" with
          deadline := .ended } = { core (state.closeCall .deadline) with deadline := .ended } := rfl
      dsimp only
      rw [same, closed]
      have left : Change allows (core state) { core state with
          calls := Function.update state.calls .deadline .idle } := .callLeft (core state) .deadline
      exact (Relation.ReflTransGen.single left).tail (ends { core state with
        calls := Function.update state.calls .deadline .idle } outside)
  | _ => exact .single (ends (core state) outside)

theorem closeDeadlineTask_coordinator (state : WebSocketState engine) :
    (closeDeadlineTask state).coordinator = state.coordinator := by
  unfold closeDeadlineTask
  cases state.deadline with
  | rejects => exact congrArg Core.coordinator (core_closeCall state .deadline)
  | _ => rfl

theorem closeChildren_changes (closes : Children) (response : HandshakeBytes)
    (outside : leaving state.coordinator = true) :
    Changes allows (core state) (core (closeChildren state closes response)) := by
  unfold closeChildren
  generalize handled : (if closes.handler then state.closeHandler response else state) = first
  have firstLeft : HandlerLeft (core state) (core first) := by
    rw [← handled]
    split
    · exact closeHandler_left response
    · exact .stays (core state)
  have firstOut : leaving first.coordinator = true :=
    (congrArg leaving firstLeft.keeps.coordinator).trans outside
  dsimp only
  generalize timed : (if closes.deadline then closeDeadlineTask first else first) = second
  have secondDone : Changes allows (core first) (core second) := by
    rw [← timed]
    split
    · exact closeDeadlineTask_changes first firstOut
    · exact .refl
  have secondOut : leaving second.coordinator = true := by
    rw [← timed]
    split
    · exact (congrArg leaving (closeDeadlineTask_coordinator first)).trans firstOut
    · exact firstOut
  generalize written : (if closes.writer then second.closeWriter else second) = third
  have thirdDone : Changes allows (core second) (core third) := by
    rw [← written]
    split
    · exact closeWriter_changes second (.inr secondOut)
    · exact .refl
  refine (firstLeft.changes.trans secondDone).trans (thirdDone.trans ?_)
  split
  · exact .refl
  · exact .refl

theorem coordinatorFinishes_changes (cancel : Cancel) (closes : Children)
    (leaves : state.coordinator = .leaving)
    (repeats : shutdownCloses state → Repeated state 17 → allows .secondClose)
    (refused : shutdownCloses state → Refuses state 17 → allows .refusedClose) :
    Changes allows (core state) (core (coordinatorFinishes state cancel closes)) := by
  have asked := requestShutdown_changes 1001 cancel repeats refused
  have keeps := requestShutdown_keeps state 1001 cancel
  have finishes : ∀ next : WebSocketState engine,
      Changes allows (core next) (core { next with coordinator := .finished }) := fun next =>
    .single (.coordinatorMoved (core next) .finished (fun _ => rfl)
      fun back => back.elim nofun nofun)
  unfold coordinatorFinishes
  split
  · rename_i next is
    rw [is] at asked
    exact asked.trans (finishes next)
  · rename_i next is
    rw [is] at asked keeps
    have outside : leaving next.coordinator = true := by
      refine (congrArg leaving keeps.coordinator).trans ?_
      exact (congrArg leaving leaves).trans rfl
    exact asked.trans ((closeChildren_changes closes cancel.response outside).trans (finishes _))

end Coordinating

section Stepping

variable {engine : Engine} {allows : Defect → Prop} {state after : WebSocketState engine}

theorem guarded_changes {condition : Prop} [Decidable condition] {next : WebSocketState engine}
    (goes : condition → Changes allows (core state) (core next))
    (taken : (if condition then some next else none) = some after) :
    Changes allows (core state) (core after) := by
  split at taken
  · rename_i holds
    cases taken
    exact goes holds
  · cases taken

theorem readerAllows (step : Step)
    (permitted : ∀ defect, Commits state defect step → allows defect) :
    ReaderAllows allows state step where
  fails := fun failed size closes again =>
    permitted .secondClose (.inl ⟨failed, size, closes, again⟩)
  refuses := fun failed size closes full =>
    permitted .refusedClose (.inl ⟨failed, size, closes, full⟩)
  replies := fun replies owes => permitted .secondClose (.inr (.inl ⟨replies, owes⟩))

/-- Every step is a number of changes, and it makes a wrong one only where it commits that
defect. -/
theorem next_changes (step : Step)
    (permitted : ∀ defect, Commits state defect step → allows defect)
    (taken : next state step = some after) :
    Changes allows (core state) (core after) := by
  cases step with
  | passes duration =>
      cases taken
      exact .refl
  | coordinatorStarts =>
      refine guarded_changes (fun starts => ?_) taken
      have spawned : Change allows (core state) { core state with deadline := .spawned } :=
        .deadlineMoved (core state) .spawned nofun
      refine (Relation.ReflTransGen.single spawned).tail ?_
      refine .coordinatorMoved _ .deciding ?_ fun _ => .inl starts
      exact fun leaves => Bool.noConfusion ((congrArg leaving starts).symm.trans leaves)
  | coordinatorDecides =>
      unfold next at taken
      dsimp only at taken
      split at taken
      · rename_i decides
        split at taken
        · cases taken
          exact .single (.writerSpawned (core state) decides.1)
        · cases taken
          exact coordinatorGoes_changes state .leaving (by rw [decides.1]; rfl) ⟨nofun, nofun⟩
      · cases taken
  | coordinatorJoins result =>
      refine guarded_changes (fun joins => ?_) taken
      exact joined_changes _ (by rw [joins.1]; rfl)
        (fun size closes again =>
          permitted .secondClose (.inr (.inr ⟨size, closes, again⟩)))
        fun size closes orphaned room =>
          permitted .strandedSender ⟨orphaned, size, closes, room⟩
  | coordinatorResumes =>
      unfold next at taken
      dsimp only at taken
      split at taken
      · rename_i closing
        split at taken
        · rename_i id was
          obtain ⟨command, -, rfl⟩ := Option.map_eq_some_iff.mp taken
          exact closeEnqueued_changes command closing was
        · cases taken
      · cases taken
  | coordinatorWakes =>
      unfold next at taken
      dsimp only at taken
      split at taken
      · rename_i last wakeAt lingers
        refine guarded_changes (fun _ => ?_) taken
        exact lingerLoop_changes state last (by rw [lingers]; rfl)
      · cases taken
  | coordinatorCancelled =>
      cases taken
      exact coordinatorCancelled_changes (permitted .secondClose) (permitted .strandedSender)
  | coordinatorFinishes cancel closes =>
      refine guarded_changes (fun leaves => ?_) taken
      exact coordinatorFinishes_changes cancel closes leaves
        (fun path again => permitted .secondClose (.inr (.inr ⟨path, again⟩)))
        fun path full => permitted .refusedClose (.inr ⟨path, full⟩)
  | handlerStarts =>
      have runs : Changes allows (core state) (core { state with handler := .running }) := .refl
      exact guarded_changes (fun _ => runs) taken
  | handlerEnds result response =>
      exact guarded_changes (fun _ => handlerEnds_changes result response) taken
  | accepts caller subprotocol response =>
      exact guarded_changes (fun _ => accept_changes caller subprotocol response) taken
  | rejects caller checked response =>
      exact guarded_changes (fun _ => reject_changes caller checked response) taken
  | receives caller =>
      exact guarded_changes (fun may => receive_changes (mayCall_free may)) taken
  | sendsMessage caller payload =>
      exact guarded_changes (fun may => sendMessage_changes (mayCall_free may) payload
        (permitted .strandedSender)) taken
  | pings caller payload =>
      exact guarded_changes (fun may => ping_changes (mayCall_free may) payload
        (permitted .strandedSender)) taken
  | closes caller code reason =>
      exact guarded_changes (fun may => close_changes (mayCall_free may) code reason
        (permitted .secondClose) (permitted .refusedClose) (permitted .strandedSender)) taken
  | sendsHandshake caller reply interrupt =>
      cases taken
      refine sendHandshake_changes caller reply interrupt (permitted .lateDecision) ?_
      rintro rfl strands
      exact permitted .strandedSender strands
  | resumes caller =>
      unfold next at taken
      dsimp only at taken
      split at taken
      · rename_i application
        refine resume_changes ?_ taken
        rintro rfl
        cases application
      · cases taken
  | cancelsOther number =>
      cases taken
      rw [core_closeCall]
      exact .single (.callLeft (core state) (.other number))
  | readerStarts cancel =>
      exact guarded_changes (fun _ => readerStarts_changes cancel (readerAllows _ permitted)) taken
  | readerReceives chunk cancel =>
      exact guarded_changes
        (fun _ => readerReceives_changes chunk cancel (readerAllows _ permitted)) taken
  | readerEnds cancel again =>
      exact guarded_changes
        (fun _ => readerEnds_changes cancel again (readerAllows _ permitted)) taken
  | readerRaises interrupt cancel =>
      exact guarded_changes
        (fun _ => readerRaises_changes interrupt cancel (readerAllows _ permitted)) taken
  | writerTakes cancel =>
      exact guarded_changes (fun loops => writerTakes_changes cancel loops
        (permitted .brokenWire) (permitted .strandedSender)) taken
  | writerSends reply interrupt cancel =>
      cases taken
      exact writerSends_changes reply interrupt cancel (permitted .strandedSender)
  | deadlineStarts =>
      refine guarded_changes (fun _ => ?_) taken
      exact deadlineLoop_changes state fun shut strands =>
        permitted .strandedSender ⟨strands.1, strands.2.1, strands.2.2, shut⟩
  | deadlineWakes response closing cancel =>
      unfold next at taken
      dsimp only at taken
      split at taken
      · refine guarded_changes (fun _ => ?_) taken
        exact deadlineWakes_changes response closing cancel (permitted .secondClose)
          (permitted .refusedClose) (permitted .strandedSender)
      · cases taken
  | requestsShutdown code cancel =>
      cases taken
      exact requestShutdown_changes code cancel
        (fun path again => permitted .secondClose (.inr (.inr ⟨path, again⟩)))
        fun path full => permitted .refusedClose (.inr ⟨path, full⟩)

end Stepping

section Running

variable {engine : Engine} {defect : Defect} {start state : WebSocketState engine}
  {labels : List Step}

def Avoids (defect : Defect) (state : WebSocketState engine) (step : Step)
    (after : WebSocketState engine) : Prop :=
  Steps state step after ∧ ¬Commits state defect step

theorem Avoids.changes {step : Step} {after : WebSocketState engine}
    (avoids : Avoids defect state step after) :
    Changes (· ≠ defect) (core state) (core after) := by
  refine next_changes step (fun other commits is => ?_) avoids.1
  rw [is] at commits
  exact avoids.2 commits

/-- What every change but the wrong ones keeps, a run without that defect keeps. -/
theorem changes_invariant {property : Core → Prop} {allows : Defect → Prop} {before after : Core}
    (preserved : ∀ before after, Change allows before after → property before → property after)
    (holds : property before) (changes : Changes allows before after) : property after := by
  induction changes with
  | refl => exact holds
  | tail _ change hypothesis => exact preserved _ _ change hypothesis

theorem run_invariant {property : Core → Prop}
    (preserved : ∀ before after, Change (· ≠ defect) before after → property before →
      property after)
    (initially : property (core start)) (run : Run (Avoids defect) start labels state) :
    property (core state) := by
  induction run with
  | nil => exact initially
  | snoc step _ avoids hypothesis =>
      exact changes_invariant preserved hypothesis avoids.changes

end Running

section Engagement

/-- The active command is the one the writer is sending, and there is no writer before the
coordinator has decided. -/
structure Engaged (core : Core) : Prop where
  active : ∀ id, core.activeCommand = some id → ∃ send rest, core.writer = .sends id send rest
  sends : ∀ id send rest, core.writer = .sends id send rest → core.activeCommand = some id
  unspawned : core.coordinator = .starting ∨ core.coordinator = .deciding → core.writer = .absent

variable {before after : Core}

theorem Engaged.inactive (engaged : Engaged before)
    (outside : ∀ id send rest, before.writer ≠ .sends id send rest) :
    before.activeCommand = none := by
  cases is : before.activeCommand with
  | none => rfl
  | some id =>
      obtain ⟨send, rest, sends⟩ := engaged.active id is
      exact absurd sends (outside id send rest)

theorem Engaged.spawned (engaged : Engaged before) (present : before.writer ≠ .absent) :
    ¬(before.coordinator = .starting ∨ before.coordinator = .deciding) := fun early =>
  present (engaged.unspawned early)

theorem engaged_outside (inactive : after.activeCommand = none)
    (writer : after.writer = .looping ∨ after.writer = .ended)
    (decided : ¬(after.coordinator = .starting ∨ after.coordinator = .deciding)) :
    Engaged after := by
  refine ⟨fun id active => ?_, fun id send rest sends => ?_, fun early => absurd early decided⟩
  · exact nomatch inactive.symm.trans active
  · obtain loops | ends := writer
    · exact nomatch loops.symm.trans sends
    · exact nomatch ends.symm.trans sends

theorem Engaged.same (engaged : Engaged before)
    (activeCommand : after.activeCommand = before.activeCommand)
    (writer : after.writer = before.writer)
    (undecided : after.coordinator = .starting ∨ after.coordinator = .deciding →
      before.coordinator = .starting ∨ before.coordinator = .deciding) : Engaged after := by
  refine ⟨?_, ?_, ?_⟩
  · rw [activeCommand, writer]
    exact engaged.active
  · rw [activeCommand, writer]
    exact engaged.sends
  · rw [writer]
    exact fun early => engaged.unspawned (undecided early)

theorem change_engaged {allows : Defect → Prop} (change : Change allows before after)
    (engaged : Engaged before) : Engaged after := by
  cases change with
  | coordinatorCloses event size closes unsent repeats stranded stays =>
      exact engaged.same rfl rfl fun early => early.elim nofun nofun
  | coordinatorMoved coordinator stays spawned => exact engaged.same rfl rfl spawned
  | writerSpawned decides =>
      have absent := engaged.unspawned (.inr decides)
      have inactive := engaged.inactive fun id send rest sends => nomatch absent.symm.trans sends
      exact engaged_outside inactive (.inl rfl) fun early => early.elim nofun nofun
  | frameTaken command outbox payload send rest loops queued whole broken =>
      have decided := engaged.spawned (by rw [loops]; exact nofun)
      refine ⟨fun id active => ?_, fun id other last sends => ?_, fun early => absurd early decided⟩
      · cases active
        exact ⟨send, rest, rfl⟩
      · cases sends
        rfl
  | commandPassed command outbox frame fault writer loops queued passed broken goes =>
      exact engaged_outside rfl (goes.imp_right And.left)
        (engaged.spawned (by rw [loops]; exact nofun))
  | frameTurned command send later rest laterRest accepted sends whole =>
      have active : before.activeCommand = some command := engaged.sends command send rest sends
      have decided := engaged.spawned (by rw [sends]; exact nofun)
      refine ⟨fun id is => ?_, fun id other last is => ?_, fun early => absurd early decided⟩
      · cases active.symm.trans is
        exact ⟨later, laterRest, rfl⟩
      · cases is
        exact active
  | frameFinished command send rest accepted sends whole =>
      exact engaged_outside rfl (.inl rfl) (engaged.spawned (by rw [sends]; exact nofun))
  | frameFailed command send rest fault writer sends written goes =>
      exact engaged_outside rfl (goes.imp_right And.left)
        (engaged.spawned (by rw [sends]; exact nofun))
  | frameClosed command send rest sends idle =>
      exact engaged_outside rfl (.inr rfl) (engaged.spawned (by rw [sends]; exact nofun))
  | writerEnded loops idle =>
      have inactive := engaged.inactive fun id send rest sends => loops.elim
        (fun loops => nomatch loops.symm.trans sends) fun ends => nomatch ends.symm.trans sends
      have decided := engaged.spawned fun absent => loops.elim
        (fun loops => nomatch loops.symm.trans absent) fun ends => nomatch ends.symm.trans absent
      exact engaged_outside inactive (.inr rfl) decided
  | _ => exact engaged.same rfl rfl id

theorem engaged_initial (engine : Engine) (config : WebSocketConfig)
    (subprotocols offered : List Text) (trailingData : Bytes) (now : Nat) :
    Engaged (core (initial engine config subprotocols offered trailingData now)) where
  active := nofun
  sends := nofun
  unspawned := fun _ => rfl

end Engagement

section Samples

/-- The state of the sample engine: the bytes it has not made events of, and whether the end of
the stream is still to be reported. -/
structure SampleBuffer where
  bytes : Bytes := []
  ends : Bool := false
deriving DecidableEq

/-- A final unmasked frame of at most 125 bytes. -/
def frameOf (opcode : Nat) (payload : Bytes) : Bytes :=
  UInt8.ofNat (128 + opcode) :: UInt8.ofNat payload.length :: payload

/-- The masked frame of a client, with a mask of zeros. -/
def clientFrame (opcode : Nat) (payload : Bytes) : Bytes :=
  UInt8.ofNat (128 + opcode) :: UInt8.ofNat (128 + payload.length) :: 0 :: 0 :: 0 :: 0 :: payload

def serialize : Event → Bytes
  | .textMessage data _ => frameOf 1 (encodeUtf8 data)
  | .bytesMessage data _ => frameOf 2 data
  | .ping payload => frameOf 9 payload
  | .pong payload => frameOf 10 payload
  | .closeConnection code reason =>
      frameOf 8 (if code = 1005 then []
        else UInt8.ofNat (code / 256) :: UInt8.ofNat (code % 256) ::
          encodeUtf8 (closeReason reason))

def eventOf (opcode : Nat) (payload : Bytes) : Option Event :=
  match opcode with
  | 2 => some (.bytesMessage payload true)
  | 8 => some (match payload with
      | high :: low :: _ => .closeConnection (high.toNat * 256 + low.toNat) none
      | _ => .closeConnection 1005 none)
  | 9 => some (.ping payload)
  | 10 => some (.pong payload)
  | _ => none

def takeFrame : Bytes → Option (Event × Bytes)
  | first :: second :: rest =>
      let length := second.toNat % 128
      if rest.length < 4 + length then none
      else (eventOf (first.toNat % 16) ((rest.drop 4).take length)).map fun event =>
        (event, rest.drop (4 + length))
  | _ => none

def takeFrames : Nat → Bytes → List (Event × SampleBuffer)
  | 0, _ => []
  | bound + 1, bytes =>
      match takeFrame bytes with
      | none => []
      | some (event, rest) => (event, { bytes := rest }) :: takeFrames bound rest

def sampleEngine : Engine where
  State := SampleBuffer
  create := {}
  send := fun buffer event => some (serialize event, buffer)
  receive := fun buffer chunk => some { buffer with bytes := buffer.bytes ++ chunk }
  receiveEnd := fun buffer => some { buffer with ends := true }
  events := fun buffer =>
    takeFrames buffer.bytes.length buffer.bytes ++
      if buffer.ends then [(.closeConnection 1006 none, {})] else []

def sampleResponse : HandshakeBytes := ⟨[72], by decide⟩

def sampleCancel : Cancel := ⟨.done, .done, sampleResponse⟩

def sampleStart : WebSocketState sampleEngine := initial sampleEngine {} [] [] [] 0

def sampleOpening : List Step :=
  [.coordinatorStarts, .handlerStarts, .accepts .handler none (some sampleResponse),
    .sendsHandshake .handler (.sent 1) false, .coordinatorDecides, .readerStarts sampleCancel]

def nextWhere (test : WebSocketState sampleEngine → Step → Bool)
    (state : WebSocketState sampleEngine) (step : Step) :
    Option (WebSocketState sampleEngine) :=
  if test state step = true then next state step else none

theorem avoids_nextWhere {defect : Defect} {test : WebSocketState sampleEngine → Step → Bool}
    (sound : ∀ state step, test state step = true → ¬Commits state defect step)
    (state : WebSocketState sampleEngine) (step : Step) (after : WebSocketState sampleEngine)
    (taken : nextWhere test state step = some after) : Avoids defect state step after := by
  unfold nextWhere at taken
  split at taken
  · rename_i passes
    exact ⟨taken, sound state step passes⟩
  · cases taken

end Samples

end SmallServer.WebSocketSteps
