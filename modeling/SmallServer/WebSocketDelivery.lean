import SmallServer.WebSocketEffects
import SmallServer.WebSocketSteps

/-!
# Delivery after the peer has left

A handler that does nothing but receive is to get every queued message before it is told that
the peer has left. `View` is what this depends on. Nothing disturbs it but the end of the
stream: there the reader cancels the handler, whatever is queued.
-/

namespace SmallServer.WebSocketDelivery

open SmallServer HttpValues KernelTransport WebSocket WebSocketState WebSocketTasks
  WebSocketEffects WebSocketSteps Runs

set_option autoImplicit false

variable {engine : Engine}

section Views

structure View where
  accepted : Bool
  handshakeState : HandshakeState
  disconnect : Option Disconnect
  inbox : List Payload
  delivered : List Payload
  outcomes : List (Caller × Outcome)
  calls : Caller → Call
  handler : HandlerTask
  reader : ReaderTask
  coordinator : Coordinator

def view (state : WebSocketState engine) : View where
  accepted := state.accepted
  handshakeState := state.handshakeState
  disconnect := state.disconnect
  inbox := state.inbox
  delivered := state.delivered
  outcomes := state.outcomes
  calls := state.calls
  handler := state.handler
  reader := state.reader
  coordinator := state.coordinator

def messageOf : Caller × Outcome → Option Payload
  | (.handler, .message payload) => some payload
  | _ => none

def received (outcomes : List (Caller × Outcome)) : List Payload := outcomes.filterMap messageOf

def Told (outcomes : List (Caller × Outcome)) : Prop :=
  ∃ disconnect, (Caller.handler, Outcome.raised (.disconnect disconnect)) ∈ outcomes

/-- The invariant. Nobody but the handler is inside a call that could take a message, a
disconnect is only set by a reader that has ended, and a handler only ends when it is told. -/
structure Kept (view : View) : Prop where
  in_order : received view.outcomes ++ view.inbox = view.delivered
  told : Told view.outcomes → view.inbox = [] ∧ view.disconnect.isSome = true
  left : view.disconnect.isSome = true → view.reader = .ended
  unread : view.reader = .absent → view.inbox = []
  reading : view.reader ≠ .absent →
    view.accepted = true ∧ view.coordinator ≠ .starting ∧ view.coordinator ≠ .deciding
  handshake : (view.accepted = true ∧ view.handshakeState = .accepted) ∨
    (view.accepted = false ∧
      (view.handshakeState = .pending ∨ view.handshakeState = .accepting))
  starting : view.coordinator = .starting → view.handler = .absent
  decided : view.accepted = true → view.handler = .running ∨ view.handler = .ended
  undecided : view.accepted = false →
    view.handler = .absent ∨ view.handler = .spawned ∨ view.handler = .running
  waiting : view.handler ≠ .running → view.calls .handler = .idle
  ended : view.handler = .ended → Told view.outcomes
  joined : view.coordinator = .starting ∨ view.coordinator = .deciding ∨
    view.coordinator = .joining ∨ view.handler = .ended
  accepting : view.accepted = false → view.calls .handler = .idle ∨
    ∃ send subprotocol, view.calls .handler = .accepts send subprotocol
  receiving : view.accepted = true →
    view.calls .handler = .idle ∨ view.calls .handler = .receives
  others : ∀ number, view.calls (.other number) = .idle
  apart : ∀ caller, caller ≠ .handler → inFlight (view.calls caller) = false

end Views

section Peace

variable (state : WebSocketState engine)

def expired : Prop :=
  if state.handshakeState.undecided then
    state.config.handshakeTimeout ≤ state.now - state.createdAt
  else (deadlineReason state).isSome = true ∨ passed state state.writeDeadline = true ∨
    passed state state.closeDeadline = true

def taken (send : SendAll) (reply : SocketAnswer) : Prop := ∀ error, send.turn reply ≠ .raised error

/-- The steps of a connection whose handler accepts it and then only receives until it is told
of the disconnect, with no deadline that expires, no local shutdown and no failed write. -/
def Undisturbed : Step → Prop
  | .accepts caller _ _ => caller = .handler
  | .receives caller => caller = .handler
  | .rejects _ _ _ => False
  | .sendsMessage _ _ => False
  | .pings _ _ => False
  | .closes _ _ _ => False
  | .handlerEnds _ _ => Told state.outcomes
  | .sendsHandshake caller reply _ =>
      match state.calls caller with
      | .accepts send _ => taken send reply
      | .rejects send => taken send reply
      | _ => True
  | .writerTakes _ => ∀ command outbox, state.outbox = command :: outbox →
      (state.protocol.bind fun protocol =>
        state.commands[command]?.bind fun c => engine.send protocol c.event).isSome = true
  | .writerSends reply _ _ =>
      match state.writer with
      | .sends _ send _ => taken send reply
      | _ => True
  | .deadlineWakes _ _ _ => ¬expired state
  | .readerRaises _ _ => False
  | .requestsShutdown _ _ => False
  | .coordinatorCancelled => False
  | _ => True

/-- The handler is not closed by its cancellation. -/
def resists (cancel : Cancel) : Prop := cancel.handler ≠ .done

/-- The steps in which the reader does not close a handler that is still there: the stream goes
on, and what the peer sends makes the reader raise nothing. -/
def Spares (step : Step) : Prop :=
  state.handler = .ended ∨
    match step with
    | .readerStarts cancel => resists cancel ∨
        ∀ result, readerResult state step = some result → ∃ returns, result.1 = .ok returns
    | .readerReceives _ cancel => resists cancel ∨
        ∀ result, readerResult state step = some result → ∃ returns, result.1 = .ok returns
    | .readerEnds cancel again =>
        resists cancel ∧ (cancel.handler = .interrupted → resists again)
    | _ => True

def Peaceful (state : WebSocketState engine) (step : Step) (after : WebSocketState engine) : Prop :=
  Steps state step after ∧ Undisturbed state step ∧ Spares state step

def Receiving (step : Step) : Prop := step = .receives .handler ∨ step = .resumes .handler

structure Survives : Prop where
  in_order : received state.outcomes ++ state.inbox = state.delivered
  told_last : Told state.outcomes → received state.outcomes = state.delivered
  uncancelled : state.handler ≠ .cancelled
  waits : state.inbox ≠ [] → state.handler = .running

end Peace

section Keeping

variable {view : View}

theorem told_append {outcomes : List (Caller × Outcome)} {caller : Caller} {outcome : Outcome}
    (quiet : ∀ disconnect, outcome ≠ .raised (.disconnect disconnect)) :
    Told (outcomes ++ [(caller, outcome)]) ↔ Told outcomes := by
  constructor
  · rintro ⟨disconnect, member⟩
    rcases List.mem_append.mp member with before | here
    · exact ⟨disconnect, before⟩
    · cases List.mem_singleton.mp here
      exact absurd rfl (quiet disconnect)
  · rintro ⟨disconnect, member⟩
    exact ⟨disconnect, List.mem_append_left _ member⟩

theorem Kept.untold (kept : Kept view) (reads : view.reader ≠ .ended) :
    view.disconnect = none ∧ ¬Told view.outcomes := by
  have none : ¬view.disconnect.isSome = true := fun some => reads (kept.left some)
  exact ⟨Option.not_isSome_iff_eq_none.mp none, fun told => none (kept.told told).2⟩

theorem Kept.joinedEnded (kept : Kept view) {coordinator : Coordinator}
    (is : view.coordinator = coordinator) (beyond : coordinator ≠ .starting ∧
      coordinator ≠ .deciding ∧ coordinator ≠ .joining) : view.handler = .ended := by
  subst is
  rcases kept.joined with starting | deciding | joining | ended
  · exact absurd starting beyond.1
  · exact absurd deciding beyond.2.1
  · exact absurd joining beyond.2.2
  · exact ended

theorem Kept.uncancelled (kept : Kept view) : view.handler ≠ .cancelled := by
  intro cancelled
  rcases kept.handshake with ⟨accepted, -⟩ | ⟨unaccepted, -⟩
  · rcases kept.decided accepted with is | is
    · exact nomatch cancelled.symm.trans is
    · exact nomatch cancelled.symm.trans is
  · rcases kept.undecided unaccepted with is | is | is
    · exact nomatch cancelled.symm.trans is
    · exact nomatch cancelled.symm.trans is
    · exact nomatch cancelled.symm.trans is

theorem Kept.heard (kept : Kept view)
    (reads : view.reader = .spawned ∨ view.reader = .receiving) (payloads : List Payload)
    (disconnect : Option Disconnect) (reader : ReaderTask)
    (ends : disconnect.isSome = true → reader = .ended) (present : reader ≠ .absent) :
    Kept { view with
      inbox := view.inbox ++ payloads
      delivered := view.delivered ++ payloads
      disconnect
      reader } := by
  have working : view.reader ≠ .ended ∧ view.reader ≠ .absent := by
    rcases reads with is | is
    · exact ⟨is ▸ nofun, is ▸ nofun⟩
    · exact ⟨is ▸ nofun, is ▸ nofun⟩
  have untold := (kept.untold working.1).2
  exact { kept with
    in_order := by
      rw [← List.append_assoc, kept.in_order]
    told := fun told => absurd told untold
    left := ends
    unread := fun absent => absurd absent present
    reading := fun _ => kept.reading working.2 }

theorem Kept.coordinated (kept : Kept view) (ended : view.handler = .ended)
    (coordinator : Coordinator) (later : coordinator ≠ .starting ∧ coordinator ≠ .deciding) :
    Kept { view with coordinator } := by
  have present : view.reader ≠ .absent := by
    rw [kept.left (kept.told (kept.ended ended)).2]
    exact nofun
  exact { kept with
    reading := fun _ => ⟨(kept.reading present).1, later⟩
    starting := fun is => absurd is later.1
    joined := Or.inr (Or.inr (Or.inr ended)) }

theorem Kept.called (kept : Kept view) {caller : Caller} (call : Call)
    (elsewhere : caller = .coordinator ∨ caller = .deadline) (waits : inFlight call = false) :
    Kept { view with calls := Function.update view.calls caller call } := by
  have same : ∀ other, other ≠ caller → Function.update view.calls caller call other =
      view.calls other := fun other different => Function.update_of_ne different _ _
  have handler : Function.update view.calls caller call .handler = view.calls .handler :=
    same .handler (by rcases elsewhere with is | is <;> rw [is] <;> exact nofun)
  refine { kept with
    waiting := fun elsewhere => handler.trans (kept.waiting elsewhere)
    accepting := fun unaccepted => ?_
    receiving := fun accepted => ?_
    others := fun number => ?_
    apart := fun other different => ?_ }
  · show Function.update view.calls caller call .handler = .idle ∨ ∃ send subprotocol,
      Function.update view.calls caller call .handler = .accepts send subprotocol
    rw [handler]
    exact kept.accepting unaccepted
  · show Function.update view.calls caller call .handler = .idle ∨
      Function.update view.calls caller call .handler = .receives
    rw [handler]
    exact kept.receiving accepted
  · have other : Caller.other number ≠ caller := by
      rcases elsewhere with is | is <;> rw [is] <;> exact nofun
    exact (same _ other).trans (kept.others number)
  · show inFlight (Function.update view.calls caller call other) = false
    by_cases here : other = caller
    · rw [here, Function.update_self]
      exact waits
    · rw [same other here]
      exact kept.apart other different

theorem Kept.answered (kept : Kept view) {caller : Caller} {outcome : Outcome}
    (message : ∀ payload, outcome ≠ .message payload)
    (quiet : ∀ disconnect, outcome ≠ .raised (.disconnect disconnect)) :
    Kept { view with outcomes := view.outcomes ++ [(caller, outcome)] } := by
  have same : received (view.outcomes ++ [(caller, outcome)]) = received view.outcomes := by
    have none : messageOf (caller, outcome) = none := by
      cases outcome with
      | message payload => exact absurd rfl (message payload)
      | _ => cases caller <;> rfl
    rw [received, List.filterMap_append, List.filterMap_cons_none none]
    exact List.append_nil _
  have toldSame : Told (view.outcomes ++ [(caller, outcome)]) ↔ Told view.outcomes :=
    told_append quiet
  exact { kept with
    in_order := by
      rw [same]
      exact kept.in_order
    told := fun told => kept.told (toldSame.mp told)
    ended := fun is => toldSame.mpr (kept.ended is) }

theorem Kept.handlerAt (kept : Kept view) (runs : view.handler = .running) (call : Call)
    (accepting : view.accepted = false →
      call = .idle ∨ ∃ send subprotocol, call = .accepts send subprotocol)
    (receiving : view.accepted = true → call = .idle ∨ call = .receives) :
    Kept { view with calls := Function.update view.calls .handler call } := by
  have here : Function.update view.calls .handler call .handler = call := Function.update_self ..
  have same : ∀ other, other ≠ .handler → Function.update view.calls .handler call other =
      view.calls other := fun other different => Function.update_of_ne different _ _
  refine { kept with
    waiting := fun elsewhere => absurd runs elsewhere
    accepting := fun unaccepted => ?_
    receiving := fun accepted => ?_
    others := fun number => (same (.other number) nofun).trans (kept.others number)
    apart := fun other different => ?_ }
  · rw [← here] at accepting
    exact accepting unaccepted
  · rw [← here] at receiving
    exact receiving accepted
  · show inFlight (Function.update view.calls .handler call other) = false
    rw [same other different]
    exact kept.apart other different

theorem Kept.accepts (kept : Kept view) (runs : view.handler = .running)
    (unaccepted : view.accepted = false) (send : SendAll) (subprotocol : Option Text) :
    Kept { view with
      handshakeState := .accepting
      calls := Function.update view.calls .handler (.accepts send subprotocol) } := by
  have moved := kept.handlerAt runs (.accepts send subprotocol)
    (fun _ => Or.inr ⟨send, subprotocol, rfl⟩)
    fun accepted => absurd (unaccepted.symm.trans accepted) nofun
  exact { moved with handshake := Or.inr ⟨unaccepted, Or.inr rfl⟩ }

theorem Kept.accepted (kept : Kept view) (runs : view.handler = .running) :
    Kept { view with
      accepted := true
      handshakeState := .accepted
      calls := Function.update view.calls .handler .idle
      outcomes := view.outcomes ++ [(.handler, .returned)] } := by
  have moved := kept.handlerAt runs .idle (fun _ => Or.inl rfl) fun _ => Or.inl rfl
  have here : Function.update view.calls .handler .idle .handler = .idle :=
    Function.update_self ..
  have answered : Kept { view with
      calls := Function.update view.calls .handler .idle
      outcomes := view.outcomes ++ [(.handler, .returned)] } :=
    moved.answered (fun _ => nofun) fun _ => nofun
  exact { answered with
    reading := fun present => ⟨rfl, (kept.reading present).2⟩
    handshake := Or.inl ⟨rfl, rfl⟩
    decided := fun _ => Or.inl runs
    undecided := nofun
    accepting := nofun
    receiving := fun _ => Or.inl here }

theorem Kept.takes (kept : Kept view) (runs : view.handler = .running)
    {payload : Payload} {rest : List Payload} (queued : view.inbox = payload :: rest) :
    Kept { view with
      inbox := rest
      calls := Function.update view.calls .handler .idle
      outcomes := view.outcomes ++ [(.handler, .message payload)] } := by
  have moved := kept.handlerAt runs .idle (fun _ => Or.inl rfl) fun _ => Or.inl rfl
  have toldSame : Told (view.outcomes ++ [(.handler, .message payload)]) ↔ Told view.outcomes :=
    told_append fun _ => nofun
  have grown : received (view.outcomes ++ [(.handler, .message payload)]) =
      received view.outcomes ++ [payload] := List.filterMap_append
  exact { moved with
    in_order := by
      rw [grown, List.append_assoc, ← kept.in_order, queued]
      rfl
    told := fun told => by
      have empty := (kept.told (toldSame.mp told)).1
      rw [queued] at empty
      cases empty
    unread := fun absent => by
      have empty := kept.unread absent
      rw [queued] at empty
      cases empty
    ended := fun is => absurd (runs.symm.trans is) nofun }

theorem Kept.isTold (kept : Kept view) (runs : view.handler = .running)
    (empty : view.inbox = []) {disconnect : Disconnect}
    (left : view.disconnect = some disconnect) :
    Kept { view with
      calls := Function.update view.calls .handler .idle
      outcomes := view.outcomes ++ [(.handler, .raised (.disconnect disconnect))] } := by
  have moved := kept.handlerAt runs .idle (fun _ => Or.inl rfl) fun _ => Or.inl rfl
  have told : Told (view.outcomes ++ [(.handler, .raised (.disconnect disconnect))]) :=
    ⟨disconnect, List.mem_append_right _ (List.mem_singleton.mpr rfl)⟩
  have same : received (view.outcomes ++ [(.handler, .raised (.disconnect disconnect))]) =
      received view.outcomes := by
    rw [received, List.filterMap_append]
    exact List.append_nil _
  exact { moved with
    in_order := by
      rw [same]
      exact kept.in_order
    told := fun _ => ⟨empty, by rw [left]; rfl⟩
    ended := fun _ => told }

end Keeping

section Reading

variable (state : WebSocketState engine)

/-- What the reader makes of a view: messages for the inbox, and perhaps a disconnect. -/
def View.hears (view : View) (payloads : List Payload) (disconnect : Option Disconnect) : View :=
  { view with
    inbox := view.inbox ++ payloads
    delivered := view.delivered ++ payloads
    disconnect }

theorem hears_nothing (view : View) : view.hears [] view.disconnect = view := by
  simp only [View.hears, List.append_nil]

theorem View.hears_hears (view : View) (payloads more : List Payload)
    (disconnect later : Option Disconnect) :
    (view.hears payloads disconnect).hears more later = view.hears (payloads ++ more) later := by
  simp only [View.hears, List.append_assoc]

theorem view_enqueueControl (event : Event) (size : Nat) :
    view (state.enqueueControl event size).2 = view state := by
  unfold enqueueControl
  split
  · rfl
  · rfl

theorem view_deliverMessage (payload : Payload) :
    ∃ payloads, view (state.deliverMessage payload).2 =
      (view state).hears payloads state.disconnect := by
  unfold deliverMessage
  split
  · exact ⟨[payload], rfl⟩
  · exact ⟨[], (hears_nothing (view state)).symm⟩

theorem view_receiveData (kind : MessageKind) (data : Bytes) (finished : Bool) :
    ∃ payloads, view (state.receiveData kind data finished).2 =
      (view state).hears payloads state.disconnect := by
  have nothing : ∃ payloads, view state = (view state).hears payloads state.disconnect :=
    ⟨[], (hears_nothing (view state)).symm⟩
  unfold receiveData
  generalize is : (if state.messageKind.isNone then
    { state with messageKind := some kind, messageBuffer := [], messageBytes := 0 }
    else state) = begun
  have same : view begun = view state := by
    rw [← is]
    split
    · rfl
    · rfl
  have left : begun.disconnect = state.disconnect := congrArg View.disconnect same
  rw [← same] at nothing ⊢
  rw [← left] at nothing ⊢
  dsimp only
  split
  · exact nothing
  · split
    · exact nothing
    · split
      · split
        · exact nothing
        · rename_i payload _
          have delivered := view_deliverMessage { begun with
            messageKind := none
            messageBuffer := []
            messageBytes := 0 } payload
          split
          · rename_i next result
            rw [result] at delivered
            exact delivered
          · rename_i next result
            rw [result] at delivered
            exact delivered
      · exact nothing

theorem view_disconnectWith (code : Nat) (reason : String) :
    view (state.disconnectWith code reason) =
      (view state).hears [] (state.disconnect <|> some ⟨code, reason⟩) := by
  simp only [View.hears, List.append_nil, view, disconnectWith]

/-- A Close is the only event that sets the disconnect, and the reader returns after it. -/
theorem view_receiveClose (code : Nat) (reason : Option String) :
    ∃ disconnect, view (state.receiveClose code reason).2 = (view state).hears [] disconnect := by
  unfold receiveClose
  dsimp only
  generalize closeResponse code reason = response
  split
  · exact ⟨_, view_disconnectWith { state with peerClosed := true } code _⟩
  · have replied : view ({ state with peerClosed := true }.enqueueControl
        (.closeConnection response.1 response.2) (closeEventSize response.1 response.2)).2 =
          view state := view_enqueueControl { state with peerClosed := true } _ _
    split
    · rename_i next result
      rw [result] at replied
      exact ⟨_, replied.trans (hears_nothing (view state)).symm⟩
    · rename_i next result
      rw [result] at replied
      exact ⟨_, (view_disconnectWith { next with closeSent := true } code _).trans
        (congrArg (View.hears · [] _) replied)⟩

theorem view_drainEvent (event : Event) :
    ∃ payloads disconnect, view (state.drainEvent event).2 =
        (view state).hears payloads disconnect ∧
      ((state.drainEvent event).1 = .ok false → disconnect = state.disconnect) := by
  unfold drainEvent
  cases event with
  | textMessage data finished =>
      obtain ⟨payloads, heard⟩ := view_receiveData state .text (encodeUtf8 data) finished
      exact ⟨payloads, _, heard, fun _ => rfl⟩
  | bytesMessage data finished =>
      obtain ⟨payloads, heard⟩ := view_receiveData state .bytes data finished
      exact ⟨payloads, _, heard, fun _ => rfl⟩
  | ping payload =>
      have replied := view_enqueueControl state (.pong payload) payload.length
      dsimp only
      split
      · rename_i next result
        rw [result] at replied
        exact ⟨[], _, replied.trans (hears_nothing (view state)).symm, fun _ => rfl⟩
      · rename_i next result
        rw [result] at replied
        exact ⟨[], _, replied.trans (hears_nothing (view state)).symm, fun _ => rfl⟩
  | pong payload =>
      have same : view (state.handlePong payload) = view state := by
        unfold handlePong
        split
        · rfl
        · rfl
      exact ⟨[], _, same.trans (hears_nothing (view state)).symm, fun _ => rfl⟩
  | closeConnection code reason =>
      obtain ⟨disconnect, heard⟩ := view_receiveClose state code reason
      refine ⟨[], disconnect, heard, fun goesOn => ?_⟩
      dsimp only at goesOn
      rcases result : (state.receiveClose code reason).1 with fault | _
      · rw [result] at goesOn
        cases goesOn
      · rw [result] at goesOn
        cases goesOn

theorem view_drainEvents (events : List (Event × engine.State)) :
    ∃ payloads disconnect, view (drainEvents events state).2 =
        (view state).hears payloads disconnect ∧
      ((drainEvents events state).1 = .ok false → disconnect = state.disconnect) := by
  induction events generalizing state with
  | nil => exact ⟨[], _, (hears_nothing (view state)).symm, fun _ => rfl⟩
  | cons first events hypothesis =>
      obtain ⟨event, protocol⟩ := first
      obtain ⟨payloads, disconnect, heard, quiet⟩ :=
        view_drainEvent { state with protocol := some protocol } event
      unfold drainEvents
      split
      · rename_i next result
        rw [result] at heard quiet
        obtain ⟨more, later, rest, still⟩ := hypothesis next
        have unchanged : next.disconnect = state.disconnect :=
          (congrArg View.disconnect heard).trans (quiet rfl)
        refine ⟨payloads ++ more, later, ?_, fun goesOn => (still goesOn).trans unchanged⟩
        have step : view next = (view state).hears payloads disconnect := heard
        rw [rest, step, View.hears_hears]
      · rename_i outcome next other result
        rw [result] at heard quiet
        exact ⟨payloads, disconnect, heard, quiet⟩

theorem view_drainProtocolEvents :
    ∃ payloads disconnect, view (drainProtocolEvents state).2 =
        (view state).hears payloads disconnect ∧
      ((drainProtocolEvents state).1 = .ok false → disconnect = state.disconnect) := by
  unfold drainProtocolEvents
  split
  · exact ⟨[], _, (hears_nothing (view state)).symm, fun _ => rfl⟩
  · exact view_drainEvents state _

theorem view_receiveChunks (chunks : List Bytes) :
    view (receiveChunks chunks state).2 = view state := by
  induction chunks generalizing state with
  | nil => rfl
  | cons chunk chunks hypothesis =>
      unfold receiveChunks
      split
      · rfl
      · exact hypothesis _

theorem view_receiveProtocolData (data : Bytes) :
    view (receiveProtocolData data state).2 = view state := by
  unfold receiveProtocolData
  split
  · rfl
  · exact view_receiveChunks _ _

theorem view_receiveAndDrain (data : Bytes) :
    ∃ payloads disconnect, view (receiveAndDrain data state).2 =
        (view state).hears payloads disconnect ∧
      ((receiveAndDrain data state).1 = .ok false → disconnect = state.disconnect) := by
  have same := view_receiveProtocolData state data
  unfold receiveAndDrain
  split
  · rename_i fault next result
    rw [result] at same
    exact ⟨[], _, same.trans (hears_nothing (view state)).symm, nofun⟩
  · rename_i next result
    rw [result] at same
    obtain ⟨payloads, disconnect, heard, quiet⟩ := view_drainProtocolEvents next
    have left : next.disconnect = state.disconnect := congrArg View.disconnect same
    have step : view next = view state := same
    rw [step] at heard
    exact ⟨payloads, disconnect, heard, fun goesOn => (quiet goesOn).trans left⟩

end Reading

section Cancelling

variable (state : WebSocketState engine)

theorem view_closeHandler (ended : state.handler = .ended) (response : HandshakeBytes) :
    state.closeHandler response = state := by
  unfold closeHandler
  rw [ended]

theorem view_cancelHandler (cancel : Cancel) (spared : state.handler = .ended ∨ resists cancel) :
    view (state.cancelHandler cancel).2 = view state := by
  unfold cancelHandler
  split
  · rfl
  · split
    · rename_i done
      rcases spared with ended | resists
      · rw [view_closeHandler state ended]
      · exact absurd done resists
    · rfl
    · rfl

theorem view_closeForError (code : Nat) (reason : String) (size : Nat) :
    view (closeForError state code reason size) =
      (view state).hears [] (state.disconnect <|> some ⟨code, reason⟩) := by
  have queued := view_enqueueControl state (.closeConnection code (some reason)) size
  have left : (state.enqueueControl (.closeConnection code (some reason)) size).2.disconnect =
      state.disconnect := congrArg View.disconnect queued
  have closed := view_disconnectWith
    { (state.enqueueControl (.closeConnection code (some reason)) size).2 with
      closeSent := true } code reason
  rw [← left, ← queued]
  exact closed

theorem view_readerFailed (fault : Fault) (cancel : Cancel)
    (spared : state.handler = .ended ∨ resists cancel) :
    ∃ disconnect, view (readerFailed state fault cancel) =
      { (view state).hears [] disconnect with reader := .ended } := by
  have ends : ∀ {ended : WebSocketState engine} {disconnect : Option Disconnect},
      view ended = (view state).hears [] disconnect →
        view { ended with reader := .ended } =
          { (view state).hears [] disconnect with reader := .ended } :=
    fun same => congrArg (fun heard : View => { heard with reader := .ended }) same
  have cancelled : ∀ {told : WebSocketState engine} {disconnect : Option Disconnect},
      view told = (view state).hears [] disconnect →
        view (told.cancelHandler cancel).2 = (view state).hears [] disconnect := by
    intro told disconnect same
    have handler : told.handler = state.handler := congrArg View.handler same
    exact (view_cancelHandler told cancel (handler ▸ spared)).trans same
  have closes : ∀ code reason size, ∃ disconnect,
      view (if state.shutdown then state else
        ((closeForError state code reason size).cancelHandler cancel).2) =
          (view state).hears [] disconnect := by
    intro code reason size
    split
    · exact ⟨_, (hears_nothing (view state)).symm⟩
    · exact ⟨_, cancelled (view_closeForError state code reason size)⟩
  unfold readerFailed
  cases fault with
  | interrupt =>
      have told := view_disconnectWith { state with fatalError := some .interrupt } 1006 ""
      exact ⟨_, ends (cancelled told)⟩
  | capacity message =>
      obtain ⟨disconnect, same⟩ := closes 1009 "message too large" 19
      exact ⟨disconnect, ends same⟩
  | _ =>
      obtain ⟨disconnect, same⟩ := closes 1002 "protocol error" 16
      exact ⟨disconnect, ends same⟩

end Cancelling

section Steps

variable (state : WebSocketState engine)

/-- The reader after bytes that it took without an exception, or by which the handler is not
closed. -/
theorem kept_readerGoesOn (kept : Kept (view state))
    (reads : state.reader = .spawned ∨ state.reader = .receiving)
    {result : Except Fault Bool × WebSocketState engine} {payloads : List Payload}
    {disconnect : Option Disconnect}
    (heard : view result.2 = (view state).hears payloads disconnect)
    (quiet : result.1 = .ok false → disconnect = state.disconnect) (cancel : Cancel)
    (spared : (state.handler = .ended ∨ resists cancel) ∨ ∃ returns, result.1 = .ok returns) :
    Kept (view (readerGoesOn result cancel)) := by
  obtain ⟨outcome, next⟩ := result
  have silent : state.disconnect = none := by
    refine (kept.untold ?_).1
    show state.reader ≠ .ended
    rcases reads with is | is
    · exact is ▸ nofun
    · exact is ▸ nofun
  unfold readerGoesOn
  cases outcome with
  | error fault =>
      have handler : next.handler = state.handler := congrArg View.handler heard
      have refused : state.handler = .ended ∨ resists cancel :=
        spared.resolve_right (fun ⟨_, impossible⟩ => nomatch impossible)
      obtain ⟨later, failed⟩ := view_readerFailed next fault cancel (handler ▸ refused)
      have same : view next = (view state).hears payloads disconnect := heard
      dsimp only
      rw [failed, same, View.hears_hears]
      exact kept.heard reads _ later .ended (fun _ => rfl) nofun
  | ok returns =>
      have same : view { next with
          reader := if returns = true ∨ next.shutdown = true then .ended else .receiving } =
          { (view state).hears payloads disconnect with
            reader := if returns = true ∨ next.shutdown = true then .ended else .receiving } :=
        congrArg (fun heard : View => { heard with
          reader := if returns = true ∨ next.shutdown = true then .ended else .receiving }) heard
      dsimp only
      rw [same]
      refine kept.heard reads _ disconnect _ (fun some => ?_) ?_
      · cases returns with
        | true => exact if_pos (Or.inl rfl)
        | false =>
            rw [quiet rfl, silent] at some
            cases some
      · split
        · exact nofun
        · exact nofun

theorem kept_readerStarts (kept : Kept (view state)) (reads : state.reader = .spawned)
    (cancel : Cancel) (spares : Spares state (.readerStarts cancel)) :
    Kept (view (readerStarts state cancel)) := by
  have spared : ∀ {result}, readerResult state (.readerStarts cancel) = some result →
      (state.handler = .ended ∨ resists cancel) ∨ ∃ returns, result.1 = .ok returns := by
    intro result is
    rcases spares with ended | resists | fine
    · exact Or.inl (Or.inl ended)
    · exact Or.inl (Or.inr resists)
    · exact Or.inr (fine result is)
  have same := view_receiveProtocolData state state.trailingData
  unfold readerStarts
  split
  · exact kept_readerGoesOn state kept (Or.inl reads) (hears_nothing (view state)).symm
      (fun _ => rfl) cancel (Or.inr ⟨false, rfl⟩)
  · rename_i nonempty
    split
    · rename_i fault next result
      rw [result] at same
      have failed := @spared (.error fault, next) (by rw [readerResult, if_neg nonempty, result])
      exact kept_readerGoesOn state kept (Or.inl reads)
        (same.trans (hears_nothing (view state)).symm) (fun _ => rfl) cancel failed
    · rename_i next result
      rw [result] at same
      have drained := @spared (drainProtocolEvents { next with trailingData := [] })
        (by rw [readerResult, if_neg nonempty, result])
      obtain ⟨payloads, disconnect, heard, quiet⟩ :=
        view_drainProtocolEvents { next with trailingData := [] }
      have emptied : view { next with trailingData := [] } = view state := same
      have left : next.disconnect = state.disconnect := congrArg View.disconnect same
      rw [emptied] at heard
      exact kept_readerGoesOn state kept (Or.inl reads) heard
        (fun goesOn => (quiet goesOn).trans left) cancel drained

theorem kept_readerReceives (kept : Kept (view state)) (reads : state.reader = .receiving)
    (chunk : Bytes) (cancel : Cancel) (spares : Spares state (.readerReceives chunk cancel)) :
    Kept (view (readerReceives state chunk cancel)) := by
  have spared : (state.handler = .ended ∨ resists cancel) ∨ ∃ returns,
      (receiveAndDrain chunk { state with lastActivity := state.now }).1 = .ok returns := by
    rcases spares with ended | resists | fine
    · exact Or.inl (Or.inl ended)
    · exact Or.inl (Or.inr resists)
    · exact Or.inr (fine _ rfl)
  obtain ⟨payloads, disconnect, heard, quiet⟩ :=
    view_receiveAndDrain { state with lastActivity := state.now } chunk
  exact kept_readerGoesOn state kept (Or.inr reads) heard quiet cancel spared

theorem interrupted_of_cancelHandler {cancel : Cancel}
    (interrupts : (state.cancelHandler cancel).1 = true) : cancel.handler = .interrupted := by
  unfold cancelHandler at interrupts
  split at interrupts
  · cases interrupts
  · split at interrupts
    · cases interrupts
    · cases interrupts
    · rename_i interrupted
      exact interrupted

theorem kept_readerEnds (kept : Kept (view state)) (reads : state.reader = .receiving)
    (cancel again : Cancel) (spares : Spares state (.readerEnds cancel again)) :
    Kept (view (readerEnds state cancel again)) := by
  have spared : state.handler = .ended ∨ resists cancel := spares.imp id And.left
  have ends : ∀ {after : WebSocketState engine} {payloads : List Payload}
      {disconnect : Option Disconnect},
      view after = { (view state).hears payloads disconnect with reader := .ended } →
        Kept (view after) := by
    intro after payloads disconnect same
    rw [same]
    exact kept.heard (Or.inr reads) payloads disconnect .ended (fun _ => rfl) nofun
  have fails : ∀ {next : WebSocketState engine} {payloads : List Payload}
      {disconnect : Option Disconnect} (fault : Fault) {cancel : Cancel},
      view next = (view state).hears payloads disconnect →
        (state.handler = .ended ∨ resists cancel) →
          Kept (view (readerFailed next fault cancel)) := by
    intro next payloads disconnect fault cancel same refused
    have handler : next.handler = state.handler := congrArg View.handler same
    obtain ⟨later, failed⟩ := view_readerFailed next fault cancel (handler ▸ refused)
    rw [same, View.hears_hears] at failed
    exact ends failed
  unfold readerEnds
  split
  · exact fails .other (hears_nothing (view state)).symm spared
  · rename_i protocol _
    obtain ⟨payloads, disconnect, heard, -⟩ :=
      view_drainProtocolEvents { state with protocol := some protocol }
    split
    · rename_i fault next result
      rw [result] at heard
      exact fails fault heard spared
    · rename_i next result
      rw [result] at heard
      have told : view (next.disconnectWith 1006 "") =
          (view state).hears payloads (next.disconnect <|> some ⟨1006, ""⟩) := by
        have step : view next = (view state).hears payloads disconnect := heard
        rw [view_disconnectWith, step, View.hears_hears, List.append_nil]
      have handler : next.handler = state.handler := congrArg View.handler heard
      have cancelled : view ((next.disconnectWith 1006 "").cancelHandler cancel).2 =
          (view state).hears payloads (next.disconnect <|> some ⟨1006, ""⟩) :=
        (view_cancelHandler (next.disconnectWith 1006 "") cancel (handler ▸ spared)).trans told
      split
      · rename_i last left
        rw [left] at cancelled
        exact ends (congrArg (fun heard : View => { heard with reader := .ended }) cancelled)
      · rename_i last left
        rw [left] at cancelled
        have interrupted := interrupted_of_cancelHandler _ (congrArg Prod.fst left)
        exact fails .interrupt cancelled (spares.imp id fun resists => resists.2 interrupted)

theorem kept_receiveLoop (kept : Kept (view state)) (runs : state.handler = .running)
    (accepted : state.accepted = true) : Kept (view (receiveLoop .handler state)) := by
  unfold receiveLoop
  split
  · rename_i empty
    split
    · rename_i disconnect left
      exact kept.isTold runs empty left
    · exact kept.handlerAt runs .receives
        (fun unaccepted => absurd (unaccepted.symm.trans accepted) nofun) fun _ => Or.inr rfl
  · rename_i payload inbox queued
    exact kept.takes runs queued

theorem kept_receive (kept : Kept (view state)) (runs : state.handler = .running) :
    Kept (view (receive .handler state)) := by
  unfold receive
  split
  · rename_i accepted
    exact kept_receiveLoop state kept runs accepted
  · exact kept.answered (fun _ => nofun) fun _ => nofun

theorem kept_accept (kept : Kept (view state)) (runs : state.handler = .running)
    (subprotocol : Option Text) (response : Option HandshakeBytes) :
    Kept (view (accept .handler state subprotocol response)) := by
  unfold accept
  split
  · exact kept.answered (fun _ => nofun) fun _ => nofun
  · rename_i pending
    split
    · exact kept.answered (fun _ => nofun) fun _ => nofun
    · split
      · exact kept.answered (fun _ => nofun) fun _ => nofun
      · split
        · exact kept.answered (fun _ => nofun) fun _ => nofun
        · rename_i response
          have unaccepted : state.accepted = false := by
            rcases kept.handshake with ⟨-, decided⟩ | ⟨unaccepted, -⟩
            · have was : state.handshakeState = .accepted := decided
              rw [was] at pending
              exact absurd nofun pending
            · exact unaccepted
          exact kept.accepts runs unaccepted response.send subprotocol

/-- A turn of the response that `accept` sends; nobody else is inside a handshake. -/
theorem kept_sendHandshake (kept : Kept (view state)) (caller : Caller) (reply : SocketAnswer)
    (interrupt : Bool) (written : Undisturbed state (.sendsHandshake caller reply interrupt)) :
    Kept (view (sendHandshake caller state reply interrupt)) := by
  by_cases own : caller = .handler
  · subst own
    have runs : ∀ {send subprotocol}, state.calls .handler = .accepts send subprotocol →
        state.handler = .running ∧ state.accepted = false := by
      intro send subprotocol is
      have unaccepted : state.accepted = false := by
        by_contra accepted
        rcases kept.receiving (Bool.not_eq_false _ ▸ accepted) with idle | receives
        · exact nomatch is.symm.trans idle
        · exact nomatch is.symm.trans receives
      refine ⟨?_, unaccepted⟩
      rcases kept.undecided unaccepted with absent | spawned | running
      · exact nomatch is.symm.trans (kept.waiting (absent ▸ nofun))
      · exact nomatch is.symm.trans (kept.waiting (spawned ▸ nofun))
      · exact running
    unfold sendHandshake
    split
    · rename_i send subprotocol is
      obtain ⟨running, unaccepted⟩ := runs is
      have taken : taken send reply := by
        unfold Undisturbed at written
        dsimp only at written
        rw [is] at written
        exact written
      split
      · exact kept.accepted running
      · rename_i later _
        exact kept.handlerAt running (.accepts later subprotocol)
          (fun _ => Or.inr ⟨later, subprotocol, rfl⟩)
          fun accepted => absurd (unaccepted.symm.trans accepted) nofun
      · exact kept
      · rename_i error raises
        exact absurd raises (taken error)
    · rename_i send is
      rcases Bool.eq_false_or_eq_true state.accepted with accepted | unaccepted
      · rcases kept.receiving accepted with idle | receives
        · exact nomatch is.symm.trans idle
        · exact nomatch is.symm.trans receives
      · rcases kept.accepting unaccepted with idle | ⟨other, subprotocol, accepts⟩
        · exact nomatch is.symm.trans idle
        · exact nomatch is.symm.trans accepts
    · exact kept
  · have apart : inFlight (state.calls caller) = false := kept.apart caller own
    unfold sendHandshake
    split
    · rename_i is
      rw [is] at apart
      cases apart
    · rename_i is
      rw [is] at apart
      cases apart
    · exact kept

theorem disconnectWith_of_isSome (some : state.disconnect.isSome = true) (code : Nat)
    (reason : String) : state.disconnectWith code reason = state := by
  obtain ⟨disconnect, is⟩ := Option.isSome_iff_exists.mp some
  unfold disconnectWith
  rw [is]
  show ({ state with disconnect := Option.some disconnect } : WebSocketState engine) = state
  rw [← is]

theorem kept_lingerLoop (kept : Kept (view state)) (ended : state.handler = .ended)
    (last : Nat) : Kept (view (lingerLoop state last)) := by
  unfold lingerLoop
  refine kept.coordinated ended _ ?_
  split
  · exact ⟨nofun, nofun⟩
  · exact ⟨nofun, nofun⟩

theorem kept_closeFromCoordinator (kept : Kept (view state)) (ended : state.handler = .ended)
    (code : Nat) (reason : String) (size : Nat) :
    Kept (view (closeFromCoordinator state code reason size)) := by
  unfold closeFromCoordinator enqueue
  dsimp only
  split
  · rename_i next result
    split at result
    · cases result
      exact (kept.called (.sends _) (Or.inl rfl) rfl).coordinated ended .closing ⟨nofun, nofun⟩
    · cases result
  · rename_i next result
    split at result
    · cases result
    · cases result
      exact kept_lingerLoop _ kept ended _

theorem kept_joined (kept : Kept (view state)) (ended : state.handler = .ended)
    (error : Option Fault) : Kept (view (joined state error)) := by
  unfold joined
  dsimp only
  split
  · exact kept.coordinated ended .leaving ⟨nofun, nofun⟩
  · split
    · exact kept_closeFromCoordinator { state with
        handlerError := error <|> state.handlerError } kept ended 1011 "handler failed" 16
    · split
      · exact kept_closeFromCoordinator { state with
          handlerError := error <|> state.handlerError } kept ended 1000 "" 2
      · exact kept_lingerLoop { state with
          handlerError := error <|> state.handlerError } kept ended _

theorem kept_closeEnqueued (kept : Kept (view state)) (ended : state.handler = .ended)
    (command : OutboundCommand) : Kept (view (closeEnqueued state command)) := by
  have idle : Kept (view { state with
      calls := Function.update state.calls .coordinator .idle }) :=
    kept.called .idle (Or.inl rfl) rfl
  unfold closeEnqueued
  dsimp only
  split
  · exact kept_lingerLoop { state with
      calls := Function.update state.calls .coordinator .idle
      closeSent := true } idle ended _
  · split
    · exact idle.coordinated ended .leaving ⟨nofun, nofun⟩
    · exact kept_lingerLoop { state with
        calls := Function.update state.calls .coordinator .idle } idle ended _

theorem view_requestShutdown (kept : Kept (view state)) (ended : state.handler = .ended)
    (code : Nat) (cancel : Cancel) :
    view (state.requestShutdown code cancel).2 = view state := by
  have some : state.disconnect.isSome = true := (kept.told (kept.ended ended)).2
  have accepted : state.handshakeState = .accepted := by
    rcases kept.handshake with ⟨-, accepted⟩ | ⟨unaccepted, -⟩
    · exact accepted
    · rcases kept.undecided unaccepted with is | is | is
      · exact nomatch ended.symm.trans is
      · exact nomatch ended.symm.trans is
      · exact nomatch ended.symm.trans is
  unfold requestShutdown
  split
  · rfl
  · have closed : view (closeForShutdown { state with shutdown := true } code) = view state := by
      unfold closeForShutdown
      split
      · exact view_enqueueControl { state with shutdown := true } _ _
      · rfl
    generalize closeForShutdown { state with shutdown := true } code = later at closed
    have decided : later.handshakeState.undecided = false := by
      have same : later.handshakeState = state.handshakeState :=
        congrArg View.handshakeState closed
      rw [same, accepted]
      rfl
    have told : later.disconnect.isSome = true := by
      have same : later.disconnect = state.disconnect := congrArg View.disconnect closed
      rw [same]
      exact some
    have handler : later.handler = .ended := (congrArg View.handler closed).trans ended
    dsimp only
    rw [decided, if_neg Bool.false_ne_true, disconnectWith_of_isSome later told]
    exact (view_cancelHandler later cancel (Or.inl handler)).trans closed

theorem view_closeCall (some : state.disconnect.isSome = true) (caller : Caller) :
    view (state.closeCall caller) =
      { view state with calls := Function.update state.calls caller .idle } := by
  unfold closeCall
  split
  · unfold pingFailed
    split
    · rfl
    · rfl
  · rename_i code reason _
    rw [disconnectWith_of_isSome state some]
    rfl
  · rfl

theorem kept_closeDeadlineTask (kept : Kept (view state)) (ended : state.handler = .ended) :
    Kept (view (closeDeadlineTask state)) ∧ (closeDeadlineTask state).handler = .ended := by
  unfold closeDeadlineTask
  split
  · exact ⟨kept, ended⟩
  · have some : state.disconnect.isSome = true := (kept.told (kept.ended ended)).2
    have closed := view_closeCall state some .deadline
    have told : (state.closeCall .deadline).disconnect.isSome = true := by
      have same : (state.closeCall .deadline).disconnect = state.disconnect :=
        congrArg View.disconnect closed
      rw [same]
      exact some
    have idle : Kept (view (state.closeCall .deadline)) := by
      rw [closed]
      exact kept.called .idle (Or.inr rfl) rfl
    have handler : (state.closeCall .deadline).handler = .ended :=
      (congrArg View.handler closed).trans ended
    rw [disconnectWith_of_isSome _ told]
    exact ⟨idle, handler⟩
  · exact ⟨kept, ended⟩

theorem view_closeWriter : view state.closeWriter = view state := by
  unfold closeWriter
  split
  · rfl
  · rfl
  · rfl

theorem kept_closeChildren (kept : Kept (view state)) (ended : state.handler = .ended)
    (closes : Children) (response : HandshakeBytes) :
    Kept (view (closeChildren state closes response)) ∧
      (closeChildren state closes response).handler = .ended := by
  have handlerSame : (if closes.handler then state.closeHandler response else state) = state := by
    split
    · exact view_closeHandler state ended response
    · rfl
  unfold closeChildren
  rw [handlerSame]
  dsimp only
  generalize is : (if closes.deadline then closeDeadlineTask state else state) = left
  have leftKept : Kept (view left) ∧ left.handler = .ended := by
    rw [← is]
    split
    · exact kept_closeDeadlineTask state kept ended
    · exact ⟨kept, ended⟩
  generalize wasWriter : (if closes.writer then left.closeWriter else left) = written
  have same : view written = view left := by
    rw [← wasWriter]
    split
    · exact view_closeWriter left
    · rfl
  have later : Kept (view written) := by
    rw [same]
    exact leftKept.1
  have gone : written.handler = .ended := (congrArg View.handler same).trans leftKept.2
  split
  · -- The reader of a handler that was told has ended already.
    have reader : written.reader = .ended := later.left (later.told (later.ended gone)).2
    have unchanged : view { written with reader := .ended } = view written := by
      simp only [view, reader]
    rw [unchanged]
    exact ⟨later, gone⟩
  · exact ⟨later, gone⟩

theorem kept_coordinatorFinishes (kept : Kept (view state)) (ended : state.handler = .ended)
    (cancel : Cancel) (closes : Children) :
    Kept (view (coordinatorFinishes state cancel closes)) := by
  have shut := view_requestShutdown state kept ended 1001 cancel
  unfold coordinatorFinishes
  generalize state.requestShutdown 1001 cancel = outcome at shut
  obtain ⟨interrupts, next⟩ := outcome
  have same : view next = view state := shut
  have later : Kept (view next) := by
    rw [same]
    exact kept
  have gone : next.handler = .ended := (congrArg View.handler same).trans ended
  cases interrupts with
  | true => exact later.coordinated gone .finished ⟨nofun, nofun⟩
  | false =>
      obtain ⟨closed, handler⟩ := kept_closeChildren next later gone closes cancel.response
      exact closed.coordinated handler .finished ⟨nofun, nofun⟩

theorem kept_resume (kept : Kept (view state)) {caller : Caller}
    (application : caller.isApplication = true) {after : WebSocketState engine}
    (resumes : resume caller state = some after) : Kept (view after) := by
  cases caller with
  | deadline => cases application
  | coordinator => cases application
  | other number =>
      unfold resume at resumes
      have idle : state.calls (.other number) = .idle := kept.others number
      rw [idle] at resumes
      cases resumes
  | handler =>
      unfold resume at resumes
      rcases Bool.eq_false_or_eq_true state.accepted with accepted | unaccepted
      · rcases kept.receiving accepted with idle | receives
        · have is : state.calls .handler = .idle := idle
          rw [is] at resumes
          cases resumes
        · have is : state.calls .handler = .receives := receives
          rw [is] at resumes
          dsimp only at resumes
          split at resumes
          · cases resumes
          · cases resumes
            refine kept_receiveLoop state kept ?_ accepted
            by_contra elsewhere
            exact nomatch is.symm.trans (kept.waiting elsewhere)
      · rcases kept.accepting unaccepted with idle | ⟨send, subprotocol, accepts⟩
        · have is : state.calls .handler = .idle := idle
          rw [is] at resumes
          cases resumes
        · have is : state.calls .handler = .accepts send subprotocol := accepts
          rw [is] at resumes
          cases resumes

theorem view_sendNext (command : CommandId) (payload : Bytes) :
    view (sendNext state command payload) = view state := by
  unfold sendNext
  split
  · rfl
  · rfl

theorem view_writerTakes (cancel : Cancel) (written : Undisturbed state (.writerTakes cancel)) :
    view (writerTakes state cancel) = view state := by
  unfold writerTakes
  split
  · split
    · rfl
    · rfl
  · rename_i command outbox queued
    have serialized := written command outbox queued
    dsimp only
    split
    · rename_i refused
      rw [refused] at serialized
      cases serialized
    · exact view_sendNext _ command _

theorem view_writerSends (reply : SocketAnswer) (interrupt : Bool) (cancel : Cancel)
    (written : Undisturbed state (.writerSends reply interrupt cancel)) :
    view (writerSends state reply interrupt cancel) = view state := by
  unfold writerSends
  split
  · rename_i command send rest is
    have taken : taken send reply := by
      unfold Undisturbed at written
      dsimp only at written
      rw [is] at written
      exact written
    dsimp only
    split
    · exact view_sendNext { state with wire := state.wire ++ send.accepted reply } command rest
    · rfl
    · rfl
    · rename_i error raises
      exact absurd raises (taken error)
  · rfl

theorem view_deadlineWakes (response : HandshakeBytes) (closing cancel : Cancel)
    (early : ¬expired state) :
    view (deadlineWakes state response closing cancel) = view state := by
  unfold deadlineWakes
  unfold expired at early
  split
  · rename_i undecided
    rw [if_pos undecided] at early
    rw [if_neg early]
    rfl
  · rename_i decided
    rw [if_neg decided] at early
    obtain ⟨noReason, onTime⟩ := not_or.mp early
    obtain ⟨noWrite, noClose⟩ := not_or.mp onTime
    have quiet : deadlineCloses state closing = (false, state) := by
      unfold deadlineReason at noReason
      rw [if_neg decided] at noReason
      unfold deadlineCloses
      split
      · rename_i pong
        rw [if_pos pong] at noReason
        exact absurd rfl noReason
      · rename_i noPong
        rw [if_neg noPong] at noReason
        split
        · rename_i idle
          rw [if_pos idle] at noReason
          exact absurd rfl noReason
        · rfl
    rw [quiet]
    dsimp only
    rw [if_neg noWrite, if_neg noClose]
    rfl

theorem kept_coordinatorDecides (kept : Kept (view state)) (decides : state.coordinator = .deciding)
    (decided : state.handshakeState.undecided = false) :
    state.accepted = true ∧ Kept (view { state with
      writer := .looping
      reader := .spawned
      coordinator := .joining }) := by
  have accepted : state.accepted = true := by
    rcases kept.handshake with ⟨accepted, -⟩ | ⟨-, pending | accepting⟩
    · exact accepted
    · have is : state.handshakeState = .pending := pending
      rw [is] at decided
      cases decided
    · have is : state.handshakeState = .accepting := accepting
      rw [is] at decided
      cases decided
  have absent : state.reader = .absent := by
    by_contra present
    exact (kept.reading present).2.2 decides
  have empty : state.inbox = [] := kept.unread absent
  have silent : state.disconnect = none :=
    (kept.untold (show state.reader ≠ .ended from absent ▸ nofun)).1
  exact ⟨accepted, { kept with
    left := fun some => by
      have gone : state.disconnect.isSome = true := some
      rw [silent] at gone
      cases gone
    unread := nofun
    reading := fun _ => ⟨accepted, nofun, nofun⟩
    starting := nofun
    joined := Or.inr (Or.inr (Or.inl rfl)) }⟩

theorem kept_coordinatorStarts (kept : Kept (view state)) (starts : state.coordinator = .starting) :
    Kept (view { state with
      handler := .spawned
      deadline := .spawned
      coordinator := .deciding }) := by
  have absent : state.handler = .absent := kept.starting starts
  have unaccepted : state.accepted = false := by
    by_contra otherwise
    have accepted : state.accepted = true := by simpa using otherwise
    rcases kept.decided accepted with running | ended
    · exact nomatch absent.symm.trans running
    · exact nomatch absent.symm.trans ended
  have idle : state.calls .handler = .idle :=
    kept.waiting (show state.handler ≠ .running from absent ▸ nofun)
  exact { kept with
    reading := fun present => absurd starts (kept.reading present).2.1
    starting := nofun
    decided := fun accepted => absurd (unaccepted.symm.trans accepted) nofun
    undecided := fun _ => Or.inr (Or.inl rfl)
    waiting := fun _ => idle
    ended := nofun
    joined := Or.inr (Or.inl rfl) }

theorem kept_handlerStarts (kept : Kept (view state)) (spawned : state.handler = .spawned) :
    Kept (view { state with handler := .running }) := by
  have unjoined : state.coordinator = .starting ∨ state.coordinator = .deciding ∨
      state.coordinator = .joining ∨ HandlerTask.running = .ended := by
    rcases kept.joined with starting | deciding | joining | ended
    · exact Or.inl starting
    · exact Or.inr (Or.inl deciding)
    · exact Or.inr (Or.inr (Or.inl joining))
    · exact nomatch spawned.symm.trans ended
  exact { kept with
    starting := fun starts => nomatch spawned.symm.trans (kept.starting starts)
    decided := fun _ => Or.inl rfl
    undecided := fun _ => Or.inr (Or.inr rfl)
    waiting := fun elsewhere => absurd rfl elsewhere
    ended := nofun
    joined := unjoined }

theorem kept_handlerEnds (kept : Kept (view state)) (idle : state.calls .handler = .idle)
    (runs : state.handler = .running) (told : Told state.outcomes) (result : HandlerEnd)
    (response : HandshakeBytes) : Kept (view (handlerEnds state result response)) := by
  have present : state.reader ≠ .absent := by
    have ended : state.reader = .ended := kept.left (kept.told told).2
    exact ended ▸ nofun
  have accepted : state.accepted = true := (kept.reading present).1
  have state_accepted : state.handshakeState = .accepted := by
    rcases kept.handshake with ⟨-, is⟩ | ⟨unaccepted, -⟩
    · exact is
    · exact nomatch accepted.symm.trans unaccepted
  have gone : Kept { view state with handler := .ended } := { kept with
    starting := fun starts => nomatch runs.symm.trans (kept.starting starts)
    decided := fun _ => Or.inr rfl
    undecided := fun unaccepted => absurd (accepted.symm.trans unaccepted) nofun
    waiting := fun _ => idle
    ended := fun _ => told
    joined := Or.inr (Or.inr (Or.inr rfl)) }
  have ends : ∀ caught : WebSocketState engine, view caught = view state →
      Kept (view (if caught.handshakeState = .pending then
        { caught.beginReject .handler response with handler := .ending }
        else { caught with handler := .ended })) := by
    intro caught same
    have decided : ¬caught.handshakeState = .pending := by
      have is : caught.handshakeState = .accepted :=
        (congrArg View.handshakeState same).trans state_accepted
      exact is ▸ nofun
    have ended : view { caught with handler := .ended } = { view state with handler := .ended } :=
      congrArg (fun view : View => { view with handler := .ended }) same
    rw [if_neg decided, ended]
    exact gone
  refine ends _ ?_
  cases result with
  | interrupted =>
      have decided : ¬state.handshakeState.undecided = true := by
        rw [state_accepted]
        exact nofun
      dsimp only
      rw [if_neg decided]
      rfl
  | _ => rfl

theorem kept_cancelsOther (kept : Kept (view state)) (number : Nat) :
    Kept (view (state.closeCall (.other number))) := by
  have idle : state.calls (.other number) = .idle := kept.others number
  unfold closeCall
  rw [idle]
  have same : Function.update state.calls (.other number) .idle = state.calls := by
    rw [← idle]
    exact Function.update_eq_self _ _
  dsimp only
  rw [same]
  exact kept

variable {state}

theorem running_of_mayCall {caller : Caller} (may : mayCall caller state = true)
    (own : caller = .handler) : state.handler = .running ∧ state.calls .handler = .idle := by
  subst own
  unfold mayCall at may
  simp only [Bool.and_eq_true, decide_eq_true_eq, Bool.or_eq_true] at may
  obtain ⟨⟨-, idle⟩, other | running⟩ := may
  · exact absurd rfl other
  · exact ⟨running, idle⟩

theorem kept_next {step : Step} {after : WebSocketState engine} (kept : Kept (view state))
    (peaceful : Peaceful state step after) : Kept (view after) := by
  obtain ⟨steps, undisturbed, spares⟩ := peaceful
  unfold Steps next at steps
  cases step with
  | passes duration =>
      cases steps
      exact kept
  | coordinatorStarts =>
      dsimp only at steps
      split at steps
      · rename_i starting
        cases steps
        exact kept_coordinatorStarts state kept starting
      · cases steps
  | coordinatorDecides =>
      dsimp only at steps
      split at steps
      · rename_i decides
        obtain ⟨accepted, joins⟩ := kept_coordinatorDecides state kept decides.1 decides.2
        rw [if_pos accepted] at steps
        cases steps
        exact joins
      · cases steps
  | coordinatorJoins result =>
      dsimp only at steps
      split at steps
      · rename_i joins
        cases steps
        refine kept_joined state kept ?_ result.error
        exact joins.2.resolve_right kept.uncancelled
      · cases steps
  | coordinatorResumes =>
      dsimp only at steps
      split at steps
      · rename_i closing
        have ended : state.handler = .ended :=
          kept.joinedEnded closing ⟨nofun, nofun, nofun⟩
        split at steps
        · obtain ⟨command, -, is⟩ := Option.map_eq_some_iff.mp steps
          subst is
          exact kept_closeEnqueued state kept ended command
        · cases steps
      · cases steps
  | coordinatorWakes =>
      dsimp only at steps
      split at steps
      · rename_i last wakeAt lingers
        have ended : state.handler = .ended :=
          kept.joinedEnded lingers ⟨nofun, nofun, nofun⟩
        split at steps
        · cases steps
          exact kept_lingerLoop state kept ended last
        · cases steps
      · cases steps
  | coordinatorCancelled => exact undisturbed.elim
  | coordinatorFinishes cancel closes =>
      dsimp only at steps
      split at steps
      · rename_i leaves
        have ended : state.handler = .ended :=
          kept.joinedEnded leaves ⟨nofun, nofun, nofun⟩
        cases steps
        exact kept_coordinatorFinishes state kept ended cancel closes
      · cases steps
  | handlerStarts =>
      dsimp only at steps
      split at steps
      · rename_i spawned
        cases steps
        exact kept_handlerStarts state kept spawned
      · cases steps
  | handlerEnds result response =>
      dsimp only at steps
      split at steps
      · rename_i may
        obtain ⟨runs, idle⟩ := running_of_mayCall may rfl
        cases steps
        exact kept_handlerEnds state kept idle runs undisturbed result response
      · cases steps
  | accepts caller subprotocol response =>
      dsimp only at steps
      split at steps
      · rename_i may
        have own : caller = .handler := undisturbed
        subst own
        cases steps
        exact kept_accept state kept (running_of_mayCall may rfl).1 subprotocol response
      · cases steps
  | rejects => exact undisturbed.elim
  | receives caller =>
      dsimp only at steps
      split at steps
      · rename_i may
        have own : caller = .handler := undisturbed
        subst own
        cases steps
        exact kept_receive state kept (running_of_mayCall may rfl).1
      · cases steps
  | sendsMessage => exact undisturbed.elim
  | pings => exact undisturbed.elim
  | closes => exact undisturbed.elim
  | sendsHandshake caller reply interrupt =>
      cases steps
      exact kept_sendHandshake state kept caller reply interrupt undisturbed
  | resumes caller =>
      dsimp only at steps
      split at steps
      · rename_i application
        exact kept_resume state kept application steps
      · cases steps
  | cancelsOther number =>
      cases steps
      exact kept_cancelsOther state kept number
  | readerStarts cancel =>
      dsimp only at steps
      split at steps
      · rename_i reads
        cases steps
        exact kept_readerStarts state kept reads cancel spares
      · cases steps
  | readerReceives chunk cancel =>
      dsimp only at steps
      split at steps
      · rename_i reads
        cases steps
        exact kept_readerReceives state kept reads.1 chunk cancel spares
      · cases steps
  | readerEnds cancel again =>
      dsimp only at steps
      split at steps
      · rename_i reads
        cases steps
        exact kept_readerEnds state kept reads cancel again spares
      · cases steps
  | readerRaises => exact undisturbed.elim
  | writerTakes cancel =>
      dsimp only at steps
      split at steps
      · cases steps
        rw [view_writerTakes state cancel undisturbed]
        exact kept
      · cases steps
  | writerSends reply interrupt cancel =>
      cases steps
      rw [view_writerSends state reply interrupt cancel undisturbed]
      exact kept
  | deadlineStarts =>
      dsimp only at steps
      split at steps
      · cases steps
        exact kept
      · cases steps
  | deadlineWakes response closing cancel =>
      dsimp only at steps
      split at steps
      · split at steps
        · cases steps
          rw [view_deadlineWakes state response closing cancel undisturbed]
          exact kept
        · cases steps
      · cases steps
  | requestsShutdown => exact undisturbed.elim

end Steps

section Delivery

theorem kept_initial (engine : Engine) (config : WebSocketConfig)
    (subprotocols offered : List Text) (trailingData : Bytes) (now : Nat) :
    Kept (view (initial engine config subprotocols offered trailingData now)) where
  in_order := rfl
  told := fun ⟨_, member⟩ => nomatch member
  left := nofun
  unread := fun _ => rfl
  reading := fun present => absurd rfl present
  handshake := Or.inr ⟨rfl, Or.inl rfl⟩
  starting := fun _ => rfl
  decided := nofun
  undecided := fun _ => Or.inl rfl
  waiting := fun _ => rfl
  ended := nofun
  joined := Or.inl rfl
  accepting := fun _ => Or.inl rfl
  receiving := nofun
  others := fun _ => rfl
  apart := fun _ _ => rfl

theorem kept_run {start state : WebSocketState engine} {steps : List Step}
    (initially : Kept (view start)) (run : Run Peaceful start steps state) : Kept (view state) := by
  induction run with
  | nil => exact initially
  | snoc step _ peaceful hypothesis => exact kept_next hypothesis peaceful

variable {state : WebSocketState engine}

theorem survives_of_kept (kept : Kept (view state)) : Survives state where
  in_order := kept.in_order
  told_last := fun told => by
    have whole := kept.in_order
    have empty : (view state).inbox = [] := (kept.told told).1
    rw [empty, List.append_nil] at whole
    exact whole
  uncancelled := kept.uncancelled
  waits := fun queued => by
    have present : state.reader ≠ .absent := fun absent => queued (kept.unread absent)
    rcases kept.decided (kept.reading present).1 with running | ended
    · exact running
    · exact absurd (kept.told (kept.ended ended)).1 queued

/-- A handler that receives goes on where a message is queued or the peer has left. -/
theorem receiving_next (kept : Kept (view state)) (runs : state.handler = .running)
    (accepted : state.accepted = true)
    (ready : state.inbox ≠ [] ∨ state.disconnect.isSome = true) :
    ∃ step, Receiving step ∧ Peaceful state step (receiveLoop .handler state) := by
  rcases kept.receiving accepted with idle | waits
  · have may : mayCall .handler state = true := by
      have is : state.calls .handler = .idle := idle
      unfold mayCall
      rw [is, runs]
      rfl
    have loops : receive .handler state = receiveLoop .handler state := if_pos accepted
    refine ⟨.receives .handler, Or.inl rfl, ?_, rfl, Or.inr trivial⟩
    unfold Steps next
    dsimp only
    rw [if_pos may, loops]
  · refine ⟨.resumes .handler, Or.inr rfl, ?_, trivial, Or.inr trivial⟩
    have is : state.calls .handler = .receives := waits
    have wakes : ¬(state.inbox.isEmpty && state.disconnect.isNone) = true := by
      rcases ready with queued | left
      · simp [queued]
      · simp [Option.isNone_eq_false_iff.mpr left]
    unfold Steps next resume
    dsimp only
    rw [is]
    exact if_neg wakes

/-- The handler gets all that is queued, and is then told. -/
theorem drains (kept : Kept (view state)) (runs : state.handler = .running)
    (left : state.disconnect.isSome = true) :
    ∃ steps after, Run Peaceful state steps after ∧ (∀ step ∈ steps, Receiving step) ∧
      Told after.outcomes ∧ received after.outcomes = state.delivered := by
  have accepted : state.accepted = true := by
    have present : (view state).reader ≠ .absent := kept.left left ▸ nofun
    exact (kept.reading present).1
  generalize is : state.inbox = inbox
  induction inbox generalizing state with
  | nil =>
      obtain ⟨disconnect, some⟩ := Option.isSome_iff_exists.mp left
      obtain ⟨step, receiving, peaceful⟩ := receiving_next kept runs accepted (Or.inr left)
      have ends : receiveLoop .handler state =
          state.endCall .handler (.raised (.disconnect disconnect)) := by
        unfold receiveLoop
        rw [is, some]
      rw [ends] at peaceful
      have told : Told (state.endCall .handler (.raised (.disconnect disconnect))).outcomes :=
        ⟨disconnect, List.mem_append_right _ (List.mem_singleton.mpr rfl)⟩
      refine ⟨[step], _, Run.single peaceful, ?_, told, ?_⟩
      · intro only member
        rw [List.mem_singleton.mp member]
        exact receiving
      · exact (survives_of_kept (kept_next kept peaceful)).told_last told
  | cons payload inbox induction =>
      have queued : state.inbox ≠ [] := is ▸ List.cons_ne_nil _ _
      obtain ⟨step, receiving, peaceful⟩ := receiving_next kept runs accepted (Or.inl queued)
      have takes : receiveLoop .handler state = { state with
          inbox
          inboxBytes := state.inboxBytes - messageSize payload }.endCall .handler
            (.message payload) := by
        unfold receiveLoop
        rw [is]
      rw [takes] at peaceful
      obtain ⟨steps, after, run, all, told, whole⟩ :=
        induction (kept_next kept peaceful) runs left accepted rfl
      refine ⟨step :: steps, after, Run.cons peaceful run, ?_, told, whole⟩
      intro other member
      rcases List.mem_cons.mp member with rfl | later
      · exact receiving
      · exact all other later

/-- The messages survive in every run in which the reader does not close a handler that is still
there: the handler has what was delivered, in order, as far as it is not queued, is told of the
disconnect after all of it, and gets there by receiving. -/
theorem queued_messages_survive (engine : Engine) (config : WebSocketConfig)
    (subprotocols offered : List Text) (trailingData : Bytes) (now : Nat) (steps : List Step)
    (state : WebSocketState engine)
    (run : Run Peaceful (initial engine config subprotocols offered trailingData now) steps
      state) :
    Survives state ∧
      (state.disconnect.isSome = true → state.handler = .running →
        ∃ more after, Run Peaceful state more after ∧ (∀ step ∈ more, Receiving step) ∧
          Told after.outcomes ∧ received after.outcomes = state.delivered) := by
  have kept := kept_run
    (kept_initial engine config subprotocols offered trailingData now) run
  exact ⟨survives_of_kept kept, fun left runs => drains kept runs left⟩

end Delivery

section Samples

def undisturbedTest (state : WebSocketState sampleEngine) : Step → Bool
  | .coordinatorStarts => true
  | .coordinatorDecides => true
  | .handlerStarts => true
  | .accepts caller _ _ => decide (caller = .handler)
  | .receives caller => decide (caller = .handler)
  | .sendsHandshake caller reply _ =>
      match state.calls caller with
      | .accepts send _ => match send.turn reply with
          | .raised _ => false
          | _ => true
      | _ => false
  | .readerStarts _ => true
  | .readerReceives _ _ => true
  | .readerEnds _ _ => true
  | _ => false

def peacefulTest (state : WebSocketState sampleEngine) (step : Step) : Bool :=
  undisturbedTest state step &&
    match step with
    | .readerEnds _ _ => false
    | _ => match readerResult state step with
        | some (.error _, _) => false
        | _ => true

theorem undisturbed_of_test {state : WebSocketState sampleEngine} {step : Step}
    (passes : undisturbedTest state step = true) : Undisturbed state step := by
  unfold undisturbedTest at passes
  cases step with
  | accepts caller =>
      have own : caller = .handler := of_decide_eq_true passes
      exact own
  | receives caller =>
      have own : caller = .handler := of_decide_eq_true passes
      exact own
  | sendsHandshake caller reply interrupt =>
      dsimp only at passes
      unfold Undisturbed
      dsimp only
      split at passes
      · rename_i send subprotocol is
        rw [is]
        intro error raises
        rw [raises] at passes
        cases passes
      · cases passes
  | coordinatorStarts | coordinatorDecides | handlerStarts | readerStarts | readerReceives
  | readerEnds => trivial
  | _ => cases passes

theorem peaceful_nextWhere (state : WebSocketState sampleEngine) (step : Step)
    (after : WebSocketState sampleEngine)
    (taken : nextWhere peacefulTest state step = some after) : Peaceful state step after := by
  unfold nextWhere at taken
  split at taken
  · rename_i passes
    unfold peacefulTest at passes
    obtain ⟨undisturbed, fine⟩ := Bool.and_eq_true_iff.mp passes
    refine ⟨taken, undisturbed_of_test undisturbed, ?_⟩
    have raisesNothing : ∀ result, readerResult state step = some result →
        (∀ cancel again, step ≠ .readerEnds cancel again) → ∃ returns, result.1 = .ok returns := by
      intro result is other
      split at fine
      · exact absurd rfl (other _ _)
      · rw [is] at fine
        obtain ⟨fault | returns, next⟩ := result
        · cases fine
        · exact ⟨returns, rfl⟩
    cases step with
    | readerStarts cancel => exact Or.inr (Or.inr fun result is => raisesNothing result is nofun)
    | readerReceives chunk cancel =>
        exact Or.inr (Or.inr fun result is => raisesNothing result is nofun)
    | readerEnds cancel again => cases fine
    | _ => exact Or.inr trivial
  · cases taken

def leaving : List Step :=
  sampleOpening ++
    [.readerReceives (clientFrame 2 [7] ++ clientFrame 8 [3, 232]) sampleCancel,
      .receives .handler, .receives .handler]

def left : WebSocketState sampleEngine := endOf (nextWhere peacefulTest) sampleStart leaving

theorem queued_messages_survive_sample :
    Told left.outcomes ∧ received left.outcomes = [.bytes [7]] := by
  have told : Told left.outcomes := ⟨⟨1000, ""⟩, by decide +kernel⟩
  have survives := (queued_messages_survive sampleEngine {} [] [] [] 0 leaving left
    (run_endOf peaceful_nextWhere (by decide +kernel))).1
  exact ⟨told, (survives.told_last told).trans (by decide +kernel)⟩

def abandoning : List Step :=
  sampleOpening ++
    [.readerReceives (clientFrame 2 [7]) sampleCancel, .readerEnds sampleCancel sampleCancel]

theorem undisturbed_nextWhere (state : WebSocketState sampleEngine) (step : Step)
    (after : WebSocketState sampleEngine)
    (taken : nextWhere undisturbedTest state step = some after) :
    Steps state step after ∧ Undisturbed state step := by
  unfold nextWhere at taken
  split at taken
  · rename_i passes
    exact ⟨taken, undisturbed_of_test passes⟩
  · cases taken

/-- The handler is cancelled while the message waits for it. -/
theorem handler_cancelled_early : ¬ ∀ (steps : List Step) (state : WebSocketState sampleEngine),
    Run (fun state step after => Steps state step after ∧ Undisturbed state step) sampleStart
      steps state → Survives state := by
  intro survive
  have survives := survive abandoning
    (endOf (nextWhere undisturbedTest) sampleStart abandoning)
    (run_endOf undisturbed_nextWhere (by decide +kernel))
  exact absurd (survives.waits (by decide +kernel)) (by decide +kernel)

end Samples

end SmallServer.WebSocketDelivery
