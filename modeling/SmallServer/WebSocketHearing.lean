import SmallServer.WebSocketFragments
import SmallServer.WebSocketSources

/-!
# What the events of a client amount to

The messages that the events finish and the code with which they end the reader, as a fold that
does not know about calls, and that draining events adds up to it as long as the queues have
room.
-/

namespace SmallServer.WebSocketHearing

open SmallServer HttpValues WebSocket WebSocketState WebSocketTasks WebSocketFragments
  WebSocketSources

set_option autoImplicit false

section Hearing

/-- The finished messages, the one that is not finished, and the code of the end. -/
structure Heard where
  messages : List Payload := []
  begun : Option Payload := none
  code : Option Nat := none
deriving DecidableEq

/-- One fragment more: it may change the kind of its message or be too much. -/
def Heard.part (maxMessageBytes : Nat) (heard : Heard) (fragment : Payload) (finished : Bool) :
    Heard :=
  match joined heard.begun fragment with
  | none => { heard with code := some 1002 }
  | some message =>
      if maxMessageBytes < messageSize message then { heard with code := some 1009 }
      else if finished then { heard with messages := heard.messages ++ [message], begun := none }
      else { heard with begun := some message }

/-- One event more. Behind the end nothing counts. -/
def Heard.hear (maxMessageBytes : Nat) (heard : Heard) (event : Event) : Heard :=
  if heard.code.isSome then heard
  else
    match event with
    | .textMessage data finished => heard.part maxMessageBytes (.text data) finished
    | .bytesMessage data finished => heard.part maxMessageBytes (.bytes data) finished
    | .closeConnection code _ => { heard with code := some code }
    | _ => heard

def hearing (maxMessageBytes : Nat) (events : List Event) : Heard :=
  events.foldl (Heard.hear maxMessageBytes) {}

variable {maxMessageBytes : Nat} {heard : Heard} {events more : List Event}

theorem hearing_append (events more : List Event) :
    hearing maxMessageBytes (events ++ more) =
      more.foldl (Heard.hear maxMessageBytes) (hearing maxMessageBytes events) :=
  List.foldl_append

theorem hear_of_code (ended : heard.code.isSome = true) (event : Event) :
    heard.hear maxMessageBytes event = heard := if_pos ended

theorem foldl_of_code (ended : heard.code.isSome = true) (events : List Event) :
    events.foldl (Heard.hear maxMessageBytes) heard = heard := by
  induction events with
  | nil => rfl
  | cons event events induction => rw [List.foldl_cons, hear_of_code ended, induction]

/-- Where the events end the reader, no further event matters. -/
theorem hearing_of_prefix {code : Nat} (first : events <+: more)
    (ended : (hearing maxMessageBytes events).code = some code) :
    hearing maxMessageBytes more = hearing maxMessageBytes events := by
  obtain ⟨rest, rfl⟩ := first
  rw [hearing_append, foldl_of_code (by rw [ended]; rfl)]

theorem messages_part (fragment : Payload) (finished : Bool) :
    heard.messages <+: (heard.part maxMessageBytes fragment finished).messages := by
  unfold Heard.part
  split
  · exact List.prefix_refl _
  · split
    · exact List.prefix_refl _
    · split
      · exact List.prefix_append _ _
      · exact List.prefix_refl _

theorem messages_hear (event : Event) :
    heard.messages <+: (heard.hear maxMessageBytes event).messages := by
  unfold Heard.hear
  split
  · exact List.prefix_refl _
  · cases event with
    | textMessage data finished => exact messages_part (.text data) finished
    | bytesMessage data finished => exact messages_part (.bytes data) finished
    | _ => exact List.prefix_refl _

theorem messages_foldl (events : List Event) :
    heard.messages <+: (events.foldl (Heard.hear maxMessageBytes) heard).messages := by
  induction events generalizing heard with
  | nil => exact List.prefix_refl _
  | cons event events induction => exact (messages_hear event).trans induction

theorem messages_of_prefix (first : events <+: more) :
    (hearing maxMessageBytes events).messages <+: (hearing maxMessageBytes more).messages := by
  obtain ⟨rest, rfl⟩ := first
  rw [hearing_append]
  exact messages_foldl rest

end Hearing

section Draining

variable {engine : Engine} {state after : WebSocketState engine} {heard : Heard}

def Full (fault : Fault) : Prop :=
  fault = .capacity "WebSocket inbound queue is full" ∨ fault = queueFull

/-- The code that the reader's `except` clauses give an error of its own. -/
def faultCode : Fault → Nat
  | .capacity _ => 1009
  | _ => 1002

def Keeps (heard : Heard) (state : WebSocketState engine) : Prop :=
  Holds [] ⟨heard.messages, heard.begun⟩ state

structure Untouched (state after : WebSocketState engine) : Prop where
  config : after.config = state.config
  shutdown : after.shutdown = state.shutdown
  guard : after.guard = state.guard
  handshake : after.handshakeState = state.handshakeState
  protocol : after.protocol = state.protocol

theorem Untouched.refl (state : WebSocketState engine) : Untouched state state :=
  ⟨rfl, rfl, rfl, rfl, rfl⟩

inductive Drained (heard : Heard) : Except Fault Bool × WebSocketState engine → Prop
  | goesOn (after : WebSocketState engine) (silent : heard.code = none)
      (keeps : Keeps heard after) (connected : after.disconnect = none) :
      Drained heard (.ok false, after)
  | closed (after : WebSocketState engine) (code : Nat) (reason : String)
      (ended : heard.code = some code) (told : after.disconnect = some ⟨code, reason⟩)
      (delivered : after.delivered = heard.messages) :
      Drained heard (.ok true, after)
  | failed (after : WebSocketState engine) (fault : Fault)
      (ended : heard.code = some (faultCode fault)) (other : fault ≠ .interrupt)
      (connected : after.disconnect = none) (delivered : after.delivered = heard.messages) :
      Drained heard (.error fault, after)

theorem untouched_enqueueControl (state : WebSocketState engine) (event : Event)
    (size : Nat) :
    Untouched state (state.enqueueControl event size).2 := by
  unfold enqueueControl
  split
  · exact ⟨rfl, rfl, rfl, rfl, rfl⟩
  · exact .refl state

theorem disconnect_enqueueControl (state : WebSocketState engine) (event : Event)
    (size : Nat) :
    (state.enqueueControl event size).2.disconnect = state.disconnect := by
  unfold enqueueControl
  split
  · rfl
  · rfl

theorem delivered_enqueueControl (state : WebSocketState engine) (event : Event)
    (size : Nat) :
    (state.enqueueControl event size).2.delivered = state.delivered := by
  unfold enqueueControl
  split
  · rfl
  · rfl

theorem receiveData_of_joined_none (keeps : Keeps heard state) {fragment : Payload}
    (changed : joined heard.begun fragment = none) (finished : Bool) :
    state.receiveData (kindOf fragment) (bytesOf fragment) finished =
      (.error (.value "WebSocket message type changed during fragmentation"), state) := by
  have kind := keeps.kind
  have different : state.messageKind.isNone = false ∧
      state.messageKind ≠ some (kindOf fragment) := by
    rw [kind]
    cases begun : heard.begun with
    | none =>
        rw [begun] at changed
        cases changed
    | some first =>
        rw [begun] at changed
        refine ⟨rfl, fun same => ?_⟩
        cases first with
        | text value =>
            cases fragment with
            | text more => cases changed
            | bytes more => cases same
        | bytes value =>
            cases fragment with
            | text more => cases same
            | bytes more => cases changed
  unfold receiveData
  dsimp only
  rw [different.1, if_neg Bool.false_ne_true, if_pos different.2]

theorem receiveData_drained (keeps : Keeps heard state) (silent : heard.code = none)
    (connected : state.disconnect = none) (fragment : Payload) (finished : Bool)
    (room : ∀ fault, (state.receiveData (kindOf fragment) (bytesOf fragment) finished).1 =
      .error fault → ¬Full fault) :
    Drained (heard.part state.config.maxMessageBytes fragment finished)
      ((state.receiveData (kindOf fragment) (bytesOf fragment) finished).1.map fun _ => false,
        (state.receiveData (kindOf fragment) (bytesOf fragment) finished).2) := by
  unfold Heard.part
  cases join : joined heard.begun fragment with
  | none =>
      rw [receiveData_of_joined_none keeps join]
      exact .failed state _ rfl nofun connected keeps.delivered
  | some message =>
      rw [receiveData_fragment keeps join] at room ⊢
      dsimp only
      by_cases large : state.config.maxMessageBytes < messageSize message
      · rw [if_pos large, if_pos large]
        exact .failed _ _ rfl nofun connected keeps.delivered
      · rw [if_neg large] at room ⊢
        rw [if_neg large]
        cases finished with
        | false =>
            rw [if_pos rfl, if_neg Bool.false_ne_true]
            exact .goesOn _ silent ⟨keeps.delivered, rfl, rfl, (length_bytesOf message).symm,
              not_lt.mp large⟩ connected
        | true =>
            have last : ¬true = false := by decide
            rw [if_neg last] at room ⊢
            rw [if_pos rfl]
            unfold deliverMessage at room ⊢
            dsimp only at room ⊢
            by_cases fits : hasPlace state message
            · unfold hasPlace at fits
              rw [if_pos fits]
              refine .goesOn _ silent ⟨?_, rfl, rfl, rfl, Nat.zero_le _⟩ connected
              show state.delivered ++ [message] = [] ++ (heard.messages ++ [message])
              rw [keeps.delivered]
              rfl
            · unfold hasPlace at fits
              rw [if_neg fits] at room
              exact absurd (.inl rfl) (room _ rfl)

theorem receiveClose_drained (connected : state.disconnect = none)
    (delivered : state.delivered = heard.messages) (code : Nat) (reason : Option String)
    (room : ∀ fault, (state.receiveClose code reason).1 = .error fault → ¬Full fault) :
    Drained { heard with code := some code }
      ((state.receiveClose code reason).1.map fun _ => true,
        (state.receiveClose code reason).2) := by
  have told : ∀ {next : WebSocketState engine}, next.disconnect = none →
      ∀ text, (next.disconnectWith code text).disconnect = some ⟨code, text⟩ := by
    intro next unset text
    unfold disconnectWith
    dsimp only
    rw [unset]
    rfl
  unfold receiveClose at room ⊢
  dsimp only at room ⊢
  split at room
  · rename_i sent
    rw [if_pos sent]
    exact .closed _ code _ rfl (told connected _) delivered
  · rename_i unsent
    rw [if_neg unsent]
    split at room
    · rename_i next refused
      exact absurd (.inr rfl) (room _ rfl)
    · rename_i next queued
      have same := disconnect_enqueueControl { state with peerClosed := true }
        (.closeConnection (closeResponse code reason).1 (closeResponse code reason).2)
        (closeEventSize (closeResponse code reason).1 (closeResponse code reason).2)
      have kept := delivered_enqueueControl { state with peerClosed := true }
        (.closeConnection (closeResponse code reason).1 (closeResponse code reason).2)
        (closeEventSize (closeResponse code reason).1 (closeResponse code reason).2)
      rw [queued] at same kept
      exact .closed _ code _ rfl (told (same.trans connected) _) (kept.trans delivered)

theorem drainEvent_drained (keeps : Keeps heard state) (silent : heard.code = none)
    (connected : state.disconnect = none) (event : Event)
    (room : ∀ fault, (state.drainEvent event).1 = .error fault → ¬Full fault) :
    Drained (heard.hear state.config.maxMessageBytes event) (state.drainEvent event) := by
  have counts : ¬heard.code.isSome = true := by
    rw [silent]
    exact Bool.false_ne_true
  unfold Heard.hear
  rw [if_neg counts]
  have data : ∀ fragment finished, fragmentOf event = some (fragment, finished) →
      Drained (heard.part state.config.maxMessageBytes fragment finished)
        (state.drainEvent event) := by
    intro fragment finished is
    rw [drainEvent_fragment is] at room ⊢
    refine receiveData_drained keeps silent connected fragment finished fun fault raised => ?_
    exact room fault (by rw [raised]; rfl)
  cases event with
  | textMessage text finished => exact data _ _ rfl
  | bytesMessage bytes finished => exact data _ _ rfl
  | ping payload =>
      have same := disconnect_enqueueControl state (.pong payload) payload.length
      have beside : Beside state (state.enqueueControl (.pong payload) payload.length).2 := by
        unfold enqueueControl
        split
        · exact ⟨rfl, rfl, rfl, rfl, rfl⟩
        · exact ⟨rfl, rfl, rfl, rfl, rfl⟩
      unfold drainEvent at room ⊢
      dsimp only at room ⊢
      split at room
      · rename_i next queued
        rw [queued] at same beside
        exact .goesOn next silent (keeps.beside beside) (same.trans connected)
      · exact absurd (.inr rfl) (room _ rfl)
  | pong payload =>
      unfold drainEvent handlePong
      dsimp only
      split
      · exact .goesOn _ silent (keeps.beside ⟨rfl, rfl, rfl, rfl, rfl⟩) connected
      · exact .goesOn _ silent keeps connected
  | closeConnection code reason =>
      have delivered : state.delivered = heard.messages := keeps.delivered
      refine receiveClose_drained connected delivered code reason fun fault raised => ?_
      refine room fault ?_
      unfold drainEvent
      dsimp only
      rw [raised]
      rfl

theorem untouched_receiveData (kind : MessageKind) (data : Bytes) (finished : Bool) :
    Untouched state (state.receiveData kind data finished).2 := by
  have begun : Untouched state (if state.messageKind.isNone then
      { state with messageKind := some kind, messageBuffer := [], messageBytes := 0 }
      else state) := by
    split
    · exact ⟨rfl, rfl, rfl, rfl, rfl⟩
    · exact .refl state
  unfold receiveData
  generalize (if state.messageKind.isNone then
    { state with messageKind := some kind, messageBuffer := [], messageBytes := 0 }
    else state) = first at begun ⊢
  dsimp only
  split
  · exact begun
  · split
    · exact ⟨begun.config, begun.shutdown, begun.guard, begun.handshake, begun.protocol⟩
    · split
      · split
        · exact ⟨begun.config, begun.shutdown, begun.guard, begun.handshake, begun.protocol⟩
        · unfold deliverMessage
          dsimp only
          split
          · rename_i next result
            split at result
            · cases result
              exact ⟨begun.config, begun.shutdown, begun.guard, begun.handshake, begun.protocol⟩
            · cases result
          · rename_i next result
            split at result
            · cases result
            · cases result
              exact ⟨begun.config, begun.shutdown, begun.guard, begun.handshake, begun.protocol⟩
      · exact ⟨begun.config, begun.shutdown, begun.guard, begun.handshake, begun.protocol⟩

theorem untouched_receiveClose (code : Nat) (reason : Option String) :
    Untouched state (state.receiveClose code reason).2 := by
  unfold receiveClose
  dsimp only
  split
  · exact ⟨rfl, rfl, rfl, rfl, rfl⟩
  · have queued := untouched_enqueueControl { state with peerClosed := true }
      (.closeConnection (closeResponse code reason).1 (closeResponse code reason).2)
      (closeEventSize (closeResponse code reason).1 (closeResponse code reason).2)
    split
    · rename_i next result
      rw [result] at queued
      exact ⟨queued.config, queued.shutdown, queued.guard, queued.handshake, queued.protocol⟩
    · rename_i next result
      rw [result] at queued
      exact ⟨queued.config, queued.shutdown, queued.guard, queued.handshake, queued.protocol⟩

theorem untouched_drainEvent (state : WebSocketState engine) (event : Event) :
    Untouched state (state.drainEvent event).2 := by
  cases event with
  | textMessage data finished => exact untouched_receiveData .text (encodeUtf8 data) finished
  | bytesMessage data finished => exact untouched_receiveData .bytes data finished
  | ping payload =>
      have queued := untouched_enqueueControl state (.pong payload) payload.length
      unfold drainEvent
      dsimp only
      split
      · rename_i next result
        rw [result] at queued
        exact queued
      · rename_i next result
        rw [result] at queued
        exact queued
  | pong payload =>
      unfold drainEvent handlePong
      dsimp only
      split
      · exact ⟨rfl, rfl, rfl, rfl, rfl⟩
      · exact .refl state
  | closeConnection code reason => exact untouched_receiveClose code reason

theorem untouched_drainEvents (batch : List (Event × engine.State)) :
    Untouched { state with protocol := (drainEvents batch state).2.protocol }
      (drainEvents batch state).2 := by
  induction batch generalizing state with
  | nil => exact .refl state
  | cons first batch induction =>
      obtain ⟨event, protocol⟩ := first
      have drained := untouched_drainEvent { state with protocol := some protocol } event
      unfold drainEvents
      split
      · rename_i next result
        rw [result] at drained
        have rest : Untouched { next with protocol := (drainEvents batch next).2.protocol }
          (drainEvents batch next).2 := induction
        exact ⟨rest.config.trans drained.config, rest.shutdown.trans drained.shutdown,
          rest.guard.trans drained.guard, rest.handshake.trans drained.handshake, rfl⟩
      · rename_i result next other drain
        rw [drain] at drained
        exact ⟨drained.config, drained.shutdown, drained.guard, drained.handshake, rfl⟩

theorem drainEvents_drained (batch : List (Event × engine.State)) (keeps : Keeps heard state)
    (silent : heard.code = none) (connected : state.disconnect = none)
    (room : ∀ fault, (drainEvents batch state).1 = .error fault → ¬Full fault) :
    Drained ((batch.map Prod.fst).foldl (Heard.hear state.config.maxMessageBytes) heard)
      (drainEvents batch state) := by
  induction batch generalizing state heard with
  | nil => exact .goesOn state silent keeps connected
  | cons first batch induction =>
      obtain ⟨event, protocol⟩ := first
      rw [List.map_cons, List.foldl_cons]
      have moved : Keeps heard { state with protocol := some protocol } :=
        keeps.beside ⟨rfl, rfl, rfl, rfl, rfl⟩
      have same := untouched_drainEvent { state with protocol := some protocol } event
      have one := drainEvent_drained moved silent connected event
      unfold drainEvents at room ⊢
      revert one same
      generalize ({ state with protocol := some protocol } : WebSocketState engine).drainEvent
        event = outcome at room ⊢
      intro same one
      have drained := one fun fault raised => ?_
      · cases drained with
        | goesOn next silent keeps connected =>
            have rest := induction keeps silent connected room
            rw [show next.config = state.config from same.config] at rest
            exact rest
        | closed next code reason ended told delivered =>
            rw [foldl_of_code (by rw [ended]; rfl)]
            exact .closed next code reason ended told delivered
        | failed next fault ended other connected delivered =>
            rw [foldl_of_code (by rw [ended]; rfl)]
            exact .failed next fault ended other connected delivered
      · obtain ⟨result, next⟩ := outcome
        cases raised
        exact room fault rfl

end Draining

end SmallServer.WebSocketHearing
