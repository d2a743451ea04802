import SmallServer.WebSocketMoves
import SmallServer.WebSocketSteps

/-!
# Messages from fragments

What the fragments of the engine's events add up to, and that the reader puts into the inbox
exactly these messages, however the events are spread over its calls.
-/

namespace SmallServer.WebSocketFragments

open SmallServer HttpValues WebSocket WebSocketState WebSocketTasks WebSocketMoves
  WebSocketSteps Runs

set_option autoImplicit false

section Encoding

theorem toList_loop (bytes : ByteArray) (index : Nat) (reversed : List UInt8) :
    ByteArray.toList.loop bytes index reversed =
      reversed.reverse ++ bytes.data.toList.drop index := by
  fun_induction ByteArray.toList.loop bytes index reversed with
  | case1 index reversed inside induction =>
      have shorter : index < bytes.data.toList.length := inside
      have get : bytes.get! index = bytes.data.toList[index] :=
        getElem!_pos bytes.data index inside
      rw [induction, List.drop_eq_getElem_cons shorter, List.reverse_cons, List.append_assoc, get]
      rfl
  | case2 index reversed outside =>
      have past : bytes.data.toList.length ≤ index := not_lt.mp outside
      rw [List.drop_eq_nil_of_le past, List.append_nil]

theorem toList_eq (bytes : ByteArray) : bytes.toList = bytes.data.toList :=
  toList_loop bytes 0 []

theorem decodeUtf8_encodeUtf8 (value : String) : decodeUtf8 (encodeUtf8 value) = some value := by
  have bytes : (⟨(encodeUtf8 value).toArray⟩ : ByteArray) = value.toByteArray := by
    unfold encodeUtf8
    rw [toList_eq]
    rfl
  unfold decodeUtf8
  rw [bytes]
  exact dif_pos value.isValidUTF8

theorem encodeUtf8_append (value more : String) :
    encodeUtf8 (value ++ more) = encodeUtf8 value ++ encodeUtf8 more := by
  unfold encodeUtf8
  rw [toList_eq, toList_eq, toList_eq, ← ByteArray.toList_data_append]
  exact congrArg (fun bytes => bytes.data.toList) String.toByteArray_append

end Encoding

section Assembling

/-- The messages that are whole, and the one that is not finished, as far as it goes. -/
structure Assembled where
  whole : List Payload := []
  begun : Option Payload := none
deriving DecidableEq

/-- A message with one more fragment. The kind must be the same. -/
def joined : Option Payload → Payload → Option Payload
  | none, fragment => some fragment
  | some (.text value), .text more => some (.text (value ++ more))
  | some (.bytes value), .bytes more => some (.bytes (value ++ more))
  | _, _ => none

def fragmentOf : Event → Option (Payload × Bool)
  | .textMessage data finished => some (.text data, finished)
  | .bytesMessage data finished => some (.bytes data, finished)
  | _ => none

def Assembled.add (assembled : Assembled) (event : Event) : Option Assembled :=
  match fragmentOf event with
  | none => some assembled
  | some (fragment, finished) =>
      (joined assembled.begun fragment).map fun message =>
        if finished then { whole := assembled.whole ++ [message], begun := none }
        else { assembled with begun := some message }

/-- What events add up to, if the kind is constant inside each message. -/
def assemble (events : List Event) : Option Assembled := events.foldlM Assembled.add {}

theorem assemble_append (events more : List Event) :
    assemble (events ++ more) = (assemble events).bind fun assembled =>
      more.foldlM Assembled.add assembled := by
  unfold assemble
  rw [List.foldlM_append]
  rfl

end Assembling

section Receiving

variable {engine : Engine} {state : WebSocketState engine} {assembled : Assembled}

def kindOf : Payload → MessageKind
  | .text _ => .text
  | .bytes _ => .bytes

def bytesOf : Payload → Bytes
  | .text value => encodeUtf8 value
  | .bytes value => value

def hasPlace (state : WebSocketState engine) (message : Payload) : Prop :=
  state.inbox.length < state.config.maxInboundMessages ∧
    state.inboxBytes + messageSize message ≤ state.config.maxInboundBytes

structure Holds (before : List Payload) (assembled : Assembled) (state : WebSocketState engine) :
    Prop where
  delivered : state.delivered = before ++ assembled.whole
  kind : state.messageKind = assembled.begun.map kindOf
  buffer : state.messageBuffer = (assembled.begun.map bytesOf).getD []
  bytes : state.messageBytes = state.messageBuffer.length
  bounded : state.messageBytes ≤ state.config.maxMessageBytes

theorem length_bytesOf (payload : Payload) : (bytesOf payload).length = messageSize payload := by
  cases payload with
  | text value => rfl
  | bytes value => rfl

theorem joined_eq_some {begun : Option Payload} {fragment message : Payload}
    (join : joined begun fragment = some message) :
    kindOf message = kindOf fragment ∧ (∀ first ∈ begun, kindOf first = kindOf fragment) ∧
      bytesOf message = (begun.map bytesOf).getD [] ++ bytesOf fragment := by
  unfold joined at join
  split at join
  · cases join
    exact ⟨rfl, nofun, rfl⟩
  · cases join
    exact ⟨rfl, fun first is => by cases is; rfl, encodeUtf8_append _ _⟩
  · cases join
    exact ⟨rfl, fun first is => by cases is; rfl, rfl⟩
  · cases join

theorem with_assembly {kind : Option MessageKind} {buffer : Bytes} {bytes : Nat}
    (isKind : state.messageKind = kind) (isBuffer : state.messageBuffer = buffer)
    (isBytes : state.messageBytes = bytes) :
    { state with messageKind := kind, messageBuffer := buffer, messageBytes := bytes } = state := by
  subst isKind isBuffer isBytes
  rfl

/-- What one fragment does: it is too large, or it is buffered, or it finishes a message for
which there is a place or not. -/
theorem receiveData_fragment {before : List Payload} (holds : Holds before assembled state)
    {fragment message : Payload} (join : joined assembled.begun fragment = some message)
    (finished : Bool) :
    state.receiveData (kindOf fragment) (bytesOf fragment) finished =
      if state.config.maxMessageBytes < messageSize message then
        (.error (.capacity "WebSocket message is too large"), { state with
          messageKind := some (kindOf message)
          messageBytes := messageSize message })
      else if finished = false then
        (.ok (), { state with
          messageKind := some (kindOf message)
          messageBuffer := bytesOf message
          messageBytes := messageSize message })
      else
        match { state with
            messageKind := none
            messageBuffer := []
            messageBytes := 0 }.deliverMessage message with
        | (true, next) => (.ok (), next)
        | (false, next) => (.error (.capacity "WebSocket inbound queue is full"), next) := by
  obtain ⟨sameKind, constant, content⟩ := joined_eq_some join
  have begun : (if state.messageKind.isNone then
      { state with messageKind := some (kindOf fragment), messageBuffer := [], messageBytes := 0 }
      else state) = { state with
        messageKind := some (kindOf message)
        messageBuffer := (assembled.begun.map bytesOf).getD []
        messageBytes := ((assembled.begun.map bytesOf).getD []).length } := by
    have kind := holds.kind
    have buffer := holds.buffer
    have bytes := holds.bytes
    cases first : assembled.begun with
    | none =>
        rw [first] at kind
        rw [if_pos (by rw [kind]; rfl), sameKind]
        rfl
    | some payload =>
        rw [first] at kind buffer
        rw [if_neg (by rw [kind]; exact nofun), sameKind.trans (constant payload first).symm]
        exact (with_assembly kind buffer (bytes.trans (congrArg List.length buffer))).symm
  have total : ((assembled.begun.map bytesOf).getD []).length + (bytesOf fragment).length =
      messageSize message := by
    rw [← length_bytesOf message, content, List.length_append]
  unfold receiveData
  rw [begun]
  dsimp only
  rw [if_neg (by rw [sameKind]; exact not_not.mpr rfl), total, ← content]
  by_cases large : state.config.maxMessageBytes < messageSize message
  · rw [if_pos large, if_pos large, ← holds.buffer]
  · rw [if_neg large, if_neg large]
    cases finished with
    | false => rfl
    | true =>
        rw [if_pos rfl, if_neg (by decide), ← sameKind]
        cases message with
        | text value =>
            dsimp only [kindOf, bytesOf]
            rw [decodeUtf8_encodeUtf8]
            rfl
        | bytes value => rfl

end Receiving

section Draining

variable {engine : Engine} {state after : WebSocketState engine} {assembled later : Assembled}
variable {before : List Payload}

/-- Nothing happens to the message that is put together, nor to what was delivered. -/
structure Beside (state after : WebSocketState engine) : Prop where
  config : after.config = state.config
  delivered : after.delivered = state.delivered
  kind : after.messageKind = state.messageKind
  buffer : after.messageBuffer = state.messageBuffer
  bytes : after.messageBytes = state.messageBytes

theorem Holds.beside (holds : Holds before assembled state) (beside : Beside state after) :
    Holds before assembled after where
  delivered := beside.delivered.trans holds.delivered
  kind := beside.kind.trans holds.kind
  buffer := beside.buffer.trans holds.buffer
  bytes := by rw [beside.bytes, beside.buffer, holds.bytes]
  bounded := by
    rw [beside.bytes, beside.config]
    exact holds.bounded

def Grows (state after : WebSocketState engine) : Prop :=
  ∃ more, after.inbox = state.inbox ++ more ∧ after.delivered = state.delivered ++ more

theorem Grows.refl (state : WebSocketState engine) : Grows state state :=
  ⟨[], (List.append_nil _).symm, (List.append_nil _).symm⟩

theorem Grows.trans {middle : WebSocketState engine} (first : Grows state middle)
    (second : Grows middle after) : Grows state after := by
  obtain ⟨more, inbox, delivered⟩ := first
  obtain ⟨last, laterInbox, laterDelivered⟩ := second
  exact ⟨more ++ last, by rw [laterInbox, inbox, List.append_assoc],
    by rw [laterDelivered, delivered, List.append_assoc]⟩

theorem drainEvent_fragment {event : Event} {fragment : Payload} {finished : Bool}
    (is : fragmentOf event = some (fragment, finished)) :
    state.drainEvent event =
      (((state.receiveData (kindOf fragment) (bytesOf fragment) finished).1.map fun _ => false),
        (state.receiveData (kindOf fragment) (bytesOf fragment) finished).2) := by
  cases event with
  | textMessage data last =>
      cases is
      rfl
  | bytesMessage data last =>
      cases is
      rfl
  | _ => cases is

theorem beside_drainEvent {event : Event} (control : fragmentOf event = none)
    (handled : state.drainEvent event = (.ok false, after)) :
    Beside state after ∧ Grows state after := by
  unfold drainEvent at handled
  cases event with
  | textMessage data last => cases control
  | bytesMessage data last => cases control
  | ping payload =>
      dsimp only at handled
      unfold enqueueControl at handled
      by_cases room : state.hasRoom payload.length = true
      · rw [if_pos room] at handled
        cases handled
        exact ⟨⟨rfl, rfl, rfl, rfl, rfl⟩, Grows.refl state⟩
      · rw [if_neg room] at handled
        cases handled
  | pong payload =>
      dsimp only at handled
      unfold handlePong at handled
      split at handled
      · cases handled
        exact ⟨⟨rfl, rfl, rfl, rfl, rfl⟩, Grows.refl state⟩
      · cases handled
        exact ⟨⟨rfl, rfl, rfl, rfl, rfl⟩, Grows.refl state⟩
  | closeConnection code reason =>
      dsimp only at handled
      rcases closed : state.receiveClose code reason with ⟨error | _, next⟩
      · rw [closed] at handled
        cases handled
      · rw [closed] at handled
        cases handled

theorem holds_drainEvent (holds : Holds before assembled state) {event : Event}
    (adds : assembled.add event = some later)
    (handled : state.drainEvent event = (.ok false, after)) :
    Holds before later after ∧ Grows state after := by
  unfold Assembled.add at adds
  cases is : fragmentOf event with
  | none =>
      rw [is] at adds
      cases adds
      obtain ⟨beside, grows⟩ := beside_drainEvent is handled
      exact ⟨holds.beside beside, grows⟩
  | some both =>
      obtain ⟨fragment, finished⟩ := both
      rw [is] at adds
      obtain ⟨message, join, rfl⟩ := Option.map_eq_some_iff.mp adds
      rw [drainEvent_fragment is, receiveData_fragment holds join] at handled
      have large : ¬state.config.maxMessageBytes < messageSize message := by
        intro large
        rw [if_pos large] at handled
        cases handled
      rw [if_neg large] at handled
      cases finished with
      | false =>
          rw [if_pos rfl] at handled
          cases handled
          exact ⟨⟨holds.delivered, rfl, rfl, (length_bytesOf message).symm, not_lt.mp large⟩,
            Grows.refl state⟩
      | true =>
          rw [if_neg (by decide)] at handled
          unfold deliverMessage at handled
          dsimp only at handled
          by_cases room : hasPlace state message
          · unfold hasPlace at room
            rw [if_pos room] at handled
            cases handled
            refine ⟨⟨?_, rfl, rfl, rfl, Nat.zero_le _⟩, [message], rfl, rfl⟩
            show state.delivered ++ [message] = before ++ (assembled.whole ++ [message])
            rw [holds.delivered, List.append_assoc]
          · unfold hasPlace at room
            rw [if_neg room] at handled
            cases handled

theorem holds_drainEvents (batch : List (Event × engine.State))
    (holds : Holds before assembled state)
    (adds : (batch.map Prod.fst).foldlM Assembled.add assembled = some later)
    (handled : drainEvents batch state = (.ok false, after)) :
    Holds before later after ∧ Grows state after := by
  induction batch generalizing state assembled with
  | nil =>
      cases adds
      cases handled
      exact ⟨holds, Grows.refl _⟩
  | cons first batch induction =>
      obtain ⟨event, protocol⟩ := first
      rw [List.map_cons, List.foldlM_cons] at adds
      obtain ⟨middle, added, rest⟩ := Option.bind_eq_some_iff.mp adds
      have moved : Holds before assembled { state with protocol := some protocol } :=
        holds.beside ⟨rfl, rfl, rfl, rfl, rfl⟩
      unfold drainEvents at handled
      split at handled
      · rename_i next drained
        obtain ⟨held, grows⟩ := holds_drainEvent moved added drained
        obtain ⟨last, more⟩ := induction held rest handled
        have grown : Grows state next := grows
        exact ⟨last, grown.trans more⟩
      · rename_i result next other drained
        cases handled
        exact (other rfl).elim

end Draining

section Sessions

variable {engine : Engine} {start state after : WebSocketState engine} {assembled : Assembled}

/-- Calls of `_drain_protocol_events` that handle all their events, with what other tasks do
between them. -/
inductive Session (start : WebSocketState engine) :
    List Event → WebSocketState engine → Prop
  | nil : Session start [] start
  | beside {events : List Event} {state after : WebSocketState engine} :
      Session start events state → Beside state after → Session start events after
  | drained {events : List Event} {state after : WebSocketState engine}
      (batch : List (Event × engine.State)) :
      Session start events state → drainEvents batch state = (.ok false, after) →
      Session start (events ++ batch.map Prod.fst) after

theorem holds_session {events : List Event}
    (fresh : start.messageKind = none ∧ start.messageBuffer = [] ∧ start.messageBytes = 0)
    (session : Session start events state) (adds : assemble events = some assembled) :
    Holds start.delivered assembled state := by
  induction session generalizing assembled with
  | nil =>
      cases adds
      obtain ⟨kind, buffer, bytes⟩ := fresh
      exact ⟨(List.append_nil _).symm, kind, buffer, by rw [bytes, buffer]; rfl,
        bytes ▸ Nat.zero_le _⟩
  | beside _ beside induction => exact (induction adds).beside beside
  | drained batch _ handled induction =>
      rw [assemble_append] at adds
      obtain ⟨middle, earlier, added⟩ := Option.bind_eq_some_iff.mp adds
      exact (holds_drainEvents batch (induction earlier) added handled).1

/-- The reader stops in front of a fragment that makes its message too large, and in front of a
message that finds no place. -/
theorem refused {before : List Payload} (holds : Holds before assembled state) {event : Event}
    {fragment message : Payload} {finished : Bool}
    (is : fragmentOf event = some (fragment, finished))
    (join : joined assembled.begun fragment = some message) (protocol : engine.State)
    (rest : List (Event × engine.State)) :
    (state.config.maxMessageBytes < messageSize message →
      ∃ after, drainEvents ((event, protocol) :: rest) state =
          (.error (.capacity "WebSocket message is too large"), after) ∧
        after.inbox = state.inbox ∧ after.delivered = state.delivered ∧
          after.messageBuffer = state.messageBuffer ∧
            after.messageBytes = messageSize message) ∧
      (messageSize message ≤ state.config.maxMessageBytes → finished = true →
        ¬hasPlace state message →
          ∃ after, drainEvents ((event, protocol) :: rest) state =
              (.error (.capacity "WebSocket inbound queue is full"), after) ∧
            after.inbox = state.inbox ∧ after.delivered = state.delivered ∧
              after.messageBuffer = [] ∧ after.messageBytes = 0) := by
  have moved : Holds before assembled { state with protocol := some protocol } :=
    holds.beside ⟨rfl, rfl, rfl, rfl, rfl⟩
  constructor
  · intro large
    refine ⟨{ state with
      protocol := some protocol
      messageKind := some (kindOf message)
      messageBytes := messageSize message }, ?_, rfl, rfl, rfl, rfl⟩
    unfold drainEvents
    rw [drainEvent_fragment is, receiveData_fragment moved join, if_pos large]
    rfl
  · intro small last noPlace
    subst last
    refine ⟨{ state with
      protocol := some protocol
      messageKind := none
      messageBuffer := []
      messageBytes := 0 }, ?_, rfl, rfl, rfl, rfl⟩
    unfold drainEvents
    rw [drainEvent_fragment is, receiveData_fragment moved join, if_neg (not_lt.mpr small),
      if_neg (by decide)]
    unfold deliverMessage
    unfold hasPlace at noPlace
    dsimp only
    rw [if_neg noPlace]
    rfl

/-- The reader goes on behind a fragment that fits, and delivers the message that it finishes. -/
theorem taken {before : List Payload} (holds : Holds before assembled state) {event : Event}
    {fragment message : Payload} {finished : Bool}
    (is : fragmentOf event = some (fragment, finished))
    (join : joined assembled.begun fragment = some message) (protocol : engine.State)
    (rest : List (Event × engine.State))
    (small : messageSize message ≤ state.config.maxMessageBytes)
    (place : finished = true → hasPlace state message) :
    ∃ after, drainEvents ((event, protocol) :: rest) state = drainEvents rest after ∧
      after.inbox = state.inbox ++ if finished = true then [message] else [] := by
  have moved : Holds before assembled { state with protocol := some protocol } :=
    holds.beside ⟨rfl, rfl, rfl, rfl, rfl⟩
  cases finished with
  | false =>
      refine ⟨{ state with
        protocol := some protocol
        messageKind := some (kindOf message)
        messageBuffer := bytesOf message
        messageBytes := messageSize message }, ?_, (List.append_nil _).symm⟩
      rw [drainEvents, drainEvent_fragment is, receiveData_fragment moved join,
        if_neg (not_lt.mpr small), if_pos rfl]
      rfl
  | true =>
      have room := place rfl
      unfold hasPlace at room
      refine ⟨{ state with
        protocol := some protocol
        messageKind := none
        messageBuffer := []
        messageBytes := 0
        inbox := state.inbox ++ [message]
        inboxBytes := state.inboxBytes + messageSize message
        delivered := state.delivered ++ [message] }, ?_, rfl⟩
      rw [drainEvents, drainEvent_fragment is, receiveData_fragment moved join,
        if_neg (not_lt.mpr small), if_neg (by decide)]
      unfold deliverMessage
      dsimp only
      rw [if_pos room]
      rfl

/-- Whatever the kind of the fragments and however the events are spread over calls, the messages
that are delivered are exactly the finished ones, each the concatenation of its fragments, and
the buffer holds what the open one has so far. A fragment that fits, with a place for the message
it finishes, is handled; one that is too large and a message without a place raise, and neither
the inbox nor what was delivered changes. -/
theorem fragments_reassembled (engine : Engine) (start state : WebSocketState engine)
    (events : List Event) (assembled : Assembled)
    (fresh : start.messageKind = none ∧ start.messageBuffer = [] ∧ start.messageBytes = 0)
    (session : Session start events state) (adds : assemble events = some assembled) :
    state.delivered = start.delivered ++ assembled.whole ∧
      (state.messageBytes = state.messageBuffer.length ∧
        state.messageBytes ≤ state.config.maxMessageBytes ∧
          state.messageBuffer = (assembled.begun.map bytesOf).getD []) ∧
      (∀ batch after, drainEvents batch state = (.ok false, after) →
        ∀ later, (batch.map Prod.fst).foldlM Assembled.add assembled = some later →
          ∃ more, later.whole = assembled.whole ++ more ∧ after.inbox = state.inbox ++ more) ∧
      ∀ event fragment finished message protocol rest,
        fragmentOf event = some (fragment, finished) →
        joined assembled.begun fragment = some message →
          (messageSize message ≤ state.config.maxMessageBytes →
            (finished = true → hasPlace state message) →
              ∃ after, drainEvents ((event, protocol) :: rest) state = drainEvents rest after ∧
                after.inbox = state.inbox ++ if finished = true then [message] else []) ∧
          (state.config.maxMessageBytes < messageSize message →
            ∃ after, drainEvents ((event, protocol) :: rest) state =
                (.error (.capacity "WebSocket message is too large"), after) ∧
              after.inbox = state.inbox ∧ after.delivered = state.delivered ∧
                after.messageBuffer = state.messageBuffer ∧
                  after.messageBytes = messageSize message) ∧
          (messageSize message ≤ state.config.maxMessageBytes → finished = true →
            ¬hasPlace state message →
              ∃ after, drainEvents ((event, protocol) :: rest) state =
                  (.error (.capacity "WebSocket inbound queue is full"), after) ∧
                after.inbox = state.inbox ∧ after.delivered = state.delivered ∧
                  after.messageBuffer = [] ∧ after.messageBytes = 0) := by
  have holds := holds_session fresh session adds
  refine ⟨holds.delivered, ⟨holds.bytes, holds.bounded, holds.buffer⟩, ?_, ?_⟩
  · intro batch after handled later added
    obtain ⟨held, more, inbox, delivered⟩ := holds_drainEvents batch holds added handled
    refine ⟨more, ?_, inbox⟩
    rw [held.delivered, holds.delivered, List.append_assoc] at delivered
    exact List.append_cancel_left delivered
  · intro event fragment finished message protocol rest is join
    exact ⟨taken holds is join protocol rest, refused holds is join protocol rest⟩

end Sessions

section Connections

variable {engine : Engine} {start state after : WebSocketState engine} {about : Occasion}

theorem beside_of_moves (moves : Moves about (exchange state) (exchange after))
    (silent : ∀ event, ¬about.heard event) : Beside state after := by
  let same := fun later : Exchange =>
    later.mail.config = state.config ∧ later.delivered = state.delivered ∧
      later.messageKind = state.messageKind ∧ later.messageBuffer = state.messageBuffer ∧
        later.messageBytes = state.messageBytes
  have kept : ∀ {left right : Exchange}, Move about left right → same left → same right := by
    intro left right move was
    cases move with
    | assembled event asked data kind buffer bytes => exact absurd asked (silent event)
    | delivered event asked data payload short fits => exact absurd asked (silent event)
    | pingFailed caller command generation waits =>
        split
        · exact was
        · exact was
    | _ => exact was
  have initially : same (exchange state) := ⟨rfl, rfl, rfl, rfl, rfl⟩
  obtain ⟨config, delivered, kind, buffer, bytes⟩ := moves.keeps kept initially
  exact ⟨config, delivered, kind, buffer, bytes⟩

def quiet : Occasion where
  heard _ := False
  overdue := False

/-- A step of a connection in which the reader meets no limit, no Close and no failure. -/
def Clean (state : WebSocketState engine) (step : Step) (after : WebSocketState engine) : Prop :=
  Steps state step after ∧
    ∀ result next, WebSocketEffects.readerResult state step = some (result, next) →
      result = .ok false

theorem beside_receiveProtocolData (state : WebSocketState engine) (data : Bytes) :
    Beside state (receiveProtocolData data state).2 :=
  beside_of_moves (Moves.same (exchange_receiveProtocolData state data) : Moves quiet _ _)
    fun _ => id

theorem beside_readerGoesOn (result : Except Fault Bool × WebSocketState engine)
    (cancel : Cancel) : Beside result.2 (readerGoesOn result cancel) :=
  beside_of_moves (moves_readerGoesOn result cancel : Moves quiet _ _) fun _ => id

theorem session_drainProtocolEvents {earlier : List Event}
    (session : Session start earlier state)
    (handled : drainProtocolEvents state = (.ok false, after)) :
    Session start (earlier ++ yielded state.protocol) after := by
  unfold drainProtocolEvents at handled
  cases is : state.protocol with
  | none =>
      rw [is] at handled
      cases handled
  | some protocol =>
      rw [is] at handled
      exact session.drained (engine.events protocol) handled

theorem clean_result {step : Step} (clean : Clean state step after)
    {result : Except Fault Bool × WebSocketState engine}
    (is : WebSocketEffects.readerResult state step = some result) : result.1 = .ok false :=
  clean.2 result.1 result.2 is

theorem session_received {earlier : List Event} (session : Session start earlier state)
    (data : Bytes) (goes : (receiveAndDrain data state).1 = .ok false) :
    Session start (earlier ++ received (receiveProtocolData data state))
      (receiveAndDrain data state).2 := by
  have beside := beside_receiveProtocolData state data
  unfold receiveAndDrain at goes ⊢
  rcases fed : receiveProtocolData data state with ⟨error | _, next⟩
  · rw [fed] at goes
    cases goes
  · rw [fed] at goes beside
    exact session_drainProtocolEvents (session.beside beside)
      (Prod.ext goes rfl : drainProtocolEvents next = (.ok false, (drainProtocolEvents next).2))

theorem session_readerStarts {earlier : List Event} (session : Session start earlier state)
    (cancel : Cancel) (goes : ∀ result,
      WebSocketEffects.readerResult state (.readerStarts cancel) = some result →
        result.1 = .ok false) :
    Session start (earlier ++ events state (.readerStarts cancel)) (readerStarts state cancel) := by
  unfold events readerStarts
  by_cases empty : state.trailingData = []
  · rw [if_pos empty, if_pos empty, List.append_nil]
    exact session.beside (beside_readerGoesOn (.ok false, state) cancel)
  · have beside := beside_receiveProtocolData state state.trailingData
    unfold WebSocketEffects.readerResult at goes
    dsimp only at goes
    rw [if_neg empty] at goes ⊢
    rw [if_neg empty]
    rcases fed : receiveProtocolData state.trailingData state with ⟨error | _, next⟩
    · rw [fed] at goes
      cases goes _ rfl
    · rw [fed] at goes beside
      have emptied : Beside state { next with trailingData := [] } :=
        ⟨beside.config, beside.delivered, beside.kind, beside.buffer, beside.bytes⟩
      have drained := session_drainProtocolEvents (session.beside emptied)
        (Prod.ext (goes _ rfl) rfl)
      exact drained.beside (beside_readerGoesOn _ cancel)

/-- The end of the stream is an event of the engine as well; then the handler is cancelled. -/
theorem session_readerEnds {earlier : List Event} (session : Session start earlier state)
    (cancel again : Cancel) (goes : ∀ result,
      WebSocketEffects.readerResult state (.readerEnds cancel again) = some result →
        result.1 = .ok false) :
    Session start (earlier ++ events state (.readerEnds cancel again))
      (readerEnds state cancel again) := by
  unfold events readerEnds
  unfold WebSocketEffects.readerResult at goes
  dsimp only at goes ⊢
  cases ended : state.protocol.bind engine.receiveEnd with
  | none =>
      rw [ended] at goes
      cases goes _ rfl
  | some protocol =>
      rw [ended] at goes
      have moved : Session start earlier { state with protocol := some protocol } :=
        session.beside ⟨rfl, rfl, rfl, rfl, rfl⟩
      have drained := session_drainProtocolEvents moved (Prod.ext (goes _ rfl) rfl)
      dsimp only
      split
      · rename_i fault next result
        have failed := goes _ rfl
        rw [result] at failed
        cases failed
      · rename_i next result
        rw [result] at drained
        refine drained.beside ?_
        have cancelled : Moves quiet (exchange next)
            (exchange ((next.disconnectWith 1006 "").cancelHandler cancel).2) :=
          moves_cancelHandler (next.disconnectWith 1006 "") cancel
        split
        · rename_i last left
          rw [left] at cancelled
          exact beside_of_moves cancelled fun _ => id
        · rename_i last left
          rw [left] at cancelled
          exact beside_of_moves (cancelled.trans (moves_readerFailed last .interrupt again))
            fun _ => id

theorem session_next {earlier : List Event} {step : Step} (session : Session start earlier state)
    (clean : Clean state step after) :
    Session start (earlier ++ events state step) after := by
  have still : ∀ {later : WebSocketState engine}, Beside state later →
      Session start (earlier ++ []) later := fun beside => by
    rw [List.append_nil]
    exact session.beside beside
  have taken := clean.1
  cases step with
  | readerStarts cancel =>
      unfold Steps next at taken
      dsimp only at taken
      split at taken
      · cases taken
        exact session_readerStarts session cancel (fun _ => clean_result clean)
      · cases taken
  | readerReceives chunk cancel =>
      unfold Steps next at taken
      dsimp only at taken
      split at taken
      · cases taken
        have goes := clean_result clean rfl
        have active : Session start earlier { state with lastActivity := state.now } :=
          session.beside ⟨rfl, rfl, rfl, rfl, rfl⟩
        exact (session_received active chunk goes).beside (beside_readerGoesOn _ cancel)
      · cases taken
  | readerEnds cancel again =>
      unfold Steps next at taken
      dsimp only at taken
      split at taken
      · cases taken
        exact session_readerEnds session cancel again (fun _ => clean_result clean)
      · cases taken
  | readerRaises interrupt cancel =>
      cases clean_result clean rfl
  | _ => exact still (beside_of_moves (next_moves _ taken) fun _ => List.not_mem_nil)

def runEvents : WebSocketState engine → List Step → List Event
  | _, [] => []
  | state, step :: steps =>
      match next state step with
      | none => []
      | some after => events state step ++ runEvents after steps

/-- The runs of a connection are such sessions. -/
theorem session_of_run {steps : List Step} {earlier : List Event}
    (session : Session start earlier state) (run : Run Clean state steps after) :
    Session start (earlier ++ runEvents state steps) after := by
  induction steps generalizing state earlier with
  | nil =>
      rw [runEvents, List.append_nil, run.eq_of_nil]
      exact session
  | cons step steps induction =>
      obtain ⟨middle, clean, rest⟩ := run.uncons
      have both := induction (session_next session clean) rest
      rw [runEvents, show next state step = some middle from clean.1, ← List.append_assoc]
      exact both

end Connections

section Samples

def sampleProtocol : sampleEngine.State := sampleEngine.create

def firstBatch : List (Event × sampleEngine.State) :=
  [(.textMessage "a" false, sampleProtocol), (.pong [1], sampleProtocol)]

def secondBatch : List (Event × sampleEngine.State) :=
  [(.textMessage "" false, sampleProtocol), (.textMessage "b" true, sampleProtocol),
    (.bytesMessage [7] false, sampleProtocol)]

def afterFirst : WebSocketState sampleEngine := (drainEvents firstBatch sampleStart).2

def afterSecond : WebSocketState sampleEngine := (drainEvents secondBatch afterFirst).2

theorem sampleSession : Session sampleStart
    (([] ++ firstBatch.map Prod.fst) ++ secondBatch.map Prod.fst) afterSecond :=
  (Session.nil.drained firstBatch (Prod.ext (by decide +kernel) rfl)).drained secondBatch
    (Prod.ext (by decide +kernel) rfl)

theorem fragments_reassembled_sample :
    afterSecond.delivered = [.text "ab"] ∧ afterSecond.messageBuffer = [7] := by
  obtain ⟨delivered, ⟨_, _, buffer⟩, _⟩ := fragments_reassembled sampleEngine sampleStart
    afterSecond _ { whole := [.text "ab"], begun := some (.bytes [7]) } (by decide +kernel)
    sampleSession (by decide +kernel)
  exact ⟨delivered, buffer⟩

theorem standard_timeouts : 0 < 10000 ∧ 0 < 300000 ∧ 0 < 10000 ∧ 0 < 30000 ∧ 0 < 5000 ∧
    0 < 50 := by decide

def narrow : WebSocketConfig where
  maxFramePayloadBytes := 1
  maxMessageBytes := 1
  timeouts_positive := standard_timeouts
  frame_fits := Nat.le_refl 1

/-- The second fragment is counted and not buffered. -/
theorem refused_fragment_counted : ¬ ∀ batch : List (Event × sampleEngine.State),
    let after := (drainEvents batch (initial sampleEngine narrow [] [] [] 0)).2
    after.messageBytes = after.messageBuffer.length ∧
      after.messageBytes ≤ after.config.maxMessageBytes := by
  intro always
  have counted := always [(.bytesMessage [1] false, sampleProtocol),
    (.bytesMessage [2] true, sampleProtocol)]
  exact absurd counted (by decide +kernel)

end Samples

end SmallServer.WebSocketFragments
