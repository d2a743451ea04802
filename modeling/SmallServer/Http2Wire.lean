import SmallServer.Http2Effects
import SmallServer.KernelTransport

/-!
# HTTP/2 wire order

The tasks of one HTTP/2 connection as a step relation. Each step is a stretch of one task
that ends where another task can run, or a single turn of `send_all`. Beside the attributes
the state keeps what was handed to `send_all` and what the kernel has taken.
-/

namespace SmallServer.Http2Wire

open SmallServer HttpValues Http2Frames Http2Protocol Http2Effects KernelTransport Runs

set_option autoImplicit false

/-- Where `_http2_connection_loop` stands. `ending` is its `finally` block, reached with an
error that is not an `Exception` when `interrupted`. -/
inductive Reader where
  | opening
  | sendsInitiate (send : SendAll)
  | started
  | running
  | ending (interrupted : Bool)
  | sendsGoaway (send : SendAll)
  | finished
deriving DecidableEq

/-- Where `_http2_writer_loop` stands. `waiting` is `wait_signal`, `draining` the head of
the inner loop; the payload of the shutdown branch is its `last`. -/
inductive Writer where
  | absent
  | waiting
  | draining
  | sends (send : SendAll) (last : Bool)
  | finished
deriving DecidableEq

def Writer.sending : Writer → Bool
  | .sends _ _ => true
  | _ => false

/-- A cancelled task gets a `GeneratorExit` where it waits and runs its `finally` block. -/
def Writer.cancel : Writer → Writer
  | .absent => .absent
  | _ => .finished

/-- The state of a connection. `outputs`, `accepted` and `cutShort` are its history: the
results of `initiate`, `flush` and `close`, the bytes the kernel has taken, and whether a
`send_all` ended before its data did. -/
structure Connection (σ : Type) where
  protocol : H2Protocol σ
  reader : Reader := .opening
  writer : Writer := .absent
  closing : Bool := false
  shutdownRequested : Bool := false
  closeErrorCode : Nat := 0
  clientClosed : Bool := false
  outputs : List Bytes := []
  accepted : Bytes := []
  cutShort : Bool := false

/-- The steps. `closed` is whether the close that a step ends with succeeds. -/
inductive Action where
  /-- `protocol.initiate()`, up to the first `socket_send`. -/
  | initiates
  /-- A turn of the reader's `send_all`. -/
  | readerSends (answer : SocketAnswer)
  /-- The child tasks are built and forked, or an exception stops that. -/
  | forks (forked raised : Bool)
  /-- `receive_data` of a chunk, or of nothing while input is pending. -/
  | receives (chunk : Bytes)
  | takesCancelledStreams
  /-- The loop is left: the server or the peer closed, or an exception came up. -/
  | readerEnds
  /-- A cancellation, or another error that is not an `Exception`. -/
  | readerCancelled
  /-- The `finally` block, up to the first `socket_send`. -/
  | tearsDown (writerCancelled : Bool)
  /-- `wait_signal` returns. -/
  | writerWakes (closed : Bool)
  | writerFlushes (closed : Bool)
  /-- A turn of the writer's `send_all`. -/
  | writerSends (answer : SocketAnswer) (closed : Bool)
  /-- A cancellation, or another error that is not an `Exception`. -/
  | writerCancelled
  /-- `queue_response` and `drop_stream` of a handler. -/
  | queues (streamId : StreamId) (response : Response)
  | drops (streamId : StreamId)
  | requestsShutdown
  /-- The shutdown enforcer and the watchdog. -/
  | forceCloses (closed : Bool)
  /-- Any other close of the stream that succeeds. -/
  | streamCloses
deriving DecidableEq

section Steps

variable {σ : Type} (engine : Engine σ) (config : HTTP2Config) (state : Connection σ)

def initiates : Connection σ :=
  match initiate engine config state.protocol with
  | (.error _, protocol) => { state with protocol, reader := .ending false }
  | (.ok payload, protocol) =>
      { state with
        protocol
        reader := (SendAll.start payload).elim .started .sendsInitiate
        outputs := state.outputs ++ [payload] }

def sendsInitiate (send : SendAll) (answer : SocketAnswer) : Connection σ :=
  let sent := { state with accepted := state.accepted ++ send.accepted answer }
  match send.turn answer with
  | .returned => { sent with reader := .started }
  | .again next => { sent with reader := .sendsInitiate next }
  | .suspended _ => sent
  | .raised _ => { sent with reader := .ending false, cutShort := true }

def forks (forked raised : Bool) : Connection σ :=
  { state with
    reader := if raised then .ending false else .running
    writer := if forked then .waiting else state.writer }

def receives (chunk : Bytes) : Connection σ :=
  match receiveData engine config state.protocol chunk with
  | (.error _, protocol) =>
      { state with protocol, reader := .ending false, closeErrorCode := 1 }
  | (.ok _, protocol) => { state with protocol }

def cancelWriter : Connection σ :=
  { state with
    writer := state.writer.cancel
    cutShort := state.cutShort || state.writer.sending }

/-- The `finally` block of `_http2_connection_loop`. -/
def tearsDown (interrupted writerCancelled : Bool) : Connection σ :=
  let stopped := { (if writerCancelled then cancelWriter state else state) with
    closing := true
    reader := .finished }
  if interrupted then stopped
  else
    let (goaway, protocol) := close engine config state.protocol state.closeErrorCode
    { stopped with
      protocol
      outputs := state.outputs ++ [goaway]
      reader :=
        if state.clientClosed then .finished
        else (SendAll.start goaway).elim .finished .sendsGoaway }

/-- A turn of `send_all` on the GOAWAY; an exception is passed over. -/
def sendsGoaway (send : SendAll) (answer : SocketAnswer) : Connection σ :=
  let sent := { state with accepted := state.accepted ++ send.accepted answer }
  match send.turn answer with
  | .returned => { sent with reader := .finished }
  | .again next => { sent with reader := .sendsGoaway next }
  | .suspended _ => sent
  | .raised _ => { sent with reader := .finished, cutShort := true }

/-- `_force_connection_close` at the end of the writer. -/
def writerCloses (closed : Bool) : Connection σ :=
  { state with
    closing := true
    writer := .finished
    clientClosed := state.clientClosed || closed }

def writerWakes (closed : Bool) : Connection σ :=
  if state.shutdownRequested then
    let (payload, protocol) := close engine config state.protocol 0
    let left := { state with protocol, closing := true, outputs := state.outputs ++ [payload] }
    match SendAll.start payload with
    | none => writerCloses left closed
    | some send => { left with writer := .sends send true }
  else { state with writer := .draining }

def writerFlushes (closed : Bool) : Connection σ :=
  if state.closing then { state with writer := .finished }
  else
    match flush engine config state.protocol with
    | (.error _, protocol) => writerCloses { state with protocol } closed
    | (.ok payload, protocol) =>
        { state with
          protocol
          outputs := state.outputs ++ [payload]
          writer := (SendAll.start payload).elim .waiting fun send => .sends send false }

def writerSends (send : SendAll) (last : Bool) (answer : SocketAnswer) (closed : Bool) :
    Connection σ :=
  let sent := { state with accepted := state.accepted ++ send.accepted answer }
  match send.turn answer with
  | .returned => if last then writerCloses sent closed else { sent with writer := .draining }
  | .again next => { sent with writer := .sends next last }
  | .suspended _ => sent
  | .raised _ => { writerCloses sent closed with cutShort := true }

/-- A cancelled reader. Its `finally` block awaits nothing then. -/
def readerCancelled : Option (Connection σ) :=
  match state.reader with
  | .sendsInitiate _ => some { state with reader := .ending true, cutShort := true }
  | .running => some { state with reader := .ending true }
  | .sendsGoaway _ => some { state with reader := .finished, cutShort := true }
  | _ => none

def next : Action → Option (Connection σ)
  | .initiates =>
      if state.reader = .opening then some (initiates engine config state) else none
  | .readerSends answer =>
      match state.reader with
      | .sendsInitiate send => some (sendsInitiate state send answer)
      | .sendsGoaway send => some (sendsGoaway state send answer)
      | _ => none
  | .forks forked raised =>
      if state.reader = .started then some (forks state forked raised) else none
  | .receives chunk =>
      if state.reader = .running then some (receives engine config state chunk) else none
  | .takesCancelledStreams =>
      if state.reader = .running then
        some { state with protocol := (takeCancelledStreams state.protocol).2 }
      else none
  | .readerEnds =>
      if state.reader = .running then some { state with reader := .ending false } else none
  | .readerCancelled => readerCancelled state
  | .tearsDown writerCancelled =>
      match state.reader with
      | .ending interrupted =>
          some (tearsDown engine config state interrupted writerCancelled)
      | _ => none
  | .writerWakes closed =>
      if state.writer = .waiting then some (writerWakes engine config state closed) else none
  | .writerFlushes closed =>
      if state.writer = .draining then some (writerFlushes engine config state closed)
      else none
  | .writerSends answer closed =>
      match state.writer with
      | .sends send last => some (writerSends state send last answer closed)
      | _ => none
  | .writerCancelled => some (cancelWriter state)
  | .queues streamId response =>
      some { state with
        protocol := (queueResponse engine config state.protocol streamId response).2 }
  | .drops streamId => some { state with protocol := dropStream state.protocol streamId }
  | .requestsShutdown => some { state with shutdownRequested := true }
  | .forceCloses closed =>
      some { state with closing := true, clientClosed := state.clientClosed || closed }
  | .streamCloses => some { state with clientClosed := true }

def ReachesGoaway : Prop :=
  state.reader = .ending false ∧ state.clientClosed = false ∧
    (close engine config state.protocol state.closeErrorCode).1 ≠ []

instance : Decidable (ReachesGoaway engine config state) := by
  unfold ReachesGoaway
  infer_instance

def Undisturbed {σ : Type} (state : Connection σ) : Prop :=
  state.writer.sending = false ∧ state.cutShort = false

instance : Decidable (Undisturbed state) := by
  unfold Undisturbed
  infer_instance

/-- A teardown begins its GOAWAY only where no other output is unfinished. -/
def Orderly (action : Action) : Prop :=
  match action with
  | .tearsDown _ => ReachesGoaway engine config state → Undisturbed state
  | _ => True

instance (action : Action) : Decidable (Orderly engine config state action) := by
  unfold Orderly
  split <;> infer_instance

end Steps

section StepRelations

variable {σ : Type} (engine : Engine σ) (config : HTTP2Config)

def Steps (state : Connection σ) (action : Action) (after : Connection σ) : Prop :=
  next engine config state action = some after

def OrderlySteps (state : Connection σ) (action : Action) (after : Connection σ) : Prop :=
  Orderly engine config state action ∧ Steps engine config state action after

def opened (connection : σ) : Connection σ where
  protocol := H2Protocol.new connection

end StepRelations

section Closed

variable {σ : Type} {engine : Engine σ} {config : HTTP2Config} {protocol : H2Protocol σ}

structure Quiet (engine : Engine σ) (protocol : H2Protocol σ) : Prop where
  localClosed : protocol.localClosed = true
  controlOutput : protocol.controlOutput = []
  activeStreams : protocol.activeStreams = ∅
  drained : (engine.dataToSend protocol.connection).1 = []

theorem close_cases (engine : Engine σ) (config : HTTP2Config) (protocol : H2Protocol σ)
    (errorCode : Nat) :
    ∃ left : H2Protocol σ, left.localClosed = true ∧
      left.controlOutput = protocol.controlOutput ∧
      (protocol.localClosed = true → left = protocol) ∧
      (close engine config protocol errorCode).2 =
        { clearTables left with connection := (engine.dataToSend left.connection).2 } ∧
      ((close engine config protocol errorCode).1 = [] ∨
        (close engine config protocol errorCode).1 =
          left.controlOutput ++ (engine.dataToSend left.connection).1) := by
  refine ⟨if protocol.localClosed then protocol
    else { protocol with
      localClosed := true
      connection := (engine.closeConnection protocol.connection errorCode
        protocol.lastProcessedStreamId).2 }, ?_, ?_, ?_, ?_⟩
  · split
    · assumption
    · rfl
  · split <;> rfl
  · intro closed
    rw [if_pos closed]
  · unfold close
    dsimp only
    generalize (if protocol.localClosed then protocol else _ : H2Protocol σ) = left
    split
    · exact ⟨rfl, .inl rfl⟩
    · split
      · exact ⟨rfl, .inl rfl⟩
      · exact ⟨rfl, .inr rfl⟩

theorem close_quiet (drains : ∀ connection, (engine.dataToSend
    (engine.dataToSend connection).2).1 = []) (errorCode : Nat) :
    Quiet engine (close engine config protocol errorCode).2 := by
  obtain ⟨left, closed, -, -, state, -⟩ := close_cases engine config protocol errorCode
  rw [state]
  exact ⟨closed, rfl, rfl, drains left.connection⟩

theorem Quiet.close_output (quiet : Quiet engine protocol) (errorCode : Nat) :
    (close engine config protocol errorCode).1 = [] := by
  obtain ⟨left, -, -, same, -, output⟩ := close_cases engine config protocol errorCode
  rcases output with empty | joined
  · exact empty
  · rw [joined, same quiet.localClosed, quiet.controlOutput, quiet.drained]
    rfl

theorem Quiet.queueResponse (quiet : Quiet engine protocol) (streamId : StreamId)
    (response : Response) :
    Quiet engine (queueResponse engine config protocol streamId response).2 := by
  have inactive : streamId ∉ protocol.activeStreams := by
    rw [quiet.activeStreams]
    exact Finset.notMem_empty streamId
  rw [Http2Protocol.queueResponse, if_pos inactive]
  exact quiet

theorem Quiet.dropStream (quiet : Quiet engine protocol) (streamId : StreamId) :
    Quiet engine (dropStream protocol streamId) := by
  rw [dropStream_eq]
  refine ⟨quiet.localClosed, quiet.controlOutput, ?_, quiet.drained⟩
  rw [quiet.activeStreams]
  rfl

end Closed

section Order

variable {σ : Type} {engine : Engine σ} {config : HTTP2Config} {state : Connection σ}
  {later : Bytes}

def Writer.stopped : Writer → Bool
  | .absent => true
  | .finished => true
  | _ => false

def Writer.unsent : Writer → Bytes
  | .sends send _ => send.offer
  | _ => []

theorem Writer.unsent_of_idle {writer : Writer} (idle : writer.sending = false) :
    writer.unsent = [] := by
  cases writer with
  | sends send last => cases idle
  | _ => rfl

inductive Stage where
  | alone
  | together
  | closes
  | ended
deriving DecidableEq

def Reader.stage : Reader → Stage
  | .opening => .alone
  | .sendsInitiate _ => .alone
  | .started => .alone
  | .running => .together
  | .ending _ => .together
  | .sendsGoaway _ => .closes
  | .finished => .ended

/-- What the task in `send_all` has begun and not finished. -/
def flight (reader : Reader) (writer : Writer) : Bytes :=
  match reader with
  | .sendsInitiate send => send.offer
  | .sendsGoaway send => send.offer
  | _ => writer.unsent

/-- What output may follow the flight: none while an output can still be begun. -/
def Allowed (engine : Engine σ) (state : Connection σ) (later : Bytes) : Prop :=
  match state.reader.stage with
  | .alone => later = [] ∧ state.writer = .absent
  | .together => later = [] ∨ (state.cutShort = true ∧ state.writer.stopped = true)
  | .closes =>
      later = [] ∧ state.writer.sending = false ∧ state.closing = true ∧
        Quiet engine state.protocol
  | .ended => state.closing = true ∧
      (later = [] ∨ state.writer.stopped = true ∨ Quiet engine state.protocol)

theorem flight_of_stage {reader : Reader} {writer : Writer}
    (shared : reader.stage = .together ∨ reader.stage = .ended) :
    flight reader writer = writer.unsent := by
  cases reader with
  | sendsInitiate send => simp [Reader.stage] at shared
  | sendsGoaway send => simp [Reader.stage] at shared
  | _ => rfl

/-- The invariant: the outputs are what the kernel has taken, what is in flight, and what
nobody will send any more. -/
def InOrder (engine : Engine σ) (state : Connection σ) : Prop :=
  ∃ later, state.outputs.flatten = state.accepted ++ (flight state.reader state.writer ++ later) ∧
    Allowed engine state later

theorem InOrder.accepted_prefix (ordered : InOrder engine state) :
    state.accepted <+: state.outputs.flatten := by
  obtain ⟨later, accounted, -⟩ := ordered
  exact ⟨_, accounted.symm⟩

/-- A turn of `send_all` moves the front of the flight to what the kernel has taken. -/
theorem turn_accounted {outputs accepted : Bytes} (send : SendAll) (answer : SocketAnswer)
    (accounted : outputs = accepted ++ (send.offer ++ later)) :
    outputs = (accepted ++ send.accepted answer) ++ (send.rest (send.turn answer) ++ later) := by
  rw [accounted, ← send.accepted_append_rest answer]
  simp only [List.append_assoc]

theorem outputs_snoc {outputs : List Bytes} {accepted flight : Bytes} (payload : Bytes)
    (accounted : outputs.flatten = accepted ++ (flight ++ later)) :
    (outputs ++ [payload]).flatten = accepted ++ (flight ++ (later ++ payload)) := by
  rw [List.flatten_append, accounted]
  simp only [List.flatten_cons, List.flatten_nil, List.append_nil, List.append_assoc]

theorem InOrder.initiates (ordered : InOrder engine state) (reading : state.reader = .opening) :
    InOrder engine (initiates engine config state) := by
  obtain ⟨later, accounted, allowed⟩ := ordered
  simp only [Allowed, reading] at allowed
  obtain ⟨rfl, absent⟩ := allowed
  simp only [flight, reading, absent, Writer.unsent] at accounted
  unfold Http2Wire.initiates
  split
  · refine ⟨[], ?_, .inl rfl⟩
    simp only [flight, absent, Writer.unsent]
    exact accounted
  · rename_i payload protocol _
    have produced := outputs_snoc payload accounted
    cases started : SendAll.start payload with
    | none =>
        rw [SendAll.start_eq_none started] at produced
        refine ⟨[], ?_, rfl, absent⟩
        simp only [flight, absent, Writer.unsent, Option.elim_none]
        rw [SendAll.start_eq_none started]
        exact produced
    | some send =>
        refine ⟨[], ?_, rfl, absent⟩
        simp only [flight, Option.elim_some, SendAll.start_offer started]
        rw [List.append_nil]
        exact produced

theorem InOrder.sendsInitiate {send : SendAll} (ordered : InOrder engine state)
    (reading : state.reader = .sendsInitiate send) (answer : SocketAnswer) :
    InOrder engine (sendsInitiate state send answer) := by
  obtain ⟨later, accounted, allowed⟩ := ordered
  simp only [Allowed, reading] at allowed
  obtain ⟨rfl, absent⟩ := allowed
  simp only [flight, reading] at accounted
  have moved := turn_accounted send answer accounted
  unfold Http2Wire.sendsInitiate
  dsimp only
  cases turned : send.turn answer with
  | returned =>
      rw [turned] at moved
      refine ⟨[], ?_, rfl, absent⟩
      simp only [flight, absent, Writer.unsent]
      exact moved
  | again next =>
      rw [turned] at moved
      exact ⟨[], moved, rfl, absent⟩
  | suspended mode =>
      rw [turned] at moved
      refine ⟨[], ?_, ?_⟩
      · simp only [flight, reading]
        exact moved
      · simp only [Allowed, reading]
        exact ⟨trivial, absent⟩
  | raised error =>
      rw [turned] at moved
      refine ⟨send.offer, ?_, .inr ⟨rfl, ?_⟩⟩
      · simp only [flight, absent, Writer.unsent]
        rw [List.nil_append]
        rw [List.append_nil] at moved
        exact moved
      · rw [absent]
        rfl

theorem InOrder.forks (ordered : InOrder engine state) (reading : state.reader = .started)
    (forked raised : Bool) : InOrder engine (forks state forked raised) := by
  obtain ⟨later, accounted, allowed⟩ := ordered
  simp only [Allowed, reading] at allowed
  obtain ⟨rfl, absent⟩ := allowed
  simp only [flight, reading, absent, Writer.unsent] at accounted
  refine ⟨[], ?_, ?_⟩
  · simp only [Http2Wire.forks, flight, absent]
    cases forked <;> cases raised <;> exact accounted
  · cases raised
    · exact .inl rfl
    · exact .inl rfl

theorem InOrder.receives (ordered : InOrder engine state) (reading : state.reader = .running)
    (chunk : Bytes) : InOrder engine (receives engine config state chunk) := by
  obtain ⟨later, accounted, allowed⟩ := ordered
  simp only [Allowed, reading] at allowed
  simp only [flight, reading] at accounted
  unfold Http2Wire.receives
  split
  · exact ⟨later, accounted, allowed⟩
  · refine ⟨later, ?_, ?_⟩
    · simp only [flight, reading]
      exact accounted
    · simp only [Allowed, reading]
      exact allowed

theorem InOrder.ending (ordered : InOrder engine state) (reading : state.reader = .running)
    (interrupted : Bool) : InOrder engine { state with reader := .ending interrupted } := by
  obtain ⟨later, accounted, allowed⟩ := ordered
  simp only [Allowed, reading] at allowed
  simp only [flight, reading] at accounted
  exact ⟨later, accounted, allowed⟩

theorem InOrder.sendsGoaway {send : SendAll} (ordered : InOrder engine state)
    (reading : state.reader = .sendsGoaway send) (answer : SocketAnswer) :
    InOrder engine (sendsGoaway state send answer) := by
  obtain ⟨later, accounted, allowed⟩ := ordered
  simp only [Allowed, reading] at allowed
  obtain ⟨rfl, idle, closing, quiet⟩ := allowed
  simp only [flight, reading] at accounted
  have moved := turn_accounted send answer accounted
  have unsent : state.writer.unsent = [] := Writer.unsent_of_idle idle
  unfold Http2Wire.sendsGoaway
  dsimp only
  cases turned : send.turn answer with
  | returned =>
      rw [turned] at moved
      refine ⟨[], ?_, closing, .inl rfl⟩
      simp only [flight, unsent]
      exact moved
  | again next =>
      rw [turned] at moved
      exact ⟨[], moved, rfl, idle, closing, quiet⟩
  | suspended mode =>
      rw [turned] at moved
      refine ⟨[], ?_, ?_⟩
      · simp only [flight, reading]
        exact moved
      · simp only [Allowed, reading]
        exact ⟨trivial, idle, closing, quiet⟩
  | raised error =>
      rw [turned] at moved
      refine ⟨send.offer, ?_, closing, .inr (.inr quiet)⟩
      simp only [flight, unsent]
      rw [List.nil_append]
      rw [List.append_nil] at moved
      exact moved

/-- What the invariant reads of a state: history and phases, and facts that only grow. -/
theorem InOrder.congr {after : Connection σ} (ordered : InOrder engine state)
    (outputs : after.outputs.flatten = state.outputs.flatten)
    (accepted : after.accepted = state.accepted) (reader : after.reader = state.reader)
    (writer : after.writer = state.writer)
    (cutShort : state.cutShort = true → after.cutShort = true)
    (closing : state.closing = true → after.closing = true)
    (quiet : state.closing = true → Quiet engine state.protocol →
      Quiet engine after.protocol) : InOrder engine after := by
  obtain ⟨later, accounted, allowed⟩ := ordered
  refine ⟨later, ?_, ?_⟩
  · unfold flight at accounted ⊢
    rw [outputs, accepted, reader, writer]
    exact accounted
  · unfold Allowed at allowed ⊢
    rw [reader, writer]
    cases stage : state.reader.stage with
    | alone =>
        rw [stage] at allowed
        exact allowed
    | together =>
        rw [stage] at allowed
        exact allowed.imp_right fun cut => ⟨cutShort cut.1, cut.2⟩
    | closes =>
        rw [stage] at allowed
        obtain ⟨empty, idle, closed, silent⟩ := allowed
        exact ⟨empty, idle, closing closed, quiet closed silent⟩
    | ended =>
        rw [stage] at allowed
        exact ⟨closing allowed.1, allowed.2.imp_right (Or.imp_right (quiet allowed.1))⟩

theorem InOrder.stopWriter (ordered : InOrder engine state) (present : state.writer ≠ .absent)
    (cutShort : state.writer.sending = true → state.cutShort = true) :
    InOrder engine { state with writer := .finished } := by
  obtain ⟨later, accounted, allowed⟩ := ordered
  unfold Allowed at allowed
  cases stage : state.reader.stage with
  | alone =>
      rw [stage] at allowed
      exact absurd allowed.2 present
  | together =>
      rw [stage] at allowed
      rw [flight_of_stage (.inl stage)] at accounted
      refine ⟨state.writer.unsent ++ later, ?_, ?_⟩
      · rw [flight_of_stage (.inl stage)]
        exact accounted
      · simp only [Allowed, stage]
        cases sending : state.writer.sending with
        | false =>
            rw [Writer.unsent_of_idle sending, List.nil_append]
            exact allowed.imp_right fun cut => ⟨cut.1, rfl⟩
        | true => exact .inr ⟨cutShort sending, rfl⟩
  | closes =>
      rw [stage] at allowed
      obtain ⟨rfl, idle, closing, quiet⟩ := allowed
      refine ⟨[], ?_, ?_⟩
      · unfold flight at accounted ⊢
        rw [Writer.unsent_of_idle idle] at accounted
        exact accounted
      · simp only [Allowed, stage]
        exact ⟨trivial, rfl, closing, quiet⟩
  | ended =>
      rw [stage] at allowed
      rw [flight_of_stage (.inr stage)] at accounted
      refine ⟨state.writer.unsent ++ later, ?_, ?_⟩
      · rw [flight_of_stage (.inr stage)]
        exact accounted
      · simp only [Allowed, stage]
        exact ⟨allowed.1, .inr (.inl rfl)⟩

theorem InOrder.moveWriter {writer : Writer} (ordered : InOrder engine state)
    (idle : state.writer.sending = false) (awake : state.writer.stopped = false)
    (still : writer.sending = false) : InOrder engine { state with writer } := by
  obtain ⟨later, accounted, allowed⟩ := ordered
  have unsent : writer.unsent = state.writer.unsent := by
    rw [Writer.unsent_of_idle idle, Writer.unsent_of_idle still]
  refine ⟨later, ?_, ?_⟩
  · unfold flight at accounted ⊢
    rw [unsent]
    exact accounted
  · unfold Allowed at allowed ⊢
    cases stage : state.reader.stage with
    | alone =>
        rw [stage] at allowed
        rw [allowed.2] at awake
        cases awake
    | together =>
        rw [stage] at allowed
        refine allowed.imp_right fun cut => ?_
        rw [cut.2] at awake
        cases awake
    | closes =>
        rw [stage] at allowed
        exact ⟨allowed.1, still, allowed.2.2⟩
    | ended =>
        rw [stage] at allowed
        refine ⟨allowed.1, allowed.2.imp_right (Or.imp_left fun stopped => ?_)⟩
        rw [stopped] at awake
        cases awake

/-- A waiting writer begins a payload: all before it is with the kernel, unless the
protocol was closed and has no payload to give. -/
theorem InOrder.beginWriter {send : SendAll} {after : Connection σ}
    (ordered : InOrder engine state) (idle : state.writer.sending = false)
    (awake : state.writer.stopped = false)
    (loud : ¬(state.closing = true ∧ Quiet engine state.protocol)) (last : Bool)
    (outputs : after.outputs = state.outputs ++ [send.offer])
    (accepted : after.accepted = state.accepted) (reader : after.reader = state.reader)
    (writer : after.writer = .sends send last)
    (closing : state.closing = true → after.closing = true) : InOrder engine after := by
  obtain ⟨later, accounted, allowed⟩ := ordered
  unfold Allowed at allowed
  have nothing : later = [] ∧ (state.reader.stage = .together ∨
      (state.reader.stage = .ended ∧ state.closing = true)) := by
    cases stage : state.reader.stage with
    | alone =>
        rw [stage] at allowed
        rw [allowed.2] at awake
        cases awake
    | together =>
        rw [stage] at allowed
        refine ⟨?_, .inl rfl⟩
        rcases allowed with empty | cut
        · exact empty
        · rw [cut.2] at awake
          cases awake
    | closes =>
        rw [stage] at allowed
        exact absurd allowed.2.2 loud
    | ended =>
        rw [stage] at allowed
        refine ⟨?_, .inr ⟨rfl, allowed.1⟩⟩
        rcases allowed.2 with empty | stopped | quiet
        · exact empty
        · rw [stopped] at awake
          cases awake
        · exact absurd ⟨allowed.1, quiet⟩ loud
  obtain ⟨rfl, stage⟩ := nothing
  rw [flight_of_stage (stage.imp_right And.left), Writer.unsent_of_idle idle] at accounted
  refine ⟨[], ?_, ?_⟩
  · rw [flight_of_stage (by rw [reader]; exact stage.imp_right And.left), outputs, accepted,
      writer]
    rw [outputs_snoc send.offer accounted]
    simp only [Writer.unsent, List.nil_append, List.append_nil]
  · unfold Allowed
    rw [reader]
    rcases stage with together | ⟨ended, closed⟩
    · rw [together]
      exact .inl rfl
    · rw [ended]
      exact ⟨closing closed, .inl rfl⟩

theorem InOrder.cancelWriter (ordered : InOrder engine state) :
    InOrder engine (cancelWriter state) := by
  have noted : InOrder engine
      { state with cutShort := state.cutShort || state.writer.sending } :=
    ordered.congr rfl rfl rfl rfl (fun cut => by rw [cut]; rfl) id fun _ => id
  by_cases absent : state.writer = .absent
  · refine noted.congr rfl rfl rfl ?_ id id fun _ => id
    rw [Http2Wire.cancelWriter, absent]
    rfl
  · have cancelled : state.writer.cancel = .finished := by
      cases writing : state.writer with
      | absent => exact absurd writing absent
      | _ => rfl
    rw [Http2Wire.cancelWriter, cancelled]
    refine noted.stopWriter absent fun sending => ?_
    rw [Bool.or_eq_true]
    exact .inr sending

theorem InOrder.writerCloses (ordered : InOrder engine state)
    (present : state.writer ≠ .absent)
    (cutShort : state.writer.sending = true → state.cutShort = true) (closed : Bool) :
    InOrder engine (writerCloses state closed) :=
  (ordered.stopWriter present cutShort).congr rfl rfl rfl rfl id (fun _ => rfl) fun _ => id

theorem InOrder.writerWakes (drains : ∀ connection, (engine.dataToSend
    (engine.dataToSend connection).2).1 = []) (ordered : InOrder engine state)
    (waiting : state.writer = .waiting) (closed : Bool) :
    InOrder engine (writerWakes engine config state closed) := by
  have idle : state.writer.sending = false := by rw [waiting]; rfl
  have awake : state.writer.stopped = false := by rw [waiting]; rfl
  have present : state.writer ≠ .absent := by rw [waiting]; exact Writer.noConfusion
  unfold Http2Wire.writerWakes
  split
  · dsimp only
    have quiet : Quiet engine (close engine config state.protocol 0).2 := close_quiet drains 0
    cases started : SendAll.start (close engine config state.protocol 0).1 with
    | none =>
        have left : InOrder engine { state with
            protocol := (close engine config state.protocol 0).2
            closing := true
            outputs := state.outputs ++ [(close engine config state.protocol 0).1] } := by
          refine ordered.congr ?_ rfl rfl rfl id (fun _ => rfl) fun _ _ => quiet
          rw [SendAll.start_eq_none started, List.flatten_append]
          exact List.append_nil _
        refine left.writerCloses present (fun sending => ?_) closed
        rw [idle] at sending
        cases sending
    | some send =>
        refine ordered.beginWriter idle awake ?_ true ?_ rfl rfl rfl fun _ => rfl
        · intro silent
          have empty : (close engine config state.protocol 0).1 = [] :=
            silent.2.close_output 0
          rw [empty] at started
          cases started
        · rw [SendAll.start_offer started]
  · exact ordered.moveWriter idle awake rfl

theorem InOrder.writerFlushes (ordered : InOrder engine state)
    (draining : state.writer = .draining) (closed : Bool) :
    InOrder engine (writerFlushes engine config state closed) := by
  have idle : state.writer.sending = false := by rw [draining]; rfl
  have awake : state.writer.stopped = false := by rw [draining]; rfl
  have present : state.writer ≠ .absent := by rw [draining]; exact Writer.noConfusion
  have whole : state.writer.sending = true → state.cutShort = true := by
    intro sending
    rw [idle] at sending
    cases sending
  unfold Http2Wire.writerFlushes
  split
  · exact ordered.stopWriter present whole
  · rename_i running
    split
    · rename_i protocol _
      have left : InOrder engine { state with protocol } :=
        ordered.congr rfl rfl rfl rfl id id fun closing => absurd closing running
      exact left.writerCloses present whole closed
    · rename_i payload protocol _
      cases started : SendAll.start payload with
      | none =>
          have left : InOrder engine
              { state with protocol, outputs := state.outputs ++ [payload] } := by
            refine ordered.congr ?_ rfl rfl rfl id id fun closing => absurd closing running
            rw [SendAll.start_eq_none started, List.flatten_append]
            exact List.append_nil _
          exact left.moveWriter idle awake rfl
      | some send =>
          refine ordered.beginWriter idle awake (fun silent => running silent.1) false ?_ rfl
            rfl rfl id
          rw [SendAll.start_offer started]

theorem InOrder.turnWriter {send : SendAll} {last : Bool} (writer : Writer)
    (ordered : InOrder engine state) (writing : state.writer = .sends send last)
    (answer : SocketAnswer) (unsent : writer.unsent = send.rest (send.turn answer)) :
    InOrder engine
      { state with accepted := state.accepted ++ send.accepted answer, writer } := by
  obtain ⟨later, accounted, allowed⟩ := ordered
  unfold Allowed at allowed
  have writes : state.writer.unsent = send.offer := by rw [writing]; rfl
  have sending : state.writer.sending = true := by rw [writing]; rfl
  have awake : state.writer.stopped = false := by rw [writing]; rfl
  cases stage : state.reader.stage with
  | alone =>
      rw [stage, writing] at allowed
      cases allowed.2
  | together =>
      rw [stage] at allowed
      rw [flight_of_stage (.inl stage), writes] at accounted
      refine ⟨later, ?_, ?_⟩
      · rw [flight_of_stage (.inl stage), unsent]
        exact turn_accounted send answer accounted
      · simp only [Allowed, stage]
        refine allowed.imp_right fun cut => ?_
        rw [cut.2] at awake
        cases awake
  | closes =>
      rw [stage, sending] at allowed
      cases allowed.2.1
  | ended =>
      rw [stage] at allowed
      rw [flight_of_stage (.inr stage), writes] at accounted
      refine ⟨later, ?_, ?_⟩
      · rw [flight_of_stage (.inr stage), unsent]
        exact turn_accounted send answer accounted
      · simp only [Allowed, stage]
        refine ⟨allowed.1, allowed.2.imp_right (Or.imp_left fun stopped => ?_)⟩
        rw [stopped] at awake
        cases awake

theorem InOrder.writerSends {send : SendAll} {last : Bool} (ordered : InOrder engine state)
    (writing : state.writer = .sends send last) (answer : SocketAnswer) (closed : Bool) :
    InOrder engine (writerSends state send last answer closed) := by
  unfold Http2Wire.writerSends
  dsimp only
  cases turned : send.turn answer with
  | returned =>
      have left := ordered.turnWriter .draining writing answer
        (by rw [turned]; rfl)
      cases last with
      | true =>
          exact (left.stopWriter Writer.noConfusion Bool.noConfusion).congr rfl rfl rfl rfl id
            (fun _ => rfl) fun _ => id
      | false => exact left
  | again next =>
      exact ordered.turnWriter (.sends next last) writing answer (by rw [turned]; rfl)
  | suspended mode =>
      have left := ordered.turnWriter (.sends send last) writing answer
        (by rw [turned]; rfl)
      rw [← writing] at left
      exact left
  | raised error =>
      have left := ordered.turnWriter (.sends send last) writing answer
        (by rw [turned]; rfl)
      have noted : InOrder engine { state with
          accepted := state.accepted ++ send.accepted answer
          writer := .sends send last
          cutShort := true } :=
        left.congr rfl rfl rfl rfl (fun _ => rfl) id fun _ => id
      exact (noted.stopWriter Writer.noConfusion fun _ => rfl).congr rfl rfl rfl rfl id
        (fun _ => rfl) fun _ => id

theorem InOrder.readerCancelled {after : Connection σ} (ordered : InOrder engine state)
    (cancelled : readerCancelled state = some after) : InOrder engine after := by
  obtain ⟨later, accounted, allowed⟩ := ordered
  cases reading : state.reader with
  | sendsInitiate send =>
      simp only [Http2Wire.readerCancelled, reading, Option.some.injEq] at cancelled
      simp only [Allowed, reading, Reader.stage] at allowed
      simp only [flight, reading] at accounted
      obtain ⟨rfl, absent⟩ := allowed
      rw [← cancelled]
      refine ⟨send.offer, ?_, .inr ⟨rfl, ?_⟩⟩
      · simp only [flight, absent, Writer.unsent, List.nil_append]
        rw [List.append_nil] at accounted
        exact accounted
      · rw [absent]
        rfl
  | running =>
      simp only [Http2Wire.readerCancelled, reading, Option.some.injEq] at cancelled
      rw [← cancelled]
      exact InOrder.ending ⟨later, accounted, allowed⟩ reading true
  | sendsGoaway send =>
      simp only [Http2Wire.readerCancelled, reading, Option.some.injEq] at cancelled
      simp only [Allowed, reading, Reader.stage] at allowed
      simp only [flight, reading] at accounted
      obtain ⟨rfl, idle, closing, quiet⟩ := allowed
      rw [← cancelled]
      refine ⟨send.offer, ?_, closing, .inr (.inr quiet)⟩
      simp only [flight, Writer.unsent_of_idle idle, List.nil_append]
      rw [List.append_nil] at accounted
      exact accounted
  | _ =>
      simp only [Http2Wire.readerCancelled, reading] at cancelled
      cases cancelled

/-- The teardown of an interrupted reader, or of a client that is closed, sends nothing:
the writer goes on as it is, and the GOAWAY stays where it was produced. -/
theorem InOrder.leaves (goaway : Bytes) (protocol : H2Protocol σ)
    (ordered : InOrder engine state) (stage : state.reader.stage = .together)
    (silent : goaway = [] ∨ Quiet engine protocol) :
    InOrder engine { state with
      protocol
      closing := true
      outputs := state.outputs ++ [goaway]
      reader := .finished } := by
  obtain ⟨later, accounted, allowed⟩ := ordered
  simp only [Allowed, stage] at allowed
  rw [flight_of_stage (.inl stage)] at accounted
  refine ⟨later ++ goaway, outputs_snoc goaway accounted, rfl, ?_⟩
  rcases allowed with rfl | ⟨-, stopped⟩
  · exact silent.imp_right .inr
  · exact .inr (.inl stopped)

theorem InOrder.beginGoaway (send : SendAll) {protocol : H2Protocol σ}
    (ordered : InOrder engine state) (stage : state.reader.stage = .together)
    (undisturbed : Undisturbed state) (quiet : Quiet engine protocol) :
    InOrder engine { state with
      protocol
      closing := true
      outputs := state.outputs ++ [send.offer]
      reader := .sendsGoaway send } := by
  obtain ⟨later, accounted, allowed⟩ := ordered
  obtain ⟨idle, whole⟩ := undisturbed
  simp only [Allowed, stage, whole] at allowed
  have nothing : later = [] := by
    rcases allowed with empty | ⟨cut, -⟩
    · exact empty
    · cases cut
  rw [flight_of_stage (.inl stage), Writer.unsent_of_idle idle, nothing] at accounted
  refine ⟨[], ?_, rfl, idle, rfl, quiet⟩
  have produced := outputs_snoc send.offer accounted
  simp only [List.nil_append] at produced
  simp only [flight, List.append_nil]
  exact produced

theorem undisturbed_cancel (undisturbed : Undisturbed state) :
    Undisturbed (cancelWriter state) := by
  obtain ⟨idle, whole⟩ := undisturbed
  refine ⟨?_, ?_⟩
  · cases writing : state.writer with
    | absent => rw [cancelWriter, writing]; rfl
    | _ => rw [cancelWriter, writing]; rfl
  · rw [cancelWriter, idle, whole]
    rfl

theorem InOrder.tearsDown (drains : ∀ connection, (engine.dataToSend
    (engine.dataToSend connection).2).1 = []) (ordered : InOrder engine state)
    {interrupted : Bool} (reading : state.reader = .ending interrupted) (writerCancelled : Bool)
    (orderly : ReachesGoaway engine config state → Undisturbed state) :
    InOrder engine (tearsDown engine config state interrupted writerCancelled) := by
  have reached : ∃ before : Connection σ,
      before = (if writerCancelled then Http2Wire.cancelWriter state else state) ∧
      InOrder engine before ∧ before.reader = state.reader ∧
      before.outputs = state.outputs ∧ (Undisturbed state → Undisturbed before) := by
    cases writerCancelled with
    | true => exact ⟨_, rfl, ordered.cancelWriter, rfl, rfl, undisturbed_cancel⟩
    | false => exact ⟨_, rfl, ordered, rfl, rfl, id⟩
  obtain ⟨before, same, stopped, reader, outputs, calm⟩ := reached
  have stage : before.reader.stage = .together := by
    rw [reader, reading]
    rfl
  unfold Http2Wire.tearsDown
  rw [← same]
  cases interrupted with
  | true =>
      refine (stopped.leaves [] before.protocol stage (.inl rfl)).congr ?_ rfl rfl rfl id id
        fun _ => id
      rw [List.flatten_append]
      exact (List.append_nil _).symm
  | false =>
      have quiet : Quiet engine
          (close engine config state.protocol state.closeErrorCode).2 := close_quiet drains _
      dsimp only [Bool.false_eq_true, if_false]
      rw [← outputs]
      cases open_ : state.clientClosed with
      | true => exact stopped.leaves _ _ stage (.inr quiet)
      | false =>
          cases started : SendAll.start
              (close engine config state.protocol state.closeErrorCode).1 with
          | none => exact stopped.leaves _ _ stage (.inr quiet)
          | some send =>
              have loud : (close engine config state.protocol state.closeErrorCode).1 ≠ [] := by
                intro empty
                rw [empty] at started
                cases started
              have undisturbed := calm (orderly ⟨reading, open_, loud⟩)
              have begun := stopped.beginGoaway send stage undisturbed quiet
              rw [SendAll.start_offer started] at begun
              exact begun

theorem InOrder.next (drains : ∀ connection, (engine.dataToSend
    (engine.dataToSend connection).2).1 = []) {action : Action} {after : Connection σ}
    (ordered : InOrder engine state) (orderly : Orderly engine config state action)
    (step : Steps engine config state action after) : InOrder engine after := by
  unfold Steps at step
  cases action with
  | initiates =>
      obtain ⟨reading, ⟨⟩⟩ := Option.ite_none_right_eq_some.mp step
      exact ordered.initiates reading
  | readerSends answer =>
      cases reading : state.reader with
      | sendsInitiate send =>
          simp only [Http2Wire.next, reading, Option.some.injEq] at step
          rw [← step]
          exact ordered.sendsInitiate reading answer
      | sendsGoaway send =>
          simp only [Http2Wire.next, reading, Option.some.injEq] at step
          rw [← step]
          exact ordered.sendsGoaway reading answer
      | _ =>
          simp only [Http2Wire.next, reading] at step
          cases step
  | forks forked raised =>
      obtain ⟨reading, ⟨⟩⟩ := Option.ite_none_right_eq_some.mp step
      exact ordered.forks reading forked raised
  | receives chunk =>
      obtain ⟨reading, ⟨⟩⟩ := Option.ite_none_right_eq_some.mp step
      exact ordered.receives reading chunk
  | takesCancelledStreams =>
      obtain ⟨reading, ⟨⟩⟩ := Option.ite_none_right_eq_some.mp step
      exact ordered.congr rfl rfl rfl rfl id id fun _ quiet =>
        ⟨quiet.localClosed, quiet.controlOutput, quiet.activeStreams, quiet.drained⟩
  | readerEnds =>
      obtain ⟨reading, ⟨⟩⟩ := Option.ite_none_right_eq_some.mp step
      exact ordered.ending reading false
  | readerCancelled => exact ordered.readerCancelled step
  | tearsDown writerCancelled =>
      cases reading : state.reader with
      | ending interrupted =>
          simp only [Http2Wire.next, reading, Option.some.injEq] at step
          rw [← step]
          exact ordered.tearsDown drains reading writerCancelled orderly
      | _ =>
          simp only [Http2Wire.next, reading] at step
          cases step
  | writerWakes closed =>
      obtain ⟨waiting, ⟨⟩⟩ := Option.ite_none_right_eq_some.mp step
      exact ordered.writerWakes drains waiting closed
  | writerFlushes closed =>
      obtain ⟨draining, ⟨⟩⟩ := Option.ite_none_right_eq_some.mp step
      exact ordered.writerFlushes draining closed
  | writerSends answer closed =>
      cases writing : state.writer with
      | sends send last =>
          simp only [Http2Wire.next, writing, Option.some.injEq] at step
          rw [← step]
          exact ordered.writerSends writing answer closed
      | _ =>
          simp only [Http2Wire.next, writing] at step
          cases step
  | writerCancelled =>
      cases step
      exact ordered.cancelWriter
  | queues streamId response =>
      cases step
      exact ordered.congr rfl rfl rfl rfl id id fun _ quiet =>
        quiet.queueResponse streamId response
  | drops streamId =>
      cases step
      exact ordered.congr rfl rfl rfl rfl id id fun _ quiet => quiet.dropStream streamId
  | requestsShutdown =>
      cases step
      exact ordered.congr rfl rfl rfl rfl id id fun _ => id
  | forceCloses closed =>
      cases step
      exact ordered.congr rfl rfl rfl rfl id (fun _ => rfl) fun _ => id
  | streamCloses =>
      cases step
      exact ordered.congr rfl rfl rfl rfl id id fun _ => id

theorem opened_inOrder (connection : σ) : InOrder engine (opened connection) :=
  ⟨[], rfl, rfl, rfl⟩

end Order

/-- In every run whose teardowns are orderly the kernel has taken a prefix of the outputs,
in the order they were produced. -/
theorem wire_in_order {σ : Type} (engine : Engine σ) (config : HTTP2Config)
    (drains : ∀ connection, (engine.dataToSend (engine.dataToSend connection).2).1 = [])
    (connection : σ) (actions : List Action) (state : Connection σ)
    (run : Run (OrderlySteps engine config) (opened connection) actions state) :
    state.accepted <+: state.outputs.flatten := by
  have ordered : InOrder engine state := by
    induction run with
    | nil => exact opened_inOrder connection
    | snoc action run last ordered => exact ordered.next drains last.1 last.2
  exact ordered.accepted_prefix

section Samples

def nextOrderly {σ : Type} (engine : Engine σ) (config : HTTP2Config) (state : Connection σ)
    (action : Action) : Option (Connection σ) :=
  if Orderly engine config state action then next engine config state action else none

theorem orderlySteps_nextOrderly {σ : Type} {engine : Engine σ} {config : HTTP2Config}
    (state : Connection σ) (action : Action) (after : Connection σ)
    (step : nextOrderly engine config state action = some after) :
    OrderlySteps engine config state action after :=
  Option.ite_none_right_eq_some.mp step

def shortFrames : Engine Script :=
  { scripted 2 with
    closeConnection := fun script _ _ =>
      (.ok (), { script with outgoing := script.outgoing ++ [7] }) }

def sampleConnection : Connection Script := opened { sampleStart with outgoing := [4] }

def beginsResponse : List Action :=
  [.initiates, .readerSends (.sent 1), .forks true false, .receives clientPreface,
    .queues 1 (sampleResponse []), .writerWakes true, .writerFlushes true,
    .writerSends (.sent 1) true]

def interruptsResponse : List Action :=
  beginsResponse ++
    [.writerSends (.raised (some .write)) true, .readerEnds, .tearsDown true,
      .readerSends (.sent 1)]

def finishesResponse : List Action :=
  beginsResponse ++
    [.writerSends (.sent 1) true, .readerEnds, .tearsDown true, .readerSends (.sent 1)]

def interruptedEnd : Connection Script :=
  endOf (next shortFrames HTTP2Config.standard) sampleConnection interruptsResponse

theorem goaway_splits_response :
    Run (Steps shortFrames HTTP2Config.standard) sampleConnection interruptsResponse
      interruptedEnd ∧
    interruptedEnd.outputs = [[4], [0, 0], [7]] ∧ interruptedEnd.accepted = [4, 0, 7] ∧
    ¬interruptedEnd.accepted <+: interruptedEnd.outputs.flatten :=
  ⟨run_endOf (fun _ _ _ => id) (by decide +kernel), by decide +kernel, by decide +kernel,
    by decide +kernel⟩

def finishedEnd : Connection Script :=
  endOf (nextOrderly shortFrames HTTP2Config.standard) sampleConnection finishesResponse

theorem wire_in_order_sample : finishedEnd.accepted <+: finishedEnd.outputs.flatten :=
  wire_in_order shortFrames HTTP2Config.standard (fun _ => rfl)
    { sampleStart with outgoing := [4] } finishesResponse finishedEnd
    (run_endOf orderlySteps_nextOrderly (by decide +kernel))

end Samples

end SmallServer.Http2Wire
