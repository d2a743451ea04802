import SmallServer.Runs
import SmallServer.Http2Protocol

/-!
# What an HTTP/2 operation can do

Every operation of `H2Protocol` is a sequence of small effects on its tables and
counters. The effects are listed once, with the checks made before each; the
operations are decomposed into them here, whatever they return or raise, so that an
invariant is proved effect by effect and never unfolds an operation.
-/

namespace SmallServer.Http2Effects

open SmallServer HttpValues Http2Frames Http2Protocol Runs

set_option autoImplicit false

inductive Operation where
  | initiate
  | receiveData (data : Bytes)
  | takeCancelledStreams
  | queueResponse (streamId : StreamId) (response : Response)
  | flush
  | dropStream (streamId : StreamId)
  | resetStream (streamId : StreamId) (errorCode : ErrorCode)
  | close (errorCode : Nat)
deriving DecidableEq

inductive Result where
  | ready (requests : List H2ReadyRequest)
  | cancelled (streams : List StreamId)
  | queued (accepted : Bool)
  | output (bytes : Bytes)
  | done
deriving DecidableEq

def Operation.queuedStream : Operation → Option StreamId
  | .queueResponse streamId _ => some streamId
  | _ => none

def requestedStream : Event → Option StreamId
  | .requestReceived streamId _ => some streamId
  | _ => none

section Calls

variable {σ : Type} (engine : Engine σ) (config : HTTP2Config)

def perform (protocol : H2Protocol σ) : Operation → Except Raised Result × H2Protocol σ
  | .initiate =>
      ((initiate engine config protocol).1.map .output, (initiate engine config protocol).2)
  | .receiveData data =>
      ((receiveData engine config protocol data).1.map .ready,
        (receiveData engine config protocol data).2)
  | .takeCancelledStreams =>
      (.ok (.cancelled (takeCancelledStreams protocol).1), (takeCancelledStreams protocol).2)
  | .queueResponse streamId response =>
      (.ok (.queued (queueResponse engine config protocol streamId response).1),
        (queueResponse engine config protocol streamId response).2)
  | .flush => ((flush engine config protocol).1.map .output, (flush engine config protocol).2)
  | .dropStream streamId => (.ok .done, dropStream protocol streamId)
  | .resetStream streamId errorCode =>
      (.ok .done, resetStream engine protocol streamId errorCode)
  | .close errorCode =>
      (.ok (.output (close engine config protocol errorCode).1),
        (close engine config protocol errorCode).2)

/-- The events the engine reports for these frames, up to the first exception. -/
def frameEvents (protocol : H2Protocol σ) : List Bytes → List Event
  | [] => []
  | wireChunk :: wireChunks =>
      match engine.receiveData protocol.connection wireChunk with
      | (.error _, _) => []
      | (.ok events, _) =>
          match receiveFrame engine config protocol wireChunk with
          | (.error _, _) => events
          | (.ok (), next) => events ++ frameEvents next wireChunks

def operationEvents (protocol : H2Protocol σ) : Operation → List Event
  | .receiveData data =>
      match protocol.frames.feed config data with
      | (.error _, _) => []
      | (.ok (), fed) =>
          frameEvents engine config
            { protocol with frames := (fed.take config.readerFrameBatchSize).2 }
            (fed.take config.readerFrameBatchSize).1
  | _ => []

structure Call where
  operation : Operation
  events : List Event
  result : Except Raised Result

def queuedStreams (calls : List Call) : List StreamId :=
  calls.filterMap fun call => call.operation.queuedStream

def reportedEvents (calls : List Call) : List Event := calls.flatMap Call.events

def requestedStreams (calls : List Call) : List StreamId :=
  (reportedEvents calls).filterMap requestedStream

theorem filterMap_single {Item Image : Type} (image : Item → Option Image) (item : Item) :
    [item].filterMap image = (image item).toList := by
  cases named : image item with
  | none => rw [List.filterMap_cons_none named]; rfl
  | some streamId => rw [List.filterMap_cons_some named]; rfl

theorem queuedStreams_snoc (calls : List Call) (call : Call) :
    queuedStreams (calls ++ [call]) =
      queuedStreams calls ++ call.operation.queuedStream.toList := by
  rw [queuedStreams, List.filterMap_append, filterMap_single]
  rfl

theorem requestedStreams_snoc (calls : List Call) (call : Call) :
    requestedStreams (calls ++ [call]) =
      requestedStreams calls ++ call.events.filterMap requestedStream := by
  rw [requestedStreams, reportedEvents, List.flatMap_append, List.filterMap_append]
  simp [requestedStreams, reportedEvents]

def performAll (protocol : H2Protocol σ) : List Operation → List Call × H2Protocol σ
  | [] => ([], protocol)
  | operation :: operations =>
      let outcome := perform engine config protocol operation
      let rest := performAll outcome.2 operations
      ({ operation
         events := operationEvents engine config protocol operation
         result := outcome.1 } :: rest.1, rest.2)

def Calls (protocol : H2Protocol σ) (call : Call) (next : H2Protocol σ) : Prop :=
  perform engine config protocol call.operation = (call.result, next) ∧
    call.events = operationEvents engine config protocol call.operation

def Clean (calls : List Call) : Prop := ∀ call ∈ calls, ∃ result, call.result = .ok result

theorem clean_of_all {calls : List Call} (all : (calls.all fun call => call.result.isOk) = true) :
    Clean calls := by
  intro call member
  have ok := List.all_eq_true.mp all call member
  cases result : call.result with
  | error raised =>
      rw [result] at ok
      cases ok
  | ok value => exact ⟨value, rfl⟩

theorem run_performAll (protocol : H2Protocol σ) (operations : List Operation) :
    Run (Calls engine config) protocol (performAll engine config protocol operations).1
      (performAll engine config protocol operations).2 := by
  induction operations generalizing protocol with
  | nil => exact .nil
  | cons operation operations induction => exact Run.cons ⟨rfl, rfl⟩ (induction _)

end Calls

section Script

/-- The state of a scripted engine: the events it reports for each next frame, and the
bytes it has ready. -/
structure Script where
  events : List (List Event)
  outgoing : Bytes := []
deriving DecidableEq

/-- An engine that follows a script: every call succeeds, a HEADERS frame takes
`headerBytes` bytes, a DATA frame nine bytes and its payload. -/
def scripted (headerBytes : Nat) : Engine Script where
  initiateConnection script := script
  receiveData script _ :=
    match script.events with
    | [] => (.ok [], script)
    | events :: later => (.ok events, { script with events := later })
  dataToSend script := (script.outgoing, { script with outgoing := [] })
  acknowledgeReceivedData script _ _ := (.ok (), script)
  localFlowControlWindow script _ := (.ok 65535, script)
  maxOutboundFrameSize _ := 16384
  sendHeaders script _ _ _ :=
    (.ok (), { script with outgoing := script.outgoing ++ List.replicate headerBytes 0 })
  sendData script _ data _ :=
    (.ok (), { script with outgoing := script.outgoing ++ List.replicate 9 0 ++ data })
  resetStream script _ _ :=
    (.ok (), { script with outgoing := script.outgoing ++ List.replicate 13 0 })
  closeConnection script _ _ :=
    (.ok (), { script with outgoing := script.outgoing ++ List.replicate 17 0 })

def sampleHeaders : RawHeaders :=
  [(.str methodName, .str "GET".toList), (.str schemeName, .str "http".toList),
    (.str authorityName, .str ['a']), (.str pathName, .str ['/'])]

def sampleResponse (body : Bytes) : Response where
  status := 200
  body := body
  headers := Headers.empty
  status_range := by decide
  length_agrees := fun value found => by cases found

def sampleStart : Script where
  events := [[.requestReceived 1 sampleHeaders, .streamEnded 1,
    .requestReceived 3 sampleHeaders, .streamEnded 3]]

end Script

section Effects

variable {σ : Type}

/-- A protocol within an operation: the commands `flush` has taken and not yet run, and
the bytes it has put together. -/
structure Work (σ : Type) where
  protocol : H2Protocol σ
  running : List Command := []
  output : Bytes := []

inductive Mark where
  | silent
  | requested (streamId : StreamId)
  | queued (streamId : StreamId)
deriving DecidableEq

def Mark.requestedStream : Mark → Option StreamId
  | .requested streamId => some streamId
  | _ => none

def Mark.queuedStream : Mark → Option StreamId
  | .queued streamId => some streamId
  | _ => none

/-- A single effect. The engine's state is arbitrary after any of them. -/
inductive Effect (config : HTTP2Config) : Work σ → Mark → Work σ → Prop
  | engine (work : Work σ) (connection : σ) :
      Effect config work .silent
        { work with protocol := { work.protocol with connection } }
  | frames (work : Work σ) (frames : FrameBudget) :
      Effect config work .silent { work with protocol := { work.protocol with frames } }
  | terminated (work : Work σ) :
      Effect config work .silent
        { work with protocol := { work.protocol with remoteClosed := true } }
  | cancelled (work : Work σ) (cancelledStreams : List StreamId) :
      Effect config work .silent
        { work with protocol := { work.protocol with cancelledStreams } }
  | dropped (protocol : H2Protocol σ) (streamId : StreamId) (output : Bytes) :
      Effect config { protocol, output } .silent
        { protocol := dropStream protocol streamId, output }
  | accepted (work : Work σ) (streamId : StreamId) (stream : InboundStream)
      (room : work.protocol.activeStreams.card < config.maxConcurrentStreams)
      (empty : stream.body = .bytearray []) (waiting : stream.dispatched = false) :
      Effect config work (.requested streamId)
        { work with protocol := { work.protocol with
            activeStreams := insert streamId work.protocol.activeStreams
            inbound := work.protocol.inbound.set streamId stream } }
  | stored (work : Work σ) (streamId : StreamId) (stream : InboundStream) (content data : Bytes)
      (found : work.protocol.inbound.lookup streamId = some stream)
      (current : stream.body = .bytearray content)
      (bodyFits : content.length + data.length ≤ config.maxBodyBytes)
      (declaredFits : exceedsDeclared stream (content.length + data.length) = false)
      (bufferFits : work.protocol.bufferedRequestBytes + data.length ≤
        config.maxConnectionBufferBytes) :
      Effect config work .silent
        { work with protocol := { work.protocol with
            inbound := work.protocol.inbound.set streamId
              { stream with body := .bytearray (content ++ data) }
            bufferedRequestBytes := work.protocol.bufferedRequestBytes + data.length } }
  | completed (work : Work σ) (streamId : StreamId) (stream : InboundStream)
      (found : work.protocol.inbound.lookup streamId = some stream) :
      Effect config work .silent
        { work with protocol := { work.protocol with
            inbound := work.protocol.inbound.set streamId
              { stream with body := .bytes stream.body.content, dispatched := true }
            lastProcessedStreamId := max work.protocol.lastProcessedStreamId streamId } }
  | parked (work : Work σ) (item : H2ReadyRequest)
      (present : item.streamId ∈ work.protocol.inbound) :
      Effect config work .silent
        { work with protocol := { work.protocol with
            readyRequests := work.protocol.readyRequests ++ [item] } }
  | returned (work : Work σ) :
      Effect config work .silent
        { work with protocol := { work.protocol with readyRequests := [] } }
  | captured (work : Work σ) (produced : Bytes)
      (controlFits : work.protocol.controlOutput.length + produced.length ≤
        config.maxControlOutputBytes)
      (pendingFits : (work.protocol.controlOutput.length : Int) + produced.length +
        work.protocol.pendingOutputBytes ≤ config.maxPendingOutputBytes) :
      Effect config work .silent
        { work with protocol := { work.protocol with
            controlOutput := work.protocol.controlOutput ++ produced } }
  | released (protocol : H2Protocol σ) (streamId : StreamId) :
      Effect config { protocol } (.queued streamId)
        { protocol := releaseInbound protocol streamId }
  | refused (protocol : H2Protocol σ) (streamId : StreamId) :
      Effect config { protocol } (.queued streamId)
        { protocol := { releaseInbound protocol streamId with
            commands := protocol.commands ++ [.reset streamId] } }
  | queued (protocol : H2Protocol σ) (streamId : StreamId) (response : Response)
      (active : streamId ∈ protocol.activeStreams)
      (fits : (protocol.controlOutput.length : Int) + protocol.pendingOutputBytes +
        response.body.length ≤ config.maxPendingOutputBytes) :
      Effect config { protocol } (.queued streamId)
        { protocol := { releaseInbound protocol streamId with
            pendingOutputBytes := protocol.pendingOutputBytes + response.body.length
            commands := protocol.commands ++ [.response streamId response] } }
  | taken (protocol : H2Protocol σ) :
      Effect config { protocol } .silent
        { protocol := { protocol with commands := [] }, running := protocol.commands }
  | reset (protocol : H2Protocol σ) (streamId : StreamId) (rest : List Command)
      (output : Bytes) :
      Effect config { protocol, running := .reset streamId :: rest, output } .silent
        { protocol := dropStream protocol streamId, running := rest, output }
  | failed (protocol : H2Protocol σ) (streamId : StreamId) (response : Response)
      (rest : List Command) (output : Bytes) :
      Effect config { protocol, running := .response streamId response :: rest, output } .silent
        { protocol := dropStream { protocol with
            pendingOutputBytes := protocol.pendingOutputBytes - response.body.length } streamId
          running := rest
          output }
  | started (protocol : H2Protocol σ) (streamId : StreamId) (response : Response)
      (rest : List Command) (output : Bytes) :
      Effect config { protocol, running := .response streamId response :: rest, output } .silent
        { protocol := { protocol with
            outbound := protocol.outbound.set streamId { body := response.body, offset := 0 } }
          running := rest
          output }
  | answered (protocol : H2Protocol σ) (streamId : StreamId) (response : Response)
      (rest : List Command) (output : Bytes) (empty : response.body = []) :
      Effect config { protocol, running := .response streamId response :: rest, output } .silent
        { protocol := { protocol with activeStreams := protocol.activeStreams.erase streamId }
          running := rest
          output }
  | moved (protocol : H2Protocol σ) :
      Effect config { protocol } .silent
        { protocol := { protocol with controlOutput := [] }, output := protocol.controlOutput }
  | sent (work : Work σ) (streamId : StreamId) (outbound : OutboundStream) (size : Nat)
      (found : work.protocol.outbound.lookup streamId = some outbound)
      (owed : (size : Int) ≤ outbound.remaining) :
      Effect config work .silent
        { work with protocol := { work.protocol with
            outbound := work.protocol.outbound.set streamId
              { outbound with offset := outbound.offset + size }
            pendingOutputBytes := work.protocol.pendingOutputBytes - size } }
  | finished (work : Work σ) (streamId : StreamId) (outbound : OutboundStream)
      (found : work.protocol.outbound.lookup streamId = some outbound)
      (nothing : outbound.remaining ≤ 0) :
      Effect config work .silent
        { work with protocol := finishResponse work.protocol streamId }
  | emitted (work : Work σ) (generated : Bytes)
      (fits : (generated.length : Int) + work.output.length + work.protocol.pendingOutputBytes ≤
        config.maxPendingOutputBytes) :
      Effect config work .silent { work with output := work.output ++ generated }
  | cleared (protocol : H2Protocol σ) :
      Effect config { protocol } .silent
        { protocol := { clearTables protocol with localClosed := true } }

end Effects

section Decomposition

variable {σ : Type} {engine : Engine σ} {config : HTTP2Config}

def Reaches (config : HTTP2Config) (work : Work σ) (requested queued : List StreamId)
    (next : Work σ) : Prop :=
  ∃ marks, Run (Effect config) work marks next ∧
    marks.filterMap Mark.requestedStream = requested ∧
      marks.filterMap Mark.queuedStream = queued

namespace Reaches

variable {work middle next : Work σ} {requested queued moreRequested moreQueued : List StreamId}

theorem refl : Reaches config work [] [] work := ⟨[], .nil, rfl, rfl⟩

theorem step (effect : Effect config work .silent next) : Reaches config work [] [] next :=
  ⟨[.silent], .single effect, rfl, rfl⟩

theorem mark {streamId : StreamId} (effect : Effect config work (.queued streamId) next) :
    Reaches config work [] [streamId] next := ⟨[.queued streamId], .single effect, rfl, rfl⟩

theorem trans (first : Reaches config work requested queued middle)
    (second : Reaches config middle moreRequested moreQueued next) :
    Reaches config work (requested ++ moreRequested) (queued ++ moreQueued) next := by
  obtain ⟨marks, run, requests, queues⟩ := first
  obtain ⟨more, rest, moreRequests, moreQueues⟩ := second
  refine ⟨marks ++ more, run.append rest, ?_, ?_⟩
  · rw [List.filterMap_append, requests, moreRequests]
  · rw [List.filterMap_append, queues, moreQueues]

theorem after (first : Reaches config work [] [] middle)
    (second : Reaches config middle requested queued next) :
    Reaches config work requested queued next := first.trans second

end Reaches

variable (engine config)

theorem reaches_resetStream (protocol : H2Protocol σ) (streamId : StreamId)
    (errorCode : ErrorCode) :
    Reaches config { protocol } [] []
      { protocol := resetStream engine protocol streamId errorCode } :=
  (Reaches.step (.engine _
    (engine.resetStream protocol.connection streamId errorCode).2)).after
      (Reaches.step (.dropped _ streamId _))

theorem reaches_requestReceived (protocol : H2Protocol σ) (streamId : StreamId)
    (rawHeaders : RawHeaders) :
    ∃ requested, requested.Sublist [streamId] ∧
      Reaches config { protocol } requested []
        { protocol := requestReceived engine config protocol streamId rawHeaders } := by
  unfold requestReceived
  split
  · exact ⟨[], List.nil_sublist _, reaches_resetStream engine config protocol streamId _⟩
  · rename_i room
    split
    · exact ⟨[], List.nil_sublist _, reaches_resetStream engine config protocol streamId _⟩
    · refine ⟨[streamId], List.Sublist.refl _, [.requested streamId], ?_, rfl, rfl⟩
      exact .single (.accepted _ streamId _ (Nat.lt_of_not_le room) rfl rfl)

theorem reaches_storeData (protocol : H2Protocol σ) (streamId : StreamId) (data : Bytes) :
    Reaches config { protocol } [] []
      { protocol := storeData engine config protocol streamId data } := by
  unfold storeData
  split
  · exact Reaches.refl
  · rename_i stream found
    dsimp only
    split
    · exact reaches_resetStream engine config protocol streamId _
    · rename_i fits
      simp only [not_or, Nat.not_lt, Int.not_lt, gt_iff_lt, Bool.not_eq_true] at fits
      split
      · exact reaches_resetStream engine config protocol streamId _
      · rename_i content current
        rw [current] at fits
        exact Reaches.step (.stored _ streamId stream content data found current fits.1 fits.2.1
          fits.2.2)

theorem reaches_dataReceived (protocol : H2Protocol σ) (streamId : StreamId) (data : Bytes)
    (flowLength : Nat) :
    Reaches config { protocol } [] []
      { protocol := (dataReceived engine config protocol streamId data flowLength).2 } := by
  unfold dataReceived
  split
  · exact Reaches.step (.engine _ _)
  · exact (Reaches.step (.engine _ _)).after (reaches_storeData engine config _ streamId data)

theorem reaches_streamEnded (protocol : H2Protocol σ) (streamId : StreamId) :
    Reaches config { protocol } [] []
        { protocol := (streamEnded engine protocol streamId).2 } ∧
      ∀ item, (streamEnded engine protocol streamId).1 = .ok (some item) →
        item.streamId ∈ (streamEnded engine protocol streamId).2.inbound := by
  unfold streamEnded
  split
  · exact ⟨Reaches.refl, fun item impossible => by cases impossible⟩
  · rename_i stream found
    split
    · exact ⟨reaches_resetStream engine config protocol streamId _,
        fun item impossible => by cases impossible⟩
    · dsimp only
      have effect : Effect config _ .silent _ :=
        .completed { protocol } streamId stream found
      split
      · exact ⟨Reaches.step effect, fun item impossible => by cases impossible⟩
      · refine ⟨Reaches.step effect, ?_⟩
        intro item same
        cases same
        exact OrderedDict.mem_set.mpr (Or.inl rfl)

theorem reaches_handleEvent (protocol : H2Protocol σ) (event : Event) :
    ∃ requested, requested.Sublist (requestedStream event).toList ∧
      Reaches config { protocol } requested []
        { protocol := (handleEvent engine config protocol event).2 } := by
  cases event with
  | requestReceived streamId headers =>
      exact reaches_requestReceived engine config protocol streamId headers
  | dataReceived streamId data flowLength =>
      exact ⟨[], List.nil_sublist _,
        reaches_dataReceived engine config protocol streamId data flowLength⟩
  | streamEnded streamId =>
      obtain ⟨reached, present⟩ :=
        reaches_streamEnded engine config protocol streamId
      refine ⟨[], List.nil_sublist _, ?_⟩
      rw [handleEvent]
      generalize streamEnded engine protocol streamId = outcome at reached present ⊢
      obtain ⟨result, next⟩ := outcome
      match result, present with
      | .error raised, _ => exact reached
      | .ok none, _ => exact reached
      | .ok (some item), present =>
          exact reached.after (Reaches.step (.parked _ item (present item rfl)))
  | streamReset streamId =>
      exact ⟨[], List.nil_sublist _,
        (Reaches.step (.cancelled _ _)).after (Reaches.step (.dropped _ streamId _))⟩
  | trailersReceived streamId =>
      exact ⟨[], List.nil_sublist _, reaches_resetStream engine config protocol streamId _⟩
  | connectionTerminated => exact ⟨[], List.nil_sublist _, Reaches.step (.terminated _)⟩
  | windowUpdated => exact ⟨[], List.nil_sublist _, Reaches.refl⟩
  | remoteSettingsChanged => exact ⟨[], List.nil_sublist _, Reaches.refl⟩
  | ignored => exact ⟨[], List.nil_sublist _, Reaches.refl⟩

theorem reaches_handleEvents (protocol : H2Protocol σ) (events : List Event) :
    ∃ requested, requested.Sublist (events.filterMap requestedStream) ∧
      Reaches config { protocol } requested []
        { protocol := (handleEvents engine config protocol events).2 } := by
  induction events generalizing protocol with
  | nil => exact ⟨[], List.Sublist.refl _, Reaches.refl⟩
  | cons event events induction =>
      obtain ⟨requested, part, reached⟩ :=
        reaches_handleEvent engine config protocol event
      have cut : (event :: events).filterMap requestedStream =
          (requestedStream event).toList ++ events.filterMap requestedStream := by
        rw [← List.singleton_append, List.filterMap_append, filterMap_single]
      rw [cut]
      unfold handleEvents
      generalize handleEvent engine config protocol event = outcome at reached ⊢
      obtain ⟨result, next⟩ := outcome
      cases result with
      | error raised =>
          exact ⟨requested, part.trans (List.sublist_append_left _ _), reached⟩
      | ok done =>
          obtain ⟨more, rest, reachedRest⟩ := induction next
          exact ⟨requested ++ more, part.append rest, reached.trans reachedRest⟩

theorem reaches_captureControlOutput (work : Work σ) :
    Reaches config work [] []
      { work with protocol := (captureControlOutput engine config work.protocol).2 } := by
  unfold captureControlOutput
  dsimp only
  split
  · exact Reaches.step (.engine work _)
  · rename_i fits
    simp only [not_or, Nat.not_lt, Int.not_lt, gt_iff_lt, Nat.cast_add] at fits
    exact (Reaches.step (.engine work _)).after (Reaches.step (.captured _ _ fits.1 fits.2))

theorem reaches_receiveFrame (protocol : H2Protocol σ) (wireChunk : Bytes) :
    ∃ requested,
      requested.Sublist ((match (engine.receiveData protocol.connection wireChunk).1 with
        | .error _ => []
        | .ok events => events).filterMap requestedStream) ∧
      Reaches config { protocol } requested []
        { protocol := (receiveFrame engine config protocol wireChunk).2 } := by
  unfold receiveFrame
  generalize engine.receiveData protocol.connection wireChunk = received
  obtain ⟨result, connection⟩ := received
  cases result with
  | error error => exact ⟨[], List.nil_sublist _, Reaches.step (.engine _ connection)⟩
  | ok events =>
      obtain ⟨requested, part, reached⟩ :=
        reaches_handleEvents engine config { protocol with connection } events
      dsimp only at reached ⊢
      have whole := (Reaches.step (.engine { protocol } connection)).after reached
      generalize handleEvents engine config { protocol with connection } events = outcome
        at whole ⊢
      obtain ⟨handled, next⟩ := outcome
      cases handled with
      | error raised => exact ⟨requested, part, whole⟩
      | ok done =>
          refine ⟨requested, part, ?_⟩
          have captured := reaches_captureControlOutput engine config
            { protocol := next }
          have joined := whole.trans captured
          rw [List.append_nil, List.append_nil] at joined
          exact joined

theorem reaches_receiveFrames (protocol : H2Protocol σ) (wireChunks : List Bytes) :
    ∃ requested,
      requested.Sublist
        ((frameEvents engine config protocol wireChunks).filterMap requestedStream) ∧
      Reaches config { protocol } requested []
        { protocol := (receiveFrames engine config protocol wireChunks).2 } := by
  induction wireChunks generalizing protocol with
  | nil => exact ⟨[], List.Sublist.refl _, Reaches.refl⟩
  | cons wireChunk wireChunks induction =>
      obtain ⟨requested, part, reached⟩ :=
        reaches_receiveFrame engine config protocol wireChunk
      unfold receiveFrames frameEvents
      cases taken : engine.receiveData protocol.connection wireChunk with
      | mk result connection =>
          rw [taken] at part
          generalize same : receiveFrame engine config protocol wireChunk = outcome
            at reached ⊢
          obtain ⟨received, next⟩ := outcome
          cases result with
          | error error =>
              have empty : requested = [] := List.eq_nil_of_sublist_nil part
              subst empty
              have failed : received = .error (.engineError error) := by
                rw [receiveFrame, taken] at same
                exact (congrArg Prod.fst same).symm
              subst failed
              exact ⟨[], List.nil_sublist _, reached⟩
          | ok events =>
              cases received with
              | error raised => exact ⟨requested, part, reached⟩
              | ok done =>
                  obtain ⟨more, rest, reachedRest⟩ := induction next
                  refine ⟨requested ++ more, ?_, reached.trans reachedRest⟩
                  rw [List.filterMap_append]
                  exact part.append rest

theorem reaches_releaseReady (protocol : H2Protocol σ) :
    Reaches config { protocol } [] [] { protocol := (releaseReady protocol).2 } := by
  unfold releaseReady
  split
  · exact Reaches.refl
  · exact Reaches.step (.returned _)

theorem reaches_receiveData (protocol : H2Protocol σ) (data : Bytes) :
    ∃ requested,
      requested.Sublist ((operationEvents engine config protocol
        (.receiveData data)).filterMap requestedStream) ∧
      Reaches config { protocol } requested []
        { protocol := (receiveData engine config protocol data).2 } := by
  rw [operationEvents]
  unfold receiveData
  generalize protocol.frames.feed config data = fed
  obtain ⟨result, frames⟩ := fed
  cases result with
  | error message => exact ⟨[], List.nil_sublist _, Reaches.step (.frames _ frames)⟩
  | ok done =>
      dsimp only
      obtain ⟨requested, part, reached⟩ := reaches_receiveFrames engine config
        { protocol with frames := (frames.take config.readerFrameBatchSize).2 }
        (frames.take config.readerFrameBatchSize).1
      have whole := (Reaches.step (.frames { protocol } _)).after reached
      generalize receiveFrames engine config _ _ = outcome at whole ⊢
      obtain ⟨received, next⟩ := outcome
      cases received with
      | error raised => exact ⟨requested, part, whole⟩
      | ok done =>
          have released := reaches_releaseReady config next
          have joined := whole.trans released
          rw [List.append_nil, List.append_nil] at joined
          exact ⟨requested, part, joined⟩

theorem queueResponse_first (protocol : H2Protocol σ) (streamId : StreamId)
    (response : Response) :
    (queueResponse engine config protocol streamId response).2 = protocol ∨
      ∃ middle, Effect config { protocol } (.queued streamId) middle ∧
        Reaches config middle [] []
          { protocol := (queueResponse engine config protocol streamId response).2 } := by
  unfold queueResponse
  split
  · exact Or.inl rfl
  · rename_i active
    right
    have released : Effect config { protocol } _ _ := .released protocol streamId
    dsimp only
    split
    · split
      · exact ⟨_, released, Reaches.refl⟩
      · have refused : Effect config { protocol } _ _ := .refused protocol streamId
        rw [releaseInbound_eq] at refused ⊢
        exact ⟨_, refused, Reaches.refl⟩
    · rename_i fits
      split
      · exact ⟨_, released, reaches_resetStream engine config _ streamId _⟩
      · simp only [not_or, Nat.not_lt, Int.not_lt, gt_iff_lt] at fits
        have fitsHere := fits.2
        rw [releaseInbound_eq] at fitsHere
        have queued : Effect config { protocol } _ _ :=
          .queued protocol streamId response (not_not.mp active) fitsHere
        rw [releaseInbound_eq] at queued ⊢
        exact ⟨_, queued, Reaches.refl⟩

theorem reaches_queueResponse (protocol : H2Protocol σ) (streamId : StreamId)
    (response : Response) :
    ∃ queued, queued.Sublist [streamId] ∧
      Reaches config { protocol } [] queued
        { protocol := (queueResponse engine config protocol streamId response).2 } := by
  rcases queueResponse_first engine config protocol streamId response with
    same | ⟨middle, first, rest⟩
  · rw [same]
    exact ⟨[], List.nil_sublist _, Reaches.refl⟩
  · exact ⟨[streamId], List.Sublist.refl _, (Reaches.mark first).trans rest⟩

section Flushing

variable (protocol : H2Protocol σ)

theorem reaches_runCommand (command : Command) (rest : List Command) (output : Bytes) :
    Reaches config { protocol, running := command :: rest, output } [] []
      { protocol := runCommand engine config protocol command, running := rest, output } := by
  cases command with
  | reset streamId =>
      exact (Reaches.step (.engine _ _)).after (Reaches.step (.reset _ streamId rest output))
  | response streamId response =>
      rw [runCommand]
      unfold startResponse
      dsimp only
      split
      · have reset : Reaches config
            { protocol, running := .response streamId response :: rest, output } [] [] _ :=
          Reaches.step (.engine _
            (engine.resetStream protocol.connection streamId .internalError).2)
        exact reset.after (Reaches.step (.failed _ streamId response rest output))
      · split
        · rename_i error connection failed
          exact (Reaches.step (.engine _ connection)).after
            (Reaches.step (.failed _ streamId response rest output))
        · rename_i connection taken
          split
          · rename_i empty
            exact (Reaches.step (.engine _ connection)).after
              (Reaches.step (.answered _ streamId response rest output empty))
          · exact (Reaches.step (.engine _ connection)).after
              (Reaches.step (.started _ streamId response rest output))

theorem reaches_runCommands (commands : List Command) (output : Bytes) :
    ∃ rest,
      Reaches config { protocol, running := commands, output } [] []
        { protocol := (runCommands engine config protocol commands).2, running := rest, output } ∧
      ((runCommands engine config protocol commands).1 = .ok () → rest = []) := by
  induction commands generalizing protocol with
  | nil => exact ⟨[], Reaches.refl, fun _ => rfl⟩
  | cons command commands induction =>
      have ran := reaches_runCommand engine config protocol command
        commands output
      have captured := ran.after (reaches_captureControlOutput engine config _)
      unfold runCommands
      dsimp only at captured
      generalize captureControlOutput engine config (runCommand engine config protocol command) =
        outcome at captured ⊢
      obtain ⟨result, next⟩ := outcome
      cases result with
      | error raised => exact ⟨commands, captured, fun impossible => by cases impossible⟩
      | ok done =>
          obtain ⟨rest, reached, complete⟩ := induction next
          exact ⟨rest, captured.after reached, complete⟩

theorem chunkSize_le (remaining window maxFrame : Int) :
    chunkSize remaining window maxFrame ≤ remaining :=
  (min_le_left _ _).trans (min_le_left _ _)

theorem validateWireOutput_ok {newBytes alreadyBuffered : Nat}
    (valid : validateWireOutput config protocol newBytes alreadyBuffered = .ok ()) :
    (newBytes : Int) + alreadyBuffered + protocol.pendingOutputBytes ≤
      config.maxPendingOutputBytes := by
  unfold validateWireOutput at valid
  split at valid
  · cases valid
  · exact Int.not_lt.mp ‹_›

/-- One chunk is sent, or the stream dropped; other streams keep their bodies. -/
theorem reaches_sendChunk {streamId : StreamId} {outbound : OutboundStream}
    (found : protocol.outbound.lookup streamId = some outbound) (window : Int) (output : Bytes) :
    (∃ assembled,
      Reaches config { protocol, output } [] []
        { protocol := (sendChunk engine config protocol streamId outbound window output).2
          output := assembled } ∧
      ∀ returned, (sendChunk engine config protocol streamId outbound window output).1 =
        .ok returned → assembled = returned) ∧
    ∀ other, other ≠ streamId →
      (sendChunk engine config protocol streamId outbound window output).2.outbound.lookup other =
        protocol.outbound.lookup other := by
  unfold sendChunk
  dsimp only
  split
  · exact ⟨⟨output, Reaches.refl, fun returned same => by cases same; rfl⟩, fun other _ => rfl⟩
  · rename_i positive
    have owed := chunkSize_le outbound.remaining window
      (engine.maxOutboundFrameSize protocol.connection)
    generalize chunkSize outbound.remaining window
      (engine.maxOutboundFrameSize protocol.connection) = size at positive owed ⊢
    have natural : (size.toNat : Int) = size := Int.toNat_of_nonneg (by omega)
    split
    · rename_i error connection failed
      refine ⟨⟨output, ?_, fun returned same => by cases same; rfl⟩, ?_⟩
      · exact (Reaches.step (.engine _ connection)).after (Reaches.step (.dropped _ streamId _))
      · intro other different
        rw [dropStream_eq]
        exact AList.lookup_erase_ne different
    · rename_i connection taken
      have sent : Reaches config { protocol, output } [] []
          { protocol := { protocol with
              connection := (engine.dataToSend connection).2
              outbound := protocol.outbound.set streamId
                { outbound with offset := outbound.offset + size.toNat }
              pendingOutputBytes := protocol.pendingOutputBytes - size }
            output } := by
        have effect : Effect config { protocol := { protocol with
            connection := (engine.dataToSend connection).2 }, output } .silent _ :=
          .sent _ streamId outbound size.toNat found (by rw [natural]; exact owed)
        rw [natural] at effect
        exact (Reaches.step (.engine _ _)).after (Reaches.step effect)
      have kept : ∀ other, other ≠ streamId →
          (protocol.outbound.set streamId
            { outbound with offset := outbound.offset + size.toNat }).lookup other =
              protocol.outbound.lookup other :=
        fun other different => OrderedDict.lookup_set_ne _ _ different
      split
      · exact ⟨⟨output, sent, fun returned impossible => by cases impossible⟩, kept⟩
      · rename_i valid
        have fits := validateWireOutput_ok _ _ valid
        have emitted := sent.after
          (Reaches.step (.emitted _ (engine.dataToSend connection).1 fits))
        split
        · rename_i last
          have exhausted : size = outbound.remaining := by simpa using last
          refine ⟨⟨_, emitted.after (Reaches.step (.finished _ streamId _
            (OrderedDict.lookup_set _ _ _) ?_)), fun returned same => by cases same; rfl⟩, ?_⟩
          · unfold OutboundStream.remaining at exhausted ⊢
            push_cast
            rw [natural]
            omega
          · intro other different
            change AList.lookup other (AList.erase streamId _) = _
            rw [AList.lookup_erase_ne different]
            exact kept other different
        · exact ⟨⟨_, emitted, fun returned same => by cases same; rfl⟩, kept⟩

theorem reaches_sendBody {streamId : StreamId} {outbound : OutboundStream}
    (found : protocol.outbound.lookup streamId = some outbound) (output : Bytes) :
    (∃ assembled,
      Reaches config { protocol, output } [] []
        { protocol := (sendBody engine config protocol streamId outbound output).2
          output := assembled } ∧
      ∀ returned, (sendBody engine config protocol streamId outbound output).1 =
        .ok returned → assembled = returned) ∧
    ∀ other, other ≠ streamId →
      (sendBody engine config protocol streamId outbound output).2.outbound.lookup other =
        protocol.outbound.lookup other := by
  unfold sendBody
  split
  · rename_i nothing
    refine ⟨⟨output, Reaches.step (.finished _ streamId outbound found nothing),
      fun returned same => by cases same; rfl⟩, ?_⟩
    exact fun other different => AList.lookup_erase_ne different
  · split
    · rename_i error connection failed
      refine ⟨⟨output, ?_, fun returned same => by cases same; rfl⟩, ?_⟩
      · exact (Reaches.step (.engine _ connection)).after (Reaches.step (.dropped _ streamId _))
      · intro other different
        rw [dropStream_eq]
        exact AList.lookup_erase_ne different
    · rename_i window connection known
      obtain ⟨⟨assembled, reached, same⟩, kept⟩ :=
        reaches_sendChunk engine config { protocol with connection } found window output
      exact ⟨⟨assembled, (Reaches.step (.engine _ connection)).after reached, same⟩, kept⟩

/-- The loop sends from the bodies listed at its start: none of them has changed when
its turn comes, because a turn touches its own stream only. -/
theorem reaches_sendBodies (entries : List (Sigma fun _ : StreamId => OutboundStream))
    (distinct : entries.NodupKeys)
    (listed : ∀ entry ∈ entries, protocol.outbound.lookup entry.1 = some entry.2)
    (output : Bytes) :
    ∃ assembled,
      Reaches config { protocol, output } [] []
        { protocol := (sendBodies engine config protocol output entries).2
          output := assembled } ∧
      ∀ returned, (sendBodies engine config protocol output entries).1 =
        .ok returned → assembled = returned := by
  induction entries generalizing protocol output with
  | nil => exact ⟨output, Reaches.refl, fun returned same => by cases same; rfl⟩
  | cons entry entries induction =>
      obtain ⟨absent, restDistinct⟩ := List.nodupKeys_cons.mp distinct
      obtain ⟨⟨assembled, reached, same⟩, kept⟩ :=
        reaches_sendBody engine config protocol (listed entry List.mem_cons_self) output
      unfold sendBodies
      generalize sendBody engine config protocol entry.1 entry.2 output = outcome
        at reached same kept ⊢
      obtain ⟨result, next⟩ := outcome
      cases result with
      | error raised => exact ⟨assembled, reached, fun returned impossible => by cases impossible⟩
      | ok returned =>
          obtain rfl := same returned rfl
          have restListed : ∀ other ∈ entries, next.outbound.lookup other.1 = some other.2 := by
            intro other member
            have different : other.1 ≠ entry.1 := by
              intro equal
              exact absent (equal ▸ List.mem_keys_of_mem member)
            rw [kept other.1 different]
            exact listed other (List.mem_cons_of_mem _ member)
          obtain ⟨final, reachedRest, sameRest⟩ := induction next restDistinct restListed assembled
          exact ⟨final, reached.after reachedRest, sameRest⟩

theorem reaches_drainEngine (output : Bytes) :
    ∃ assembled,
      Reaches config { protocol, output } [] []
        { protocol := (drainEngine engine config protocol output).2, output := assembled } ∧
      ∀ returned, (drainEngine engine config protocol output).1 = .ok returned →
        assembled = returned := by
  unfold drainEngine
  dsimp only
  have drained : Reaches config { protocol, output } [] []
      { protocol := { protocol with connection := (engine.dataToSend protocol.connection).2 }
        output } := Reaches.step (.engine _ _)
  split
  · exact ⟨output, drained, fun returned impossible => by cases impossible⟩
  · rename_i valid
    have fits := validateWireOutput_ok _ _ valid
    exact ⟨_, drained.after (Reaches.step (.emitted _ _ fits)),
      fun returned same => by cases same; rfl⟩

/-- A flush that returns has run every command and returns what it assembled. -/
theorem reaches_flush :
    ∃ rest assembled,
      Reaches config { protocol } [] []
        { protocol := (flush engine config protocol).2, running := rest, output := assembled } ∧
      ∀ returned, (flush engine config protocol).1 = .ok returned →
        rest = [] ∧ assembled = returned := by
  unfold flush
  obtain ⟨rest, reached, complete⟩ := reaches_runCommands engine config
    { protocol with commands := [] } protocol.commands []
  have ran := (Reaches.step (.taken protocol)).after reached
  generalize runCommands engine config { protocol with commands := [] } protocol.commands = outcome
    at ran complete ⊢
  obtain ⟨result, started⟩ := outcome
  cases result with
  | error raised => exact ⟨rest, [], ran, fun returned impossible => by cases impossible⟩
  | ok done =>
      obtain rfl := complete rfl
      have moved := ran.after (Reaches.step (.moved started))
      dsimp only
      obtain ⟨assembled, sent, same⟩ := reaches_sendBodies engine config
        { started with controlOutput := [] } started.outbound.entries started.outbound.nodupKeys
        (fun entry member => AList.mem_lookup_iff.mpr member) started.controlOutput
      generalize sendBodies engine config { started with controlOutput := [] }
        started.controlOutput started.outbound.entries = bodies at sent same ⊢
      obtain ⟨sentResult, next⟩ := bodies
      cases sentResult with
      | error raised =>
          exact ⟨[], assembled, moved.after sent, fun returned impossible => by cases impossible⟩
      | ok output =>
          obtain rfl := same output rfl
          obtain ⟨final, drained, sameFinal⟩ := reaches_drainEngine engine config next assembled
          exact ⟨[], final, (moved.after sent).after drained,
            fun returned equal => ⟨rfl, sameFinal returned equal⟩⟩

theorem reaches_close (errorCode : Nat) :
    Reaches config { protocol } [] []
      { protocol := (close engine config protocol errorCode).2 } := by
  have shape : ∃ connection, (close engine config protocol errorCode).2 =
      { clearTables protocol with connection, localClosed := true } := by
    unfold close
    dsimp only
    cases closed : protocol.localClosed with
    | true =>
        refine ⟨(engine.dataToSend protocol.connection).2, ?_⟩
        rw [if_pos rfl]
        simp only [clearTables]
        split
        · rw [closed]
        · split <;> rw [closed]
    | false =>
        refine ⟨(engine.dataToSend (engine.closeConnection protocol.connection errorCode
          protocol.lastProcessedStreamId).2).2, ?_⟩
        rw [if_neg Bool.false_ne_true]
        simp only [clearTables]
        split
        · rfl
        · split <;> rfl
  obtain ⟨connection, same⟩ := shape
  rw [same]
  exact (Reaches.step (.cleared _)).after (Reaches.step (.engine _ connection))

end Flushing

/-- Every operation is a sequence of effects, whether it returns or raises. It admits
no stream the engine did not report, queues on no stream but its own, and leaves no
command behind unless it raises. -/
theorem reaches_perform (protocol : H2Protocol σ) (operation : Operation) :
    ∃ requested queued rest assembled,
      Reaches config { protocol } requested queued
        { protocol := (perform engine config protocol operation).2
          running := rest
          output := assembled } ∧
      requested.Sublist
        ((operationEvents engine config protocol operation).filterMap requestedStream) ∧
      queued.Sublist operation.queuedStream.toList ∧
      ∀ result, (perform engine config protocol operation).1 = .ok result →
        rest = [] ∧ (operation = .flush → result = .output assembled) := by
  cases operation with
  | initiate =>
      have shape : (initiate engine config protocol).2 = { protocol with
          connection :=
            (engine.dataToSend (engine.initiateConnection protocol.connection)).2 } := by
        unfold initiate
        dsimp only
        split
        · rfl
        · split <;> rfl
      refine ⟨[], [], [], [], ?_, List.nil_sublist _, List.nil_sublist _,
        fun result _ => ⟨rfl, fun impossible => by cases impossible⟩⟩
      change Reaches config { protocol } [] [] { protocol := (initiate engine config protocol).2 }
      rw [shape]
      exact Reaches.step (.engine _ _)
  | receiveData data =>
      obtain ⟨requested, part, reached⟩ := reaches_receiveData engine config protocol data
      exact ⟨requested, [], [], [], reached, part, List.nil_sublist _,
        fun result _ => ⟨rfl, fun impossible => by cases impossible⟩⟩
  | takeCancelledStreams =>
      exact ⟨[], [], [], [], Reaches.step (.cancelled _ []), List.nil_sublist _,
        List.nil_sublist _, fun result _ => ⟨rfl, fun impossible => by cases impossible⟩⟩
  | queueResponse streamId response =>
      obtain ⟨queued, part, reached⟩ :=
        reaches_queueResponse engine config protocol streamId response
      exact ⟨[], queued, [], [], reached, List.nil_sublist _, part,
        fun result _ => ⟨rfl, fun impossible => by cases impossible⟩⟩
  | flush =>
      obtain ⟨rest, assembled, reached, complete⟩ := reaches_flush engine config protocol
      refine ⟨[], [], rest, assembled, reached, List.nil_sublist _, List.nil_sublist _, ?_⟩
      intro result returned
      change (flush engine config protocol).1.map Result.output = .ok result at returned
      cases flushed : (flush engine config protocol).1 with
      | error raised =>
          rw [flushed] at returned
          cases returned
      | ok output =>
          rw [flushed] at returned
          cases returned
          obtain ⟨none, same⟩ := complete output flushed
          exact ⟨none, fun _ => by rw [same]⟩
  | dropStream streamId =>
      exact ⟨[], [], [], [], Reaches.step (.dropped _ streamId _), List.nil_sublist _,
        List.nil_sublist _, fun result _ => ⟨rfl, fun impossible => by cases impossible⟩⟩
  | resetStream streamId errorCode =>
      exact ⟨[], [], [], [], reaches_resetStream engine config protocol streamId errorCode,
        List.nil_sublist _, List.nil_sublist _,
        fun result _ => ⟨rfl, fun impossible => by cases impossible⟩⟩
  | close errorCode =>
      exact ⟨[], [], [], [], reaches_close engine config protocol errorCode, List.nil_sublist _,
        List.nil_sublist _, fun result _ => ⟨rfl, fun impossible => by cases impossible⟩⟩

end Decomposition

end SmallServer.Http2Effects
