import SmallServer.Http2Guarantees

/-!
# Isolation of HTTP/2 streams

An event on a stream touches the records of that stream. Everything that can go wrong with
it ends in `_reset_stream`, which raises nothing, or in the constructor of `Request`, which
has no reason to: the records of a connection come from headers that were decoded. What is
left of the shared lists and counters is accounted for stream by stream.
-/

namespace SmallServer.Http2Isolation

open SmallServer HttpValues RequestParser Http2Frames Http2Protocol Http2Effects Runs

set_option autoImplicit false

def eventStream : Event → Option StreamId
  | .requestReceived streamId _ => some streamId
  | .dataReceived streamId _ _ => some streamId
  | .streamEnded streamId => some streamId
  | .streamReset streamId => some streamId
  | .trailersReceived streamId => some streamId
  | _ => none

section States

variable {σ : Type} (engine : Engine σ) (config : HTTP2Config)

/-- The states a protocol gets into, with the events reported so far: between two calls, and
within `receive_data` between two events. The engine and the frames may have moved on. -/
inductive Reachable : List Event → H2Protocol σ → Prop
  | new (connection : σ) : Reachable [] (H2Protocol.new connection)
  | called {events : List Event} {protocol : H2Protocol σ} (reachable : Reachable events protocol)
      (operation : Operation) :
      Reachable (events ++ operationEvents engine config protocol operation)
        (perform engine config protocol operation).2
  | advanced {events : List Event} {protocol : H2Protocol σ}
      (reachable : Reachable events protocol) (frames : FrameBudget) (connection : σ) :
      Reachable events { protocol with frames, connection }
  | handled {events : List Event} {protocol : H2Protocol σ}
      (reachable : Reachable events protocol) (event : Event) :
      Reachable (events ++ [event]) (handleEvent engine config protocol event).2
  | captured {events : List Event} {protocol : H2Protocol σ}
      (reachable : Reachable events protocol) :
      Reachable events (captureControlOutput engine config protocol).2

variable {engine config}

theorem reachable_of_run {connection : σ} {calls : List Call} {protocol : H2Protocol σ}
    (run : Run (Calls engine config) (H2Protocol.new connection) calls protocol) :
    Reachable engine config (reportedEvents calls) protocol := by
  have general : ∀ {start calls next}, Run (Calls engine config) start calls next →
      ∀ events, Reachable engine config events start →
        Reachable engine config (events ++ reportedEvents calls) next := by
    intro start calls next run
    induction run with
    | nil =>
        intro events reachable
        simpa [reportedEvents] using reachable
    | @snoc calls middle next call run step induction =>
        intro events reachable
        obtain ⟨performed, reported⟩ := step
        have grown := (induction events reachable).called call.operation
        rw [performed, ← reported, List.append_assoc] at grown
        simpa [reportedEvents] using grown
  simpa using general run [] (.new connection)

end States

section Records

/-- What the constructor of `Request` asks of a record. -/
structure Sound (stream : InboundStream) : Prop where
  method_token : isToken stream.method = true
  path_rooted : stream.path.head? = some '/'

/-- The records of a connection: fit for a request, and of streams that were requested. -/
def Grounded (requested : List StreamId) (inbound : OrderedDict StreamId InboundStream) : Prop :=
  ∀ streamId stream, inbound.lookup streamId = some stream →
    Sound stream ∧ streamId ∈ requested

variable {requested : List StreamId} {inbound : OrderedDict StreamId InboundStream}

theorem Grounded.more (grounded : Grounded requested inbound) (further : List StreamId) :
    Grounded (requested ++ further) inbound := fun streamId stream found =>
  ⟨(grounded streamId stream found).1,
    List.mem_append_left _ (grounded streamId stream found).2⟩

theorem Grounded.erase (grounded : Grounded requested inbound) (streamId : StreamId) :
    Grounded requested (inbound.erase streamId) := by
  intro other stream found
  rw [OrderedDict.lookup_erase_eq] at found
  split at found
  · cases found
  · exact grounded other stream found

theorem Grounded.set (grounded : Grounded requested inbound) {streamId : StreamId}
    {stream : InboundStream} (sound : Sound stream) (known : streamId ∈ requested) :
    Grounded requested (inbound.set streamId stream) := by
  intro other present found
  rw [OrderedDict.lookup_set_eq] at found
  split at found
  · rename_i same
    cases found
    exact ⟨sound, same ▸ known⟩
  · exact grounded other present found

theorem Grounded.rewrite (grounded : Grounded requested inbound) {streamId : StreamId}
    {old new : InboundStream} (found : inbound.lookup streamId = some old)
    (method : new.method = old.method) (path : new.path = old.path) :
    Grounded requested (inbound.set streamId new) := by
  obtain ⟨sound, known⟩ := grounded streamId old found
  exact grounded.set ⟨method ▸ sound.method_token, path ▸ sound.path_rooted⟩ known

variable {σ : Type} {engine : Engine σ} {config : HTTP2Config}

theorem grounded_dropStream {protocol : H2Protocol σ}
    (grounded : Grounded requested protocol.inbound) (streamId : StreamId) :
    Grounded requested (dropStream protocol streamId).inbound := by
  rw [dropStream_eq]
  exact grounded.erase streamId

theorem grounded_releaseInbound {protocol : H2Protocol σ}
    (grounded : Grounded requested protocol.inbound) (streamId : StreamId) :
    Grounded requested (releaseInbound protocol streamId).inbound := by
  rw [releaseInbound_eq]
  exact grounded.erase streamId

/-- No effect but an admission puts a record into the table. -/
theorem grounded_effect {work next : Work σ} {mark : Mark}
    (effect : Effect config work mark next) (quiet : mark.requestedStream = none)
    (grounded : Grounded requested work.protocol.inbound) :
    Grounded requested next.protocol.inbound := by
  cases effect with
  | accepted work streamId stream room empty waiting => cases quiet
  | dropped protocol streamId output => exact grounded_dropStream grounded streamId
  | stored work streamId stream content data found current bodyFits declaredFits bufferFits =>
      exact grounded.rewrite found rfl rfl
  | completed work streamId stream found => exact grounded.rewrite found rfl rfl
  | released protocol streamId => exact grounded_releaseInbound grounded streamId
  | refused protocol streamId => exact grounded_releaseInbound grounded streamId
  | queued protocol streamId response active fits =>
      exact grounded_releaseInbound grounded streamId
  | reset protocol streamId rest output => exact grounded_dropStream grounded streamId
  | failed protocol streamId response rest output =>
      rw [dropStream_eq]
      exact grounded.erase streamId
  | cleared protocol => exact fun streamId stream found => by cases found
  | engine | frames | terminated | cancelled | parked | returned | captured | taken | started
  | answered | moved | sent | finished | emitted => exact grounded

theorem grounded_reaches {work next : Work σ} {queued : List StreamId}
    (reached : Reaches config work [] queued next)
    (grounded : Grounded requested work.protocol.inbound) :
    Grounded requested next.protocol.inbound := by
  obtain ⟨marks, run, quiet, -⟩ := reached
  have unmarked : ∀ mark ∈ marks, mark.requestedStream = none :=
    List.filterMap_eq_nil_iff.mp quiet
  clear quiet
  induction run with
  | nil => exact grounded
  | @snoc marks middle next mark run effect induction =>
      have before := induction fun other member =>
        unmarked other (List.mem_append_left _ member)
      exact grounded_effect effect (unmarked mark (by simp)) before

variable (engine config) {protocol : H2Protocol σ}

theorem grounded_requestReceived (grounded : Grounded requested protocol.inbound)
    (streamId : StreamId) (rawHeaders : RawHeaders) :
    Grounded (requested ++ [streamId])
      (requestReceived engine config protocol streamId rawHeaders).inbound := by
  have dropped := (grounded_dropStream grounded streamId).more [streamId]
  rw [dropStream_eq] at dropped
  unfold requestReceived
  split
  · rw [resetStream, dropStream_eq]
    exact dropped
  · split
    · rw [resetStream, dropStream_eq]
      exact dropped
    · rename_i metadata decodes
      obtain ⟨scan, decoded⟩ := Http2Guarantees.decoded_of_ok decodes
      exact (grounded.more [streamId]).set ⟨decoded.method_token, decoded.path_rooted⟩
        (List.mem_append_right _ (List.mem_singleton.mpr rfl))

theorem grounded_handleEvent (grounded : Grounded requested protocol.inbound) (event : Event) :
    Grounded (requested ++ (requestedStream event).toList)
      (handleEvent engine config protocol event).2.inbound := by
  cases named : requestedStream event with
  | none =>
      obtain ⟨admitted, part, reached⟩ := reaches_handleEvent engine config protocol event
      rw [named] at part
      cases List.eq_nil_of_sublist_nil part
      exact (grounded_reaches reached grounded).more []
  | some streamId =>
      cases event with
      | requestReceived requested rawHeaders =>
          cases named
          exact grounded_requestReceived engine config grounded streamId rawHeaders
      | _ => cases named

theorem grounded_handleEvents (grounded : Grounded requested protocol.inbound)
    (events : List Event) :
    Grounded (requested ++ events.filterMap requestedStream)
      (handleEvents engine config protocol events).2.inbound := by
  induction events generalizing protocol requested with
  | nil => exact grounded.more []
  | cons event events induction =>
      have cut : requested ++ (event :: events).filterMap requestedStream =
          requested ++ (requestedStream event).toList ++ events.filterMap requestedStream := by
        rw [← List.singleton_append, List.filterMap_append, filterMap_single, List.append_assoc]
      have handled := grounded_handleEvent engine config grounded event
      rw [cut, handleEvents]
      rcases outcome : handleEvent engine config protocol event with ⟨raised | _, next⟩ <;>
        rw [outcome] at handled
      · exact handled.more _
      · exact induction handled

theorem grounded_captureControlOutput (grounded : Grounded requested protocol.inbound) :
    Grounded requested (captureControlOutput engine config protocol).2.inbound :=
  grounded_reaches (reaches_captureControlOutput engine config { protocol }) grounded

theorem grounded_receiveFrames (grounded : Grounded requested protocol.inbound)
    (wireChunks : List Bytes) :
    Grounded
      (requested ++ (frameEvents engine config protocol wireChunks).filterMap requestedStream)
      (receiveFrames engine config protocol wireChunks).2.inbound := by
  induction wireChunks generalizing protocol requested with
  | nil => exact grounded.more []
  | cons wireChunk wireChunks induction =>
      unfold frameEvents receiveFrames receiveFrame
      rcases engine.receiveData protocol.connection wireChunk with ⟨error | events, connection⟩
      · exact grounded.more _
      · have moved : Grounded requested { protocol with connection }.inbound := grounded
        have handled := grounded_handleEvents engine config moved events
        dsimp only
        rcases outcome : handleEvents engine config { protocol with connection } events with
          ⟨raised | _, next⟩ <;> rw [outcome] at handled
        · exact handled
        · have captured := grounded_captureControlOutput engine config handled
          dsimp only
          rcases result : captureControlOutput engine config next with ⟨raised | _, later⟩ <;>
            rw [result] at captured
          · exact captured
          · rw [List.filterMap_append, ← List.append_assoc]
            exact induction captured

theorem grounded_receiveData (grounded : Grounded requested protocol.inbound) (data : Bytes) :
    Grounded (requested ++ (operationEvents engine config protocol (.receiveData data)).filterMap
        requestedStream)
      (receiveData engine config protocol data).2.inbound := by
  rw [operationEvents]
  unfold receiveData
  generalize protocol.frames.feed config data = fedFrames
  obtain ⟨message | _, fed⟩ := fedFrames
  · exact grounded.more _
  · have cut : Grounded requested
        { protocol with frames := (fed.take config.readerFrameBatchSize).2 }.inbound := grounded
    have received := grounded_receiveFrames engine config cut
      (fed.take config.readerFrameBatchSize).1
    dsimp only
    rcases outcome : receiveFrames engine config
      { protocol with frames := (fed.take config.readerFrameBatchSize).2 }
      (fed.take config.readerFrameBatchSize).1 with ⟨raised | _, next⟩ <;>
        rw [outcome] at received
    · exact received
    · exact grounded_reaches (reaches_releaseReady config next) received

theorem grounded_perform (grounded : Grounded requested protocol.inbound)
    (operation : Operation) :
    Grounded
      (requested ++ (operationEvents engine config protocol operation).filterMap requestedStream)
      (perform engine config protocol operation).2.inbound := by
  by_cases receives : ∃ data, operation = .receiveData data
  · obtain ⟨data, rfl⟩ := receives
    exact grounded_receiveData engine config grounded data
  · -- Only `receive_data` reports events, so nothing else admits a stream.
    have silent : operationEvents engine config protocol operation = [] := by
      cases operation with
      | receiveData data => exact absurd ⟨data, rfl⟩ receives
      | _ => rfl
    obtain ⟨admitted, queued, rest, assembled, reached, part, -, -⟩ :=
      reaches_perform engine config protocol operation
    rw [silent] at part ⊢
    cases List.eq_nil_of_sublist_nil part
    exact (grounded_reaches reached grounded).more []

variable {engine config}

theorem Reachable.grounded {events : List Event}
    (reachable : Reachable engine config events protocol) :
    Grounded (events.filterMap requestedStream) protocol.inbound := by
  induction reachable with
  | new connection => exact fun streamId stream found => by cases found
  | called reachable operation induction =>
      rw [List.filterMap_append]
      exact grounded_perform engine config induction operation
  | advanced reachable frames connection induction => exact induction
  | handled reachable event induction =>
      rw [List.filterMap_append, filterMap_single]
      exact grounded_handleEvent engine config induction event
  | captured reachable induction => exact grounded_captureControlOutput engine config induction

end Records

section Isolation

variable {σ : Type}

def requestBytes (protocol : H2Protocol σ) (streamId : StreamId) : Int :=
  (protocol.inbound.lookup streamId).elim 0 inboundSize

def responseBytes (protocol : H2Protocol σ) (streamId : StreamId) : Int :=
  (protocol.outbound.lookup streamId).elim 0 OutboundStream.remaining +
    ((protocol.commands.filter (Command.isResponseOn streamId)).map Command.bodySize).sum

/-- Every other stream's records are as they were, in the order they had, and the pending
output has changed by what the stream itself has of it. -/
structure Isolated (streamId : StreamId) (before after : H2Protocol σ) : Prop where
  inbound : ∀ other, other ≠ streamId →
    after.inbound.lookup other = before.inbound.lookup other
  outbound : ∀ other, other ≠ streamId →
    after.outbound.lookup other = before.outbound.lookup other
  commands : after.commands.filter (fun command => command.streamId != streamId) =
    before.commands.filter fun command => command.streamId != streamId
  ready : after.readyRequests.filter (fun item => item.streamId != streamId) =
    before.readyRequests.filter fun item => item.streamId != streamId
  active : ∀ other, other ≠ streamId →
    (other ∈ after.activeStreams ↔ other ∈ before.activeStreams)
  pending : after.pendingOutputBytes - responseBytes after streamId =
    before.pendingOutputBytes - responseBytes before streamId

def Charged (streamId : StreamId) (before after : H2Protocol σ) : Prop :=
  after.bufferedRequestBytes - requestBytes after streamId =
    before.bufferedRequestBytes - requestBytes before streamId

variable {streamId : StreamId} {before middle after : H2Protocol σ}

theorem Isolated.refl : Isolated streamId before before :=
  ⟨fun _ _ => rfl, fun _ _ => rfl, rfl, rfl, fun _ _ => Iff.rfl, rfl⟩

theorem Isolated.trans (first : Isolated streamId before middle)
    (second : Isolated streamId middle after) : Isolated streamId before after where
  inbound other different := (second.inbound other different).trans (first.inbound other different)
  outbound other different :=
    (second.outbound other different).trans (first.outbound other different)
  commands := second.commands.trans first.commands
  ready := second.ready.trans first.ready
  active other different := (second.active other different).trans (first.active other different)
  pending := second.pending.trans first.pending

theorem isResponseOn_of_ne {command : Command} (different : command.streamId ≠ streamId) :
    command.isResponseOn streamId = false := by
  cases command with
  | reset other => rfl
  | response other response => exact beq_false_of_ne different

theorem isolated_dropStream (protocol : H2Protocol σ) (streamId : StreamId) :
    Isolated streamId protocol (dropStream protocol streamId) := by
  rw [dropStream_eq]
  constructor
  · exact fun other different => AList.lookup_erase_ne different
  · exact fun other different => AList.lookup_erase_ne different
  · dsimp only
    rw [List.filter_filter]
    refine List.filter_congr fun command _ => ?_
    by_cases same : command.streamId = streamId
    · rw [bne_eq_false_iff_eq.mpr same, Bool.false_and]
    · rw [isResponseOn_of_ne same, Bool.not_false, Bool.and_true]
  · dsimp only
    rw [List.filter_filter]
    simp only [Bool.and_self]
  · exact fun _ different => ⟨Finset.mem_of_mem_erase,
      fun member => Finset.mem_erase.mpr ⟨different, member⟩⟩
  · -- The stream has nothing left, and what it had has been charged back.
    have none : ((protocol.commands.filter fun command => !command.isResponseOn streamId).filter
        (Command.isResponseOn streamId)) = [] := by
      rw [List.filter_filter, List.filter_eq_nil_iff]
      intro command _
      simp
    simp only [responseBytes, none, AList.lookup_erase, Option.elim_none, List.map_nil,
      List.sum_nil]
    omega

theorem charged_dropStream (protocol : H2Protocol σ) (streamId : StreamId) :
    Charged streamId protocol (dropStream protocol streamId) := by
  rw [dropStream_eq]
  simp only [Charged, requestBytes, AList.lookup_erase, Option.elim_none]
  omega

theorem isolated_moved (protocol : H2Protocol σ) (streamId : StreamId) (connection : σ)
    (cancelledStreams : List StreamId) :
    Isolated streamId protocol { protocol with connection, cancelledStreams } :=
  ⟨fun _ _ => rfl, fun _ _ => rfl, rfl, rfl, fun _ _ => Iff.rfl, rfl⟩

theorem isolated_rewritten (protocol : H2Protocol σ) (stream : InboundStream) (buffered : Int)
    (last : StreamId) :
    Isolated streamId protocol { protocol with
      inbound := protocol.inbound.set streamId stream
      bufferedRequestBytes := buffered
      lastProcessedStreamId := last } :=
  ⟨fun _ different => OrderedDict.lookup_set_ne _ _ different, fun _ _ => rfl, rfl, rfl,
    fun _ _ => Iff.rfl, rfl⟩

variable (engine : Engine σ) (config : HTTP2Config) (protocol : H2Protocol σ)

/-- `_reset_stream` raises nothing, so it is where every refusal can end. -/
theorem isolated_resetStream (streamId : StreamId) (errorCode : ErrorCode) :
    Isolated streamId protocol (resetStream engine protocol streamId errorCode) ∧
      Charged streamId protocol (resetStream engine protocol streamId errorCode) :=
  ⟨(isolated_moved protocol streamId _ protocol.cancelledStreams).trans
    (isolated_dropStream _ streamId), charged_dropStream _ streamId⟩

theorem isolated_requestReceived (streamId : StreamId) (rawHeaders : RawHeaders) :
    Isolated streamId protocol (requestReceived engine config protocol streamId rawHeaders) ∧
      (streamId ∉ protocol.inbound →
        Charged streamId protocol
          (requestReceived engine config protocol streamId rawHeaders)) := by
  unfold requestReceived
  split
  · obtain ⟨isolated, charged⟩ := isolated_resetStream engine protocol streamId .refusedStream
    exact ⟨isolated, fun _ => charged⟩
  · split
    · obtain ⟨isolated, charged⟩ := isolated_resetStream engine protocol streamId .protocolError
      exact ⟨isolated, fun _ => charged⟩
    · constructor
      · exact ⟨fun _ different => OrderedDict.lookup_set_ne _ _ different, fun _ _ => rfl,
          rfl, rfl, fun _ different => Finset.mem_insert.trans (or_iff_right different), rfl⟩
      · intro fresh
        unfold Charged requestBytes
        rw [OrderedDict.lookup_set, AList.lookup_eq_none.mpr fresh]
        rfl

theorem isolated_storeData (streamId : StreamId) (data : Bytes) :
    Isolated streamId protocol (storeData engine config protocol streamId data) ∧
      Charged streamId protocol (storeData engine config protocol streamId data) := by
  unfold storeData
  split
  · exact ⟨Isolated.refl, rfl⟩
  · rename_i stream found
    dsimp only
    split
    · exact isolated_resetStream engine protocol streamId .enhanceYourCalm
    · split
      · exact isolated_resetStream engine protocol streamId .streamClosed
      · rename_i content current
        refine ⟨isolated_rewritten protocol _ _ _, ?_⟩
        simp only [Charged, requestBytes, OrderedDict.lookup_set, found, Option.elim_some,
          inboundSize, current, InboundBody.content, List.length_append, Nat.cast_add]
        omega

theorem Sound.builds {stream : InboundStream} (sound : Sound stream) (body : Bytes) :
    ∃ request, Request.build stream.method stream.path stream.headers body "HTTP/2".toList none
      [] [] none = .ok request := by
  have target : Request.resolveTarget stream.path none [] = stream.path := by
    simp [Request.resolveTarget]
  exact ⟨_, Request.build_eq_ok sound.method_token (by rw [target]; exact sound.path_rooted)
    (by simp [Request.fieldsAgree])⟩

theorem isolated_streamEnded {requested : List StreamId}
    (grounded : Grounded requested protocol.inbound) (streamId : StreamId) :
    ∃ completed after, streamEnded engine protocol streamId = (.ok completed, after) ∧
      (∀ item, completed = some item → item.streamId = streamId) ∧
      Isolated streamId protocol after ∧ Charged streamId protocol after := by
  unfold streamEnded
  split
  · exact ⟨none, protocol, rfl, fun item impossible => (by cases impossible), Isolated.refl, rfl⟩
  · rename_i stream found
    split
    · exact ⟨none, _, rfl, fun item impossible => (by cases impossible),
        isolated_resetStream engine protocol streamId .protocolError⟩
    · obtain ⟨request, built⟩ :=
        (grounded streamId stream found).1.builds stream.body.content
      dsimp only
      rw [built]
      refine ⟨some { streamId, request }, _, rfl, fun item same => (by cases same; rfl),
        isolated_rewritten protocol _ _ _, ?_⟩
      simp only [Charged, requestBytes, OrderedDict.lookup_set, found, Option.elim_some,
        inboundSize, InboundBody.content]

theorem isolated_handleEvent {requested : List StreamId}
    (grounded : Grounded requested protocol.inbound)
    (acknowledged : ∀ connection length streamId,
      (engine.acknowledgeReceivedData connection length streamId).1 = .ok ())
    {event : Event} (about : eventStream event = some streamId) :
    ∃ after, handleEvent engine config protocol event = (.ok (), after) ∧
      Isolated streamId protocol after ∧
      ((requestedStream event = some streamId → streamId ∉ requested) →
        Charged streamId protocol after) := by
  cases event with
  | requestReceived other rawHeaders =>
      cases about
      obtain ⟨isolated, charged⟩ :=
        isolated_requestReceived engine config protocol streamId rawHeaders
      refine ⟨_, rfl, isolated, fun fresh => charged fun member => ?_⟩
      obtain ⟨stream, found⟩ := Option.isSome_iff_exists.mp (AList.lookup_isSome.mpr member)
      exact fresh rfl (grounded streamId stream found).2
  | dataReceived other data flowLength =>
      cases about
      obtain ⟨connection, answered⟩ : ∃ connection, engine.acknowledgeReceivedData
          protocol.connection flowLength streamId = (.ok (), connection) :=
        ⟨_, Prod.ext (acknowledged _ _ _) rfl⟩
      unfold handleEvent dataReceived
      dsimp only
      rw [answered]
      obtain ⟨isolated, charged⟩ :=
        isolated_storeData engine config { protocol with connection } streamId data
      have moved := isolated_moved protocol streamId connection protocol.cancelledStreams
      exact ⟨_, rfl, moved.trans isolated, fun _ => charged⟩
  | streamEnded other =>
      cases about
      obtain ⟨completed, next, ended, named, isolated, charged⟩ :=
        isolated_streamEnded engine protocol grounded streamId
      unfold handleEvent
      dsimp only
      rw [ended]
      match completed, named with
      | none, _ => exact ⟨next, rfl, isolated, fun _ => charged⟩
      | some item, named =>
          have own : item.streamId = streamId := named item rfl
          refine ⟨_, rfl, isolated.trans ⟨fun _ _ => rfl, fun _ _ => rfl, rfl, ?_,
            fun _ _ => Iff.rfl, rfl⟩, fun _ => charged⟩
          dsimp only
          rw [List.filter_append]
          simp [own]
  | streamReset other =>
      cases about
      have noted := isolated_moved protocol streamId protocol.connection
        (protocol.cancelledStreams ++ [streamId])
      exact ⟨_, rfl, noted.trans (isolated_dropStream _ streamId),
        fun _ => charged_dropStream _ streamId⟩
  | trailersReceived other =>
      cases about
      obtain ⟨isolated, charged⟩ := isolated_resetStream engine protocol streamId .protocolError
      exact ⟨_, rfl, isolated, fun _ => charged⟩
  | connectionTerminated | windowUpdated | remoteSettingsChanged | ignored => cases about

end Isolation

section Connections

variable {σ : Type} {engine : Engine σ} {config : HTTP2Config}

theorem handleEvent_quiet {requested : List StreamId} {protocol : H2Protocol σ}
    (grounded : Grounded requested protocol.inbound)
    (acknowledged : ∀ connection length streamId,
      (engine.acknowledgeReceivedData connection length streamId).1 = .ok ()) (event : Event) :
    (handleEvent engine config protocol event).1 = .ok () := by
  cases about : eventStream event with
  | some streamId =>
      obtain ⟨after, handled, -, -⟩ :=
        isolated_handleEvent engine config protocol grounded acknowledged about
      rw [handled]
  | none =>
      cases event with
      | connectionTerminated | windowUpdated | remoteSettingsChanged | ignored => rfl
      | _ => cases about

theorem handleEvents_quiet {requested : List StreamId} {protocol : H2Protocol σ}
    (grounded : Grounded requested protocol.inbound)
    (acknowledged : ∀ connection length streamId,
      (engine.acknowledgeReceivedData connection length streamId).1 = .ok ())
    (events : List Event) : (handleEvents engine config protocol events).1 = .ok () := by
  induction events generalizing requested protocol with
  | nil => rfl
  | cons event events induction =>
      have quiet : (handleEvent engine config protocol event).1 = .ok () :=
        handleEvent_quiet grounded acknowledged event
      have handled := grounded_handleEvent engine config grounded event
      obtain ⟨next, done⟩ : ∃ next, handleEvent engine config protocol event = (.ok (), next) :=
        ⟨_, Prod.ext quiet rfl⟩
      rw [done] at handled
      rw [handleEvents, done]
      exact induction handled

theorem captureControlOutput_raises {protocol : H2Protocol σ} {raised : Raised}
    (failed : (captureControlOutput engine config protocol).1 = .error raised) :
    raised = .valueError "HTTP/2 control output exceeds configured maximum" := by
  unfold captureControlOutput at failed
  dsimp only at failed
  split at failed
  · cases failed
    rfl
  · cases failed

theorem receiveFrames_raises {requested : List StreamId} {protocol : H2Protocol σ}
    (grounded : Grounded requested protocol.inbound)
    (acknowledged : ∀ connection length streamId,
      (engine.acknowledgeReceivedData connection length streamId).1 = .ok ())
    {wireChunks : List Bytes} {raised : Raised}
    (failed : (receiveFrames engine config protocol wireChunks).1 = .error raised) :
    (∃ connection wireChunk error, (engine.receiveData connection wireChunk).1 = .error error ∧
        raised = .engineError error) ∨
      raised = .valueError "HTTP/2 control output exceeds configured maximum" := by
  induction wireChunks generalizing requested protocol with
  | nil => cases failed
  | cons wireChunk wireChunks induction =>
      unfold receiveFrames receiveFrame at failed
      rcases received : engine.receiveData protocol.connection wireChunk with
        ⟨error | events, connection⟩
      · rw [received] at failed
        cases failed
        exact Or.inl ⟨protocol.connection, wireChunk, error, congrArg Prod.fst received, rfl⟩
      · rw [received] at failed
        have moved : Grounded requested { protocol with connection }.inbound := grounded
        have quiet : (handleEvents engine config { protocol with connection } events).1 =
            .ok () := handleEvents_quiet moved acknowledged events
        have handled := grounded_handleEvents engine config moved events
        obtain ⟨next, done⟩ : ∃ next,
            handleEvents engine config { protocol with connection } events = (.ok (), next) :=
          ⟨_, Prod.ext quiet rfl⟩
        rw [done] at handled
        dsimp only at failed
        rw [done] at failed
        dsimp only at failed
        have captured := grounded_captureControlOutput engine config handled
        rcases kept : captureControlOutput engine config next with ⟨error | _, later⟩
        · rw [kept] at failed
          cases failed
          exact Or.inr (captureControlOutput_raises (congrArg Prod.fst kept))
        · rw [kept] at failed captured
          exact induction captured failed

/-- Why `receive_data` raises: the frames are refused, the engine refuses one, or its answer is
too long. No event on a stream is a reason. -/
theorem receiveData_raises {events : List Event} {protocol : H2Protocol σ}
    (reachable : Reachable engine config events protocol)
    (acknowledged : ∀ connection length streamId,
      (engine.acknowledgeReceivedData connection length streamId).1 = .ok ())
    {data : Bytes} {raised : Raised}
    (failed : (receiveData engine config protocol data).1 = .error raised) :
    (∃ message, (protocol.frames.feed config data).1 = .error message ∧
        raised = .valueError message) ∨
      (∃ connection wireChunk error, (engine.receiveData connection wireChunk).1 = .error error ∧
        raised = .engineError error) ∨
      raised = .valueError "HTTP/2 control output exceeds configured maximum" := by
  unfold receiveData at failed
  rcases fed : protocol.frames.feed config data with ⟨message | _, frames⟩
  · rw [fed] at failed
    cases failed
    exact Or.inl ⟨message, rfl, rfl⟩
  · rw [fed] at failed
    dsimp only at failed
    have cut : Grounded (events.filterMap requestedStream)
        { protocol with frames := (frames.take config.readerFrameBatchSize).2 }.inbound :=
      reachable.grounded
    rcases outcome : receiveFrames engine config
      { protocol with frames := (frames.take config.readerFrameBatchSize).2 }
      (frames.take config.readerFrameBatchSize).1 with ⟨error | _, next⟩ <;>
        rw [outcome] at failed
    · cases failed
      exact Or.inr (receiveFrames_raises cut acknowledged (congrArg Prod.fst outcome))
    · cases failed

/-- An event on a stream raises nothing and leaves the other streams alone, in every state the
protocol gets into; and the buffer stays counted as long as a stream is requested once, which
is what the engine reports. -/
theorem streams_isolated (engine : Engine σ) (config : HTTP2Config)
    (acknowledged : ∀ connection length streamId,
      (engine.acknowledgeReceivedData connection length streamId).1 = .ok ())
    (events : List Event) (protocol : H2Protocol σ)
    (reachable : Reachable engine config events protocol) (event : Event) (streamId : StreamId)
    (about : eventStream event = some streamId) :
    ∃ after, handleEvent engine config protocol event = (.ok (), after) ∧
      Isolated streamId protocol after ∧
      (((events ++ [event]).filterMap requestedStream).Nodup →
        Charged streamId protocol after) := by
  obtain ⟨after, handled, isolated, charged⟩ :=
    isolated_handleEvent engine config protocol reachable.grounded acknowledged about
  refine ⟨after, handled, isolated, fun once => charged fun named known => ?_⟩
  rw [List.filterMap_append, filterMap_single, named] at once
  exact (List.nodup_append.mp once).2.2 streamId known streamId (List.mem_singleton.mpr rfl) rfl

end Connections

section Samples

def sampleRun : List Call × H2Protocol Script :=
  performAll (scripted 40) HTTP2Config.standard (H2Protocol.new sampleStart)
    [.receiveData clientPreface, .queueResponse 1 (sampleResponse [104, 105])]

/-- DATA after the end of the second request: its stream is reset, the answer stays queued. -/
theorem streams_isolated_sample :
    ∃ after, handleEvent (scripted 40) HTTP2Config.standard sampleRun.2
        (.dataReceived 3 [120] 1) = (.ok (), after) ∧
      Isolated 3 sampleRun.2 after ∧ Charged 3 sampleRun.2 after := by
  obtain ⟨after, handled, isolated, charged⟩ :=
    streams_isolated (scripted 40) HTTP2Config.standard (fun _ _ _ => rfl)
      (reportedEvents sampleRun.1) sampleRun.2
      (reachable_of_run (run_performAll _ _ _ _)) (.dataReceived 3 [120] 1) 3 rfl
  exact ⟨after, handled, isolated, charged (by decide +kernel)⟩

end Samples

end SmallServer.Http2Isolation
