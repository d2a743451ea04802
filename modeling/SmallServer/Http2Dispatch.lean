import SmallServer.Http2Batches
import SmallServer.Http2Effects

/-!
# Dispatch of HTTP/2 requests

What `receive_data` returns, against the history of a run: its calls and the events
the engine reported, in order. A request is collected from its request event on,
parked at its end event, and returned unless its stream left in between. Each event
keeps the correspondence between the history, the tables and the parked requests.
-/

namespace SmallServer.Http2Dispatch

open SmallServer HttpValues Http2Frames Http2Protocol Http2Effects Http2Batches Runs

set_option autoImplicit false

section History

/-- An entry of a run's history. -/
inductive Occurrence where
  | called (operation : Operation)
  | reported (event : Event)
deriving DecidableEq

def Occurrence.event : Occurrence → Option Event
  | .called _ => none
  | .reported event => some event

/-- A call comes before the events the engine reports in it. -/
def callOccurrences (call : Call) : List Occurrence :=
  .called call.operation :: call.events.map .reported

def history (calls : List Call) : List Occurrence := calls.flatMap callOccurrences

def endedStream : Event → Option StreamId
  | .streamEnded streamId => some streamId
  | _ => none

def endedStreams (calls : List Call) : List StreamId :=
  (reportedEvents calls).filterMap endedStream

/-- The events and calls that take a stream down. -/
def Occurrence.Drops (streamId : StreamId) : Occurrence → Prop
  | .reported (.streamReset other) | .reported (.trailersReceived other) => other = streamId
  | .called (.dropStream other) | .called (.resetStream other _) => other = streamId
  | .called (.close _) => True
  | _ => False

def Occurrence.payload (streamId : StreamId) : Occurrence → Option Bytes
  | .reported (.dataReceived other data _) => if other = streamId then some data else none
  | _ => none

def payloads (streamId : StreamId) (occurrences : List Occurrence) : Bytes :=
  (occurrences.filterMap (Occurrence.payload streamId)).flatten

def Answered (occurrences : List Occurrence) (streamId : StreamId) : Prop :=
  ∃ response, .called (.queueResponse streamId response) ∈ occurrences

/-- What stands behind a request that is handed out: its request event, the DATA events
up to its end event, and nothing that takes the stream down since. Payloads after the
end could only follow a response queued too early. -/
def Dispatched (config : HTTP2Config) (occurrences : List Occurrence) (item : H2ReadyRequest) :
    Prop :=
  ∃ before headers collected later metadata,
    occurrences = before ++ .reported (.requestReceived item.streamId headers) :: collected ++
      .reported (.streamEnded item.streamId) :: later ∧
    (∀ occurrence ∈ collected ++ later, ¬ occurrence.Drops item.streamId) ∧
    ((∃ occurrence ∈ later, occurrence.payload item.streamId ≠ none) →
      Answered occurrences item.streamId) ∧
    decodeRequestHeaders config headers = .ok metadata ∧
    Request.build metadata.method metadata.path metadata.headers
      (payloads item.streamId collected) "HTTP/2".toList none [] [] none = .ok item.request ∧
    item.request.body = payloads item.streamId collected ∧
    ∀ expected, metadata.contentLength = some expected →
      item.request.body.length = expected

/-- A stream record whose body is still being collected. -/
def collectedStream (metadata : RequestMetadata) (content : Bytes) : InboundStream where
  method := metadata.method
  path := metadata.path
  headers := metadata.headers
  body := .bytearray content
  expectedContentLength := metadata.contentLength
  dispatched := false

def Collecting (config : HTTP2Config) (occurrences : List Occurrence) (streamId : StreamId)
    (stream : InboundStream) : Prop :=
  ∃ before headers collected metadata,
    occurrences = before ++ .reported (.requestReceived streamId headers) :: collected ∧
    (∀ occurrence ∈ collected, ¬ occurrence.Drops streamId) ∧
    decodeRequestHeaders config headers = .ok metadata ∧
    stream = collectedStream metadata (payloads streamId collected)

end History

section Invariant

variable {config : HTTP2Config} {occurrences : List Occurrence} {occurrence : Occurrence}
  {streamId : StreamId} {stream : InboundStream} {item : H2ReadyRequest}

theorem payloads_append (streamId : StreamId) (first second : List Occurrence) :
    payloads streamId (first ++ second) = payloads streamId first ++ payloads streamId second := by
  rw [payloads, List.filterMap_append, List.flatten_append]
  rfl

theorem Answered.snoc (answered : Answered occurrences streamId) (occurrence : Occurrence) :
    Answered (occurrences ++ [occurrence]) streamId := by
  obtain ⟨response, member⟩ := answered
  exact ⟨response, List.mem_append_left _ member⟩

theorem Collecting.snoc (collecting : Collecting config occurrences streamId stream)
    (stays : ¬ occurrence.Drops streamId) (quiet : occurrence.payload streamId = none) :
    Collecting config (occurrences ++ [occurrence]) streamId stream := by
  obtain ⟨before, headers, collected, metadata, same, undropped, decoded, record⟩ := collecting
  refine ⟨before, headers, collected ++ [occurrence], metadata, ?_, ?_, decoded, ?_⟩
  · rw [same, List.append_assoc, List.cons_append]
  · intro other member
    rcases List.mem_append.mp member with earlier | last
    · exact undropped other earlier
    · rw [List.mem_singleton.mp last]
      exact stays
  · have nothing : payloads streamId [occurrence] = [] := by
      rw [payloads, filterMap_single, quiet]
      rfl
    rw [record, payloads_append, nothing, List.append_nil]

theorem Dispatched.snoc (dispatched : Dispatched config occurrences item)
    (stays : ¬ occurrence.Drops item.streamId)
    (quiet : occurrence.payload item.streamId = none ∨ Answered occurrences item.streamId) :
    Dispatched config (occurrences ++ [occurrence]) item := by
  obtain ⟨before, headers, collected, later, metadata, same, undropped, early, decoded, built,
    whole, declared⟩ := dispatched
  refine ⟨before, headers, collected, later ++ [occurrence], metadata, ?_, ?_, ?_, decoded, built,
    whole, declared⟩
  · rw [same]
    simp only [List.append_assoc, List.cons_append]
  · intro other member
    rw [← List.append_assoc] at member
    rcases List.mem_append.mp member with earlier | last
    · exact undropped other earlier
    · rw [List.mem_singleton.mp last]
      exact stays
  · intro late
    obtain ⟨other, member, some⟩ := late
    rcases List.mem_append.mp member with earlier | last
    · exact (early ⟨other, earlier, some⟩).snoc occurrence
    · rw [List.mem_singleton.mp last] at some
      exact (quiet.resolve_left some).snoc occurrence

theorem Dispatched.requested (dispatched : Dispatched config occurrences item) :
    ∃ headers, .reported (.requestReceived item.streamId headers) ∈ occurrences := by
  obtain ⟨before, headers, collected, later, metadata, same, -⟩ := dispatched
  refine ⟨headers, ?_⟩
  rw [same, List.append_assoc]
  exact List.mem_append_right _ List.mem_cons_self

/-- The history against the request bodies and the parked requests; `returned` are the
streams of the requests handed out so far. -/
structure Tracked (config : HTTP2Config) (occurrences : List Occurrence)
    (returned : List StreamId) (inbound : OrderedDict StreamId InboundStream)
    (parked : List H2ReadyRequest) : Prop where
  collecting : ∀ streamId stream, inbound.lookup streamId = some stream →
    stream.dispatched = false → Collecting config occurrences streamId stream
  completed : ∀ streamId stream, inbound.lookup streamId = some stream →
    stream.dispatched = true → (∃ content, stream.body = .bytes content) ∧
      .reported (.streamEnded streamId) ∈ occurrences
  dispatched : ∀ item ∈ parked, Dispatched config occurrences item
  charged : ∀ item ∈ parked, item.streamId ∈ inbound ∨ Answered occurrences item.streamId
  frozen : ∀ item ∈ parked, ∀ stream, inbound.lookup item.streamId = some stream →
    stream.dispatched = true
  once : (returned ++ parked.map H2ReadyRequest.streamId).Nodup
  ended : ∀ streamId ∈ returned ++ parked.map H2ReadyRequest.streamId,
    .reported (.streamEnded streamId) ∈ occurrences

variable {returned : List StreamId} {inbound fewer : OrderedDict StreamId InboundStream}
  {parked left : List H2ReadyRequest}

/-- An occurrence that takes no tracked stream down, and whose payload goes to a stream
without a record. -/
theorem Tracked.snoc (tracked : Tracked config occurrences returned inbound parked)
    (stays : ∀ streamId, streamId ∈ inbound ∨ streamId ∈ parked.map H2ReadyRequest.streamId →
      ¬ occurrence.Drops streamId)
    (quiet : ∀ streamId ∈ inbound, occurrence.payload streamId = none) :
    Tracked config (occurrences ++ [occurrence]) returned inbound parked where
  collecting := fun streamId stream found waiting =>
    have present := OrderedDict.mem_of_lookup found
    (tracked.collecting streamId stream found waiting).snoc (stays streamId (Or.inl present))
      (quiet streamId present)
  completed := fun streamId stream found waiting =>
    (tracked.completed streamId stream found waiting).imp_right fun member =>
      List.mem_append_left _ member
  dispatched := fun item member =>
    (tracked.dispatched item member).snoc
      (stays item.streamId (Or.inr (List.mem_map.mpr ⟨item, member, rfl⟩)))
      ((tracked.charged item member).imp_left fun present => quiet item.streamId present)
  charged := fun item member =>
    (tracked.charged item member).imp_right fun answered => answered.snoc occurrence
  frozen := tracked.frozen
  once := tracked.once
  ended := fun streamId member => List.mem_append_left _ (tracked.ended streamId member)

/-- Records and parked requests may go, a record not before its request unless a
response has been queued. -/
theorem Tracked.shed (tracked : Tracked config occurrences returned inbound parked)
    (entries : ∀ streamId ∈ fewer, fewer.lookup streamId = inbound.lookup streamId)
    (part : left.Sublist parked)
    (together : ∀ item ∈ left, item.streamId ∈ inbound →
      item.streamId ∈ fewer ∨ Answered occurrences item.streamId) :
    Tracked config occurrences returned fewer left := by
  have kept : ∀ streamId stream, fewer.lookup streamId = some stream →
      inbound.lookup streamId = some stream := by
    intro streamId stream found
    rw [← entries streamId (OrderedDict.mem_of_lookup found)]
    exact found
  have streams : (returned ++ left.map H2ReadyRequest.streamId).Sublist
      (returned ++ parked.map H2ReadyRequest.streamId) :=
    List.Sublist.append_left (List.Sublist.map _ part) _
  constructor
  · intro streamId stream found
    exact tracked.collecting streamId stream (kept streamId stream found)
  · intro streamId stream found
    exact tracked.completed streamId stream (kept streamId stream found)
  · intro item member
    exact tracked.dispatched item (part.subset member)
  · intro item member
    rcases tracked.charged item (part.subset member) with present | answered
    · exact together item member present
    · exact Or.inr answered
  · intro item member stream found
    exact tracked.frozen item (part.subset member) stream (kept item.streamId stream found)
  · exact tracked.once.sublist streams
  · intro streamId member
    exact tracked.ended streamId (streams.subset member)

theorem Tracked.drop (tracked : Tracked config occurrences returned inbound parked)
    (streamId : StreamId) :
    Tracked config occurrences returned (inbound.erase streamId)
      (parked.filter fun item => item.streamId != streamId) := by
  apply tracked.shed
  · intro other member
    exact AList.lookup_erase_ne (AList.mem_erase.mp member).1
  · exact List.filter_sublist
  · intro item member present
    have different : item.streamId ≠ streamId := by simpa using (List.mem_filter.mp member).2
    exact Or.inl (AList.mem_erase.mpr ⟨different, present⟩)

theorem Tracked.forget (tracked : Tracked config occurrences returned inbound parked)
    (apart : ∀ item ∈ parked, item.streamId ≠ streamId) :
    Tracked config occurrences returned (inbound.erase streamId) parked := by
  apply tracked.shed
  · intro other member
    exact AList.lookup_erase_ne (AList.mem_erase.mp member).1
  · exact List.Sublist.refl parked
  · intro item member present
    exact Or.inl (AList.mem_erase.mpr ⟨apart item member, present⟩)

theorem Tracked.collect
    (tracked : Tracked config occurrences returned (inbound.erase streamId) parked)
    (apart : ∀ item ∈ parked, item.streamId ≠ streamId)
    (collecting : Collecting config occurrences streamId stream)
    (waiting : stream.dispatched = false) :
    Tracked config occurrences returned (inbound.set streamId stream) parked := by
  have others : ∀ other, other ≠ streamId →
      (inbound.set streamId stream).lookup other = (inbound.erase streamId).lookup other := by
    intro other different
    rw [OrderedDict.lookup_set_ne _ _ different, AList.lookup_erase_ne different]
  constructor
  · intro other record found
    by_cases same : other = streamId
    · subst same
      rw [OrderedDict.lookup_set] at found
      cases found
      exact fun _ => collecting
    · rw [others other same] at found
      exact tracked.collecting other record found
  · intro other record found
    by_cases same : other = streamId
    · subst same
      rw [OrderedDict.lookup_set] at found
      cases found
      rw [waiting]
      intro impossible
      cases impossible
    · rw [others other same] at found
      exact tracked.completed other record found
  · exact tracked.dispatched
  · intro item member
    exact (tracked.charged item member).imp_left fun present =>
      OrderedDict.mem_set.mpr (Or.inr (AList.mem_erase.mp present).2)
  · intro item member record found
    rw [others item.streamId (apart item member)] at found
    exact tracked.frozen item member record found
  · exact tracked.once
  · exact tracked.ended

theorem Tracked.complete {request : Request}
    (tracked : Tracked config occurrences returned inbound parked)
    (found : inbound.lookup streamId = some stream) (waiting : stream.dispatched = false)
    (fresh : .reported (.streamEnded streamId) ∉ occurrences)
    (declared : missesDeclared stream = false)
    (built : Request.build stream.method stream.path stream.headers stream.body.content
      "HTTP/2".toList none [] [] none = .ok request) :
    Tracked config (occurrences ++ [.reported (.streamEnded streamId)]) returned
      (inbound.set streamId
        { stream with body := .bytes stream.body.content, dispatched := true })
      (parked ++ [⟨streamId, request⟩]) := by
  have after : Tracked config (occurrences ++ [.reported (.streamEnded streamId)]) returned
      inbound parked := tracked.snoc (fun _ _ => id) fun _ _ => rfl
  have unreturned : streamId ∉ returned ++ parked.map H2ReadyRequest.streamId :=
    fun member => fresh (tracked.ended streamId member)
  have apart : ∀ item ∈ parked, item.streamId ≠ streamId := by
    intro item member same
    apply unreturned
    rw [← same]
    exact List.mem_append_right _ (List.mem_map.mpr ⟨item, member, rfl⟩)
  have ended : .reported (.streamEnded streamId) ∈
      occurrences ++ [.reported (.streamEnded streamId)] :=
    List.mem_append_right _ List.mem_cons_self
  have dispatched : Dispatched config (occurrences ++ [.reported (.streamEnded streamId)])
      ⟨streamId, request⟩ := by
    obtain ⟨before, headers, collected, metadata, same, undropped, decoded, record⟩ :=
      tracked.collecting streamId stream found waiting
    rw [record] at built declared
    refine ⟨before, headers, collected, [], metadata, ?_, ?_, ?_, decoded, built,
      Request.build_body built, ?_⟩
    · rw [same]
    · rw [List.append_nil]
      exact undropped
    · intro late
      obtain ⟨other, member, -⟩ := late
      cases member
    · intro expected length
      rw [Request.build_body built]
      simpa [missesDeclared, collectedStream, InboundBody.content, length] using declared
  constructor
  · intro other record here
    rw [OrderedDict.lookup_set_eq] at here
    split at here
    · cases here
      intro impossible
      cases impossible
    · exact after.collecting other record here
  · intro other record here
    rw [OrderedDict.lookup_set_eq] at here
    split at here
    · rename_i same
      cases here
      rw [same]
      exact fun _ => ⟨⟨_, rfl⟩, ended⟩
    · exact after.completed other record here
  · intro item member
    rcases List.mem_append.mp member with earlier | last
    · exact after.dispatched item earlier
    · rw [List.mem_singleton.mp last]
      exact dispatched
  · intro item member
    rcases List.mem_append.mp member with earlier | last
    · exact (after.charged item earlier).imp_left fun present =>
        OrderedDict.mem_set.mpr (Or.inr present)
    · rw [List.mem_singleton.mp last]
      exact Or.inl (OrderedDict.mem_set.mpr (Or.inl rfl))
  · intro item member record here
    rcases List.mem_append.mp member with earlier | last
    · rw [OrderedDict.lookup_set_ne _ _ (apart item earlier)] at here
      exact after.frozen item earlier record here
    · rw [List.mem_singleton.mp last, OrderedDict.lookup_set] at here
      cases here
      rfl
  · rw [List.map_append, ← List.append_assoc]
    apply List.Nodup.append tracked.once (List.nodup_singleton streamId)
    intro other member last
    rw [List.mem_singleton.mp last] at member
    exact unreturned member
  · intro other member
    rw [List.map_append, ← List.append_assoc] at member
    rcases List.mem_append.mp member with earlier | last
    · exact after.ended other earlier
    · rw [List.mem_singleton.mp last]
      exact ended

theorem Tracked.handOut (tracked : Tracked config occurrences returned inbound parked)
    (part : left.Sublist parked) :
    Tracked config occurrences (returned ++ left.map H2ReadyRequest.streamId) inbound [] := by
  have streams : (returned ++ left.map H2ReadyRequest.streamId).Sublist
      (returned ++ parked.map H2ReadyRequest.streamId) :=
    List.Sublist.append_left (List.Sublist.map _ part) _
  constructor
  · exact tracked.collecting
  · exact tracked.completed
  · intro item member
    cases member
  · intro item member
    cases member
  · intro item member
    cases member
  · rw [List.map_nil, List.append_nil]
    exact tracked.once.sublist streams
  · intro streamId member
    rw [List.map_nil, List.append_nil] at member
    exact tracked.ended streamId (streams.subset member)

end Invariant

section Events

variable {σ : Type} {engine : Engine σ} {config : HTTP2Config} {occurrences : List Occurrence}
  {returned : List StreamId} {protocol next : H2Protocol σ} {streamId : StreamId}

def Follows (config : HTTP2Config) (occurrences : List Occurrence) (returned : List StreamId)
    (protocol : H2Protocol σ) : Prop :=
  Tracked config occurrences returned protocol.inbound protocol.readyRequests

/-- An event or a call that takes down nothing and stores nothing. -/
def Occurrence.Quiet (occurrence : Occurrence) : Prop :=
  ∀ streamId, ¬ occurrence.Drops streamId ∧ occurrence.payload streamId = none

theorem Follows.quiet {occurrence : Occurrence}
    (follows : Follows config occurrences returned protocol) (quiet : occurrence.Quiet) :
    Follows config (occurrences ++ [occurrence]) returned protocol :=
  Tracked.snoc follows (fun streamId _ => (quiet streamId).1)
    fun streamId _ => (quiet streamId).2

theorem Follows.dropStream {occurrence : Occurrence}
    (follows : Follows config occurrences returned protocol) (streamId : StreamId)
    (mine : ∀ other, other ≠ streamId →
      ¬ occurrence.Drops other ∧ occurrence.payload other = none) :
    Follows config (occurrences ++ [occurrence]) returned (dropStream protocol streamId) := by
  have dropped := Tracked.drop follows streamId
  rw [dropStream_eq]
  apply Tracked.snoc dropped
  · intro other place
    apply fun different => (mine other different).1
    rcases place with present | waiting
    · exact (AList.mem_erase.mp present).1
    · obtain ⟨item, member, same⟩ := List.mem_map.mp waiting
      rw [← same]
      simpa using (List.mem_filter.mp member).2
  · intro other present
    exact (mine other (AList.mem_erase.mp present).1).2

theorem Follows.resetStream {occurrence : Occurrence}
    (follows : Follows config occurrences returned protocol) (streamId : StreamId)
    (errorCode : ErrorCode)
    (mine : ∀ other, other ≠ streamId →
      ¬ occurrence.Drops other ∧ occurrence.payload other = none) :
    Follows config (occurrences ++ [occurrence]) returned
      (resetStream engine protocol streamId errorCode) := by
  have told : Follows config occurrences returned { protocol with
      connection := (engine.resetStream protocol.connection streamId errorCode).2 } := follows
  exact told.dropStream streamId mine

theorem requestEvent_quiet (streamId : StreamId) (headers : RawHeaders) :
    (Occurrence.reported (.requestReceived streamId headers)).Quiet :=
  fun _ => ⟨id, rfl⟩

theorem endEvent_quiet (streamId : StreamId) :
    (Occurrence.reported (.streamEnded streamId)).Quiet :=
  fun _ => ⟨id, rfl⟩

theorem Follows.requestReceived {headers : RawHeaders}
    (follows : Follows config occurrences returned protocol)
    (fresh : ∀ earlier, .reported (.requestReceived streamId earlier) ∉ occurrences) :
    Follows config (occurrences ++ [.reported (.requestReceived streamId headers)]) returned
      (requestReceived engine config protocol streamId headers) := by
  have quiet := requestEvent_quiet streamId headers
  unfold Http2Protocol.requestReceived
  split
  · exact follows.resetStream streamId _ fun other _ => quiet other
  · split
    · exact follows.resetStream streamId _ fun other _ => quiet other
    · rename_i metadata decoded
      have opened : Collecting config
          (occurrences ++ [.reported (.requestReceived streamId headers)]) streamId
          (collectedStream metadata []) :=
        ⟨occurrences, headers, [], metadata, rfl, fun _ member => absurd member List.not_mem_nil,
          decoded, rfl⟩
      have apart : ∀ item ∈ protocol.readyRequests, item.streamId ≠ streamId := by
        intro item member same
        obtain ⟨earlier, requested⟩ := (follows.dispatched item member).requested
        rw [same] at requested
        exact fresh earlier requested
      exact (Tracked.forget (follows.quiet quiet) apart).collect apart opened rfl

theorem Follows.storeData {data : Bytes} {flowLength : Nat}
    (follows : Follows config occurrences returned protocol) :
    Follows config (occurrences ++ [.reported (.dataReceived streamId data flowLength)]) returned
      (storeData engine config protocol streamId data) := by
  have elsewhere : ∀ other, other ≠ streamId →
      ¬ (Occurrence.reported (.dataReceived streamId data flowLength)).Drops other ∧
        (Occurrence.reported (.dataReceived streamId data flowLength)).payload other = none :=
    fun other different => ⟨id, if_neg fun same => different same.symm⟩
  unfold Http2Protocol.storeData
  split
  · rename_i absent
    apply Tracked.snoc follows
    · exact fun other _ => id
    · intro other present
      apply fun different => (elsewhere other different).2
      intro same
      rw [same, ← AList.lookup_isSome, absent] at present
      cases present
  · rename_i stream found
    dsimp only
    split
    · exact follows.resetStream streamId _ elsewhere
    · split
      · exact follows.resetStream streamId _ elsewhere
      · rename_i content current
        have waiting : stream.dispatched = false := by
          cases flag : stream.dispatched with
          | false => rfl
          | true =>
              obtain ⟨⟨bytes, frozen⟩, -⟩ := follows.completed streamId stream found flag
              rw [frozen] at current
              cases current
        have apart : ∀ item ∈ protocol.readyRequests, item.streamId ≠ streamId := by
          intro item member same
          have frozen := follows.frozen item member stream (same ▸ found)
          rw [waiting] at frozen
          cases frozen
        have grown : Collecting config
            (occurrences ++ [.reported (.dataReceived streamId data flowLength)]) streamId
            { stream with body := .bytearray (content ++ data) } := by
          obtain ⟨before, headers, collected, metadata, same, undropped, decoded, record⟩ :=
            follows.collecting streamId stream found waiting
          rw [record] at current
          cases current
          refine ⟨before, headers,
            collected ++ [.reported (.dataReceived streamId data flowLength)], metadata, ?_, ?_,
            decoded, ?_⟩
          · rw [same, List.append_assoc, List.cons_append]
          · intro other member
            rcases List.mem_append.mp member with earlier | last
            · exact undropped other earlier
            · rw [List.mem_singleton.mp last]
              exact id
          · have added : payloads streamId
                [.reported (.dataReceived streamId data flowLength)] = data := by
              rw [payloads, filterMap_single, Occurrence.payload, if_pos rfl]
              exact List.append_nil data
            rw [record, payloads_append, added]
            rfl
        have others : Tracked config
            (occurrences ++ [.reported (.dataReceived streamId data flowLength)]) returned
            (protocol.inbound.erase streamId) protocol.readyRequests := by
          apply (Tracked.forget follows apart).snoc
          · exact fun other _ => id
          · intro other present
            exact (elsewhere other (AList.mem_erase.mp present).1).2
        exact others.collect apart grown waiting

theorem Follows.streamEnded (follows : Follows config occurrences returned protocol)
    (fresh : .reported (.streamEnded streamId) ∉ occurrences)
    (handled : handleEvent engine config protocol (.streamEnded streamId) = (.ok (), next)) :
    Follows config (occurrences ++ [.reported (.streamEnded streamId)]) returned next := by
  have quiet := endEvent_quiet streamId
  unfold handleEvent Http2Protocol.streamEnded at handled
  cases found : protocol.inbound.lookup streamId with
  | none =>
      simp only [found] at handled
      cases handled
      exact follows.quiet quiet
  | some stream =>
      simp only [found] at handled
      cases declared : missesDeclared stream with
      | true =>
          simp only [declared, if_true] at handled
          cases handled
          exact follows.resetStream streamId _ fun other _ => quiet other
      | false =>
          simp only [declared] at handled
          cases built : Request.build stream.method stream.path stream.headers
              stream.body.content "HTTP/2".toList none [] [] none with
          | error message =>
              rw [built] at handled
              cases handled
          | ok request =>
              rw [built] at handled
              cases handled
              have waiting : stream.dispatched = false := by
                cases flag : stream.dispatched with
                | false => rfl
                | true => exact absurd (follows.completed streamId stream found flag).2 fresh
              exact Tracked.complete follows found waiting fresh declared built

/-- One event, with at most one request and one end event for each stream. -/
theorem Follows.handleEvent {event : Event}
    (follows : Follows config occurrences returned protocol)
    (freshRequest : ∀ streamId, requestedStream event = some streamId →
      ∀ headers, .reported (.requestReceived streamId headers) ∉ occurrences)
    (freshEnd : ∀ streamId, endedStream event = some streamId →
      .reported (.streamEnded streamId) ∉ occurrences)
    (handled : handleEvent engine config protocol event = (.ok (), next)) :
    Follows config (occurrences ++ [.reported event]) returned next := by
  cases event with
  | requestReceived streamId headers =>
      cases handled
      exact follows.requestReceived (freshRequest streamId rfl)
  | dataReceived streamId data flowLength =>
      unfold Http2Protocol.handleEvent dataReceived at handled
      dsimp only at handled
      split at handled
      · cases handled
      · rename_i connection acknowledged
        cases handled
        have told : Follows config occurrences returned { protocol with connection } := follows
        exact told.storeData
  | streamEnded streamId => exact follows.streamEnded (freshEnd streamId rfl) handled
  | streamReset streamId =>
      cases handled
      have told : Follows config occurrences returned { protocol with
          cancelledStreams := protocol.cancelledStreams ++ [streamId] } := follows
      exact told.dropStream streamId fun other different => ⟨fun same => different same.symm, rfl⟩
  | trailersReceived streamId =>
      cases handled
      exact follows.resetStream streamId _ fun other different =>
        ⟨fun same => different same.symm, rfl⟩
  | connectionTerminated =>
      cases handled
      exact Follows.quiet follows fun _ => ⟨id, rfl⟩
  | windowUpdated | remoteSettingsChanged | ignored =>
      cases handled
      exact Follows.quiet follows fun _ => ⟨id, rfl⟩

/-- Each stream has at most one request event and at most one end event. -/
def Once (occurrences : List Occurrence) : Prop :=
  ((occurrences.filterMap Occurrence.event).filterMap requestedStream).Nodup ∧
    ((occurrences.filterMap Occurrence.event).filterMap endedStream).Nodup

theorem Once.before {first second : List Occurrence} (once : Once (first ++ second)) :
    Once first := by
  unfold Once at once
  rw [List.filterMap_append, List.filterMap_append, List.filterMap_append] at once
  exact ⟨List.Nodup.of_append_left once.1, List.Nodup.of_append_left once.2⟩

/-- The stream of the last event has not been named by an event of that kind. -/
theorem last_fresh {named : Event → Option StreamId} {event earlier : Event}
    (once : (((occurrences ++ [Occurrence.reported event]).filterMap
      Occurrence.event).filterMap named).Nodup)
    (last : named event = some streamId) (same : named earlier = some streamId) :
    .reported earlier ∉ occurrences := by
  intro member
  rw [List.filterMap_append, List.filterMap_append] at once
  apply (List.nodup_append.mp once).2.2 streamId
  · exact List.mem_filterMap.mpr
      ⟨earlier, List.mem_filterMap.mpr ⟨.reported earlier, member, rfl⟩, same⟩
  · exact List.mem_filterMap.mpr ⟨event, List.mem_cons_self, last⟩
  · rfl

theorem Follows.handleEvents {events : List Event}
    (follows : Follows config occurrences returned protocol)
    (once : Once (occurrences ++ events.map .reported))
    (handled : handleEvents engine config protocol events = (.ok (), next)) :
    Follows config (occurrences ++ events.map .reported) returned next := by
  induction events generalizing occurrences protocol with
  | nil =>
      cases handled
      rw [List.map_nil, List.append_nil]
      exact follows
  | cons event events induction =>
      rw [List.map_cons, List.append_cons] at once ⊢
      rw [Http2Protocol.handleEvents] at handled
      rcases outcome : Http2Protocol.handleEvent engine config protocol event with
        ⟨raised | _, middle⟩
      · rw [outcome] at handled
        cases handled
      · rw [outcome] at handled
        have step := follows.handleEvent
          (fun streamId named headers => last_fresh once.before.1 named rfl)
          (fun streamId named => last_fresh once.before.2 named rfl) outcome
        exact induction step once handled

theorem receiveFrame_ok {wireChunk : Bytes}
    (received : receiveFrame engine config protocol wireChunk = (.ok (), next)) :
    ∃ events connection middle,
      engine.receiveData protocol.connection wireChunk = (.ok events, connection) ∧
      Http2Protocol.handleEvents engine config { protocol with connection } events =
        (.ok (), middle) ∧
      next.inbound = middle.inbound ∧ next.readyRequests = middle.readyRequests := by
  unfold receiveFrame at received
  rcases reported : engine.receiveData protocol.connection wireChunk with
    ⟨error | events, connection⟩
  · rw [reported] at received
    cases received
  · rw [reported] at received
    dsimp only at received
    rcases handled : Http2Protocol.handleEvents engine config { protocol with connection } events
      with ⟨raised | _, middle⟩
    · rw [handled] at received
      cases received
    · rw [handled] at received
      refine ⟨events, connection, middle, rfl, handled, ?_⟩
      unfold captureControlOutput at received
      dsimp only at received
      split at received
      · cases received
      · cases received
        exact ⟨rfl, rfl⟩

theorem Follows.receiveFrames {wireChunks : List Bytes}
    (follows : Follows config occurrences returned protocol)
    (once : Once (occurrences ++ (frameEvents engine config protocol wireChunks).map .reported))
    (received : receiveFrames engine config protocol wireChunks = (.ok (), next)) :
    Follows config (occurrences ++ (frameEvents engine config protocol wireChunks).map .reported)
      returned next := by
  induction wireChunks generalizing occurrences protocol with
  | nil =>
      cases received
      rw [frameEvents, List.map_nil, List.append_nil]
      exact follows
  | cons wireChunk wireChunks induction =>
      rw [Http2Protocol.receiveFrames] at received
      rcases first : receiveFrame engine config protocol wireChunk with ⟨raised | _, between⟩
      · rw [first] at received
        cases received
      · rw [first] at received
        obtain ⟨events, connection, middle, reported, handled, inbound, ready⟩ :=
          receiveFrame_ok first
        have split : frameEvents engine config protocol (wireChunk :: wireChunks) =
            events ++ frameEvents engine config between wireChunks := by
          rw [frameEvents, reported, first]
        rw [split, List.map_append, ← List.append_assoc] at once ⊢
        have told : Follows config occurrences returned { protocol with connection } := follows
        have step := told.handleEvents once.before handled
        have after : Follows config (occurrences ++ events.map .reported) returned between := by
          unfold Follows
          rw [inbound, ready]
          exact step
        exact induction after once received

end Events

section OtherCalls

variable {σ : Type} (engine : Engine σ) (config : HTTP2Config)

/-- A step that only takes streams down: what is left of the records and the parked
requests is as it was, and a record leaves with its request. -/
structure Sheds (protocol next : H2Protocol σ) : Prop where
  entries : ∀ streamId ∈ next.inbound,
    next.inbound.lookup streamId = protocol.inbound.lookup streamId
  part : next.readyRequests.Sublist protocol.readyRequests
  together : ∀ item ∈ next.readyRequests, item.streamId ∈ protocol.inbound →
    item.streamId ∈ next.inbound

namespace Sheds

variable {protocol middle next : H2Protocol σ}

theorem same (inbound : next.inbound = protocol.inbound)
    (ready : next.readyRequests = protocol.readyRequests) : Sheds protocol next where
  entries := fun _ _ => by rw [inbound]
  part := by rw [ready]
  together := fun _ _ present => by rw [inbound]; exact present

theorem trans (first : Sheds protocol middle) (second : Sheds middle next) :
    Sheds protocol next where
  entries := fun streamId member => by
    have found := second.entries streamId member
    have present : streamId ∈ middle.inbound := by
      rw [← AList.lookup_isSome, ← found, AList.lookup_isSome]
      exact member
    rw [found, first.entries streamId present]
  part := second.part.trans first.part
  together := fun item member present =>
    second.together item member (first.together item (second.part.subset member) present)

theorem dropStream (streamId : StreamId) (inbound : middle.inbound = protocol.inbound)
    (ready : middle.readyRequests = protocol.readyRequests) :
    Sheds protocol (dropStream middle streamId) := by
  rw [dropStream_eq]
  constructor
  · intro other member
    rw [← inbound]
    exact AList.lookup_erase_ne (AList.mem_erase.mp member).1
  · rw [← ready]
    exact List.filter_sublist
  · intro item member present
    have different : item.streamId ≠ streamId := by simpa using (List.mem_filter.mp member).2
    rw [← inbound] at present
    exact AList.mem_erase.mpr ⟨different, present⟩

theorem resetStream (streamId : StreamId) (errorCode : ErrorCode)
    (inbound : middle.inbound = protocol.inbound)
    (ready : middle.readyRequests = protocol.readyRequests) :
    Sheds protocol (resetStream engine middle streamId errorCode) :=
  dropStream streamId inbound ready

theorem runCommand (protocol : H2Protocol σ) (command : Command) :
    Sheds protocol (runCommand engine config protocol command) := by
  cases command with
  | reset streamId => exact resetStream engine streamId _ rfl rfl
  | response streamId response =>
      rw [Http2Protocol.runCommand, startResponse]
      dsimp only
      split
      · exact resetStream engine streamId _ rfl rfl
      · split
        · exact dropStream streamId rfl rfl
        · split
          · exact same rfl rfl
          · exact same rfl rfl

theorem captureControlOutput (protocol : H2Protocol σ) :
    Sheds protocol (captureControlOutput engine config protocol).2 := by
  unfold Http2Protocol.captureControlOutput
  dsimp only
  split
  · exact same rfl rfl
  · exact same rfl rfl

theorem runCommands (protocol : H2Protocol σ) (commands : List Command) :
    Sheds protocol (runCommands engine config protocol commands).2 := by
  induction commands generalizing protocol with
  | nil => exact same rfl rfl
  | cons command commands induction =>
      rw [Http2Protocol.runCommands]
      have step := (runCommand engine config protocol command).trans
        (captureControlOutput engine config _)
      rcases outcome : Http2Protocol.captureControlOutput engine config
        (Http2Protocol.runCommand engine config protocol command) with ⟨raised | _, between⟩
      · rw [outcome] at step
        exact step
      · rw [outcome] at step
        exact step.trans (induction between)

theorem sendBody (protocol : H2Protocol σ) (streamId : StreamId) (outbound : OutboundStream)
    (output : Bytes) :
    Sheds protocol (sendBody engine config protocol streamId outbound output).2 := by
  unfold Http2Protocol.sendBody
  split
  · exact same rfl rfl
  · split
    · exact dropStream streamId rfl rfl
    · unfold sendChunk
      dsimp only
      split
      · exact same rfl rfl
      · split
        · exact dropStream streamId rfl rfl
        · split
          · exact same rfl rfl
          · split
            · exact same rfl rfl
            · exact same rfl rfl

theorem sendBodies (protocol : H2Protocol σ) (output : Bytes)
    (entries : List (Sigma fun _ : StreamId => OutboundStream)) :
    Sheds protocol (sendBodies engine config protocol output entries).2 := by
  induction entries generalizing protocol output with
  | nil => exact same rfl rfl
  | cons entry entries induction =>
      rw [Http2Protocol.sendBodies]
      have step := sendBody engine config protocol entry.1 entry.2 output
      rcases outcome : Http2Protocol.sendBody engine config protocol entry.1 entry.2 output with
        ⟨raised | sent, between⟩
      · rw [outcome] at step
        exact step
      · rw [outcome] at step
        exact step.trans (induction between sent)

theorem flush (protocol : H2Protocol σ) : Sheds protocol (flush engine config protocol).2 := by
  unfold Http2Protocol.flush
  have taken : Sheds protocol { protocol with commands := [] } := same rfl rfl
  have commands := taken.trans (runCommands engine config _ protocol.commands)
  rcases outcome : Http2Protocol.runCommands engine config { protocol with commands := [] }
    protocol.commands with ⟨raised | _, started⟩
  · rw [outcome] at commands
    exact commands
  · rw [outcome] at commands
    dsimp only
    have moved : Sheds started { started with controlOutput := [] } := same rfl rfl
    have bodies := (commands.trans moved).trans
      (sendBodies engine config _ started.controlOutput started.outbound.entries)
    rcases sent : Http2Protocol.sendBodies engine config { started with controlOutput := [] }
      started.controlOutput started.outbound.entries with ⟨raised | output, between⟩
    · rw [sent] at bodies
      exact bodies
    · rw [sent] at bodies
      apply bodies.trans
      unfold drainEngine
      dsimp only
      split
      · exact same rfl rfl
      · exact same rfl rfl

end Sheds

variable {engine config} {occurrences : List Occurrence} {returned : List StreamId}
  {protocol next : H2Protocol σ}

theorem Follows.shed (follows : Follows config occurrences returned protocol)
    (sheds : Sheds protocol next) : Follows config occurrences returned next :=
  Tracked.shed follows sheds.entries sheds.part fun item member present =>
    Or.inl (sheds.together item member present)

/-- Queueing a response may release the record of a parked request. -/
theorem Follows.queueResponse {streamId : StreamId} {response : Response}
    (follows : Follows config occurrences returned protocol) :
    Follows config (occurrences ++ [.called (.queueResponse streamId response)]) returned
      (queueResponse engine config protocol streamId response).2 := by
  have after : Follows config (occurrences ++ [.called (.queueResponse streamId response)])
      returned protocol := follows.quiet fun _ => ⟨id, rfl⟩
  have released : Follows config (occurrences ++ [.called (.queueResponse streamId response)])
      returned (releaseInbound protocol streamId) := by
    rw [releaseInbound_eq]
    apply Tracked.shed after
    · intro other member
      exact AList.lookup_erase_ne (AList.mem_erase.mp member).1
    · exact List.Sublist.refl _
    · intro item member present
      by_cases same : item.streamId = streamId
      · right
        rw [same]
        exact ⟨response, List.mem_append_right _ List.mem_cons_self⟩
      · exact Or.inl (AList.mem_erase.mpr ⟨same, present⟩)
  unfold Http2Protocol.queueResponse
  split
  · exact after
  · dsimp only
    split
    · split
      · exact released
      · exact released
    · split
      · exact released.shed (Sheds.resetStream engine streamId _ rfl rfl)
      · exact released

theorem Follows.otherCall {operation : Operation}
    (follows : Follows config occurrences returned protocol)
    (other : ∀ data, operation ≠ .receiveData data) :
    Follows config (occurrences ++ [.called operation]) returned
      (perform engine config protocol operation).2 := by
  cases operation with
  | initiate =>
      have same : Sheds protocol (initiate engine config protocol).2 := by
        unfold Http2Protocol.initiate
        dsimp only
        split
        · exact Sheds.same rfl rfl
        · split
          · exact Sheds.same rfl rfl
          · exact Sheds.same rfl rfl
      exact (follows.shed same).quiet fun _ => ⟨id, rfl⟩
  | receiveData data => exact absurd rfl (other data)
  | takeCancelledStreams => exact Follows.quiet follows fun _ => ⟨id, rfl⟩
  | queueResponse streamId response => exact follows.queueResponse
  | flush => exact (follows.shed (Sheds.flush engine config protocol)).quiet fun _ => ⟨id, rfl⟩
  | dropStream streamId =>
      exact follows.dropStream streamId fun other different =>
        ⟨fun same => different same.symm, rfl⟩
  | resetStream streamId errorCode =>
      exact follows.resetStream streamId errorCode fun other different =>
        ⟨fun same => different same.symm, rfl⟩
  | close errorCode =>
      have cleared : (close engine config protocol errorCode).2.inbound = ∅ ∧
          (close engine config protocol errorCode).2.readyRequests = [] := by
        unfold Http2Protocol.close
        dsimp only
        split
        · exact ⟨rfl, rfl⟩
        · generalize List.length _ + List.length _ = controlBytes
          split
          · exact ⟨rfl, rfl⟩
          · exact ⟨rfl, rfl⟩
      have empty : Tracked config occurrences returned ∅ [] := by
        apply Tracked.shed follows
        · intro streamId member
          exact absurd member (AList.notMem_empty streamId)
        · exact List.nil_sublist _
        · intro item member
          cases member
      unfold Follows perform
      rw [cleared.1, cleared.2]
      apply empty.snoc
      · intro streamId place
        rcases place with present | waiting
        · exact absurd present (AList.notMem_empty streamId)
        · cases waiting
      · intro streamId _
        rfl

theorem Follows.receiveData {data : Bytes} {ready : List H2ReadyRequest}
    (follows : Follows config occurrences returned protocol)
    (once : Once (occurrences ++
      (operationEvents engine config protocol (.receiveData data)).map .reported))
    (received : receiveData engine config protocol data = (.ok ready, next)) :
    Follows config (occurrences ++
        (operationEvents engine config protocol (.receiveData data)).map .reported)
      (returned ++ ready.map H2ReadyRequest.streamId) next ∧
    ∀ item ∈ ready, item.streamId ∈ next.activeStreams ∧
      Dispatched config (occurrences ++
        (operationEvents engine config protocol (.receiveData data)).map .reported) item := by
  unfold Http2Protocol.receiveData at received
  rw [operationEvents] at once ⊢
  rcases fed : protocol.frames.feed config data with ⟨message | _, frames⟩
  · rw [fed] at received
    cases received
  · rw [fed] at received once
    dsimp only at received once ⊢
    rcases handled : Http2Protocol.receiveFrames engine config
      { protocol with frames := (frames.take config.readerFrameBatchSize).2 }
      (frames.take config.readerFrameBatchSize).1 with ⟨raised | _, between⟩
    · rw [handled] at received
      cases received
    · rw [handled] at received
      have told : Follows config occurrences returned
          { protocol with frames := (frames.take config.readerFrameBatchSize).2 } := follows
      have step := told.receiveFrames once handled
      cases received
      unfold releaseReady
      split
      · refine ⟨?_, fun item member => absurd member List.not_mem_nil⟩
        rw [List.map_nil, List.append_nil]
        exact step
      · constructor
        · exact Tracked.handOut step List.filter_sublist
        · intro item member
          obtain ⟨inside, passes⟩ := List.mem_filter.mp member
          exact ⟨(of_decide_eq_true passes).2, step.dispatched item inside⟩

end OtherCalls

section Runs

variable {σ : Type} {engine : Engine σ} {config : HTTP2Config} {protocol next : H2Protocol σ}
  {call : Call} {calls : List Call} {streamId : StreamId}

def returnedBy (call : Call) : List H2ReadyRequest :=
  match call.result with
  | .ok (.ready ready) => ready
  | _ => []

def returnedRequests (calls : List Call) : List H2ReadyRequest := calls.flatMap returnedBy

def Received (call : Call) : Prop :=
  ∀ data, call.operation = .receiveData data → ∃ ready, call.result = .ok (.ready ready)

theorem otherCall_events {operation : Operation}
    (other : ∀ data, operation ≠ .receiveData data) :
    operationEvents engine config protocol operation = [] := by
  cases operation with
  | receiveData data => exact absurd rfl (other data)
  | initiate | flush | takeCancelledStreams | queueResponse | dropStream | resetStream | close =>
      rfl

theorem otherCall_returned {operation : Operation} {result : Except Raised Result}
    (other : ∀ data, operation ≠ .receiveData data)
    (performed : (perform engine config protocol operation).1 = result) (events : List Event) :
    returnedBy ⟨operation, events, result⟩ = [] := by
  subst performed
  cases operation with
  | receiveData data => exact absurd rfl (other data)
  | initiate =>
      unfold returnedBy perform
      cases (initiate engine config protocol).1 with
      | error raised => rfl
      | ok output => rfl
  | flush =>
      unfold returnedBy perform
      cases (flush engine config protocol).1 with
      | error raised => rfl
      | ok output => rfl
  | takeCancelledStreams | queueResponse | dropStream | resetStream | close => rfl

theorem follows_call {occurrences : List Occurrence} {returned : List StreamId}
    (step : Calls engine config protocol call next) (received : Received call)
    (once : Once (occurrences ++ callOccurrences call))
    (follows : Follows config occurrences returned protocol) :
    Follows config (occurrences ++ callOccurrences call)
      (returned ++ (returnedBy call).map H2ReadyRequest.streamId) next ∧
    ∀ item ∈ returnedBy call, item.streamId ∈ next.activeStreams ∧
      Dispatched config (occurrences ++ callOccurrences call) item := by
  obtain ⟨operation, events, result⟩ := call
  obtain ⟨performed, reported⟩ := step
  dsimp only at performed reported
  subst reported
  by_cases receives : ∃ data, operation = .receiveData data
  · obtain ⟨data, rfl⟩ := receives
    obtain ⟨ready, handed⟩ := received data rfl
    dsimp only at handed
    subst handed
    rw [callOccurrences, List.append_cons] at once ⊢
    have told : Follows config (occurrences ++ [.called (.receiveData data)]) returned protocol :=
      follows.quiet fun _ => ⟨id, rfl⟩
    apply told.receiveData once
    dsimp only [perform] at performed
    rcases outcome : receiveData engine config protocol data with ⟨raised | handed, last⟩
    · rw [outcome] at performed
      cases performed
    · rw [outcome] at performed
      cases performed
      rfl
  · have other : ∀ data, operation ≠ .receiveData data := fun data same => receives ⟨data, same⟩
    have silent : operationEvents engine config protocol operation = [] := otherCall_events other
    have last : (perform engine config protocol operation).2 = next := congrArg Prod.snd performed
    have occurred : callOccurrences
        ⟨operation, operationEvents engine config protocol operation, result⟩ =
          [.called operation] := by
      rw [callOccurrences, silent]
      rfl
    rw [occurred, otherCall_returned other (congrArg Prod.fst performed), List.map_nil,
      List.append_nil, ← last]
    exact ⟨follows.otherCall other, fun item member => absurd member List.not_mem_nil⟩

theorem history_snoc (calls : List Call) (call : Call) :
    history (calls ++ [call]) = history calls ++ callOccurrences call := by
  rw [history, List.flatMap_append, List.flatMap_cons, List.flatMap_nil, List.append_nil]
  rfl

theorem history_events (calls : List Call) :
    (history calls).filterMap Occurrence.event = reportedEvents calls := by
  induction calls with
  | nil => rfl
  | cons call calls induction =>
      have reported : (callOccurrences call).filterMap Occurrence.event = call.events := by
        rw [callOccurrences, List.filterMap_cons_none rfl, List.filterMap_map]
        exact List.filterMap_some
      rw [history, List.flatMap_cons, List.filterMap_append, reported]
      rw [history] at induction
      rw [induction]
      rfl

theorem once_history (requestedOnce : (requestedStreams calls).Nodup)
    (endedOnce : (endedStreams calls).Nodup) : Once (history calls) := by
  unfold Once
  rw [history_events]
  exact ⟨requestedOnce, endedOnce⟩

theorem follows_new (config : HTTP2Config) (connection : σ) :
    Follows config [] [] (H2Protocol.new connection) where
  collecting := fun streamId stream found => by cases found
  completed := fun streamId stream found => by cases found
  dispatched := fun item member => by cases member
  charged := fun item member => by cases member
  frozen := fun item member => by cases member
  once := List.nodup_nil
  ended := fun streamId member => by cases member

/-- The history of every run against its protocol, while `receive_data` does not raise. -/
theorem follows_run {connection : σ}
    (run : Run (Calls engine config) (H2Protocol.new connection) calls protocol)
    (received : ∀ call ∈ calls, Received call) (once : Once (history calls)) :
    Follows config (history calls) ((returnedRequests calls).map H2ReadyRequest.streamId)
      protocol := by
  induction run with
  | nil => exact follows_new config connection
  | @snoc calls state next call run step induction =>
      rw [history_snoc] at once ⊢
      have before := induction
        (fun earlier member => received earlier (List.mem_append_left _ member)) once.before
      have after := (follows_call step (received call (List.mem_append_right _ List.mem_cons_self))
        once before).1
      rw [returnedRequests, List.flatMap_append, List.map_append, List.flatMap_cons,
        List.flatMap_nil, List.append_nil]
      exact after

theorem inactive_effect {work after : Work σ} {mark : Mark}
    (effect : Effect config work mark after) (notRequested : mark.requestedStream ≠ some streamId)
    (inactive : streamId ∉ work.protocol.activeStreams) :
    streamId ∉ after.protocol.activeStreams := by
  cases effect with
  | engine | frames | terminated | cancelled | captured | moved | emitted | parked | returned
  | taken | started | sent | stored | completed => exact inactive
  | dropped protocol other output =>
      rw [dropStream_eq]
      exact fun member => inactive (Finset.mem_of_mem_erase member)
  | reset protocol other rest output =>
      rw [dropStream_eq]
      exact fun member => inactive (Finset.mem_of_mem_erase member)
  | failed protocol other response rest output =>
      rw [dropStream_eq]
      exact fun member => inactive (Finset.mem_of_mem_erase member)
  | answered protocol other response rest output empty =>
      exact fun member => inactive (Finset.mem_of_mem_erase member)
  | finished work other outbound found nothing =>
      exact fun member => inactive (Finset.mem_of_mem_erase member)
  | released protocol other =>
      rw [releaseInbound_eq]
      exact inactive
  | refused protocol other =>
      rw [releaseInbound_eq]
      exact inactive
  | queued protocol other response active fits =>
      rw [releaseInbound_eq]
      exact inactive
  | accepted work other entry room empty waiting =>
      have different : streamId ≠ other := fun same => notRequested (congrArg some same.symm)
      exact fun member => (Finset.mem_insert.mp member).elim different inactive
  | cleared => exact Finset.notMem_empty streamId

/-- A stream that is not active stays so without a request event of its own. -/
theorem inactive_call (step : Calls engine config protocol call next)
    (notRequested : streamId ∉ call.events.filterMap requestedStream)
    (inactive : streamId ∉ protocol.activeStreams) : streamId ∉ next.activeStreams := by
  obtain ⟨requests, marked, rest, assembled, reached, part, -⟩ :=
    reaches_perform engine config protocol call.operation
  rw [step.1] at reached
  rw [← step.2] at part
  have fresh : streamId ∉ requests := fun member => notRequested (part.subset member)
  obtain ⟨marks, run, rfl, -⟩ := reached
  have throughout : ∀ {marks : List Mark} {work : Work σ},
      Run (Effect config) { protocol } marks work →
        streamId ∉ marks.filterMap Mark.requestedStream →
          streamId ∉ work.protocol.activeStreams := by
    intro marks work run
    induction run with
    | nil => exact fun _ => inactive
    | snoc mark run effect induction =>
        intro absent
        rw [List.filterMap_append, List.mem_append, not_or, filterMap_single] at absent
        apply inactive_effect effect _ (induction absent.1)
        intro named
        rw [named] at absent
        exact absent.2 List.mem_cons_self
  exact throughout run fresh

theorem inactive_run (run : Run (Calls engine config) protocol calls next)
    (notRequested : streamId ∉ requestedStreams calls)
    (inactive : streamId ∉ protocol.activeStreams) : streamId ∉ next.activeStreams := by
  induction run with
  | nil => exact inactive
  | snoc call run step induction =>
      rw [requestedStreams_snoc, List.mem_append, not_or] at notRequested
      exact inactive_call step notRequested.2 (induction notRequested.1)

/-- Each request is handed out at most once, whole and never after its stream was taken down,
and the batch size changes nothing of it. -/
theorem requests_dispatched_once (engine : Engine σ) (config : HTTP2Config) (connection : σ)
    (calls : List Call) (call : Call) (protocol next : H2Protocol σ)
    (run : Run (Calls engine config) (H2Protocol.new connection) calls protocol)
    (step : Calls engine config protocol call next)
    (received : ∀ earlier ∈ calls ++ [call], Received earlier)
    (requestedOnce : (requestedStreams (calls ++ [call])).Nodup)
    (endedOnce : (endedStreams (calls ++ [call])).Nodup) :
    ((returnedRequests (calls ++ [call])).map H2ReadyRequest.streamId).Nodup ∧
    (∀ item ∈ returnedBy call,
      item.streamId ∈ next.activeStreams ∧
      Dispatched config (history (calls ++ [call])) item ∧
      ∀ earlier later middle, calls = earlier ++ later →
        Run (Calls engine config) (H2Protocol.new connection) earlier middle →
        Run (Calls engine config) middle later protocol →
        item.streamId ∈ requestedStreams earlier → item.streamId ∈ middle.activeStreams) ∧
    ∀ second, SameButBatch config second → ∀ start chunk ready last,
      ReceivesChunk engine config start chunk ready last ↔
        ReceivesChunk engine second start chunk ready last := by
  have once := once_history requestedOnce endedOnce
  have whole := follows_run (Run.snoc call run step) received once
  rw [history_snoc] at once
  have before := follows_run run
    (fun earlier member => received earlier (List.mem_append_left _ member)) once.before
  obtain ⟨-, handed⟩ := follows_call step
    (received call (List.mem_append_right _ List.mem_cons_self)) once before
  refine ⟨?_, ?_, fun second same start chunk ready last => receivesChunk_congr engine same⟩
  · have distinct := whole.once
    exact List.Nodup.of_append_left distinct
  · intro item member
    obtain ⟨active, dispatched⟩ := handed item member
    rw [history_snoc]
    refine ⟨active, dispatched, ?_⟩
    intro earlier later middle same firstRun secondRun requested
    by_contra inactive
    apply inactive_run (secondRun.append (Run.single step)) _ inactive active
    intro again
    rw [same, List.append_assoc, requestedStreams, reportedEvents, List.flatMap_append,
      List.filterMap_append] at requestedOnce
    exact (List.nodup_append.mp requestedOnce).2.2 item.streamId requested item.streamId again rfl

def sampleRun : List Call × H2Protocol Script :=
  performAll (scripted 40) HTTP2Config.standard (H2Protocol.new sampleStart) [.initiate]

def sampleCall : Call where
  operation := .receiveData clientPreface
  events := operationEvents (scripted 40) HTTP2Config.standard sampleRun.2
    (.receiveData clientPreface)
  result := (perform (scripted 40) HTTP2Config.standard sampleRun.2
    (.receiveData clientPreface)).1

def sampleNext : H2Protocol Script :=
  (perform (scripted 40) HTTP2Config.standard sampleRun.2 (.receiveData clientPreface)).2

example : (returnedBy sampleCall).map H2ReadyRequest.streamId = [1, 3] := by decide +kernel

theorem requests_dispatched_once_sample :
    ((returnedRequests (sampleRun.1 ++ [sampleCall])).map H2ReadyRequest.streamId).Nodup ∧
    (∀ item ∈ returnedBy sampleCall,
      item.streamId ∈ sampleNext.activeStreams ∧
      Dispatched HTTP2Config.standard (history (sampleRun.1 ++ [sampleCall])) item ∧
      ∀ earlier later middle, sampleRun.1 = earlier ++ later →
        Run (Calls (scripted 40) HTTP2Config.standard) (H2Protocol.new sampleStart) earlier
          middle →
        Run (Calls (scripted 40) HTTP2Config.standard) middle later sampleRun.2 →
        item.streamId ∈ requestedStreams earlier → item.streamId ∈ middle.activeStreams) ∧
    ∀ second, SameButBatch HTTP2Config.standard second → ∀ start chunk ready last,
      ReceivesChunk (scripted 40) HTTP2Config.standard start chunk ready last ↔
        ReceivesChunk (scripted 40) second start chunk ready last := by
  apply requests_dispatched_once (scripted 40) HTTP2Config.standard sampleStart sampleRun.1
    sampleCall sampleRun.2 sampleNext (run_performAll _ _ _ _) ⟨rfl, rfl⟩
  · intro earlier member data receives
    rcases List.mem_append.mp member with first | last
    · cases List.mem_singleton.mp first
      cases receives
    · cases List.mem_singleton.mp last
      exact ⟨returnedBy sampleCall, by decide +kernel⟩
  · decide +kernel
  · decide +kernel

end Runs

end SmallServer.Http2Dispatch
