import SmallServer.Http2Outbound

/-!
# HTTP/2 inbound accounting and the stream tables

The request bodies of a connection share one budget, and a stream may stand in
several tables: it is admitted to the active streams, has a request body, a parked
request, a queued response, an unfinished response body. Each effect keeps the tables
consistent as long as a stream is requested once and answered once, and not while its
request is still parked.
-/

namespace SmallServer.Http2Tables

open SmallServer HttpValues Http2Frames Http2Protocol Http2Effects Http2Outbound Runs

set_option autoImplicit false

structure Tables where
  inbound : OrderedDict StreamId InboundStream
  active : Finset StreamId
  outbound : OrderedDict StreamId OutboundStream
  commands : List Command
  running : List Command
  parked : List StreamId
  buffered : Int

def tables {σ : Type} (work : Work σ) : Tables where
  inbound := work.protocol.inbound
  active := work.protocol.activeStreams
  outbound := work.protocol.outbound
  commands := work.protocol.commands
  running := work.running
  parked := work.protocol.readyRequests.map H2ReadyRequest.streamId
  buffered := work.protocol.bufferedRequestBytes

def commandStreams (commands : List Command) : List StreamId := commands.map Command.streamId

theorem responseStreams_subset (commands : List Command) :
    responseStreams commands ⊆ commandStreams commands := by
  intro streamId member
  obtain ⟨command, inside, named⟩ := List.mem_filterMap.mp member
  cases command with
  | reset other => cases named
  | response other response =>
      cases named
      exact List.mem_map.mpr ⟨_, inside, rfl⟩

theorem mem_responseStreams_filter {commands : List Command} {streamId other : StreamId}
    (member : other ∈ responseStreams
      (commands.filter fun command => !command.isResponseOn streamId)) :
    other ≠ streamId ∧ other ∈ responseStreams commands := by
  obtain ⟨command, inside, named⟩ := List.mem_filterMap.mp member
  obtain ⟨original, kept⟩ := List.mem_filter.mp inside
  refine ⟨?_, List.mem_filterMap.mpr ⟨command, original, named⟩⟩
  rintro rfl
  cases command with
  | reset stream => cases named
  | response stream response =>
      cases named
      simp [Command.isResponseOn] at kept

/-- The invariant, for streams requested and answered so far. -/
structure Tables.Consistent (config : HTTP2Config) (requested queued : List StreamId)
    (tables : Tables) : Prop where
  counted : tables.buffered = OrderedDict.total inboundSize tables.inbound
  buffer_bounded : tables.buffered ≤ config.maxConnectionBufferBytes
  bodies : ∀ streamId stream, tables.inbound.lookup streamId = some stream →
    stream.body.content.length ≤ config.maxBodyBytes ∧
      ∀ expected, stream.expectedContentLength = some expected →
        stream.body.content.length ≤ expected
  frozen : ∀ streamId stream, tables.inbound.lookup streamId = some stream →
    stream.dispatched = true → ∃ content, stream.body = .bytes content
  room : tables.active.card ≤ config.maxConcurrentStreams
  inbound_active : ∀ streamId ∈ tables.inbound, streamId ∈ tables.active
  outbound_active : ∀ streamId ∈ tables.outbound, streamId ∈ tables.active
  parked_active : ∀ streamId ∈ tables.parked, streamId ∈ tables.active
  response_active : ∀ streamId ∈ responseStreams (tables.commands ++ tables.running),
    streamId ∈ tables.active
  active_requested : ∀ streamId ∈ tables.active, streamId ∈ requested
  named_once : (commandStreams (tables.commands ++ tables.running)).Nodup
  named_queued : ∀ streamId, streamId ∈ commandStreams (tables.commands ++ tables.running) ∨
    streamId ∈ tables.outbound → streamId ∈ queued
  answering : ∀ streamId, streamId ∈ responseStreams (tables.commands ++ tables.running) ∨
    streamId ∈ tables.outbound → streamId ∉ tables.inbound ∧ streamId ∉ tables.parked
  apart : ∀ streamId ∈ responseStreams (tables.commands ++ tables.running),
    streamId ∉ tables.outbound

namespace Tables

variable {config : HTTP2Config} {requested queued : List StreamId} {tables : Tables}

theorem Consistent.more (consistent : tables.Consistent config requested queued)
    (moreRequested moreQueued : List StreamId) :
    tables.Consistent config (requested ++ moreRequested) (queued ++ moreQueued) :=
  { consistent with
    active_requested := fun streamId member =>
      List.mem_append_left _ (consistent.active_requested streamId member)
    named_queued := fun streamId place =>
      List.mem_append_left _ (consistent.named_queued streamId place) }

theorem Consistent.forget (consistent : tables.Consistent config requested queued) :
    Consistent config requested queued { tables with running := [] } := by
  have part : (tables.commands ++ []).Sublist (tables.commands ++ tables.running) :=
    List.Sublist.append_left (List.nil_sublist _) _
  have responses := (List.Sublist.filterMap responseStream part).subset
  have names := List.Sublist.map Command.streamId part
  exact { consistent with
    response_active := fun streamId member =>
      consistent.response_active streamId (responses member)
    named_once := consistent.named_once.sublist names
    named_queued := fun streamId place =>
      consistent.named_queued streamId (place.imp_left fun member => names.subset member)
    answering := fun streamId place =>
      consistent.answering streamId (place.imp_left fun member => responses member)
    apart := fun streamId member => consistent.apart streamId (responses member) }

def drop (tables : Tables) (streamId : StreamId) : Tables where
  inbound := tables.inbound.erase streamId
  active := tables.active.erase streamId
  outbound := tables.outbound.erase streamId
  commands := tables.commands.filter fun command => !command.isResponseOn streamId
  running := tables.running
  parked := tables.parked.filter fun other => other != streamId
  buffered := tables.buffered - (tables.inbound.lookup streamId).elim 0 inboundSize

theorem tables_dropStream {σ : Type} (work : Work σ) (streamId : StreamId) :
    Http2Tables.tables { work with protocol := dropStream work.protocol streamId } =
      (Http2Tables.tables work).drop streamId := by
  rw [dropStream_eq]
  simp only [Http2Tables.tables, drop, List.filter_map, Function.comp_def]

theorem Consistent.released_bound (consistent : tables.Consistent config requested queued)
    (streamId : StreamId) :
    tables.buffered - (tables.inbound.lookup streamId).elim 0 inboundSize ≤
      config.maxConnectionBufferBytes := by
  have bounded := consistent.buffer_bounded
  cases tables.inbound.lookup streamId with
  | none =>
      rw [Option.elim_none]
      omega
  | some stream =>
      rw [Option.elim_some]
      unfold inboundSize
      omega

theorem Consistent.drop (consistent : tables.Consistent config requested queued)
    {streamId : StreamId} (elsewhere : streamId ∉ responseStreams tables.running) :
    (tables.drop streamId).Consistent config requested queued := by
  have part : ((tables.drop streamId).commands ++ tables.running).Sublist
      (tables.commands ++ tables.running) :=
    List.Sublist.append_right List.filter_sublist _
  have responses := (List.Sublist.filterMap responseStream part).subset
  have names := List.Sublist.map Command.streamId part
  have others : ∀ other ∈ responseStreams ((tables.drop streamId).commands ++ tables.running),
      other ≠ streamId := by
    intro other member
    rw [responseStreams_append] at member
    rcases List.mem_append.mp member with kept | running
    · exact (mem_responseStreams_filter kept).1
    · rintro rfl
      exact elsewhere running
  constructor
  · change tables.buffered - _ = OrderedDict.total _ (tables.inbound.erase streamId)
    rw [OrderedDict.total_erase, consistent.counted]
  · exact consistent.released_bound streamId
  · intro other stream found
    change (tables.inbound.erase streamId).lookup other = some stream at found
    rw [OrderedDict.lookup_erase_eq] at found
    split at found
    · cases found
    · exact consistent.bodies other stream found
  · intro other stream found
    change (tables.inbound.erase streamId).lookup other = some stream at found
    rw [OrderedDict.lookup_erase_eq] at found
    split at found
    · cases found
    · exact consistent.frozen other stream found
  · exact (Finset.card_erase_le).trans consistent.room
  · intro other member
    obtain ⟨different, inside⟩ := AList.mem_erase.mp member
    exact Finset.mem_erase.mpr ⟨different, consistent.inbound_active other inside⟩
  · intro other member
    obtain ⟨different, inside⟩ := AList.mem_erase.mp member
    exact Finset.mem_erase.mpr ⟨different, consistent.outbound_active other inside⟩
  · intro other member
    obtain ⟨inside, different⟩ := List.mem_filter.mp member
    exact Finset.mem_erase.mpr ⟨by simpa using different, consistent.parked_active other inside⟩
  · intro other member
    exact Finset.mem_erase.mpr
      ⟨others other member, consistent.response_active other (responses member)⟩
  · intro other member
    exact consistent.active_requested other (Finset.mem_of_mem_erase member)
  · exact consistent.named_once.sublist names
  · intro other place
    exact consistent.named_queued other
      (place.imp (fun member => names.subset member) fun inside => (AList.mem_erase.mp inside).2)
  · intro other place
    obtain ⟨noBody, notParked⟩ := consistent.answering other
      (place.imp (fun member => responses member) fun inside => (AList.mem_erase.mp inside).2)
    exact ⟨fun inside => noBody (AList.mem_erase.mp inside).2,
      fun inside => notParked (List.mem_filter.mp inside).1⟩
  · intro other member inside
    exact consistent.apart other (responses member) (AList.mem_erase.mp inside).2

theorem Consistent.pop (consistent : tables.Consistent config requested queued)
    {command : Command} {rest : List Command} (running : tables.running = command :: rest) :
    Consistent config requested queued { tables with running := rest } ∧
      command.streamId ∉ commandStreams (tables.commands ++ rest) := by
  have part : (tables.commands ++ rest).Sublist (tables.commands ++ tables.running) := by
    rw [running]
    exact List.Sublist.append_left (List.sublist_cons_self command rest) _
  have responses := (List.Sublist.filterMap responseStream part).subset
  have names := List.Sublist.map Command.streamId part
  constructor
  · exact { consistent with
      response_active := fun streamId member =>
        consistent.response_active streamId (responses member)
      named_once := consistent.named_once.sublist names
      named_queued := fun streamId place =>
        consistent.named_queued streamId (place.imp_left fun member => names.subset member)
      answering := fun streamId place =>
        consistent.answering streamId (place.imp_left fun member => responses member)
      apart := fun streamId member => consistent.apart streamId (responses member) }
  · have distinct := consistent.named_once
    rw [running, commandStreams, List.map_append, List.map_cons] at distinct
    rw [commandStreams, List.map_append]
    exact (List.nodup_cons.mp (List.nodup_middle.mp distinct)).1

theorem Consistent.release (consistent : tables.Consistent config requested queued)
    (streamId : StreamId) :
    Consistent config requested queued { tables with
      inbound := tables.inbound.erase streamId
      buffered := tables.buffered - (tables.inbound.lookup streamId).elim 0 inboundSize } := by
  refine { consistent with
    counted := ?_, buffer_bounded := ?_, bodies := ?_, frozen := ?_, inbound_active := ?_
    answering := ?_ }
  · change tables.buffered - _ = OrderedDict.total _ (tables.inbound.erase streamId)
    rw [OrderedDict.total_erase, consistent.counted]
  · exact consistent.released_bound streamId
  · intro other stream found
    change (tables.inbound.erase streamId).lookup other = some stream at found
    rw [OrderedDict.lookup_erase_eq] at found
    split at found
    · cases found
    · exact consistent.bodies other stream found
  · intro other stream found
    change (tables.inbound.erase streamId).lookup other = some stream at found
    rw [OrderedDict.lookup_erase_eq] at found
    split at found
    · cases found
    · exact consistent.frozen other stream found
  · exact fun other member => consistent.inbound_active other (AList.mem_erase.mp member).2
  · intro other place
    obtain ⟨noBody, notParked⟩ := consistent.answering other place
    exact ⟨fun inside => noBody (AList.mem_erase.mp inside).2, notParked⟩

end Tables

section Effects

variable {σ : Type} {config : HTTP2Config} {requested queued : List StreamId} {work next : Work σ}

theorem consistent_accepted {tables : Tables}
    (consistent : tables.Consistent config requested queued) {streamId : StreamId}
    {stream : InboundStream} (fresh : streamId ∉ requested)
    (room : tables.active.card < config.maxConcurrentStreams)
    (empty : stream.body = .bytearray []) (waiting : stream.dispatched = false) :
    Tables.Consistent config (requested ++ [streamId]) queued { tables with
      active := insert streamId tables.active
      inbound := tables.inbound.set streamId stream } := by
  have inactive : streamId ∉ tables.active :=
    fun member => fresh (consistent.active_requested streamId member)
  have noBody : tables.inbound.lookup streamId = none :=
    AList.lookup_eq_none.mpr fun member => inactive (consistent.inbound_active streamId member)
  have size : inboundSize stream = 0 := by
    rw [inboundSize, empty]
    rfl
  refine { consistent with
    counted := ?_, bodies := ?_, frozen := ?_, room := ?_, inbound_active := ?_
    outbound_active := ?_, parked_active := ?_, response_active := ?_, active_requested := ?_
    answering := ?_ }
  · change tables.buffered = OrderedDict.total _ (tables.inbound.set streamId stream)
    rw [OrderedDict.total_set, noBody, size, Option.elim_none, consistent.counted]
    omega
  · intro other present found
    change (tables.inbound.set streamId stream).lookup other = some present at found
    rw [OrderedDict.lookup_set_eq] at found
    split at found
    · cases found
      rw [empty]
      exact ⟨Nat.zero_le _, fun expected _ => Nat.zero_le _⟩
    · exact consistent.bodies other present found
  · intro other present found dispatched
    change (tables.inbound.set streamId stream).lookup other = some present at found
    rw [OrderedDict.lookup_set_eq] at found
    split at found
    · cases found
      rw [waiting] at dispatched
      cases dispatched
    · exact consistent.frozen other present found dispatched
  · exact (Finset.card_insert_le _ _).trans room
  · intro other member
    rcases OrderedDict.mem_set.mp member with rfl | old
    · exact Finset.mem_insert_self _ _
    · exact Finset.mem_insert_of_mem (consistent.inbound_active other old)
  · exact fun other member => Finset.mem_insert_of_mem (consistent.outbound_active other member)
  · exact fun other member => Finset.mem_insert_of_mem (consistent.parked_active other member)
  · exact fun other member => Finset.mem_insert_of_mem (consistent.response_active other member)
  · intro other member
    rcases Finset.mem_insert.mp member with rfl | old
    · exact List.mem_append_right _ List.mem_cons_self
    · exact List.mem_append_left _ (consistent.active_requested other old)
  · intro other place
    obtain ⟨absent, notParked⟩ := consistent.answering other place
    refine ⟨fun inside => ?_, notParked⟩
    rcases OrderedDict.mem_set.mp inside with rfl | old
    · rcases place with member | member
      · exact inactive (consistent.response_active other member)
      · exact inactive (consistent.outbound_active other member)
    · exact absent old

theorem consistent_rewritten {tables : Tables}
    (consistent : tables.Consistent config requested queued) {streamId : StreamId}
    {old new : InboundStream} (found : tables.inbound.lookup streamId = some old)
    {buffered : Int} (counted : buffered = tables.buffered - inboundSize old + inboundSize new)
    (fits : buffered ≤ config.maxConnectionBufferBytes)
    (body : new.body.content.length ≤ config.maxBodyBytes ∧
      ∀ expected, new.expectedContentLength = some expected →
        new.body.content.length ≤ expected)
    (freezes : new.dispatched = true → ∃ content, new.body = .bytes content) :
    Tables.Consistent config requested queued { tables with
      inbound := tables.inbound.set streamId new, buffered } := by
  have known : ∀ other, other ∈ tables.inbound.set streamId new → other ∈ tables.inbound := by
    intro other member
    rcases OrderedDict.mem_set.mp member with rfl | inside
    · exact OrderedDict.mem_of_lookup found
    · exact inside
  refine { consistent with
    counted := ?_, buffer_bounded := fits, bodies := ?_, frozen := ?_, inbound_active := ?_
    answering := ?_ }
  · change buffered = OrderedDict.total _ (tables.inbound.set streamId new)
    rw [OrderedDict.total_set, found, Option.elim_some, counted, consistent.counted]
  · intro other present same
    change (tables.inbound.set streamId new).lookup other = some present at same
    rw [OrderedDict.lookup_set_eq] at same
    split at same
    · cases same
      exact body
    · exact consistent.bodies other present same
  · intro other present same
    change (tables.inbound.set streamId new).lookup other = some present at same
    rw [OrderedDict.lookup_set_eq] at same
    split at same
    · cases same
      exact freezes
    · exact consistent.frozen other present same
  · exact fun other member => consistent.inbound_active other (known other member)
  · intro other place
    obtain ⟨absent, notParked⟩ := consistent.answering other place
    exact ⟨fun inside => absent (known other inside), notParked⟩

theorem consistent_left {tables : Tables}
    (consistent : tables.Consistent config requested queued) {streamId : StreamId}
    (noBody : streamId ∉ tables.inbound) (notParked : streamId ∉ tables.parked)
    (notSending : streamId ∉ tables.outbound)
    (unnamed : streamId ∉ responseStreams (tables.commands ++ tables.running)) :
    Tables.Consistent config requested queued { tables with
      active := tables.active.erase streamId } := by
  refine { consistent with
    room := (Finset.card_erase_le).trans consistent.room
    inbound_active := ?_, outbound_active := ?_, parked_active := ?_, response_active := ?_
    active_requested := fun other member =>
      consistent.active_requested other (Finset.mem_of_mem_erase member) }
  · exact fun other member => Finset.mem_erase.mpr
      ⟨fun same => noBody (same ▸ member), consistent.inbound_active other member⟩
  · exact fun other member => Finset.mem_erase.mpr
      ⟨fun same => notSending (same ▸ member), consistent.outbound_active other member⟩
  · exact fun other member => Finset.mem_erase.mpr
      ⟨fun same => notParked (same ▸ member), consistent.parked_active other member⟩
  · exact fun other member => Finset.mem_erase.mpr
      ⟨fun same => unnamed (same ▸ member), consistent.response_active other member⟩

theorem consistent_named {tables : Tables}
    (consistent : tables.Consistent config requested queued) (idle : tables.running = [])
    (command : Command) (fresh : command.streamId ∉ queued)
    (ready : responseStreams [command] ≠ [] → command.streamId ∈ tables.active ∧
      command.streamId ∉ tables.inbound ∧ command.streamId ∉ tables.parked) :
    Tables.Consistent config requested (queued ++ [command.streamId]) { tables with
      commands := tables.commands ++ [command] } := by
  have notSending : command.streamId ∉ tables.outbound :=
    fun member => fresh (consistent.named_queued _ (Or.inr member))
  have unnamed : command.streamId ∉ commandStreams tables.commands := by
    intro member
    refine fresh (consistent.named_queued _ (Or.inl ?_))
    rw [commandStreams, List.map_append]
    exact List.mem_append_left _ member
  have cut : ∀ streamId, streamId ∈ responseStreams (tables.commands ++ [command] ++ []) →
      streamId ∈ responseStreams (tables.commands ++ tables.running) ∨
        (responseStreams [command] ≠ [] ∧ streamId = command.streamId) := by
    intro streamId member
    rw [List.append_nil, responseStreams_append] at member
    rcases List.mem_append.mp member with old | new
    · rw [idle, List.append_nil]
      exact Or.inl old
    · refine Or.inr ⟨List.ne_nil_of_mem new, ?_⟩
      exact List.mem_singleton.mp (responseStreams_subset _ new)
  have names : commandStreams (tables.commands ++ [command] ++ []) =
      commandStreams (tables.commands ++ tables.running) ++ [command.streamId] := by
    rw [idle, List.append_nil, List.append_nil, commandStreams, List.map_append]
    rfl
  refine { consistent with
    response_active := ?_, named_once := ?_, named_queued := ?_, answering := ?_, apart := ?_ }
  · intro streamId member
    rw [idle] at member
    rcases cut streamId member with old | ⟨response, rfl⟩
    · exact consistent.response_active streamId old
    · exact (ready response).1
  · change (commandStreams (tables.commands ++ [command] ++ tables.running)).Nodup
    rw [idle, names, List.nodup_append_comm]
    refine List.nodup_cons.mpr ⟨?_, consistent.named_once⟩
    rw [idle, List.append_nil]
    exact unnamed
  · intro streamId place
    rw [idle, names] at place
    rcases place with member | inside
    · rcases List.mem_append.mp member with old | new
      · exact List.mem_append_left _ (consistent.named_queued streamId (Or.inl old))
      · exact List.mem_append_right _ new
    · exact List.mem_append_left _ (consistent.named_queued streamId (Or.inr inside))
  · intro streamId place
    rw [idle] at place
    rcases place with member | inside
    · rcases cut streamId member with old | ⟨response, rfl⟩
      · exact consistent.answering streamId (Or.inl old)
      · exact (ready response).2
    · exact consistent.answering streamId (Or.inr inside)
  · intro streamId member
    rw [idle] at member
    rcases cut streamId member with old | ⟨response, rfl⟩
    · exact consistent.apart streamId old
    · exact notSending

theorem named_running {tables : Tables} {streamId : StreamId} {response : Response}
    {rest : List Command} (running : tables.running = .response streamId response :: rest) :
    streamId ∈ responseStreams (tables.commands ++ tables.running) := by
  rw [running]
  exact responseStreams_between.symm.subset List.mem_cons_self

/-- A running command that drops its stream: no other running command is about it. -/
theorem consistent_givenUp {tables : Tables}
    (consistent : tables.Consistent config requested queued) {command : Command}
    {rest : List Command} (running : tables.running = command :: rest) :
    Tables.Consistent config requested queued
      (Tables.drop { tables with running := rest } command.streamId) := by
  obtain ⟨popped, gone⟩ := consistent.pop running
  refine popped.drop fun member => gone ?_
  rw [commandStreams, List.map_append]
  exact List.mem_append_right _ (responseStreams_subset _ member)

theorem consistent_empty (config : HTTP2Config) (requested queued : List StreamId) :
    Tables.Consistent config requested queued ⟨∅, ∅, ∅, [], [], [], 0⟩ where
  counted := rfl
  buffer_bounded := Int.natCast_nonneg _
  bodies := fun streamId stream found => by cases found
  frozen := fun streamId stream found => by cases found
  room := Nat.zero_le _
  inbound_active := fun streamId member => absurd member (AList.notMem_empty streamId)
  outbound_active := fun streamId member => absurd member (AList.notMem_empty streamId)
  parked_active := fun streamId member => by cases member
  response_active := fun streamId member => by cases member
  active_requested := fun streamId member => absurd member (Finset.notMem_empty streamId)
  named_once := List.nodup_nil
  named_queued := fun streamId place => by
    rcases place with member | inside
    · cases member
    · exact absurd inside (AList.notMem_empty streamId)
  answering := fun streamId place => ⟨AList.notMem_empty streamId, List.not_mem_nil⟩
  apart := fun streamId member => by cases member

/-- A DATA event that fits is added to the body of its stream. -/
theorem consistent_stored {tables : Tables}
    (consistent : tables.Consistent config requested queued) {streamId : StreamId}
    {stream : InboundStream} {content data : Bytes}
    (found : tables.inbound.lookup streamId = some stream)
    (current : stream.body = .bytearray content)
    (bodyFits : content.length + data.length ≤ config.maxBodyBytes)
    (declaredFits : exceedsDeclared stream (content.length + data.length) = false)
    (bufferFits : tables.buffered + data.length ≤ config.maxConnectionBufferBytes) :
    Tables.Consistent config requested queued { tables with
      inbound := tables.inbound.set streamId
        { stream with body := .bytearray (content ++ data) }
      buffered := tables.buffered + data.length } := by
  have size : (content ++ data).length = content.length + data.length := List.length_append
  refine consistent_rewritten consistent found ?_ bufferFits ⟨?_, ?_⟩ ?_
  · simp only [inboundSize, current, InboundBody.content, size]
    push_cast
    omega
  · rw [InboundBody.content, size]
    exact bodyFits
  · intro expected declared
    rw [exceedsDeclared] at declaredFits
    have fits : ¬ expected < content.length + data.length := by
      intro exceeds
      rw [show stream.expectedContentLength = some expected from declared] at declaredFits
      simp [exceeds] at declaredFits
    rw [InboundBody.content, size]
    exact Nat.le_of_not_lt fits
  · intro dispatched
    obtain ⟨frozen, same⟩ := consistent.frozen streamId stream found dispatched
    rw [current] at same
    cases same

/-- A request that is ready waits to be returned; it is not answered yet. -/
theorem consistent_parked {tables : Tables}
    (consistent : tables.Consistent config requested queued) {streamId : StreamId}
    (present : streamId ∈ tables.inbound) :
    Tables.Consistent config requested queued { tables with
      parked := tables.parked ++ [streamId] } := by
  refine { consistent with parked_active := ?_, answering := ?_ }
  · intro other member
    rcases List.mem_append.mp member with old | new
    · exact consistent.parked_active other old
    · rw [List.mem_singleton.mp new]
      exact consistent.inbound_active _ present
  · intro other place
    obtain ⟨noBody, notParked⟩ := consistent.answering other place
    refine ⟨noBody, fun member => ?_⟩
    rcases List.mem_append.mp member with old | new
    · exact notParked old
    · rw [List.mem_singleton.mp new] at noBody
      exact noBody present

/-- The HEADERS frame of a running response is out; its body is still to be sent. -/
theorem consistent_started {tables : Tables}
    (consistent : tables.Consistent config requested queued) {streamId : StreamId}
    {response : Response} {rest : List Command}
    (running : tables.running = .response streamId response :: rest)
    (outbound : OutboundStream) :
    Tables.Consistent config requested queued { tables with
      outbound := tables.outbound.set streamId outbound
      running := rest } := by
  obtain ⟨popped, gone⟩ := consistent.pop running
  have named := named_running running
  have active := consistent.response_active streamId named
  have answering := consistent.answering streamId (Or.inl named)
  have queuedHere := consistent.named_queued streamId
    (Or.inl (responseStreams_subset _ named))
  refine { popped with
    outbound_active := ?_, named_queued := ?_, answering := ?_, apart := ?_ }
  · intro other member
    rcases OrderedDict.mem_set.mp member with rfl | old
    · exact active
    · exact consistent.outbound_active other old
  · intro other place
    rcases place with member | inside
    · exact popped.named_queued other (Or.inl member)
    · rcases OrderedDict.mem_set.mp inside with rfl | old
      · exact queuedHere
      · exact popped.named_queued other (Or.inr old)
  · intro other place
    rcases place with member | inside
    · exact popped.answering other (Or.inl member)
    · rcases OrderedDict.mem_set.mp inside with rfl | old
      · exact answering
      · exact popped.answering other (Or.inr old)
  · intro other member inside
    rcases OrderedDict.mem_set.mp inside with rfl | old
    · exact gone (responseStreams_subset _ member)
    · exact popped.apart other member old

/-- An empty response ends with its HEADERS frame. -/
theorem consistent_answered {tables : Tables}
    (consistent : tables.Consistent config requested queued) {streamId : StreamId}
    {response : Response} {rest : List Command}
    (running : tables.running = .response streamId response :: rest) :
    Tables.Consistent config requested queued { tables with
      active := tables.active.erase streamId
      running := rest } := by
  obtain ⟨popped, gone⟩ := consistent.pop running
  have named := named_running running
  obtain ⟨noBody, notParked⟩ := consistent.answering streamId (Or.inl named)
  exact consistent_left popped noBody notParked (consistent.apart streamId named)
    fun member => gone (responseStreams_subset _ member)

/-- A body of which something was sent takes the place it had. -/
theorem consistent_sent {tables : Tables}
    (consistent : tables.Consistent config requested queued) {streamId : StreamId}
    (sending : streamId ∈ tables.outbound) (outbound : OutboundStream) :
    Tables.Consistent config requested queued { tables with
      outbound := tables.outbound.set streamId outbound } := by
  have known : ∀ other, other ∈ tables.outbound.set streamId outbound →
      other ∈ tables.outbound := by
    intro other member
    rcases OrderedDict.mem_set.mp member with rfl | inside
    · exact sending
    · exact inside
  exact { consistent with
    outbound_active := fun other member => consistent.outbound_active other (known other member)
    named_queued := fun other place =>
      consistent.named_queued other (place.imp_right (known other))
    answering := fun other place => consistent.answering other (place.imp_right (known other))
    apart := fun other member inside => consistent.apart other member (known other inside) }

/-- A stream whose body is sent leaves the outbound bodies and the active streams. -/
theorem consistent_finished {tables : Tables}
    (consistent : tables.Consistent config requested queued) {streamId : StreamId}
    (sending : streamId ∈ tables.outbound) :
    Tables.Consistent config requested queued { tables with
      outbound := tables.outbound.erase streamId
      active := tables.active.erase streamId } := by
  obtain ⟨noBody, notParked⟩ := consistent.answering streamId (Or.inr sending)
  have unnamed : streamId ∉ responseStreams (tables.commands ++ tables.running) :=
    fun member => consistent.apart streamId member sending
  have shorter : Tables.Consistent config requested queued { tables with
      outbound := tables.outbound.erase streamId } :=
    { consistent with
      outbound_active := fun other member =>
        consistent.outbound_active other (AList.mem_erase.mp member).2
      named_queued := fun other place => consistent.named_queued other
        (place.imp_right fun inside => (AList.mem_erase.mp inside).2)
      answering := fun other place => consistent.answering other
        (place.imp_right fun inside => (AList.mem_erase.mp inside).2)
      apart := fun other member inside =>
        consistent.apart other member (AList.mem_erase.mp inside).2 }
  exact consistent_left shorter noBody notParked
    (fun inside => (AList.mem_erase.mp inside).1 rfl) unnamed

/-- Each effect keeps the tables consistent, if a stream is not requested again, and is
answered once and not while its request is parked. -/
theorem consistent_effect {mark : Mark} (effect : Effect config work mark next)
    (consistent : (tables work).Consistent config requested queued)
    (newRequest : ∀ streamId, mark.requestedStream = some streamId → streamId ∉ requested)
    (newAnswer : ∀ streamId, mark.queuedStream = some streamId →
      streamId ∉ queued ∧ streamId ∉ (tables work).parked) :
    (tables next).Consistent config (requested ++ mark.requestedStream.toList)
      (queued ++ mark.queuedStream.toList) := by
  cases effect with
  | engine work connection => exact consistent.more _ _
  | frames work frames => exact consistent.more _ _
  | terminated => exact consistent.more _ _
  | cancelled work streams => exact consistent.more _ _
  | captured => exact consistent.more _ _
  | moved => exact consistent.more _ _
  | emitted => exact consistent.more _ _
  | dropped protocol streamId output =>
      have dropped := Tables.tables_dropStream (⟨protocol, [], output⟩ : Work σ) streamId
      apply Tables.Consistent.more
      rw [dropped]
      exact consistent.drop List.not_mem_nil
  | accepted work streamId stream room empty waiting =>
      have keep : queued ++ (Mark.requested streamId).queuedStream.toList = queued :=
        List.append_nil _
      rw [keep]
      exact consistent_accepted consistent (newRequest streamId rfl) room empty waiting
  | stored work streamId stream content data found current bodyFits declaredFits bufferFits =>
      apply Tables.Consistent.more
      exact consistent_stored consistent found current bodyFits declaredFits bufferFits
  | completed work streamId stream found =>
      apply Tables.Consistent.more
      refine consistent_rewritten consistent found ?_ consistent.buffer_bounded
        (consistent.bodies streamId stream found) fun _ => ⟨_, rfl⟩
      exact (Int.sub_add_cancel _ _).symm
  | parked work item present =>
      have names : (work.protocol.readyRequests ++ [item]).map H2ReadyRequest.streamId =
          (tables work).parked ++ [item.streamId] := by
        rw [List.map_append]
        rfl
      have after := (consistent_parked consistent present).more [] []
      rw [← names] at after
      exact after
  | returned =>
      apply Tables.Consistent.more
      exact { consistent with
        parked_active := fun streamId member => by cases member
        answering := fun streamId place =>
          ⟨(consistent.answering streamId place).1, List.not_mem_nil⟩ }
  | released protocol streamId =>
      rw [releaseInbound_eq]
      exact (consistent.release streamId).more _ _
  | refused protocol streamId =>
      have keep : requested ++ (Mark.queued streamId).requestedStream.toList = requested :=
        List.append_nil _
      rw [releaseInbound_eq, keep]
      exact consistent_named (consistent.release streamId) rfl (.reset streamId)
        (newAnswer streamId rfl).1 fun response => absurd rfl response
  | queued protocol streamId response active fits =>
      have keep : requested ++ (Mark.queued streamId).requestedStream.toList = requested :=
        List.append_nil _
      rw [releaseInbound_eq, keep]
      obtain ⟨fresh, notParked⟩ := newAnswer streamId rfl
      exact consistent_named (consistent.release streamId) rfl (.response streamId response) fresh
        fun _ => ⟨active, fun inside => (AList.mem_erase.mp inside).1 rfl, notParked⟩
  | taken protocol =>
      have same : [] ++ protocol.commands = protocol.commands ++ [] :=
        (List.nil_append _).trans (List.append_nil _).symm
      apply Tables.Consistent.more
      exact { consistent with
        response_active := same ▸ consistent.response_active
        named_once := same ▸ consistent.named_once
        named_queued := same ▸ consistent.named_queued
        answering := same ▸ consistent.answering
        apart := same ▸ consistent.apart }
  | reset protocol streamId rest output =>
      have dropped := Tables.tables_dropStream (⟨protocol, rest, output⟩ : Work σ) streamId
      apply Tables.Consistent.more
      rw [dropped]
      exact consistent_givenUp consistent rfl
  | failed protocol streamId response rest output =>
      have dropped := Tables.tables_dropStream (⟨{ protocol with
        pendingOutputBytes := protocol.pendingOutputBytes - response.body.length }, rest, output⟩ :
          Work σ) streamId
      apply Tables.Consistent.more
      rw [dropped]
      exact consistent_givenUp consistent rfl
  | started protocol streamId response rest output =>
      exact (consistent_started consistent rfl _).more _ _
  | answered protocol streamId response rest output empty =>
      exact (consistent_answered consistent rfl).more _ _
  | sent work streamId outbound size found owed =>
      exact (consistent_sent consistent (OrderedDict.mem_of_lookup found) _).more _ _
  | finished work streamId outbound found nothing =>
      exact (consistent_finished consistent (OrderedDict.mem_of_lookup found)).more _ _
  | cleared protocol => exact consistent_empty config _ _

/-- A released request body does not come back without a new request. -/
theorem absent_effect {mark : Mark} {streamId : StreamId} (effect : Effect config work mark next)
    (different : mark.requestedStream ≠ some streamId)
    (absent : streamId ∉ work.protocol.inbound) : streamId ∉ next.protocol.inbound := by
  cases effect with
  | engine | frames | terminated | cancelled | captured | moved | emitted | parked | returned
  | taken | started | answered | sent | finished => exact absent
  | dropped | reset | failed =>
      rw [dropStream_eq]
      exact fun member => absent (AList.mem_erase.mp member).2
  | released | refused | queued =>
      rw [releaseInbound_eq]
      exact fun member => absent (AList.mem_erase.mp member).2
  | accepted work other stream room empty waiting =>
      intro member
      rcases OrderedDict.mem_set.mp member with rfl | old
      · exact different rfl
      · exact absent old
  | stored work other stream content data found =>
      intro member
      rcases OrderedDict.mem_set.mp member with rfl | old
      · exact absent (OrderedDict.mem_of_lookup found)
      · exact absent old
  | completed work other stream found =>
      intro member
      rcases OrderedDict.mem_set.mp member with rfl | old
      · exact absent (OrderedDict.mem_of_lookup found)
      · exact absent old
  | cleared => exact AList.notMem_empty streamId

/-- The record of a completed request is untouched, or its stream is gone. -/
def Kept (streamId : StreamId) (stream : InboundStream) (work : Work σ) : Prop :=
  work.protocol.inbound.lookup streamId = some stream ∨
    (streamId ∉ work.protocol.inbound ∧ streamId ∉ work.protocol.activeStreams)

theorem kept_erased {streamId other : StreamId} {stream : InboundStream} (work : Work σ)
    (kept : Kept streamId stream work) :
    (work.protocol.inbound.erase other).lookup streamId = some stream ∨
      (streamId ∉ work.protocol.inbound.erase other ∧
        streamId ∉ work.protocol.activeStreams.erase other) := by
  by_cases same : streamId = other
  · subst same
    exact Or.inr ⟨fun member => (AList.mem_erase.mp member).1 rfl, Finset.notMem_erase _ _⟩
  · rcases kept with found | ⟨absent, inactive⟩
    · rw [AList.lookup_erase_ne same]
      exact Or.inl found
    · exact Or.inr ⟨fun member => absent (AList.mem_erase.mp member).2,
        fun member => inactive (Finset.mem_of_mem_erase member)⟩

theorem kept_effect {mark : Mark} {streamId : StreamId} {stream : InboundStream}
    {content : Bytes} (frozen : stream.body = .bytes content)
    (dispatched : stream.dispatched = true) (effect : Effect config work mark next)
    (notRequested : mark.requestedStream ≠ some streamId)
    (notAnswered : mark.queuedStream ≠ some streamId) (kept : Kept streamId stream work) :
    Kept streamId stream next := by
  cases effect with
  | engine | frames | terminated | cancelled | captured | moved | emitted | parked | returned
  | taken | started | sent => exact kept
  | dropped protocol other output =>
      rw [Kept, dropStream_eq]
      exact kept_erased ⟨protocol, [], output⟩ kept
  | reset protocol other rest output =>
      rw [Kept, dropStream_eq]
      exact kept_erased ⟨protocol, rest, output⟩ kept
  | failed protocol other response rest output =>
      rw [Kept, dropStream_eq]
      exact kept_erased ⟨protocol, rest, output⟩ kept
  | answered protocol other response rest output empty =>
      exact kept.imp_right fun gone =>
        ⟨gone.1, fun member => gone.2 (Finset.mem_of_mem_erase member)⟩
  | finished work other outbound found nothing =>
      exact kept.imp_right fun gone =>
        ⟨gone.1, fun member => gone.2 (Finset.mem_of_mem_erase member)⟩
  | released protocol other =>
      have different : streamId ≠ other := fun same => notAnswered (congrArg some same.symm)
      rw [Kept, releaseInbound_eq]
      refine kept.imp (fun found => ?_) fun gone => ⟨?_, gone.2⟩
      · exact (AList.lookup_erase_ne different).trans found
      · exact fun member => gone.1 (AList.mem_erase.mp member).2
  | refused protocol other =>
      have different : streamId ≠ other := fun same => notAnswered (congrArg some same.symm)
      rw [Kept, releaseInbound_eq]
      refine kept.imp (fun found => ?_) fun gone => ⟨?_, gone.2⟩
      · exact (AList.lookup_erase_ne different).trans found
      · exact fun member => gone.1 (AList.mem_erase.mp member).2
  | queued protocol other response active fits =>
      have different : streamId ≠ other := fun same => notAnswered (congrArg some same.symm)
      rw [Kept, releaseInbound_eq]
      refine kept.imp (fun found => ?_) fun gone => ⟨?_, gone.2⟩
      · exact (AList.lookup_erase_ne different).trans found
      · exact fun member => gone.1 (AList.mem_erase.mp member).2
  | accepted work other entry room empty waiting =>
      have different : streamId ≠ other := fun same => notRequested (congrArg some same.symm)
      refine kept.imp (fun found => ?_) fun gone => ⟨?_, ?_⟩
      · exact (OrderedDict.lookup_set_ne _ _ different).trans found
      · exact fun member => (OrderedDict.mem_set.mp member).elim different gone.1
      · exact fun member => (Finset.mem_insert.mp member).elim different gone.2
  | stored work other entry present data found current =>
      by_cases same : streamId = other
      · subst same
        rcases kept with here | ⟨absent, -⟩
        · rw [here] at found
          cases found
          rw [frozen] at current
          cases current
        · exact absurd (OrderedDict.mem_of_lookup found) absent
      · refine kept.imp (fun here => ?_) fun gone => ⟨?_, gone.2⟩
        · exact (OrderedDict.lookup_set_ne _ _ same).trans here
        · exact fun member => (OrderedDict.mem_set.mp member).elim same gone.1
  | completed work other entry found =>
      by_cases same : streamId = other
      · subst same
        rcases kept with here | ⟨absent, -⟩
        · rw [here] at found
          cases found
          refine Or.inl ((OrderedDict.lookup_set _ _ _).trans (congrArg some ?_))
          cases stream
          cases frozen
          cases dispatched
          rfl
        · exact absurd (OrderedDict.mem_of_lookup found) absent
      · refine kept.imp (fun here => ?_) fun gone => ⟨?_, gone.2⟩
        · exact (OrderedDict.lookup_set_ne _ _ same).trans here
        · exact fun member => (OrderedDict.mem_set.mp member).elim same gone.1
  | cleared => exact Or.inr ⟨AList.notMem_empty streamId, Finset.notMem_empty streamId⟩

end Effects

section Runs

variable {σ : Type} {engine : Engine σ} {config : HTTP2Config}

/-- A step in which a response is not queued on a stream whose request is still parked. -/
def AnsweredCalls (engine : Engine σ) (config : HTTP2Config) (protocol : H2Protocol σ)
    (call : Call) (next : H2Protocol σ) : Prop :=
  Calls engine config protocol call next ∧
    ∀ streamId, call.operation.queuedStream = some streamId →
      ∀ item ∈ protocol.readyRequests, item.streamId ≠ streamId

structure Accounted (config : HTTP2Config) (protocol : H2Protocol σ) : Prop where
  buffered : protocol.bufferedRequestBytes = OrderedDict.total inboundSize protocol.inbound
  buffer_bounded : protocol.bufferedRequestBytes ≤ config.maxConnectionBufferBytes
  bodies : ∀ streamId stream, protocol.inbound.lookup streamId = some stream →
    stream.body.content.length ≤ config.maxBodyBytes ∧
      ∀ expected, stream.expectedContentLength = some expected →
        stream.body.content.length ≤ expected
  room : protocol.activeStreamCount ≤ config.maxConcurrentStreams
  inbound_active : ∀ streamId ∈ protocol.inbound, streamId ∈ protocol.activeStreams
  outbound_active : ∀ streamId ∈ protocol.outbound, streamId ∈ protocol.activeStreams
  ready_active : ∀ item ∈ protocol.readyRequests, item.streamId ∈ protocol.activeStreams

/-- What one operation does to the bodies of completed requests: each stays as it is,
until it is answered or its stream leaves, and none comes back. -/
def ReleasesOnce (requested : List StreamId) (protocol : H2Protocol σ) (call : Call)
    (next : H2Protocol σ) : Prop :=
  (∀ streamId stream, protocol.inbound.lookup streamId = some stream →
    stream.dispatched = true →
      next.inbound.lookup streamId = some stream ∨
        (streamId ∉ next.inbound ∧ (call.operation.queuedStream = some streamId ∨
          streamId ∉ next.activeStreams))) ∧
    ∀ streamId ∈ requested, streamId ∉ protocol.inbound → streamId ∉ next.inbound

theorem consistent_reaches {work next : Work σ} {requested queued requests marked : List StreamId}
    (reached : Reaches config work requests marked next) (unanswered : marked = [])
    (once : (requested ++ requests).Nodup)
    (consistent : (tables work).Consistent config requested queued) :
    (tables next).Consistent config (requested ++ requests) queued := by
  obtain ⟨marks, run, rfl, same⟩ := reached
  rw [unanswered] at same
  induction run with
  | nil =>
      rw [List.filterMap_nil, List.append_nil]
      exact consistent
  | snoc mark run effect induction =>
      rw [List.filterMap_append, List.append_eq_nil_iff, filterMap_single] at same
      rw [List.filterMap_append, ← List.append_assoc, filterMap_single] at once ⊢
      have earlier := induction same.1 (List.Nodup.of_append_left once)
      have silent : mark.queuedStream = none := by
        cases named : mark.queuedStream with
        | none => rfl
        | some streamId =>
            rw [named] at same
            cases same.2
      have step := consistent_effect effect earlier
        (by
          intro streamId named member
          rw [named] at once
          exact (List.nodup_append.mp once).2.2 streamId member streamId List.mem_cons_self rfl)
        (by
          intro streamId named
          rw [silent] at named
          cases named)
      rw [silent, Option.toList_none, List.append_nil] at step
      exact step

theorem reaches_unanswered {protocol next : H2Protocol σ} {call : Call}
    (step : Calls engine config protocol call next)
    (other : call.operation.queuedStream = none) :
    ∃ requests rest assembled, Reaches config { protocol } requests []
        { protocol := next, running := rest, output := assembled } ∧
      requests.Sublist (call.events.filterMap requestedStream) := by
  obtain ⟨requests, marked, rest, assembled, reached, part, none, -⟩ :=
    reaches_perform engine config protocol call.operation
  rw [other, Option.toList_none] at none
  obtain rfl := List.eq_nil_of_sublist_nil none
  rw [step.1] at reached
  rw [← step.2] at part
  exact ⟨requests, rest, assembled, reached, part⟩

/-- Queueing a response: nothing happens, or the answer is the first effect. -/
theorem reaches_answered {protocol next : H2Protocol σ} {call : Call} {streamId : StreamId}
    (step : Calls engine config protocol call next)
    (answer : call.operation.queuedStream = some streamId) :
    call.events = [] ∧ (next = protocol ∨
      ∃ middle, Effect config { protocol } (.queued streamId) middle ∧
        Reaches config middle [] [] { protocol := next }) := by
  obtain ⟨operation, events, result⟩ := call
  cases operation with
  | queueResponse other response =>
      cases answer
      have same : (queueResponse engine config protocol streamId response).2 = next :=
        congrArg Prod.snd step.1
      rw [← same]
      exact ⟨step.2, queueResponse_first engine config protocol streamId response⟩
  | initiate | receiveData | takeCancelledStreams | flush | dropStream | resetStream | close =>
      cases answer

theorem consistent_call {protocol next : H2Protocol σ} {call : Call}
    {requested queued : List StreamId} (step : AnsweredCalls engine config protocol call next)
    (requestedOnce : (requested ++ call.events.filterMap requestedStream).Nodup)
    (answeredOnce : (queued ++ call.operation.queuedStream.toList).Nodup)
    (consistent : (tables ⟨protocol, [], []⟩).Consistent config requested queued) :
    (tables ⟨next, [], []⟩).Consistent config
      (requested ++ call.events.filterMap requestedStream)
      (queued ++ call.operation.queuedStream.toList) := by
  cases answer : call.operation.queuedStream with
  | none =>
      obtain ⟨requests, rest, assembled, reached, part⟩ := reaches_unanswered step.1 answer
      have wide := List.Sublist.append_left part requested
      have after := consistent_reaches reached rfl (requestedOnce.sublist wide) consistent
      have forgotten := after.forget
      rw [Option.toList_none, List.append_nil]
      exact { forgotten with
        active_requested := fun streamId member =>
          wide.subset (forgotten.active_requested streamId member) }
  | some streamId =>
      obtain ⟨noEvents, same | ⟨middle, effect, reached⟩⟩ := reaches_answered step.1 answer
      · rw [same]
        exact consistent.more _ _
      · rw [answer] at answeredOnce
        have fresh : streamId ∉ queued := fun member =>
          (List.nodup_append.mp answeredOnce).2.2 streamId member streamId List.mem_cons_self rfl
        have first := consistent_effect effect consistent
          (by intro other named; cases named)
          (by
            intro other named
            cases named
            refine ⟨fresh, ?_⟩
            intro member
            obtain ⟨item, inside, named⟩ := List.mem_map.mp member
            exact step.2 streamId answer item inside named)
        have noMore :
            ((requested ++ (Mark.queued streamId).requestedStream.toList) ++ []).Nodup := by
          rw [noEvents] at requestedOnce
          rw [List.append_nil]
          exact requestedOnce
        have last := consistent_reaches reached rfl noMore first
        rw [noEvents]
        rw [List.append_nil] at last
        exact last

theorem consistent_new (config : HTTP2Config) (connection : σ) :
    (tables ⟨H2Protocol.new connection, [], []⟩).Consistent config [] [] :=
  consistent_empty config [] []

/-- The tables of every run that requests and answers each stream once, and answers none
whose request is still parked. -/
theorem consistent_run {connection : σ} {calls : List Call} {protocol : H2Protocol σ}
    (run : Run (AnsweredCalls engine config) (H2Protocol.new connection) calls protocol)
    (requestedOnce : (requestedStreams calls).Nodup) (answeredOnce : (queuedStreams calls).Nodup) :
    (tables ⟨protocol, [], []⟩).Consistent config (requestedStreams calls)
      (queuedStreams calls) := by
  induction run with
  | nil => exact consistent_new config connection
  | snoc call run step induction =>
      rw [requestedStreams_snoc] at requestedOnce ⊢
      rw [queuedStreams_snoc] at answeredOnce ⊢
      exact consistent_call step requestedOnce answeredOnce
        (induction (List.Nodup.of_append_left requestedOnce)
          (List.Nodup.of_append_left answeredOnce))

theorem Tables.Consistent.accounted {requested queued : List StreamId} {protocol : H2Protocol σ}
    (consistent : (tables ⟨protocol, [], []⟩).Consistent config requested queued) :
    Accounted config protocol where
  buffered := consistent.counted
  buffer_bounded := consistent.buffer_bounded
  bodies := consistent.bodies
  room := consistent.room
  inbound_active := consistent.inbound_active
  outbound_active := consistent.outbound_active
  ready_active := fun item member =>
    consistent.parked_active item.streamId (List.mem_map.mpr ⟨item, member, rfl⟩)

theorem absent_reaches {work next : Work σ} {requests marked : List StreamId}
    {streamId : StreamId} (reached : Reaches config work requests marked next)
    (notRequested : streamId ∉ requests) (absent : streamId ∉ work.protocol.inbound) :
    streamId ∉ next.protocol.inbound := by
  obtain ⟨marks, run, rfl, -⟩ := reached
  induction run with
  | nil => exact absent
  | snoc mark run effect induction =>
      rw [List.filterMap_append, List.mem_append, not_or, filterMap_single] at notRequested
      refine absent_effect effect ?_ (induction notRequested.1)
      intro named
      rw [named] at notRequested
      exact notRequested.2 List.mem_cons_self

theorem kept_reaches {work next : Work σ} {requests marked : List StreamId}
    {streamId : StreamId} {stream : InboundStream} {content : Bytes}
    (frozen : stream.body = .bytes content) (dispatched : stream.dispatched = true)
    (reached : Reaches config work requests marked next) (notRequested : streamId ∉ requests)
    (notAnswered : streamId ∉ marked) (kept : Kept streamId stream work) :
    Kept streamId stream next := by
  obtain ⟨marks, run, rfl, rfl⟩ := reached
  induction run with
  | nil => exact kept
  | snoc mark run effect induction =>
      rw [List.filterMap_append, List.mem_append, not_or, filterMap_single] at notRequested
      rw [List.filterMap_append, List.mem_append, not_or, filterMap_single] at notAnswered
      refine kept_effect frozen dispatched effect ?_ ?_
        (induction notRequested.1 notAnswered.1)
      · intro named
        rw [named] at notRequested
        exact notRequested.2 List.mem_cons_self
      · intro named
        rw [named] at notAnswered
        exact notAnswered.2 List.mem_cons_self

theorem releases_once {protocol next : H2Protocol σ} {call : Call}
    {requested queued : List StreamId} (step : Calls engine config protocol call next)
    (requestedOnce : (requested ++ call.events.filterMap requestedStream).Nodup)
    (consistent : (tables ⟨protocol, [], []⟩).Consistent config requested queued) :
    ReleasesOnce requested protocol call next := by
  have fresh : ∀ streamId ∈ requested, streamId ∉ call.events.filterMap requestedStream :=
    fun streamId member again =>
      (List.nodup_append.mp requestedOnce).2.2 streamId member streamId again rfl
  have gone : ∀ streamId ∈ requested, streamId ∉ protocol.inbound → streamId ∉ next.inbound := by
    intro streamId member absent
    cases answer : call.operation.queuedStream with
    | none =>
        obtain ⟨requests, rest, assembled, reached, part⟩ := reaches_unanswered step answer
        exact absent_reaches reached (fun again => fresh streamId member (part.subset again)) absent
    | some other =>
        obtain ⟨-, same | ⟨middle, effect, reached⟩⟩ := reaches_answered step answer
        · rw [same]
          exact absent
        · exact absent_reaches reached List.not_mem_nil
            (absent_effect effect (by intro named; cases named) absent)
  refine ⟨?_, gone⟩
  intro streamId stream found dispatched
  have member : streamId ∈ requested := consistent.active_requested streamId
    (consistent.inbound_active streamId (OrderedDict.mem_of_lookup found))
  obtain ⟨content, frozen⟩ := consistent.frozen streamId stream found dispatched
  cases answer : call.operation.queuedStream with
  | none =>
      obtain ⟨requests, rest, assembled, reached, part⟩ := reaches_unanswered step answer
      have kept := kept_reaches frozen dispatched reached
        (fun again => fresh streamId member (part.subset again)) List.not_mem_nil (Or.inl found)
      exact kept.imp_right fun left => ⟨left.1, Or.inr left.2⟩
  | some other =>
      obtain ⟨-, same | ⟨middle, effect, reached⟩⟩ := reaches_answered step answer
      · rw [same]
        exact Or.inl found
      · by_cases mine : streamId = other
        · subst mine
          right
          refine ⟨?_, Or.inl rfl⟩
          refine absent_reaches reached List.not_mem_nil ?_
          cases effect with
          | released | refused | queued =>
              rw [releaseInbound_eq]
              exact fun inside => (AList.mem_erase.mp inside).1 rfl
        · have first := kept_effect frozen dispatched effect (by intro named; cases named)
            (fun named => mine (Option.some.inj named).symm) (Or.inl found)
          have kept := kept_reaches frozen dispatched reached List.not_mem_nil List.not_mem_nil
            first
          exact kept.imp_right fun left => ⟨left.1, Or.inr left.2⟩

/-- The inbound budget and the stream tables after every operation of a run, raising
ones included, and the release of completed bodies by the next. -/
theorem inbound_tables_accounted (engine : Engine σ) (config : HTTP2Config) (connection : σ)
    (calls : List Call) (protocol : H2Protocol σ)
    (run : Run (AnsweredCalls engine config) (H2Protocol.new connection) calls protocol)
    (requestedOnce : (requestedStreams calls).Nodup)
    (answeredOnce : (queuedStreams calls).Nodup) :
    Accounted config protocol ∧
      ∀ call next, Calls engine config protocol call next →
        (requestedStreams (calls ++ [call])).Nodup →
          ReleasesOnce (requestedStreams calls) protocol call next := by
  have consistent := consistent_run run requestedOnce answeredOnce
  refine ⟨consistent.accounted, ?_⟩
  intro call next step onceMore
  rw [requestedStreams_snoc] at onceMore
  exact releases_once step onceMore consistent

end Runs

section Samples

variable {σ : Type} (engine : Engine σ) (config : HTTP2Config)

def neverParked (protocol : H2Protocol σ) : List Operation → Bool
  | [] => true
  | operation :: operations =>
      (protocol.readyRequests.all fun item =>
        operation.queuedStream != some item.streamId) &&
        neverParked (perform engine config protocol operation).2 operations

theorem answered_performAll (protocol : H2Protocol σ) (operations : List Operation)
    (answered : neverParked engine config protocol operations = true) :
    Run (AnsweredCalls engine config) protocol (performAll engine config protocol operations).1
      (performAll engine config protocol operations).2 := by
  induction operations generalizing protocol with
  | nil => exact .nil
  | cons operation operations induction =>
      obtain ⟨apart, later⟩ := Bool.and_eq_true_iff.mp answered
      apply Run.cons _ (induction _ later)
      refine ⟨⟨rfl, rfl⟩, ?_⟩
      intro streamId queues item member same
      have different := List.all_eq_true.mp apart item member
      rw [queues, same, bne_self_eq_false] at different
      cases different

def sampleRun : List Call × H2Protocol Script :=
  performAll (scripted 40) HTTP2Config.standard (H2Protocol.new sampleStart)
    [.receiveData clientPreface, .queueResponse 1 (sampleResponse [104, 105]), .flush,
      .dropStream 3]

theorem inbound_tables_accounted_sample :
    Accounted HTTP2Config.standard sampleRun.2 ∧
      ∀ call next, Calls (scripted 40) HTTP2Config.standard sampleRun.2 call next →
        (requestedStreams (sampleRun.1 ++ [call])).Nodup →
          ReleasesOnce (requestedStreams sampleRun.1) sampleRun.2 call next :=
  inbound_tables_accounted (scripted 40) HTTP2Config.standard sampleStart sampleRun.1
    sampleRun.2 (answered_performAll _ _ _ _ (by decide +kernel)) (by decide +kernel)
    (by decide +kernel)

def singleFrames : HTTP2Config where
  readerFrameBatchSize := 1
  accepted := by decide

/-- The request arrives with the preface and is answered while a frame is still waiting. -/
def earlyAnswer : List Call × H2Protocol Script :=
  performAll (scripted 40) singleFrames (H2Protocol.new sampleStart)
    [.receiveData (clientPreface ++ List.replicate 9 0), .queueResponse 1 (sampleResponse []),
      .flush]

def closedWindow : Engine Script :=
  { scripted 40 with localFlowControlWindow := fun script _ => (.ok 0, script) }

def secondAnswer : List Call × H2Protocol Script :=
  performAll closedWindow HTTP2Config.standard (H2Protocol.new sampleStart)
    [.receiveData clientPreface, .queueResponse 1 (sampleResponse []),
      .queueResponse 1 (sampleResponse [104, 105]), .flush]

/-- A response sent while the request is parked leaves a parked request that is not
active; a second response leaves an outbound stream that is not. -/
theorem tables_may_disagree :
    (Run (Calls (scripted 40) singleFrames) (H2Protocol.new sampleStart) earlyAnswer.1
        earlyAnswer.2 ∧
      (requestedStreams earlyAnswer.1).Nodup ∧ (queuedStreams earlyAnswer.1).Nodup ∧
      ∃ item ∈ earlyAnswer.2.readyRequests, item.streamId ∉ earlyAnswer.2.activeStreams) ∧
    (Run (AnsweredCalls closedWindow HTTP2Config.standard) (H2Protocol.new sampleStart)
        secondAnswer.1 secondAnswer.2 ∧
      (requestedStreams secondAnswer.1).Nodup ∧
      ∃ streamId ∈ secondAnswer.2.outbound.keys, streamId ∉ secondAnswer.2.activeStreams) :=
  ⟨⟨run_performAll _ _ _ _, by decide +kernel, by decide +kernel, by decide +kernel⟩,
    ⟨answered_performAll _ _ _ _ (by decide +kernel), by decide +kernel, by decide +kernel⟩⟩

end Samples

end SmallServer.Http2Tables
