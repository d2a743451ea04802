import SmallServer.Http2Protocol

/-!
# Draining received frames in batches

`receive_data` handles at most `reader_frame_batch_size` frames a call; its caller
repeats it on nothing while frames are waiting. All the frames handled at once, and
the parked requests released after them, give the same requests and the same state,
so the batch size does not show.
-/

namespace SmallServer.Http2Batches

open SmallServer HttpValues Http2Frames Http2Protocol

set_option autoImplicit false

variable {σ : Type}

section Drain

variable (engine : Engine σ) (config : HTTP2Config)

/-- `receive_data(b"")` while input is pending, with everything it returned. -/
inductive Drained : H2Protocol σ → List H2ReadyRequest → H2Protocol σ → Prop
  | idle (protocol : H2Protocol σ) (settled : protocol.hasPendingInput = false) :
      Drained protocol [] protocol
  | more {protocol next last : H2Protocol σ} {ready later : List H2ReadyRequest}
      (pending : protocol.hasPendingInput = true)
      (received : receiveData engine config protocol [] = (.ok ready, next))
      (rest : Drained next later last) : Drained protocol (ready ++ later) last

def ReceivesChunk (protocol : H2Protocol σ) (chunk : Bytes) (ready : List H2ReadyRequest)
    (last : H2Protocol σ) : Prop :=
  ∃ first next later, receiveData engine config protocol chunk = (.ok first, next) ∧
    Drained engine config next later last ∧ ready = first ++ later

def withReady (protocol : H2Protocol σ) (ready : List Bytes) : H2Protocol σ :=
  { protocol with frames := { protocol.frames with ready } }

def receiveWaiting (protocol : H2Protocol σ) : Outcome σ Unit :=
  receiveFrames engine config (withReady protocol []) protocol.frames.ready

def receiveWhole (protocol : H2Protocol σ) (chunk : Bytes) : Outcome σ (List H2ReadyRequest) :=
  match protocol.frames.feed config chunk with
  | (.error message, frames) => (.error (.valueError message), { protocol with frames })
  | (.ok (), frames) =>
      match receiveWaiting engine config { protocol with frames } with
      | (.error raised, next) => (.error raised, next)
      | (.ok (), next) => (.ok (releaseReady next).1, (releaseReady next).2)

end Drain

section FrameRule

variable (engine : Engine σ) (config : HTTP2Config) (frames : FrameBudget)

/-- An outcome with the frame budget of its state replaced. -/
def refit {α : Type} (outcome : Outcome σ α) : Outcome σ α :=
  (outcome.1, { outcome.2 with frames })

theorem dropStream_refit (protocol : H2Protocol σ) (streamId : StreamId) :
    dropStream { protocol with frames } streamId =
      { dropStream protocol streamId with frames } := by
  rw [dropStream_eq, dropStream_eq]

theorem resetStream_refit (protocol : H2Protocol σ) (streamId : StreamId)
    (errorCode : ErrorCode) :
    resetStream engine { protocol with frames } streamId errorCode =
      { resetStream engine protocol streamId errorCode with frames } := by
  unfold resetStream
  exact dropStream_refit frames { protocol with
    connection := (engine.resetStream protocol.connection streamId errorCode).2 } streamId

theorem requestReceived_refit (protocol : H2Protocol σ) (streamId : StreamId)
    (rawHeaders : RawHeaders) :
    requestReceived engine config { protocol with frames } streamId rawHeaders =
      { requestReceived engine config protocol streamId rawHeaders with frames } := by
  unfold requestReceived
  dsimp only
  split
  · exact resetStream_refit engine frames protocol streamId _
  · split
    · exact resetStream_refit engine frames protocol streamId _
    · rfl

theorem storeData_refit (protocol : H2Protocol σ) (streamId : StreamId) (data : Bytes) :
    storeData engine config { protocol with frames } streamId data =
      { storeData engine config protocol streamId data with frames } := by
  unfold storeData
  dsimp only
  split
  · rfl
  · split
    · exact resetStream_refit engine frames protocol streamId _
    · split
      · exact resetStream_refit engine frames protocol streamId _
      · rfl

theorem dataReceived_refit (protocol : H2Protocol σ) (streamId : StreamId) (data : Bytes)
    (flowLength : Nat) :
    dataReceived engine config { protocol with frames } streamId data flowLength =
      refit frames (dataReceived engine config protocol streamId data flowLength) := by
  unfold dataReceived
  dsimp only
  split
  · rfl
  · rename_i connection acknowledged
    exact congrArg (Prod.mk _)
      (storeData_refit engine config frames { protocol with connection } streamId data)

theorem streamEnded_refit (protocol : H2Protocol σ) (streamId : StreamId) :
    streamEnded engine { protocol with frames } streamId =
      refit frames (streamEnded engine protocol streamId) := by
  unfold streamEnded
  dsimp only
  split
  · rfl
  · split
    · exact congrArg (Prod.mk _) (resetStream_refit engine frames protocol streamId _)
    · split
      · rfl
      · rfl

theorem handleEvent_refit (protocol : H2Protocol σ) (event : Event) :
    handleEvent engine config { protocol with frames } event =
      refit frames (handleEvent engine config protocol event) := by
  cases event with
  | requestReceived streamId headers =>
      exact congrArg (Prod.mk _) (requestReceived_refit engine config frames protocol streamId _)
  | dataReceived streamId data flowLength =>
      exact dataReceived_refit engine config frames protocol streamId data flowLength
  | streamEnded streamId =>
      unfold handleEvent
      dsimp only
      rw [streamEnded_refit]
      rcases streamEnded engine protocol streamId with ⟨raised | none | completed, next⟩
      · rfl
      · rfl
      · rfl
  | streamReset streamId =>
      exact congrArg (Prod.mk _) (dropStream_refit frames { protocol with
        cancelledStreams := protocol.cancelledStreams ++ [streamId] } streamId)
  | trailersReceived streamId =>
      exact congrArg (Prod.mk _) (resetStream_refit engine frames protocol streamId _)
  | connectionTerminated | windowUpdated | remoteSettingsChanged | ignored => rfl

theorem handleEvents_refit (protocol : H2Protocol σ) (events : List Event) :
    handleEvents engine config { protocol with frames } events =
      refit frames (handleEvents engine config protocol events) := by
  induction events generalizing protocol with
  | nil => rfl
  | cons event events induction =>
      rw [handleEvents, handleEvents, handleEvent_refit]
      rcases handleEvent engine config protocol event with ⟨raised | _, next⟩
      · rfl
      · exact induction next

theorem captureControlOutput_refit (protocol : H2Protocol σ) :
    captureControlOutput engine config { protocol with frames } =
      refit frames (captureControlOutput engine config protocol) := by
  unfold captureControlOutput
  dsimp only
  split
  · rfl
  · rfl

theorem receiveFrame_refit (protocol : H2Protocol σ) (wireChunk : Bytes) :
    receiveFrame engine config { protocol with frames } wireChunk =
      refit frames (receiveFrame engine config protocol wireChunk) := by
  unfold receiveFrame
  dsimp only
  rcases engine.receiveData protocol.connection wireChunk with ⟨error | events, connection⟩
  · rfl
  · dsimp only
    rw [handleEvents_refit engine config frames { protocol with connection } events]
    rcases handleEvents engine config { protocol with connection } events with
      ⟨raised | _, next⟩
    · rfl
    · exact captureControlOutput_refit engine config frames next

theorem receiveFrames_refit (protocol : H2Protocol σ) (wireChunks : List Bytes) :
    receiveFrames engine config { protocol with frames } wireChunks =
      refit frames (receiveFrames engine config protocol wireChunks) := by
  induction wireChunks generalizing protocol with
  | nil => rfl
  | cons wireChunk wireChunks induction =>
      rw [receiveFrames, receiveFrames, receiveFrame_refit]
      rcases receiveFrame engine config protocol wireChunk with ⟨raised | _, next⟩
      · rfl
      · exact induction next

theorem receiveFrames_frames {protocol next : H2Protocol σ} {wireChunks : List Bytes}
    {result : Except Raised Unit}
    (received : receiveFrames engine config protocol wireChunks = (result, next)) :
    next.frames = protocol.frames := by
  have same := receiveFrames_refit engine config protocol.frames protocol wireChunks
  rw [received] at same
  exact congrArg (fun outcome => outcome.2.frames) same

end FrameRule

section Batches

variable (engine : Engine σ) (config : HTTP2Config)

theorem receiveFrames_append (protocol : H2Protocol σ) (first second : List Bytes) :
    receiveFrames engine config protocol (first ++ second) =
      match receiveFrames engine config protocol first with
      | (.error raised, next) => (.error raised, next)
      | (.ok (), next) => receiveFrames engine config next second := by
  induction first generalizing protocol with
  | nil => rfl
  | cons wireChunk wireChunks induction =>
      rw [List.cons_append, receiveFrames, receiveFrames]
      rcases receiveFrame engine config protocol wireChunk with ⟨raised | _, next⟩
      · rfl
      · exact induction next

theorem receiveWaiting_batch (protocol : H2Protocol σ) (size : Nat) :
    receiveWaiting engine config protocol =
      match receiveFrames engine config
          (withReady protocol (protocol.frames.ready.drop size))
          (protocol.frames.ready.take size) with
      | (.error raised, next) => (.error raised, withReady next [])
      | (.ok (), next) => receiveWaiting engine config next := by
  have whole : receiveWaiting engine config protocol =
      receiveFrames engine config (withReady protocol [])
        (protocol.frames.ready.take size ++ protocol.frames.ready.drop size) := by
    rw [List.take_append_drop]
    rfl
  rw [whole, receiveFrames_append]
  have refitted := receiveFrames_refit engine config { protocol.frames with ready := [] }
    (withReady protocol (protocol.frames.ready.drop size)) (protocol.frames.ready.take size)
  change receiveFrames engine config (withReady protocol []) _ = _ at refitted
  rw [refitted]
  rcases outcome : receiveFrames engine config
    (withReady protocol (protocol.frames.ready.drop size))
    (protocol.frames.ready.take size) with ⟨raised | _, next⟩
  · have kept := receiveFrames_frames engine config outcome
    simp only [refit, withReady, kept]
  · have kept := receiveFrames_frames engine config outcome
    simp only [refit, receiveWaiting, withReady, kept]

theorem releaseReady_settled {protocol : H2Protocol σ}
    (settled : protocol.frames.ready = []) :
    releaseReady protocol =
      (protocol.readyRequests.filter fun item =>
        decide (item.streamId ∉ protocol.cancelledStreams ∧
          item.streamId ∈ protocol.activeStreams),
        { protocol with readyRequests := [] }) := by
  unfold releaseReady FrameBudget.hasReadyFrames
  rw [settled]
  rfl

theorem releaseReady_pending {protocol : H2Protocol σ}
    (pending : protocol.frames.ready ≠ []) : releaseReady protocol = ([], protocol) := by
  unfold releaseReady FrameBudget.hasReadyFrames
  cases waiting : protocol.frames.ready with
  | nil => exact absurd waiting pending
  | cons wireChunk wireChunks => rfl

/-- What one call on nothing does to a protocol whose frames were fed. -/
theorem receiveData_nil {protocol : H2Protocol σ} (settled : protocol.frames.Settled) :
    receiveData engine config protocol [] =
      match receiveFrames engine config
          (withReady protocol (protocol.frames.ready.drop config.readerFrameBatchSize))
          (protocol.frames.ready.take config.readerFrameBatchSize) with
      | (.error raised, next) => (.error raised, next)
      | (.ok (), next) => (.ok (releaseReady next).1, (releaseReady next).2) := by
  unfold receiveData
  rw [FrameBudget.feed_nil config settled]
  rfl

theorem receiveData_fed {protocol : H2Protocol σ} {chunk : Bytes} {frames : FrameBudget}
    (fed : protocol.frames.feed config chunk = (.ok (), frames)) :
    receiveData engine config protocol chunk =
      receiveData engine config { protocol with frames } [] := by
  unfold receiveData
  dsimp only
  rw [fed, FrameBudget.feed_nil config (FrameBudget.feed_settled fed)]

theorem drained_settled {protocol last : H2Protocol σ} {ready : List H2ReadyRequest}
    (settled : protocol.frames.ready = []) :
    Drained engine config protocol ready last ↔ ready = [] ∧ last = protocol := by
  have idle : protocol.hasPendingInput = false := by
    unfold H2Protocol.hasPendingInput FrameBudget.hasReadyFrames
    rw [settled]
    rfl
  constructor
  · intro drained
    cases drained with
    | idle => exact ⟨rfl, rfl⟩
    | more pending =>
        rw [idle] at pending
        cases pending
  · intro same
    rw [same.1, same.2]
    exact .idle protocol idle

theorem drained_pending {protocol last : H2Protocol σ} {ready : List H2ReadyRequest}
    (waiting : protocol.frames.ready ≠ []) :
    Drained engine config protocol ready last ↔
      ReceivesChunk engine config protocol [] ready last := by
  have pending : protocol.hasPendingInput = true := by
    unfold H2Protocol.hasPendingInput FrameBudget.hasReadyFrames
    cases frames : protocol.frames.ready with
    | nil => exact absurd frames waiting
    | cons wireChunk wireChunks => rfl
  constructor
  · intro drained
    cases drained with
    | idle _ settled =>
        rw [settled] at pending
        cases pending
    | more _ received rest => exact ⟨_, _, _, received, rest, rfl⟩
  · intro batches
    obtain ⟨first, next, later, received, rest, same⟩ := batches
    rw [same]
    exact .more pending received rest

theorem batches_iff {protocol last : H2Protocol σ} {ready : List H2ReadyRequest}
    (settled : protocol.frames.Settled) :
    ReceivesChunk engine config protocol [] ready last ↔
      ∃ next, receiveWaiting engine config protocol = (.ok (), next) ∧
        releaseReady next = (ready, last) := by
  -- the induction is on the frames still waiting; a batch takes at least one of them
  induction counted : protocol.frames.ready.length using Nat.strong_induction_on
    generalizing protocol ready with
  | _ count induction =>
      unfold ReceivesChunk
      rw [receiveData_nil engine config settled,
        receiveWaiting_batch engine config protocol config.readerFrameBatchSize]
      rcases outcome : receiveFrames engine config
        (withReady protocol (protocol.frames.ready.drop config.readerFrameBatchSize))
        (protocol.frames.ready.take config.readerFrameBatchSize) with ⟨raised | _, middle⟩
      · constructor
        · intro batches
          obtain ⟨first, next, later, received, -⟩ := batches
          cases received
        · intro whole
          obtain ⟨next, received, -⟩ := whole
          cases received
      · dsimp only
        have kept := receiveFrames_frames engine config outcome
        have left : middle.frames.ready =
            protocol.frames.ready.drop config.readerFrameBatchSize := by
          rw [kept]
          rfl
        by_cases done : middle.frames.ready = []
        · have all : receiveWaiting engine config middle = (.ok (), middle) := by
            have bare : withReady middle [] = middle := by
              rw [← done]
              rfl
            rw [receiveWaiting, done, bare]
            rfl
          have stillDone : (releaseReady middle).2.frames.ready = [] := by
            rw [releaseReady_settled done]
            exact done
          rw [all]
          constructor
          · intro batches
            obtain ⟨first, next, later, received, drained, same⟩ := batches
            cases received
            obtain ⟨rfl, rfl⟩ := (drained_settled engine config stillDone).mp drained
            rw [List.append_nil] at same
            exact ⟨middle, rfl, Prod.ext same.symm rfl⟩
          · intro whole
            obtain ⟨next, received, returned⟩ := whole
            cases received
            refine ⟨(releaseReady middle).1, (releaseReady middle).2, [], rfl, ?_, ?_⟩
            · exact (drained_settled engine config stillDone).mpr
                ⟨rfl, (congrArg Prod.snd returned).symm⟩
            · rw [List.append_nil, returned]
        · have fewer : middle.frames.ready.length < count := by
            have positive := config.batch_positive
            have waiting : protocol.frames.ready.length ≠ 0 := by
              intro none
              apply done
              rw [left, List.eq_nil_of_length_eq_zero none, List.drop_nil]
            rw [left, List.length_drop]
            omega
          have stillSettled : middle.frames.Settled := by
            rw [kept]
            exact settled
          rw [releaseReady_pending done,
            ← induction middle.frames.ready.length fewer stillSettled rfl,
            ← drained_pending engine config done]
          constructor
          · intro batches
            obtain ⟨first, next, later, received, drained, same⟩ := batches
            cases received
            rw [same]
            exact drained
          · intro drained
            exact ⟨[], middle, ready, rfl, drained, rfl⟩

/-- Draining a chunk in batches is receiving it whole. -/
theorem receivesChunk_iff {protocol last : H2Protocol σ} {chunk : Bytes}
    {ready : List H2ReadyRequest} :
    ReceivesChunk engine config protocol chunk ready last ↔
      receiveWhole engine config protocol chunk = (.ok ready, last) := by
  unfold receiveWhole
  rcases fed : protocol.frames.feed config chunk with ⟨message | _, frames⟩
  · constructor
    · intro batches
      obtain ⟨first, next, later, received, -⟩ := batches
      unfold receiveData at received
      rw [fed] at received
      cases received
    · intro whole
      cases whole
  · have batches : ReceivesChunk engine config { protocol with frames } [] ready last ↔ _ :=
      batches_iff engine config (FrameBudget.feed_settled fed)
    unfold ReceivesChunk at batches ⊢
    rw [receiveData_fed engine config fed, batches]
    dsimp only
    rcases receiveWaiting engine config { protocol with frames } with ⟨raised | _, next⟩
    · constructor
      · intro whole
        obtain ⟨next, received, -⟩ := whole
        cases received
      · intro whole
        cases whole
    · constructor
      · intro whole
        obtain ⟨next, received, returned⟩ := whole
        cases received
        change (Except.ok (releaseReady next).1, (releaseReady next).2) = _
        rw [returned]
      · intro whole
        cases whole
        exact ⟨next, rfl, rfl⟩

end Batches

section OtherBatchSize

variable (engine : Engine σ) {first second : HTTP2Config}

def SameButBatch (first second : HTTP2Config) : Prop :=
  { first.toHTTP2Limits with readerFrameBatchSize := second.readerFrameBatchSize } =
    second.toHTTP2Limits

theorem SameButBatch.resized (same : SameButBatch first second) :
    ∃ (limits : HTTP2Limits) (accepted : limits.postInit = .ok ()) (size : Nat)
      (acceptedToo : { limits with readerFrameBatchSize := size }.postInit = .ok ()),
      first = ⟨limits, accepted⟩ ∧
        second = ⟨{ limits with readerFrameBatchSize := size }, acceptedToo⟩ := by
  obtain ⟨limits, accepted⟩ := first
  obtain ⟨others, acceptedOthers⟩ := second
  change { limits with readerFrameBatchSize := others.readerFrameBatchSize } = others at same
  generalize others.readerFrameBatchSize = size at same
  subst same
  exact ⟨limits, accepted, size, acceptedOthers, rfl, rfl⟩

theorem handleEvent_congr (same : SameButBatch first second) :
    handleEvent engine first = handleEvent engine second := by
  obtain ⟨limits, accepted, size, acceptedToo, rfl, rfl⟩ := same.resized
  rfl

theorem captureControlOutput_congr (same : SameButBatch first second) :
    captureControlOutput engine first = captureControlOutput engine second := by
  obtain ⟨limits, accepted, size, acceptedToo, rfl, rfl⟩ := same.resized
  rfl

theorem handleEvents_congr (same : SameButBatch first second) (protocol : H2Protocol σ)
    (events : List Event) :
    handleEvents engine first protocol events = handleEvents engine second protocol events := by
  induction events generalizing protocol with
  | nil => rfl
  | cons event events induction =>
      rw [handleEvents, handleEvents, handleEvent_congr engine same]
      rcases handleEvent engine second protocol event with ⟨raised | _, next⟩
      · rfl
      · exact induction next

theorem receiveFrames_congr (same : SameButBatch first second) (protocol : H2Protocol σ)
    (wireChunks : List Bytes) :
    receiveFrames engine first protocol wireChunks =
      receiveFrames engine second protocol wireChunks := by
  have frame : receiveFrame engine first = receiveFrame engine second := by
    funext protocol wireChunk
    unfold receiveFrame
    rw [captureControlOutput_congr engine same]
    simp only [handleEvents_congr engine same]
  induction wireChunks generalizing protocol with
  | nil => rfl
  | cons wireChunk wireChunks induction =>
      rw [receiveFrames, receiveFrames, frame]
      rcases receiveFrame engine second protocol wireChunk with ⟨raised | _, next⟩
      · rfl
      · exact induction next

theorem receiveWhole_congr (same : SameButBatch first second) (protocol : H2Protocol σ)
    (chunk : Bytes) :
    receiveWhole engine first protocol chunk = receiveWhole engine second protocol chunk := by
  have sizes : first.maxFrameSize = second.maxFrameSize ∧
      first.maxCompressedHeaderBytes = second.maxCompressedHeaderBytes := by
    obtain ⟨limits, accepted, size, acceptedToo, rfl, rfl⟩ := same.resized
    exact ⟨rfl, rfl⟩
  unfold receiveWhole receiveWaiting
  rw [FrameBudget.feed_congr sizes.1 sizes.2]
  simp only [receiveFrames_congr engine same]

/-- Draining a chunk gives the same requests and the same state for every batch size. -/
theorem receivesChunk_congr (same : SameButBatch first second) {protocol last : H2Protocol σ}
    {chunk : Bytes} {ready : List H2ReadyRequest} :
    ReceivesChunk engine first protocol chunk ready last ↔
      ReceivesChunk engine second protocol chunk ready last := by
  rw [receivesChunk_iff, receivesChunk_iff, receiveWhole_congr engine same]

end OtherBatchSize

end SmallServer.Http2Batches
