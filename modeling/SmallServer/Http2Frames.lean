import SmallServer.HttpValues
import Mathlib.Data.Rat.Defs
import Mathlib.Algebra.Order.Ring.Rat

/-!
# HTTP/2 limits and frame splitting

`HTTP2Config` and `_FrameBudget`: received bytes are cut into the client preface
and whole frames, and the declared sizes are checked before any payload is kept.
-/

namespace SmallServer.Http2Frames

open SmallServer HttpValues

set_option autoImplicit false

structure HTTP2Limits where
  maxConcurrentStreams : Nat := 100
  maxHeaderCount : Nat := 100
  maxHeaderBytes : Nat := 16 * 1024
  maxCompressedHeaderBytes : Nat := 16 * 1024
  maxBodyBytes : Nat := 1024 * 1024
  maxConnectionBufferBytes : Nat := 4 * 1024 * 1024
  maxPendingOutputBytes : Nat := 4 * 1024 * 1024
  maxResponseBodyBytes : Nat := 2 * 1024 * 1024
  maxControlOutputBytes : Nat := 64 * 1024
  maxFrameSize : Nat := 16 * 1024
  readerFrameBatchSize : Nat := 32
  handshakeTimeout : Rat := 10
  idleTimeout : Rat := 60
deriving DecidableEq

namespace HTTP2Limits

def integerFields (limits : HTTP2Limits) : List (String × Nat) :=
  [("max_concurrent_streams", limits.maxConcurrentStreams),
    ("max_header_count", limits.maxHeaderCount),
    ("max_header_bytes", limits.maxHeaderBytes),
    ("max_compressed_header_bytes", limits.maxCompressedHeaderBytes),
    ("max_body_bytes", limits.maxBodyBytes),
    ("max_connection_buffer_bytes", limits.maxConnectionBufferBytes),
    ("max_pending_output_bytes", limits.maxPendingOutputBytes),
    ("max_response_body_bytes", limits.maxResponseBodyBytes),
    ("max_control_output_bytes", limits.maxControlOutputBytes),
    ("max_frame_size", limits.maxFrameSize),
    ("reader_frame_batch_size", limits.readerFrameBatchSize)]

def timeouts (limits : HTTP2Limits) : List (String × Rat) :=
  [("handshake_timeout", limits.handshakeTimeout), ("idle_timeout", limits.idleTimeout)]

/-- `HTTP2Config.__post_init__`, on fields of the right types. -/
def postInit (limits : HTTP2Limits) : Except String Unit :=
  match limits.integerFields.find? fun field => field.2 == 0 with
  | some field => .error (field.1 ++ " must be a positive integer")
  | none =>
      match limits.timeouts.find? fun field => decide (field.2 ≤ 0) with
      | some field => .error (field.1 ++ " must be a positive number")
      | none =>
          if ¬ (16384 ≤ limits.maxFrameSize ∧ limits.maxFrameSize ≤ 16777215) then
            .error "max_frame_size must be between 16384 and 16777215"
          else if limits.maxBodyBytes > limits.maxConnectionBufferBytes then
            .error "max_body_bytes cannot exceed max_connection_buffer_bytes"
          else if limits.maxResponseBodyBytes > limits.maxPendingOutputBytes then
            .error "max_response_body_bytes cannot exceed max_pending_output_bytes"
          else if limits.maxControlOutputBytes > limits.maxPendingOutputBytes then
            .error "max_control_output_bytes cannot exceed max_pending_output_bytes"
          else if limits.maxControlOutputBytes < 51 then
            .error "max_control_output_bytes must allow initial HTTP/2 settings"
          else .ok ()

theorem bounds_of_postInit {limits : HTTP2Limits} (accepted : limits.postInit = .ok ()) :
    0 < limits.readerFrameBatchSize ∧ 0 < limits.maxConcurrentStreams ∧
      limits.maxBodyBytes ≤ limits.maxConnectionBufferBytes ∧
      limits.maxResponseBodyBytes ≤ limits.maxPendingOutputBytes ∧
      limits.maxControlOutputBytes ≤ limits.maxPendingOutputBytes := by
  unfold postInit at accepted
  split at accepted
  · cases accepted
  · rename_i positive
    split at accepted
    · cases accepted
    · split at accepted
      · cases accepted
      · split at accepted
        · cases accepted
        · split at accepted
          · cases accepted
          · split at accepted
            · cases accepted
            · have nonzero := List.find?_eq_none.mp positive
              have batch := nonzero ("reader_frame_batch_size", limits.readerFrameBatchSize)
                (by simp [integerFields])
              have streams := nonzero ("max_concurrent_streams", limits.maxConcurrentStreams)
                (by simp [integerFields])
              simp only [beq_iff_eq] at batch streams
              omega

theorem timeouts_of_postInit {limits : HTTP2Limits} (accepted : limits.postInit = .ok ()) :
    0 < limits.handshakeTimeout ∧ 0 < limits.idleTimeout := by
  unfold postInit at accepted
  split at accepted
  · cases accepted
  · split at accepted
    · cases accepted
    · rename_i positive
      have signed := List.find?_eq_none.mp positive
      have handshake := signed ("handshake_timeout", limits.handshakeTimeout) (by simp [timeouts])
      have idle := signed ("idle_timeout", limits.idleTimeout) (by simp [timeouts])
      simp only [decide_eq_true_eq, not_le] at handshake idle
      exact ⟨handshake, idle⟩

theorem frameSize_of_postInit {limits : HTTP2Limits} (accepted : limits.postInit = .ok ()) :
    16384 ≤ limits.maxFrameSize := by
  unfold postInit at accepted
  split at accepted
  · cases accepted
  · split at accepted
    · cases accepted
    · split at accepted
      · cases accepted
      · rename_i within
        exact (not_not.mp within).1

end HTTP2Limits

structure HTTP2Config extends HTTP2Limits where
  accepted : toHTTP2Limits.postInit = .ok ()

namespace HTTP2Config

variable (config : HTTP2Config)

theorem batch_positive : 0 < config.readerFrameBatchSize :=
  (HTTP2Limits.bounds_of_postInit config.accepted).1

theorem control_le_pending : config.maxControlOutputBytes ≤ config.maxPendingOutputBytes :=
  (HTTP2Limits.bounds_of_postInit config.accepted).2.2.2.2

theorem body_le_buffer : config.maxBodyBytes ≤ config.maxConnectionBufferBytes :=
  (HTTP2Limits.bounds_of_postInit config.accepted).2.2.1

theorem frame_size_le : 16384 ≤ config.maxFrameSize :=
  HTTP2Limits.frameSize_of_postInit config.accepted

theorem timeouts_positive : 0 < config.handshakeTimeout ∧ 0 < config.idleTimeout :=
  HTTP2Limits.timeouts_of_postInit config.accepted

def standard : HTTP2Config where
  accepted := by decide

end HTTP2Config

/-- `PRI * HTTP/2.0`, an empty line, `SM`, an empty line. -/
def clientPreface : Bytes :=
  "PRI * HTTP/2.0\r\n\r\nSM\r\n\r\n".toList.map fun c => UInt8.ofNat c.toNat

/-- `int.from_bytes(octets, "big")`. -/
def bigEndian (octets : Bytes) : Nat :=
  octets.foldl (fun value octet => 256 * value + octet.toNat) 0

/-- `_FrameBudget`. The two last fields hold by construction: a payload is only kept
after its header, and never beyond the declared length. -/
structure FrameBudget where
  preface : Bytes := []
  header : Bytes := []
  payload : Bytes := []
  frameLength : Nat := 0
  frameType : Nat := 0
  frameFlags : Nat := 0
  frameStream : Nat := 0
  prefaceReceived : Bool := false
  headerStream : Option Nat := none
  headerBytes : Nat := 0
  ready : List Bytes := []
  payload_bounded : payload.length ≤ frameLength
  payload_after_header : header.length < 9 → payload = []
deriving DecidableEq

namespace FrameBudget

def new : FrameBudget where
  payload_bounded := Nat.le_refl 0
  payload_after_header := fun _ => rfl

/-- `_start_frame`, with the frame's header read and no payload yet. What was assigned
before a check fails stays assigned. -/
def startFrame (config : HTTP2Config) (frames : FrameBudget) (fresh : frames.payload = []) :
    Except String Unit × FrameBudget :=
  let length := bigEndian (frames.header.take 3)
  if length > config.maxFrameSize then
    (.error "HTTP/2 frame exceeds configured maximum", frames)
  else
    let kind := (frames.header.getD 3 0).toNat
    let stream := bigEndian ((frames.header.drop 5).take 4) % 2 ^ 31
    let started : FrameBudget := { frames with
      frameLength := length
      frameType := kind
      frameFlags := (frames.header.getD 4 0).toNat
      frameStream := stream
      payload_bounded := by rw [fresh]; exact Nat.zero_le _ }
    let counted : Except String FrameBudget :=
      if kind = 1 then
        if started.headerStream ≠ none then
          .error "interleaved HTTP/2 header blocks are invalid"
        else .ok { started with headerStream := some stream, headerBytes := length }
      else if kind = 9 then
        if started.headerStream ≠ some stream then
          .error "invalid HTTP/2 continuation stream"
        else .ok { started with headerBytes := started.headerBytes + length }
      else .ok started
    match counted with
    | .error message => (.error message, started)
    | .ok next =>
        if next.headerBytes > config.maxCompressedHeaderBytes then
          (.error "HTTP/2 compressed header block is too large", next)
        else (.ok (), next)

def finishFrame (frames : FrameBudget) : FrameBudget :=
  let closes : Bool :=
    (frames.frameType == 1 || frames.frameType == 9) && frames.frameFlags &&& 4 != 0
  { frames with
    ready := frames.ready ++ [frames.header ++ frames.payload]
    headerStream := if closes then none else frames.headerStream
    headerBytes := if closes then 0 else frames.headerBytes
    header := []
    payload := []
    frameLength := 0
    payload_bounded := Nat.le_refl 0
    payload_after_header := fun _ => rfl }

/-- The header part of one turn of the loop of `feed`. -/
def extendHeader (frames : FrameBudget) (octets : Bytes) (short : frames.header.length < 9) :
    FrameBudget :=
  { frames with
    header := frames.header ++ octets
    payload_after_header := fun _ => frames.payload_after_header short }

/-- The payload part of one turn: as much of the data as the frame still lacks. -/
def extendPayload (frames : FrameBudget) (data : Bytes) (complete : ¬ frames.header.length < 9) :
    FrameBudget :=
  { frames with
    payload := frames.payload ++ data.take (frames.frameLength - frames.payload.length)
    payload_bounded := by
      have bounded := frames.payload_bounded
      rw [List.length_append, List.length_take]
      omega
    payload_after_header := fun short => absurd short complete }

/-- A turn of the loop that has a whole header: its payload, and the frame when done. -/
def feedPayload (frames : FrameBudget) (data : Bytes) (complete : ¬ frames.header.length < 9) :
    FrameBudget :=
  let grown := frames.extendPayload data complete
  if grown.payload.length = frames.frameLength then grown.finishFrame else grown

def afterPayload (frames : FrameBudget) (data : Bytes) : Bytes :=
  data.drop (frames.frameLength - frames.payload.length)

/-- Zero while a header is being read, one while a payload is. -/
def phase (frames : FrameBudget) : Nat := if frames.header.length < 9 then 0 else 1

theorem phase_le_one (frames : FrameBudget) : frames.phase ≤ 1 := by
  unfold phase
  split
  · exact Nat.zero_le 1
  · exact Nat.le_refl 1

structure Kept (before after : FrameBudget) : Prop where
  preface : after.preface = before.preface
  header : after.header = before.header
  payload : after.payload = before.payload
  ready : after.ready = before.ready
  prefaceReceived : after.prefaceReceived = before.prefaceReceived

theorem startFrame_kept (config : HTTP2Config) (frames : FrameBudget)
    (fresh : frames.payload = []) : Kept frames (startFrame config frames fresh).2 := by
  unfold startFrame
  dsimp only
  split
  · exact ⟨rfl, rfl, rfl, rfl, rfl⟩
  · split
    · exact ⟨rfl, rfl, rfl, rfl, rfl⟩
    · rename_i next counted
      have same : Kept frames next := by
        split at counted
        · split at counted
          · cases counted
          · cases counted
            exact ⟨rfl, rfl, rfl, rfl, rfl⟩
        · split at counted
          · split at counted
            · cases counted
            · cases counted
              exact ⟨rfl, rfl, rfl, rfl, rfl⟩
          · cases counted
            exact ⟨rfl, rfl, rfl, rfl, rfl⟩
      split
      · exact same
      · exact same

theorem startFrame_header (config : HTTP2Config) (frames : FrameBudget)
    (fresh : frames.payload = []) : (startFrame config frames fresh).2.header = frames.header :=
  (startFrame_kept config frames fresh).header

/-- A turn that reads payload consumes data or leaves the payload phase. -/
theorem feedPayload_progress (frames : FrameBudget) (data : Bytes)
    (complete : ¬ frames.header.length < 9) (nonempty : data ≠ []) :
    2 * (frames.afterPayload data).length + (frames.feedPayload data complete).phase <
      2 * data.length + 1 := by
  have bounded := frames.payload_bounded
  have some : 0 < data.length := List.length_pos_iff.mpr nonempty
  unfold feedPayload
  dsimp only
  split
  · have closed : frames.finishFrame.phase = 0 := rfl
    rw [afterPayload, List.length_drop]
    change _ + 0 < _
    omega
  · rename_i unfinished
    have taken : 0 < frames.frameLength - frames.payload.length := by
      by_contra none
      apply unfinished
      rw [extendPayload, List.length_append, List.length_take]
      omega
    have atMost := phase_le_one (frames.extendPayload data complete)
    rw [afterPayload, List.length_drop]
    omega

def feedFrames (config : HTTP2Config) (frames : FrameBudget) (data : Bytes) :
    Except String Unit × FrameBudget :=
  if nonempty : data = [] then (.ok (), frames)
  else if short : frames.header.length < 9 then
    let grown := frames.extendHeader (data.take (9 - frames.header.length)) short
    let rest := data.drop (9 - frames.header.length)
    if incomplete : grown.header.length < 9 then (.ok (), grown)
    else
      match outcome : startFrame config grown (frames.payload_after_header short) with
      | (.error message, started) => (.error message, started)
      | (.ok (), started) =>
          if started.frameLength = 0 then feedFrames config started.finishFrame rest
          else
            have complete : ¬ started.header.length < 9 := by
              have same := startFrame_header config grown (frames.payload_after_header short)
              rw [outcome] at same
              rw [same]
              exact incomplete
            feedFrames config (started.feedPayload rest complete) (started.afterPayload rest)
  else feedFrames config (frames.feedPayload data short) (frames.afterPayload data)
termination_by 2 * data.length + frames.phase
decreasing_by
  · have some : 0 < data.length := List.length_pos_iff.mpr nonempty
    have closed : started.finishFrame.phase = 0 := rfl
    rw [closed, List.length_drop]
    omega
  · have some : 0 < data.length := List.length_pos_iff.mpr nonempty
    have atMost := phase_le_one
      (started.feedPayload (data.drop (9 - frames.header.length)) complete)
    rw [afterPayload, List.length_drop, List.length_drop]
    omega
  · have step := feedPayload_progress frames data short nonempty
    have here : frames.phase = 1 := if_neg short
    omega

def feed (config : HTTP2Config) (frames : FrameBudget) (data : Bytes) :
    Except String Unit × FrameBudget :=
  if frames.prefaceReceived then feedFrames config frames data
  else
    let needed := clientPreface.length - frames.preface.length
    let grown := { frames with preface := frames.preface ++ data.take needed }
    if grown.preface ≠ clientPreface.take grown.preface.length then
      (.error "invalid HTTP/2 client preface", grown)
    else if grown.preface.length < clientPreface.length then (.ok (), grown)
    else
      feedFrames config { grown with
        ready := grown.ready ++ [grown.preface]
        preface := []
        prefaceReceived := true } (data.drop needed)

def take (frames : FrameBudget) (limit : Nat) : List Bytes × FrameBudget :=
  (frames.ready.take limit, { frames with ready := frames.ready.drop limit })

def hasReadyFrames (frames : FrameBudget) : Bool := !frames.ready.isEmpty

section Feeding

variable {config : HTTP2Config} {frames next : FrameBudget}

@[simp] theorem feedFrames_nil (config : HTTP2Config) (frames : FrameBudget) :
    feedFrames config frames [] = (.ok (), frames) := by
  rw [feedFrames]
  exact dif_pos rfl

theorem startFrame_prefaceReceived (config : HTTP2Config) (frames : FrameBudget)
    (fresh : frames.payload = []) :
    (startFrame config frames fresh).2.prefaceReceived = frames.prefaceReceived :=
  (startFrame_kept config frames fresh).prefaceReceived

theorem feedPayload_prefaceReceived (frames : FrameBudget) (data : Bytes)
    (complete : ¬ frames.header.length < 9) :
    (frames.feedPayload data complete).prefaceReceived = frames.prefaceReceived := by
  unfold feedPayload
  dsimp only
  split
  · rfl
  · rfl

theorem feedFrames_prefaceReceived (config : HTTP2Config) (frames : FrameBudget) (data : Bytes) :
    (feedFrames config frames data).2.prefaceReceived = frames.prefaceReceived := by
  fun_induction feedFrames config frames data with
  | case1 frames => rfl
  | case2 frames data nonempty short grown incomplete => rfl
  | case3 frames data nonempty short grown incomplete message started outcome =>
      have same := startFrame_prefaceReceived config grown (frames.payload_after_header short)
      rw [outcome] at same
      exact same
  | case4 frames data nonempty short grown rest incomplete started outcome empty induction =>
      have same := startFrame_prefaceReceived config grown (frames.payload_after_header short)
      rw [outcome] at same
      rw [induction]
      exact same
  | case5 frames data nonempty short grown rest incomplete started outcome some complete
      induction =>
      have same := startFrame_prefaceReceived config grown (frames.payload_after_header short)
      rw [outcome] at same
      rw [induction, feedPayload_prefaceReceived]
      exact same
  | case6 frames data nonempty short induction =>
      rw [induction, feedPayload_prefaceReceived]

/-- The preface seen so far is a proper prefix of the client preface, or complete. -/
def Settled (frames : FrameBudget) : Prop :=
  frames.prefaceReceived = true ∨
    (frames.preface = clientPreface.take frames.preface.length ∧
      frames.preface.length < clientPreface.length)

theorem feed_settled {data : Bytes} (fed : feed config frames data = (.ok (), next)) :
    next.Settled := by
  unfold feed at fed
  split at fed
  · rename_i received
    have same := feedFrames_prefaceReceived config frames data
    rw [fed, received] at same
    exact Or.inl same
  · dsimp only at fed
    split at fed
    · cases fed
    · rename_i agrees
      split at fed
      · rename_i short
        cases fed
        exact Or.inr ⟨not_not.mp agrees, short⟩
      · have same := congrArg (fun outcome => outcome.2.prefaceReceived) fed
        dsimp only at same
        rw [feedFrames_prefaceReceived] at same
        exact Or.inl same.symm

theorem feed_nil (config : HTTP2Config) (settled : frames.Settled) :
    feed config frames [] = (.ok (), frames) := by
  unfold feed
  rcases settled with received | ⟨agrees, short⟩
  · rw [if_pos received, feedFrames_nil]
  · split
    · exact feedFrames_nil config frames
    · simp only [List.take_nil, List.append_nil]
      rw [if_neg (not_not.mpr agrees), if_pos short]

/-- Splitting depends on the two sizes it checks only. -/
theorem feed_congr {first second : HTTP2Config}
    (frameSize : first.maxFrameSize = second.maxFrameSize)
    (headerSize : first.maxCompressedHeaderBytes = second.maxCompressedHeaderBytes)
    (frames : FrameBudget) (data : Bytes) : feed first frames data = feed second frames data := by
  have starts : startFrame first = startFrame second := by
    funext frames fresh
    unfold startFrame
    rw [frameSize, headerSize]
  have loops : ∀ frames data, feedFrames first frames data = feedFrames second frames data := by
    intro frames data
    fun_induction feedFrames first frames data with
    | case1 frames => rw [feedFrames_nil]
    | case2 frames data nonempty short grown incomplete =>
        rw [feedFrames, dif_neg nonempty, dif_pos short, dif_pos incomplete]
    | case3 frames data nonempty short grown incomplete message started outcome =>
        rw [starts] at outcome
        rw [feedFrames, dif_neg nonempty, dif_pos short, dif_neg incomplete]
        split
        · rename_i other here
          rw [outcome] at here
          exact here
        · rename_i here
          rw [outcome] at here
          cases here
    | case4 frames data nonempty short grown rest incomplete started outcome empty induction =>
        rw [starts] at outcome
        rw [induction]
        conv_rhs => rw [feedFrames, dif_neg nonempty, dif_pos short, dif_neg incomplete]
        split
        · rename_i here
          rw [outcome] at here
          cases here
        · rename_i here
          rw [outcome] at here
          cases here
          rw [if_pos empty]
    | case5 frames data nonempty short grown rest incomplete started outcome some complete
        induction =>
        rw [starts] at outcome
        rw [induction]
        conv_rhs => rw [feedFrames, dif_neg nonempty, dif_pos short, dif_neg incomplete]
        split
        · rename_i here
          rw [outcome] at here
          cases here
        · rename_i here
          rw [outcome] at here
          cases here
          rw [if_neg some]
    | case6 frames data nonempty short induction =>
        rw [induction]
        conv_rhs => rw [feedFrames, dif_neg nonempty, dif_neg short]
  unfold feed
  simp only [loops]

end Feeding

end FrameBudget

end SmallServer.Http2Frames
