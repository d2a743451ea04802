import SmallServer.Http2Outbound

/-!
# Admission of HTTP/2 responses

`queue_response` counts body bytes against `max_pending_output_bytes`; `flush` counts
the frames as well, and all HEADERS frames of a batch against
`max_control_output_bytes`. What the two together allow is made exact here, for every
sequence of flushes and whatever windows the peer grants in between.
-/

namespace SmallServer.Http2Admission

open SmallServer HttpValues Http2Frames Http2Protocol Http2Effects Http2Outbound Runs

set_option autoImplicit false

section Framing

variable {σ : Type} {engine : Engine σ}

/-- What the engine is relied on for. A connection has `unsent` bytes ready; a stream is
`awaiting` the responses whose headers the engine takes there, then `sending` a body while
`window` allows. A DATA frame has a header of nine bytes. -/
structure Framing (engine : Engine σ) where
  unsent : σ → Nat
  awaiting : σ → StreamId → Response → Prop
  sending : σ → StreamId → Prop
  window : σ → StreamId → Int
  maxFrame_positive : ∀ connection, 0 < engine.maxOutboundFrameSize connection
  taken : ∀ connection, (engine.dataToSend connection).1.length = unsent connection
  emptied : ∀ connection, unsent (engine.dataToSend connection).2 = 0
  emptied_awaiting : ∀ connection streamId response, awaiting connection streamId response →
    awaiting (engine.dataToSend connection).2 streamId response
  emptied_sending : ∀ connection streamId, sending connection streamId →
    sending (engine.dataToSend connection).2 streamId
  emptied_window : ∀ connection, window (engine.dataToSend connection).2 = window connection
  asked : ∀ connection streamId, sending connection streamId →
    engine.localFlowControlWindow connection streamId =
      (.ok (window connection streamId), connection)
  headers : ∀ connection streamId response, awaiting connection streamId response →
    ∃ after, engine.sendHeaders connection streamId (responseFields response)
        response.body.isEmpty = (.ok (), after) ∧
      (∀ other later, other ≠ streamId → awaiting connection other later →
        awaiting after other later) ∧
      (∀ other, sending connection other → sending after other) ∧
      (response.body ≠ [] → sending after streamId) ∧
      window after = window connection
  data : ∀ connection streamId (payload : Bytes) endStream, sending connection streamId →
    (payload.length : Int) ≤ window connection streamId →
    (payload.length : Int) ≤ engine.maxOutboundFrameSize connection →
    ∃ after, engine.sendData connection streamId payload endStream = (.ok (), after) ∧
      unsent after = unsent connection + 9 + payload.length ∧
      (∀ other, other ≠ streamId → sending connection other → sending after other) ∧
      (endStream = false → sending after streamId) ∧
      ∀ other, window connection other - payload.length ≤ window after other

abbrev Queued := StreamId × Response

/-- The sizes of the HEADERS frames the engine emits for these responses, in turn. -/
def headerFrames (engine : Engine σ) (connection : σ) : List Queued → List Nat
  | [] => []
  | (streamId, response) :: batch =>
      let produced := engine.dataToSend (engine.sendHeaders connection streamId
        (responseFields response) response.body.isEmpty).2
      produced.1.length :: headerFrames engine produced.2 batch

def bodyBytes (batch : List Queued) : Nat := (batch.map fun entry => entry.2.body.length).sum

theorem bodyBytes_cons (entry : Queued) (batch : List Queued) :
    bodyBytes (entry :: batch) = entry.2.body.length + bodyBytes batch := rfl

def bodyCount (batch : List Queued) : Nat := batch.countP fun entry => !entry.2.body.isEmpty

/-- What the peer may do to a connection between flushes by granting windows. -/
structure Framing.Refreshed (framing : Framing engine) (connection next : σ) : Prop where
  unsent : framing.unsent next = framing.unsent connection
  awaiting : ∀ streamId response, framing.awaiting connection streamId response →
    framing.awaiting next streamId response
  sending : ∀ streamId, framing.sending connection streamId → framing.sending next streamId
  headers : ∀ batch, headerFrames engine next batch = headerFrames engine connection batch

end Framing

section Admission

variable {σ : Type} (engine : Engine σ) (config : HTTP2Config)

def queueAll (protocol : H2Protocol σ) : List Queued → List Bool × H2Protocol σ
  | [] => ([], protocol)
  | (streamId, response) :: batch =>
      let first := queueResponse engine config protocol streamId response
      let rest := queueAll first.2 batch
      (first.1 :: rest.1, rest.2)

structure Idle (framing : Framing engine) (protocol : H2Protocol σ) : Prop where
  control : protocol.controlOutput = []
  commands : protocol.commands = []
  outbound : protocol.outbound = ∅
  unsent : framing.unsent protocol.connection = 0

inductive Move where
  | refreshed
  | flushed

def Delivery (framing : Framing engine) (protocol : H2Protocol σ) (move : Move)
    (next : H2Protocol σ) : Prop :=
  match move with
  | .refreshed => ∃ connection, framing.Refreshed protocol.connection connection ∧
      next = { protocol with connection }
  | .flushed => ∃ output, flush engine config protocol = (.ok output, next)

/-- Every flush returns, at any time from this state on. -/
def AlwaysFlushes (framing : Framing engine) (start : H2Protocol σ) : Prop :=
  ∀ moves state, Run (Delivery engine config framing) start moves state →
    ∃ output next, flush engine config state = (.ok output, next)

def FitsBudgets (protocol : H2Protocol σ) (batch : List Queued) : Prop :=
  (headerFrames engine protocol.connection batch).sum ≤ config.maxControlOutputBytes ∧
    protocol.pendingOutputBytes + bodyBytes batch +
      (headerFrames engine protocol.connection batch).sum + 9 * bodyCount batch ≤
        config.maxPendingOutputBytes

end Admission

section Queueing

variable {σ : Type} {engine : Engine σ} {config : HTTP2Config}

def asCommand (entry : Queued) : Command := .response entry.1 entry.2

theorem queueAll_accepted {protocol : H2Protocol σ} {batch : List Queued}
    (accepted : ∀ answer ∈ (queueAll engine config protocol batch).1, answer = true) :
    ∃ inbound buffered,
      (queueAll engine config protocol batch).2 = { protocol with
        inbound
        bufferedRequestBytes := buffered
        pendingOutputBytes := protocol.pendingOutputBytes + bodyBytes batch
        commands := protocol.commands ++ batch.map asCommand } := by
  induction batch generalizing protocol with
  | nil =>
      refine ⟨protocol.inbound, protocol.bufferedRequestBytes, ?_⟩
      simp [queueAll, bodyBytes]
  | cons entry batch induction =>
      obtain ⟨streamId, response⟩ := entry
      have first : (queueResponse engine config protocol streamId response).1 = true :=
        accepted _ List.mem_cons_self
      have queued : ∃ inbound buffered,
          (queueResponse engine config protocol streamId response).2 = { protocol with
            inbound
            bufferedRequestBytes := buffered
            pendingOutputBytes := protocol.pendingOutputBytes + response.body.length
            commands := protocol.commands ++ [.response streamId response] } := by
        unfold queueResponse at first ⊢
        split at first
        · cases first
        · dsimp only at first ⊢
          split at first
          · split at first
            · cases first
            · cases first
          · split at first
            · cases first
            · rename_i active fits room
              rw [if_neg active, if_neg fits, if_neg room, releaseInbound_eq]
              exact ⟨_, _, rfl⟩
      obtain ⟨inbound, buffered, after⟩ := queued
      obtain ⟨lastInbound, lastBuffered, last⟩ := @induction
        (queueResponse engine config protocol streamId response).2
        fun answer member => accepted answer (List.mem_cons_of_mem _ member)
      refine ⟨lastInbound, lastBuffered, ?_⟩
      rw [queueAll]
      dsimp only
      have bytes : protocol.pendingOutputBytes + (response.body.length : Int) +
          bodyBytes batch = protocol.pendingOutputBytes +
            bodyBytes ((streamId, response) :: batch) := by
        rw [bodyBytes_cons]
        push_cast
        omega
      rw [last, after]
      dsimp only
      rw [bytes, List.append_assoc]
      rfl

end Queueing

section Commands

variable {σ : Type} {engine : Engine σ} {config : HTTP2Config} {framing : Framing engine}

/-- Nothing is left in the engine, and every body in the table may be sent. -/
structure Framing.Sends (framing : Framing engine) (protocol : H2Protocol σ) : Prop where
  unsent : framing.unsent protocol.connection = 0
  sending : ∀ streamId ∈ protocol.outbound, framing.sending protocol.connection streamId

def beginResponse (protocol : H2Protocol σ) (connection : σ) (frame : Bytes)
    (entry : Queued) : H2Protocol σ :=
  { protocol with
    connection
    controlOutput := protocol.controlOutput ++ frame
    activeStreams :=
      if entry.2.body = [] then protocol.activeStreams.erase entry.1 else protocol.activeStreams
    outbound :=
      if entry.2.body = [] then protocol.outbound
      else protocol.outbound.set entry.1 { body := entry.2.body, offset := 0 } }

/-- The control bytes that may be captured next. -/
def Capturable (config : HTTP2Config) (protocol : H2Protocol σ) (size : Nat) : Prop :=
  protocol.controlOutput.length + size ≤ config.maxControlOutputBytes ∧
    ((protocol.controlOutput.length + size : Nat) : Int) + protocol.pendingOutputBytes ≤
      config.maxPendingOutputBytes

instance (config : HTTP2Config) (protocol : H2Protocol σ) (size : Nat) :
    Decidable (Capturable config protocol size) :=
  inferInstanceAs (Decidable (_ ∧ _))

theorem capture_eq (protocol : H2Protocol σ) :
    captureControlOutput engine config protocol =
      if Capturable config protocol (engine.dataToSend protocol.connection).1.length then
        (.ok (), { protocol with
          connection := (engine.dataToSend protocol.connection).2
          controlOutput :=
            protocol.controlOutput ++ (engine.dataToSend protocol.connection).1 })
      else
        (.error (.valueError "HTTP/2 control output exceeds configured maximum"),
          { protocol with connection := (engine.dataToSend protocol.connection).2 }) := by
  unfold captureControlOutput
  rcases engine.dataToSend protocol.connection with ⟨produced, drained⟩
  dsimp only
  by_cases room : Capturable config protocol produced.length
  · rw [if_pos room]
    unfold Capturable at room
    rw [if_neg (by omega)]
  · rw [if_neg room]
    unfold Capturable at room
    rw [if_pos (by omega)]

/-- A response command either begins its response or overruns a budget. -/
theorem capture_response {protocol : H2Protocol σ} {entry : Queued} {after : σ}
    (fits : headerSize (responseFields entry.2) ≤ config.maxHeaderBytes)
    (sent : engine.sendHeaders protocol.connection entry.1 (responseFields entry.2)
      entry.2.body.isEmpty = (.ok (), after)) :
    (Capturable config protocol (engine.dataToSend after).1.length →
      captureControlOutput engine config (runCommand engine config protocol (asCommand entry)) =
        (.ok (), beginResponse protocol (engine.dataToSend after).2 (engine.dataToSend after).1
          entry)) ∧
    (¬ Capturable config protocol (engine.dataToSend after).1.length →
      ∃ raised next, captureControlOutput engine config
        (runCommand engine config protocol (asCommand entry)) = (.error raised, next)) := by
  obtain ⟨streamId, response⟩ := entry
  dsimp only at fits sent ⊢
  have run : runCommand engine config protocol (asCommand (streamId, response)) =
      { protocol with
        connection := after
        activeStreams :=
          if response.body = [] then protocol.activeStreams.erase streamId
          else protocol.activeStreams
        outbound :=
          if response.body = [] then protocol.outbound
          else protocol.outbound.set streamId { body := response.body, offset := 0 } } := by
    rw [asCommand, runCommand, startResponse, if_neg (Nat.not_lt.mpr fits), sent]
    by_cases empty : response.body = []
    · simp only [empty, if_true]
    · simp only [empty, if_false]
  rw [run, capture_eq]
  constructor
  · intro room
    exact (if_pos room).trans rfl
  · intro overrun
    exact ⟨_, _, if_neg overrun⟩

structure Started (framing : Framing engine) (protocol : H2Protocol σ) (batch : List Queued)
    (next : H2Protocol σ) : Prop where
  control : next.controlOutput.length =
    protocol.controlOutput.length + (headerFrames engine protocol.connection batch).sum
  commands : next.commands = protocol.commands
  pending : next.pendingOutputBytes = protocol.pendingOutputBytes
  count : next.outbound.entries.length = protocol.outbound.entries.length + bodyCount batch
  remaining : OrderedDict.total OutboundStream.remaining next.outbound =
    OrderedDict.total OutboundStream.remaining protocol.outbound + bodyBytes batch
  owed : ∀ streamId outbound, next.outbound.lookup streamId = some outbound →
    protocol.outbound.lookup streamId = some outbound ∨
      (0 < outbound.remaining ∧ ∃ entry ∈ batch, entry.1 = streamId)
  sends : framing.Sends next
  window : framing.window next.connection = framing.window protocol.connection

theorem bodyCount_cons (entry : Queued) (batch : List Queued) :
    bodyCount (entry :: batch) = bodyCount batch + (if entry.2.body = [] then 0 else 1) := by
  unfold bodyCount
  rw [List.countP_cons]
  cases entry.2.body with
  | nil => rfl
  | cons octet octets => rfl

theorem begin_started {protocol : H2Protocol σ} {entry : Queued} {after : σ}
    (sends : framing.Sends protocol) (fresh : entry.1 ∉ protocol.outbound)
    (others : ∀ other, framing.sending protocol.connection other → framing.sending after other)
    (mine : entry.2.body ≠ [] → framing.sending after entry.1)
    (same : framing.window after = framing.window protocol.connection)
    (sent : engine.sendHeaders protocol.connection entry.1 (responseFields entry.2)
      entry.2.body.isEmpty = (.ok (), after)) :
    Started framing protocol [entry]
      (beginResponse protocol (engine.dataToSend after).2 (engine.dataToSend after).1 entry) := by
  obtain ⟨streamId, response⟩ := entry
  dsimp only at fresh mine sent
  have kept : ∀ other, framing.sending protocol.connection other →
      framing.sending (engine.dataToSend after).2 other :=
    fun other sending => framing.emptied_sending after other (others other sending)
  unfold beginResponse
  constructor
  · rw [headerFrames, sent]
    simp [headerFrames]
  · rfl
  · rfl
  · rw [bodyCount_cons]
    dsimp only
    split
    · rfl
    · have length := OrderedDict.length_set protocol.outbound streamId
        ({ body := response.body, offset := 0 } : OutboundStream)
      rw [if_neg fresh] at length
      simp only [bodyCount, List.countP_nil]
      omega
  · rw [bodyBytes_cons]
    dsimp only
    split
    · rename_i empty
      rw [empty]
      simp [bodyBytes]
    · rw [OrderedDict.total_set, AList.lookup_eq_none.mpr fresh, Option.elim_none]
      simp [bodyBytes, OutboundStream.remaining]
  · intro other outbound found
    dsimp only at found
    split at found
    · exact Or.inl found
    · rename_i some
      rw [OrderedDict.lookup_set_eq] at found
      split at found
      · rename_i here
        cases found
        have positive := List.length_pos_iff.mpr some
        refine Or.inr ⟨?_, (streamId, response), List.mem_cons_self, here.symm⟩
        simp only [OutboundStream.remaining]
        omega
      · exact Or.inl found
  · constructor
    · exact framing.emptied after
    · intro other member
      dsimp only at member ⊢
      split at member
      · exact kept other (sends.sending other member)
      · rename_i some
        rcases OrderedDict.mem_set.mp member with rfl | present
        · exact framing.emptied_sending after other (mine some)
        · exact kept other (sends.sending other present)
  · exact (framing.emptied_window after).trans same

theorem Started.cons {protocol middle next : H2Protocol σ} {entry : Queued}
    {batch : List Queued} (first : Started framing protocol [entry] middle)
    (rest : Started framing middle batch next)
    (frames : (headerFrames engine protocol.connection (entry :: batch)).sum =
      (headerFrames engine protocol.connection [entry]).sum +
        (headerFrames engine middle.connection batch).sum) :
    Started framing protocol (entry :: batch) next where
  control := by rw [rest.control, first.control, frames, Nat.add_assoc]
  commands := rest.commands.trans first.commands
  pending := rest.pending.trans first.pending
  count := by
    have before := first.count
    have after := rest.count
    rw [bodyCount_cons] at before ⊢
    simp only [bodyCount, List.countP_nil] at before
    unfold bodyCount at after ⊢
    omega
  remaining := by
    have before := first.remaining
    rw [bodyBytes_cons] at before ⊢
    rw [rest.remaining, before]
    simp only [bodyBytes, List.map_nil, List.sum_nil]
    push_cast
    omega
  owed := fun streamId outbound found => by
    rcases rest.owed streamId outbound found with earlier | ⟨positive, other, member, same⟩
    · rcases first.owed streamId outbound earlier with before | ⟨positive, other, member, same⟩
      · exact Or.inl before
      · rw [List.mem_singleton.mp member] at same
        exact Or.inr ⟨positive, entry, List.mem_cons_self, same⟩
    · exact Or.inr ⟨positive, other, List.mem_cons_of_mem _ member, same⟩
  sends := rest.sends
  window := rest.window.trans first.window

/-- The commands of a batch run to their end exactly when its HEADERS frames can be
captured together. -/
theorem runCommands_batch {protocol : H2Protocol σ} {batch : List Queued}
    (sends : framing.Sends protocol)
    (awaiting : ∀ entry ∈ batch, framing.awaiting protocol.connection entry.1 entry.2)
    (distinct : (batch.map Prod.fst).Nodup) (fresh : ∀ entry ∈ batch, entry.1 ∉ protocol.outbound)
    (headersFit : ∀ entry ∈ batch, headerSize (responseFields entry.2) ≤ config.maxHeaderBytes) :
    (Capturable config protocol (headerFrames engine protocol.connection batch).sum →
      ∃ next, runCommands engine config protocol (batch.map asCommand) = (.ok (), next)) ∧
    ∀ next, runCommands engine config protocol (batch.map asCommand) = (.ok (), next) →
      Started framing protocol batch next ∧
        (batch ≠ [] →
          Capturable config protocol (headerFrames engine protocol.connection batch).sum) := by
  induction batch generalizing protocol with
  | nil =>
      refine ⟨fun _ => ⟨protocol, rfl⟩, ?_⟩
      intro next ran
      cases ran
      refine ⟨?_, fun nonempty => absurd rfl nonempty⟩
      exact {
        control := rfl
        commands := rfl
        pending := rfl
        count := rfl
        remaining := (Int.add_zero _).symm
        owed := fun _ _ found => Or.inl found
        sends := sends
        window := rfl }
  | cons entry batch induction =>
      obtain ⟨after, sent, otherAwaiting, otherSending, mine, sameWindow⟩ :=
        framing.headers protocol.connection entry.1 entry.2 (awaiting entry List.mem_cons_self)
      obtain ⟨first, overrun⟩ := capture_response (headersFit entry List.mem_cons_self) sent
      have begun := begin_started sends (fresh entry List.mem_cons_self) otherSending mine
        sameWindow sent
      generalize whole : beginResponse protocol (engine.dataToSend after).2
        (engine.dataToSend after).1 entry = middle at first begun
      have connection : middle.connection = (engine.dataToSend after).2 := by rw [← whole]; rfl
      have different : ∀ other ∈ batch, other.1 ≠ entry.1 := by
        intro other member same
        rw [List.map_cons, List.nodup_cons] at distinct
        exact distinct.1 (same ▸ List.mem_map_of_mem member)
      have frames : headerFrames engine protocol.connection (entry :: batch) =
          (engine.dataToSend after).1.length :: headerFrames engine middle.connection batch := by
        rw [headerFrames, sent, connection]
      have single : headerFrames engine protocol.connection [entry] =
          [(engine.dataToSend after).1.length] := by
        rw [headerFrames, sent]
        rfl
      have control : middle.controlOutput.length =
          protocol.controlOutput.length + (engine.dataToSend after).1.length := by
        rw [begun.control, single, List.sum_singleton]
      obtain ⟨runs, ran⟩ := @induction middle begun.sends
        (by
          intro other member
          rw [connection]
          exact framing.emptied_awaiting after other.1 other.2
            (otherAwaiting other.1 other.2 (different other member)
              (awaiting other (List.mem_cons_of_mem _ member))))
        (List.nodup_cons.mp distinct).2
        (by
          intro other member present
          have absent := fresh other (List.mem_cons_of_mem _ member)
          rw [← whole, beginResponse] at present
          dsimp only at present
          split at present
          · exact absent present
          · rcases OrderedDict.mem_set.mp present with same | inside
            · exact different other member same
            · exact absent inside)
        (fun other member => headersFit other (List.mem_cons_of_mem _ member))
      have pending := begun.pending
      rw [List.map_cons, runCommands, frames, List.sum_cons]
      constructor
      · intro room
        unfold Capturable at room runs
        rw [first (by unfold Capturable; omega)]
        exact runs (by rw [control, pending]; omega)
      · intro next succeeded
        by_cases room : Capturable config protocol (engine.dataToSend after).1.length
        · rw [first room] at succeeded
          obtain ⟨rest, capturable⟩ := ran next succeeded
          constructor
          · apply begun.cons rest
            rw [frames, single, List.sum_cons, List.sum_singleton]
          · intro _
            by_cases last : batch = []
            · subst last
              exact room
            · have together := capturable last
              unfold Capturable at together ⊢
              rw [control, pending] at together
              omega
        · obtain ⟨raised, state, failed⟩ := overrun room
          rw [failed] at succeeded
          cases succeeded

end Commands

section Bodies

variable {σ : Type} {engine : Engine σ} {config : HTTP2Config} {framing : Framing engine}
  {protocol next : H2Protocol σ} {streamId : StreamId} {outbound : OutboundStream}
  {output assembled : Bytes}

/-- A turn of the body loop that returns: it costs a frame header or nothing. -/
structure Advanced (framing : Framing engine) (protocol : H2Protocol σ) (streamId : StreamId)
    (outbound : OutboundStream) (output : Bytes) (next : H2Protocol σ) (assembled : Bytes) :
    Prop where
  sends : framing.Sends next
  commands : next.commands = protocol.commands
  control : next.controlOutput = protocol.controlOutput
  others : ∀ other, other ≠ streamId →
    next.outbound.lookup other = protocol.outbound.lookup other
  count : next.outbound.entries.length ≤ protocol.outbound.entries.length
  pending : next.pendingOutputBytes ≤ protocol.pendingOutputBytes
  window : 0 < outbound.remaining → ∀ other,
    framing.window protocol.connection other - outbound.remaining ≤
      framing.window next.connection other
  cost : (assembled.length : Int) + next.pendingOutputBytes ≤
    output.length + protocol.pendingOutputBytes + 9
  spent : 0 < outbound.remaining → 0 < framing.window protocol.connection streamId →
    (assembled.length : Int) + next.pendingOutputBytes =
      output.length + protocol.pendingOutputBytes + 9

/-- The protocol behind a chunk, where its stream has not left yet. -/
def behindChunk (protocol : H2Protocol σ) (streamId : StreamId) (outbound : OutboundStream)
    (size : Int) (drained : σ) : H2Protocol σ :=
  { protocol with
    connection := drained
    outbound := protocol.outbound.set streamId
      { outbound with offset := outbound.offset + size.toNat }
    pendingOutputBytes := protocol.pendingOutputBytes - size }

theorem sendChunk_sent {size : Int} {after drained : σ} {generated : Bytes} (window : Int)
    (same : chunkSize outbound.remaining window (engine.maxOutboundFrameSize protocol.connection) =
      size)
    (positive : 0 < size)
    (sent : engine.sendData protocol.connection streamId
      ((outbound.body.drop outbound.offset).take size.toNat) (size == outbound.remaining) =
        (.ok (), after))
    (produced : engine.dataToSend after = (generated, drained)) :
    sendChunk engine config protocol streamId outbound window output =
      if (generated.length : Int) + output.length + (protocol.pendingOutputBytes - size) >
          config.maxPendingOutputBytes then
        (.error (.valueError "HTTP/2 generated output exceeds configured maximum"),
          behindChunk protocol streamId outbound size drained)
      else (.ok (output ++ generated),
        if size = outbound.remaining then
          finishResponse (behindChunk protocol streamId outbound size drained) streamId
        else behindChunk protocol streamId outbound size drained) := by
  unfold sendChunk
  rw [same]
  simp only [if_neg (Int.not_le.mpr positive), sent, produced, validateWireOutput]
  by_cases overrun : (generated.length : Int) + output.length +
      (protocol.pendingOutputBytes - size) > config.maxPendingOutputBytes
  · simp only [if_pos overrun]
    rfl
  · simp only [if_neg overrun, beq_iff_eq]
    rfl

theorem advanced_idle (sends : framing.Sends protocol)
    (blocked : 0 < outbound.remaining → ¬ 0 < framing.window protocol.connection streamId) :
    Advanced framing protocol streamId outbound output protocol output where
  sends := sends
  commands := rfl
  control := rfl
  others := fun _ _ => rfl
  count := Nat.le_refl _
  pending := Int.le_refl _
  window := fun positive _ => by omega
  cost := by omega
  spent := fun owed open' => absurd open' (blocked owed)

theorem advanced_finished (sends : framing.Sends protocol) (nothing : outbound.remaining ≤ 0) :
    Advanced framing protocol streamId outbound output (finishResponse protocol streamId)
      output where
  sends := ⟨sends.unsent, fun other member => sends.sending other (AList.mem_erase.mp member).2⟩
  commands := rfl
  control := rfl
  others := fun _ different => AList.lookup_erase_ne different
  count := OrderedDict.length_erase_le _ _
  pending := Int.le_refl _
  window := fun positive => absurd positive (Int.not_lt.mpr nothing)
  cost := by change (output.length : Int) + protocol.pendingOutputBytes ≤ _; omega
  spent := fun positive => absurd positive (Int.not_lt.mpr nothing)

/-- What the engine makes of a chunk that is within the window and the frame size. -/
structure TakesChunk (framing : Framing engine) (protocol : H2Protocol σ) (streamId : StreamId)
    (outbound : OutboundStream) (size : Int) (generated : Bytes) (drained : σ) : Prop where
  positive : 0 < size
  owed : size ≤ outbound.remaining
  length : (generated.length : Int) = 9 + size
  unsent : framing.unsent drained = 0
  others : ∀ other, other ≠ streamId → other ∈ protocol.outbound →
    framing.sending drained other
  mine : size ≠ outbound.remaining → framing.sending drained streamId
  window : ∀ other, framing.window protocol.connection other - outbound.remaining ≤
    framing.window drained other

theorem takesChunk {size : Int} (sends : framing.Sends protocol)
    (present : streamId ∈ protocol.outbound)
    (same : chunkSize outbound.remaining (framing.window protocol.connection streamId)
      (engine.maxOutboundFrameSize protocol.connection) = size) (positive : 0 < size) :
    ∃ after generated drained,
      engine.sendData protocol.connection streamId
        ((outbound.body.drop outbound.offset).take size.toNat) (size == outbound.remaining) =
          (.ok (), after) ∧
      engine.dataToSend after = (generated, drained) ∧
      TakesChunk framing protocol streamId outbound size generated drained := by
  have parts := same
  unfold chunkSize at parts
  have atMost : size ≤ outbound.remaining := by omega
  have length : (((outbound.body.drop outbound.offset).take size.toNat).length : Int) = size := by
    unfold OutboundStream.remaining at atMost
    rw [List.length_take, List.length_drop]
    omega
  obtain ⟨after, sent, unsent, kept, mine, left⟩ := framing.data protocol.connection streamId
    ((outbound.body.drop outbound.offset).take size.toNat) (size == outbound.remaining)
    (sends.sending streamId present) (by omega) (by omega)
  rw [sends.unsent] at unsent
  refine ⟨after, (engine.dataToSend after).1, (engine.dataToSend after).2, sent, rfl, ?_⟩
  constructor
  · exact positive
  · exact atMost
  · rw [framing.taken after, unsent]
    push_cast
    omega
  · exact framing.emptied after
  · intro other different inside
    exact framing.emptied_sending after other (kept other different (sends.sending other inside))
  · intro more
    exact framing.emptied_sending after streamId (mine (beq_eq_false_iff_ne.mpr more))
  · intro other
    have granted := left other
    rw [framing.emptied_window]
    omega

section Chunk

variable {size : Int} {generated : Bytes} {drained : σ}

theorem TakesChunk.produced
    (taken : TakesChunk framing protocol streamId outbound size generated drained) :
    ((output ++ generated).length : Int) + (protocol.pendingOutputBytes - size) =
      output.length + protocol.pendingOutputBytes + 9 := by
  have length := taken.length
  rw [List.length_append]
  push_cast
  omega

theorem length_behindChunk (present : streamId ∈ protocol.outbound) :
    (behindChunk protocol streamId outbound size drained).outbound.entries.length ≤
      protocol.outbound.entries.length := by
  have setLength := OrderedDict.length_set protocol.outbound streamId
    { outbound with offset := outbound.offset + size.toNat }
  rw [if_pos present] at setLength
  change (protocol.outbound.set streamId _).entries.length ≤ _
  omega

/-- The stream has more to send. -/
theorem TakesChunk.advanced
    (taken : TakesChunk framing protocol streamId outbound size generated drained)
    (present : streamId ∈ protocol.outbound) (more : size ≠ outbound.remaining) :
    Advanced framing protocol streamId outbound output
      (behindChunk protocol streamId outbound size drained) (output ++ generated) := by
  have positive := taken.positive
  constructor
  · refine ⟨taken.unsent, ?_⟩
    intro other member
    rcases OrderedDict.mem_set.mp member with rfl | inside
    · exact taken.mine more
    · by_cases here : other = streamId
      · rw [here]
        exact taken.mine more
      · exact taken.others other here inside
  · rfl
  · rfl
  · exact fun other different => OrderedDict.lookup_set_ne _ _ different
  · exact length_behindChunk present
  · change protocol.pendingOutputBytes - size ≤ _
    omega
  · exact fun _ => taken.window
  · exact Int.le_of_eq taken.produced
  · exact fun _ _ => taken.produced

/-- The stream has sent its last chunk and leaves. -/
theorem TakesChunk.advanced_last
    (taken : TakesChunk framing protocol streamId outbound size generated drained)
    (present : streamId ∈ protocol.outbound) :
    Advanced framing protocol streamId outbound output
      (finishResponse (behindChunk protocol streamId outbound size drained) streamId)
      (output ++ generated) := by
  have positive := taken.positive
  constructor
  · refine ⟨taken.unsent, ?_⟩
    intro other member
    obtain ⟨different, inside⟩ := AList.mem_erase.mp member
    exact taken.others other different ((OrderedDict.mem_set.mp inside).resolve_left different)
  · rfl
  · rfl
  · intro other different
    exact (AList.lookup_erase_ne different).trans (OrderedDict.lookup_set_ne _ _ different)
  · exact (OrderedDict.length_erase_le _ _).trans (length_behindChunk present)
  · change protocol.pendingOutputBytes - size ≤ _
    omega
  · exact fun _ => taken.window
  · exact Int.le_of_eq taken.produced
  · exact fun _ _ => taken.produced

end Chunk

/-- A turn of the body loop returns whenever a frame header more is within the budget. -/
theorem sendBody_advances (sends : framing.Sends protocol)
    (found : protocol.outbound.lookup streamId = some outbound) :
    ((output.length : Int) + protocol.pendingOutputBytes + 9 ≤ config.maxPendingOutputBytes →
      ∃ assembled next, sendBody engine config protocol streamId outbound output =
        (.ok assembled, next)) ∧
    ∀ assembled next,
      sendBody engine config protocol streamId outbound output = (.ok assembled, next) →
        Advanced framing protocol streamId outbound output next assembled := by
  have present := OrderedDict.mem_of_lookup found
  by_cases nothing : outbound.remaining ≤ 0
  · have finished : sendBody engine config protocol streamId outbound output =
        (.ok output, finishResponse protocol streamId) := if_pos nothing
    rw [finished]
    refine ⟨fun _ => ⟨_, _, rfl⟩, ?_⟩
    intro assembled next same
    cases same
    exact advanced_finished sends nothing
  have body : sendBody engine config protocol streamId outbound output =
      sendChunk engine config protocol streamId outbound
        (framing.window protocol.connection streamId) output := by
    rw [sendBody, if_neg nothing,
      framing.asked protocol.connection streamId (sends.sending streamId present)]
  rw [body]
  generalize same : chunkSize outbound.remaining (framing.window protocol.connection streamId)
    (engine.maxOutboundFrameSize protocol.connection) = size
  by_cases none : size ≤ 0
  · have idle : sendChunk engine config protocol streamId outbound
        (framing.window protocol.connection streamId) output = (.ok output, protocol) := by
      unfold sendChunk
      rw [same]
      exact if_pos none
    have blocked : ¬ 0 < framing.window protocol.connection streamId := by
      have frame := framing.maxFrame_positive protocol.connection
      unfold chunkSize at same
      omega
    rw [idle]
    refine ⟨fun _ => ⟨_, _, rfl⟩, ?_⟩
    intro assembled next returned
    cases returned
    exact advanced_idle sends fun _ => blocked
  · have positive : 0 < size := Int.not_le.mp none
    obtain ⟨after, generated, drained, sent, produced, taken⟩ :=
      takesChunk sends present same positive
    have length := taken.length
    rw [sendChunk_sent _ same positive sent produced]
    constructor
    · intro room
      rw [if_neg (by omega)]
      exact ⟨_, _, rfl⟩
    · intro assembled next returned
      split at returned
      · cases returned
      · cases returned
        split
        · exact taken.advanced_last present
        · rename_i more
          exact taken.advanced present more

abbrev BodyEntry := Sigma fun _ : StreamId => OutboundStream

def owedBytes (entries : List BodyEntry) : Int :=
  (entries.map fun entry => entry.2.remaining).sum

structure Delivered (framing : Framing engine) (protocol : H2Protocol σ) (output : Bytes)
    (entries : List BodyEntry) (next : H2Protocol σ) (assembled : Bytes) : Prop where
  sends : framing.Sends next
  commands : next.commands = protocol.commands
  control : next.controlOutput = protocol.controlOutput
  count : next.outbound.entries.length ≤ protocol.outbound.entries.length
  pending : next.pendingOutputBytes ≤ protocol.pendingOutputBytes
  cost : (assembled.length : Int) + next.pendingOutputBytes ≤
    output.length + protocol.pendingOutputBytes + 9 * entries.length
  spent : (∀ entry ∈ entries, 0 < entry.2.remaining) →
    (∀ entry ∈ entries, owedBytes entries ≤ framing.window protocol.connection entry.1) →
    (assembled.length : Int) + next.pendingOutputBytes =
      output.length + protocol.pendingOutputBytes + 9 * entries.length

theorem sendBodies_delivers (entries : List BodyEntry) (sends : framing.Sends protocol)
    (distinct : entries.NodupKeys)
    (listed : ∀ entry ∈ entries, protocol.outbound.lookup entry.1 = some entry.2) :
    ((output.length : Int) + protocol.pendingOutputBytes + 9 * entries.length ≤
        config.maxPendingOutputBytes →
      ∃ assembled next,
        sendBodies engine config protocol output entries = (.ok assembled, next)) ∧
    ∀ assembled next,
      sendBodies engine config protocol output entries = (.ok assembled, next) →
        Delivered framing protocol output entries next assembled := by
  induction entries generalizing protocol output with
  | nil =>
      refine ⟨fun _ => ⟨output, protocol, rfl⟩, ?_⟩
      intro assembled next same
      cases same
      exact {
        sends := sends
        commands := rfl
        control := rfl
        count := Nat.le_refl _
        pending := Int.le_refl _
        cost := by rw [List.length_nil]; omega
        spent := fun _ _ => by rw [List.length_nil]; omega }
  | cons entry entries induction =>
      obtain ⟨absent, restDistinct⟩ := List.nodupKeys_cons.mp distinct
      obtain ⟨returns, advanced⟩ := @sendBody_advances σ engine config framing protocol entry.1
        entry.2 output sends (listed entry List.mem_cons_self)
      have different : ∀ other ∈ entries, other.1 ≠ entry.1 := by
        intro other member equal
        exact absent (equal ▸ List.mem_keys_of_mem member)
      have length : ((entry :: entries).length : Int) = entries.length + 1 := rfl
      rw [sendBodies, length]
      rcases outcome : sendBody engine config protocol entry.1 entry.2 output with
        ⟨raised | sent, middle⟩
      · constructor
        · intro room
          obtain ⟨assembled, next, same⟩ := returns (by omega)
          rw [outcome] at same
          cases same
        · intro assembled next same
          cases same
      · have step := advanced sent middle outcome
        have stillListed : ∀ other ∈ entries, middle.outbound.lookup other.1 = some other.2 := by
          intro other member
          rw [step.others other.1 (different other member)]
          exact listed other (List.mem_cons_of_mem _ member)
        obtain ⟨restReturns, restDelivers⟩ :=
          @induction middle sent step.sends restDistinct stillListed
        have cost := step.cost
        constructor
        · intro room
          exact restReturns (by omega)
        · intro assembled next same
          have rest := restDelivers assembled next same
          have restCost := rest.cost
          constructor
          · exact rest.sends
          · exact rest.commands.trans step.commands
          · exact rest.control.trans step.control
          · exact rest.count.trans step.count
          · exact rest.pending.trans step.pending
          · rw [length]
            omega
          · intro owed granted
            have owes := owed entry List.mem_cons_self
            have bytes : owedBytes (entry :: entries) =
                entry.2.remaining + owedBytes entries := rfl
            have nonneg : 0 ≤ owedBytes entries := by
              apply List.sum_nonneg
              intro number member
              obtain ⟨other, inside, rfl⟩ := List.mem_map.mp member
              exact Int.le_of_lt (owed other (List.mem_cons_of_mem _ inside))
            have mine := granted entry List.mem_cons_self
            have first := step.spent owes (by omega)
            have others := rest.spent
              (fun other member => owed other (List.mem_cons_of_mem _ member))
              (by
                intro other member
                have window := step.window owes other.1
                have enough := granted other (List.mem_cons_of_mem _ member)
                omega)
            rw [length]
            omega

end Bodies

section Flushes

variable {σ : Type} {engine : Engine σ} {config : HTTP2Config} {framing : Framing engine}
  {protocol next : H2Protocol σ}

/-- A flush after its commands have been run. -/
def deliver (engine : Engine σ) (config : HTTP2Config) (started : H2Protocol σ) :
    Outcome σ Bytes :=
  match sendBodies engine config { started with controlOutput := [] } started.controlOutput
      started.outbound.entries with
  | (.error raised, next) => (.error raised, next)
  | (.ok output, next) => drainEngine engine config next output

/-- The commands have been run; what is left of the bodies fits with its frame headers. -/
structure Delivering (framing : Framing engine) (config : HTTP2Config)
    (protocol : H2Protocol σ) : Prop where
  commands : protocol.commands = []
  control : protocol.controlOutput = []
  sends : framing.Sends protocol
  fits : protocol.pendingOutputBytes + 9 * protocol.outbound.entries.length ≤
    config.maxPendingOutputBytes

theorem drainEngine_eq {output : Bytes} (sends : framing.Sends protocol) :
    ((output.length : Int) + protocol.pendingOutputBytes ≤ config.maxPendingOutputBytes →
      ∃ drained, drainEngine engine config protocol output =
        (.ok drained, { protocol with
          connection := (engine.dataToSend protocol.connection).2 })) ∧
    ∀ drained next, drainEngine engine config protocol output = (.ok drained, next) →
      (output.length : Int) + protocol.pendingOutputBytes ≤ config.maxPendingOutputBytes := by
  rcases produced : engine.dataToSend protocol.connection with ⟨generated, after⟩
  have empty : generated.length = 0 := by
    have taken := framing.taken protocol.connection
    rw [produced, sends.unsent] at taken
    exact taken
  unfold drainEngine validateWireOutput
  simp only [produced, empty]
  constructor
  · intro room
    rw [if_neg (by omega)]
    exact ⟨_, rfl⟩
  · intro drained next returned
    split at returned
    · cases returned
    · rename_i checked
      split at checked
      · cases checked
      · omega

theorem deliver_iff (commands : protocol.commands = []) (sends : framing.Sends protocol) :
    ((protocol.controlOutput.length : Int) + protocol.pendingOutputBytes +
        9 * protocol.outbound.entries.length ≤ config.maxPendingOutputBytes →
      ∃ output next, deliver engine config protocol = (.ok output, next) ∧
        Delivering framing config next) ∧
    ((∀ streamId outbound, protocol.outbound.lookup streamId = some outbound →
        0 < outbound.remaining ∧ OrderedDict.total OutboundStream.remaining protocol.outbound ≤
          framing.window protocol.connection streamId) →
      ∀ output next, deliver engine config protocol = (.ok output, next) →
        (protocol.controlOutput.length : Int) + protocol.pendingOutputBytes +
          9 * protocol.outbound.entries.length ≤ config.maxPendingOutputBytes) := by
  have moved : framing.Sends { protocol with controlOutput := [] } :=
    ⟨sends.unsent, sends.sending⟩
  have listed : ∀ entry ∈ protocol.outbound.entries,
      protocol.outbound.lookup entry.1 = some entry.2 :=
    fun entry member => AList.mem_lookup_iff.mpr member
  obtain ⟨returns, delivers⟩ := @sendBodies_delivers σ engine config framing
    { protocol with controlOutput := [] } protocol.controlOutput protocol.outbound.entries moved
    protocol.outbound.nodupKeys listed
  unfold deliver
  constructor
  · intro room
    obtain ⟨assembled, between, sent⟩ := returns room
    have delivered := delivers assembled between sent
    have cost := delivered.cost
    have pending := delivered.pending
    have count := delivered.count
    dsimp only at cost pending count
    have left : (assembled.length : Int) + between.pendingOutputBytes ≤
        config.maxPendingOutputBytes := by omega
    rw [sent]
    obtain ⟨drained, last⟩ := (drainEngine_eq delivered.sends).1 left
    refine ⟨drained, _, last, ?_⟩
    exact {
      commands := delivered.commands.trans commands
      control := delivered.control
      sends := ⟨framing.emptied between.connection, fun streamId member =>
        framing.emptied_sending between.connection streamId
          (delivered.sends.sending streamId member)⟩
      fits := by dsimp only; omega }
  · intro granted output next returned
    rcases sent : sendBodies engine config { protocol with controlOutput := [] }
      protocol.controlOutput protocol.outbound.entries with ⟨raised | assembled, between⟩
    · rw [sent] at returned
      cases returned
    · rw [sent] at returned
      have delivered := delivers assembled between sent
      have spent := delivered.spent
        (fun entry member => (granted entry.1 entry.2 (listed entry member)).1)
        (fun entry member => (granted entry.1 entry.2 (listed entry member)).2)
      have checked := (drainEngine_eq delivered.sends).2 output next returned
      dsimp only at spent
      omega

theorem flush_eq {commands : List Command} (queued : protocol.commands = commands) :
    flush engine config protocol =
      match runCommands engine config { protocol with commands := [] } commands with
      | (.error raised, next) => (.error raised, next)
      | (.ok (), started) => deliver engine config started := by
  rw [flush, queued]
  rfl

theorem flush_delivering (delivering : Delivering framing config protocol) :
    ∃ output next, flush engine config protocol = (.ok output, next) ∧
      Delivering framing config next := by
  have bare : { protocol with commands := [] } = protocol := by
    rw [← delivering.commands]
  rw [flush_eq delivering.commands, bare]
  apply (deliver_iff delivering.commands delivering.sends).1
  have fits := delivering.fits
  rw [delivering.control, List.length_nil]
  omega

structure Waiting (framing : Framing engine) (protocol : H2Protocol σ) (batch : List Queued)
    (state : H2Protocol σ) : Prop where
  control : state.controlOutput = []
  commands : state.commands = batch.map asCommand
  outbound : state.outbound = ∅
  pending : state.pendingOutputBytes = protocol.pendingOutputBytes + bodyBytes batch
  refreshed : framing.Refreshed protocol.connection state.connection

theorem flush_waiting {batch : List Queued} {state : H2Protocol σ}
    (idle : Idle engine framing protocol) (distinct : (batch.map Prod.fst).Nodup)
    (awaiting : ∀ entry ∈ batch, framing.awaiting protocol.connection entry.1 entry.2)
    (headersFit : ∀ entry ∈ batch, headerSize (responseFields entry.2) ≤ config.maxHeaderBytes)
    (waiting : Waiting framing protocol batch state) :
    (FitsBudgets engine config protocol batch →
      ∃ output next, flush engine config state = (.ok output, next) ∧
        Delivering framing config next) ∧
    ((∀ entry ∈ batch, bodyBytes batch ≤ framing.window state.connection entry.1) →
      ∀ output next, flush engine config state = (.ok output, next) →
        FitsBudgets engine config protocol batch) := by
  have sends : framing.Sends { state with commands := [] } := by
    refine ⟨waiting.refreshed.unsent.trans idle.unsent, ?_⟩
    intro streamId member
    dsimp only at member
    rw [waiting.outbound] at member
    exact absurd member (AList.notMem_empty streamId)
  obtain ⟨runs, ran⟩ := @runCommands_batch σ engine config framing { state with commands := [] }
    batch sends
    (fun entry member => waiting.refreshed.awaiting entry.1 entry.2 (awaiting entry member))
    distinct
    (by
      intro entry member present
      dsimp only at present
      rw [waiting.outbound] at present
      exact AList.notMem_empty entry.1 present)
    headersFit
  have pending := waiting.pending
  have noControl : state.controlOutput.length = 0 := by rw [waiting.control]; rfl
  have noBodies : state.outbound.entries.length = 0 := by rw [waiting.outbound]; rfl
  dsimp only at runs ran
  rw [waiting.refreshed.headers batch] at runs ran
  rw [flush_eq waiting.commands]
  unfold Capturable at runs ran
  dsimp only at runs ran
  rw [noControl, Nat.zero_add] at runs ran
  unfold FitsBudgets
  constructor
  · intro fits
    obtain ⟨started, done⟩ := runs ⟨fits.1, by omega⟩
    have begun := (ran started done).1
    have control := begun.control
    have count := begun.count
    have startedPending := begun.pending
    dsimp only at control count startedPending
    rw [waiting.refreshed.headers batch] at control
    rw [done]
    apply (deliver_iff begun.commands begun.sends).1
    omega
  · intro granted output next returned
    rcases done : runCommands engine config { state with commands := [] } (batch.map asCommand)
      with ⟨raised | _, started⟩
    · rw [done] at returned
      cases returned
    · rw [done] at returned
      obtain ⟨begun, capturable⟩ := ran started done
      have control := begun.control
      have count := begun.count
      have startedPending := begun.pending
      have remaining := begun.remaining
      dsimp only at control count startedPending remaining
      rw [waiting.refreshed.headers batch] at control
      have delivered := (deliver_iff begun.commands begun.sends).2
        (by
          intro streamId outbound found
          rcases begun.owed streamId outbound found with earlier | ⟨positive, entry, member, rfl⟩
          · dsimp only at earlier
            rw [waiting.outbound] at earlier
            cases earlier
          · refine ⟨positive, ?_⟩
            have window := granted entry member
            rw [remaining, waiting.outbound, OrderedDict.total_empty, begun.window]
            dsimp only
            omega)
        output next returned
      constructor
      · by_cases none : batch = []
        · subst none
          exact Nat.zero_le _
        · exact (capturable none).1
      · omega

/-- Every state from the queueing on is before the first flush or after it. -/
theorem run_delivers {batch : List Queued} {start state : H2Protocol σ} {moves : List Move}
    (idle : Idle engine framing protocol) (distinct : (batch.map Prod.fst).Nodup)
    (awaiting : ∀ entry ∈ batch, framing.awaiting protocol.connection entry.1 entry.2)
    (headersFit : ∀ entry ∈ batch, headerSize (responseFields entry.2) ≤ config.maxHeaderBytes)
    (waiting : Waiting framing protocol batch start)
    (fits : FitsBudgets engine config protocol batch)
    (run : Run (Delivery engine config framing) start moves state) :
    Waiting framing protocol batch state ∨ Delivering framing config state := by
  have preserved : ∀ state move next,
      (Waiting framing protocol batch state ∨ Delivering framing config state) →
      Delivery engine config framing state move next →
      (Waiting framing protocol batch next ∨ Delivering framing config next) := by
    intro state move next before step
    cases move with
    | refreshed =>
        obtain ⟨connection, refreshed, rfl⟩ := step
        rcases before with waiting | delivering
        · left
          exact { waiting with
            refreshed := {
              unsent := refreshed.unsent.trans waiting.refreshed.unsent
              awaiting := fun streamId response member =>
                refreshed.awaiting streamId response
                  (waiting.refreshed.awaiting streamId response member)
              sending := fun streamId member =>
                refreshed.sending streamId (waiting.refreshed.sending streamId member)
              headers := fun batch =>
                (refreshed.headers batch).trans (waiting.refreshed.headers batch) } }
        · right
          exact { delivering with
            sends := ⟨refreshed.unsent.trans delivering.sends.unsent, fun streamId member =>
              refreshed.sending streamId (delivering.sends.sending streamId member)⟩ }
    | flushed =>
        obtain ⟨output, returned⟩ := step
        right
        have after : ∃ output next, flush engine config state = (.ok output, next) ∧
            Delivering framing config next := by
          rcases before with waiting | delivering
          · exact (flush_waiting idle distinct awaiting headersFit waiting).1 fits
          · exact flush_delivering delivering
        obtain ⟨other, last, same, delivering⟩ := after
        rw [returned] at same
        cases same
        exact delivering
  induction run with
  | nil => exact Or.inl waiting
  | snoc move run last induction => exact preserved _ move _ induction last

theorem idle_pending {connection : σ} {calls : List Call}
    (run : Run (Calls engine config) (H2Protocol.new connection) calls protocol)
    (once : (queuedStreams calls).Nodup) (clean : Clean calls)
    (idle : Idle engine framing protocol) : protocol.pendingOutputBytes = 0 := by
  have counted := (balanced_run run once clean).1.counted
  simp only [ledger] at counted
  rw [idle.outbound, idle.commands, OrderedDict.total_empty, commandBytes_nil] at counted
  omega

/-- The responses of an accepted batch never make a flush raise exactly when all HEADERS
frames together fit the control budget, and with all bodies and one frame header for each
body, the pending budget. -/
theorem always_flushes_iff (engine : Engine σ) (framing : Framing engine) (config : HTTP2Config)
    (protocol : H2Protocol σ) (batch : List Queued) (idle : Idle engine framing protocol)
    (accepted : ∀ answer ∈ (queueAll engine config protocol batch).1, answer = true)
    (distinct : (batch.map Prod.fst).Nodup)
    (awaiting : ∀ entry ∈ batch, framing.awaiting protocol.connection entry.1 entry.2)
    (headersFit : ∀ entry ∈ batch, headerSize (responseFields entry.2) ≤ config.maxHeaderBytes)
    (granted : ∃ connection, framing.Refreshed protocol.connection connection ∧
      ∀ entry ∈ batch, bodyBytes batch ≤ framing.window connection entry.1) :
    AlwaysFlushes engine config framing (queueAll engine config protocol batch).2 ↔
      FitsBudgets engine config protocol batch := by
  obtain ⟨inbound, buffered, queued⟩ := queueAll_accepted accepted
  have waiting : Waiting framing protocol batch (queueAll engine config protocol batch).2 := by
    rw [queued]
    exact {
      control := idle.control
      commands := by rw [idle.commands]; rfl
      outbound := idle.outbound
      pending := rfl
      refreshed := ⟨rfl, fun _ _ => id, fun _ => id, fun _ => rfl⟩ }
  constructor
  · intro always
    obtain ⟨connection, refreshed, windows⟩ := granted
    have same : (queueAll engine config protocol batch).2.connection = protocol.connection := by
      rw [queued]
    have opened : Delivery engine config framing (queueAll engine config protocol batch).2
        .refreshed { (queueAll engine config protocol batch).2 with connection } := by
      refine ⟨connection, ?_, rfl⟩
      rw [same]
      exact refreshed
    obtain ⟨output, next, returned⟩ := always _ _ (Run.single opened)
    have still : Waiting framing protocol batch
        { (queueAll engine config protocol batch).2 with connection } :=
      { waiting with refreshed }
    exact (flush_waiting idle distinct awaiting headersFit still).2 windows output next returned
  · intro fits moves state run
    rcases run_delivers idle distinct awaiting headersFit waiting fits run with
      still | delivering
    · obtain ⟨output, next, returned, -⟩ :=
        (flush_waiting idle distinct awaiting headersFit still).1 fits
      exact ⟨output, next, returned⟩
    · obtain ⟨output, next, returned, -⟩ := flush_delivering delivering
      exact ⟨output, next, returned⟩

end Flushes

section Samples

def scriptedFraming (headerBytes : Nat) : Framing (scripted headerBytes) where
  unsent script := script.outgoing.length
  awaiting _ _ response := 200 ≤ response.status
  sending _ _ := True
  window _ _ := 65535
  maxFrame_positive := fun _ => Int.natCast_pos.mpr (by decide)
  taken := fun _ => rfl
  emptied := fun _ => rfl
  emptied_awaiting := fun _ _ _ final => final
  emptied_sending := fun _ _ _ => trivial
  emptied_window := fun _ => rfl
  asked := fun _ _ _ => rfl
  headers := fun script _ _ _ =>
    ⟨{ script with outgoing := script.outgoing ++ List.replicate headerBytes 0 }, rfl,
      fun _ _ _ final => final, fun _ _ => trivial, fun _ => trivial, rfl⟩
  data := fun script _ payload _ _ _ _ =>
    ⟨{ script with outgoing := script.outgoing ++ List.replicate 9 0 ++ payload }, rfl,
      by rw [List.length_append, List.length_append, List.length_replicate],
      fun _ _ _ => trivial, fun _ => trivial, fun _ => by omega⟩

def sampleRun (config : HTTP2Config) : List Call × H2Protocol Script :=
  performAll (scripted 40) config (H2Protocol.new sampleStart) [.receiveData clientPreface]

/-- Room for one HEADERS frame of the script, not for two. -/
def tightBudget : HTTP2Config where
  maxPendingOutputBytes := 64
  maxControlOutputBytes := 64
  maxResponseBodyBytes := 1
  accepted := by decide

def emptyAnswers : List Queued := [(1, sampleResponse []), (3, sampleResponse [])]

/-- Two responses are admitted, their HEADERS frames fit one by one, and the flush raises. -/
theorem admitted_responses_raise :
    Run (Calls (scripted 40) tightBudget) (H2Protocol.new sampleStart) (sampleRun tightBudget).1
      (sampleRun tightBudget).2 ∧
    Idle (scripted 40) (scriptedFraming 40) (sampleRun tightBudget).2 ∧
    (emptyAnswers.map Prod.fst).Nodup ∧
    (queueAll (scripted 40) tightBudget (sampleRun tightBudget).2 emptyAnswers).1 =
      [true, true] ∧
    headerFrames (scripted 40) (sampleRun tightBudget).2.connection emptyAnswers = [40, 40] ∧
    40 ≤ tightBudget.maxControlOutputBytes ∧
    (flush (scripted 40) tightBudget
      (queueAll (scripted 40) tightBudget (sampleRun tightBudget).2 emptyAnswers).2).1 =
        .error (.valueError "HTTP/2 control output exceeds configured maximum") := by
  refine ⟨run_performAll _ _ _ _, ⟨by decide +kernel, by decide +kernel, ?_, by decide +kernel⟩,
    by decide +kernel, by decide +kernel, by decide +kernel, by decide +kernel,
    by decide +kernel⟩
  exact AList.ext (by decide +kernel)

def sampleAnswers : List Queued := [(1, sampleResponse [104, 105]), (3, sampleResponse [])]

theorem always_flushes_iff_sample :
    AlwaysFlushes (scripted 40) HTTP2Config.standard (scriptedFraming 40)
        (queueAll (scripted 40) HTTP2Config.standard (sampleRun HTTP2Config.standard).2
          sampleAnswers).2 ↔
      FitsBudgets (scripted 40) HTTP2Config.standard (sampleRun HTTP2Config.standard).2
        sampleAnswers := by
  apply always_flushes_iff (scripted 40) (scriptedFraming 40) HTTP2Config.standard
    (sampleRun HTTP2Config.standard).2 sampleAnswers
  · exact ⟨by decide +kernel, by decide +kernel, AList.ext (by decide +kernel),
      by decide +kernel⟩
  · decide +kernel
  · decide +kernel
  · intro entry member
    rcases List.mem_pair.mp member with rfl | rfl
    · exact Nat.le_refl 200
    · exact Nat.le_refl 200
  · decide +kernel
  · refine ⟨_, ⟨rfl, fun _ _ => id, fun _ => id, fun _ => rfl⟩, ?_⟩
    decide +kernel

end Samples

end SmallServer.Http2Admission
