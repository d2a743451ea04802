import SmallServer.Http2Effects

/-!
# HTTP/2 outbound accounting

`_pending_output_bytes` is one counter for bodies in three places: queued responses,
responses `flush` is working on, and bodies partly sent. The ledger collects these
places; each effect keeps it balanced.
-/

namespace SmallServer.Http2Outbound

open SmallServer HttpValues Http2Frames Http2Protocol Http2Effects Runs

set_option autoImplicit false

def commandBytes (commands : List Command) : Int := (commands.map Command.bodySize).sum

def responseStream : Command → Option StreamId
  | .reset _ => none
  | .response streamId _ => some streamId

def responseStreams (commands : List Command) : List StreamId :=
  commands.filterMap responseStream

section CommandLists

theorem commandBytes_nonneg (commands : List Command) : 0 ≤ commandBytes commands := by
  apply List.sum_nonneg
  intro size member
  obtain ⟨command, -, rfl⟩ := List.mem_map.mp member
  cases command with
  | reset streamId => exact Int.le_refl 0
  | response streamId response => exact Int.natCast_nonneg _

@[simp] theorem commandBytes_nil : commandBytes [] = 0 := rfl

theorem commandBytes_cons (command : Command) (commands : List Command) :
    commandBytes (command :: commands) = command.bodySize + commandBytes commands := by
  rw [commandBytes, List.map_cons, List.sum_cons]
  rfl

theorem commandBytes_append (left right : List Command) :
    commandBytes (left ++ right) = commandBytes left + commandBytes right := by
  rw [commandBytes, List.map_append, List.sum_append]
  rfl

theorem commandBytes_filter (streamId : StreamId) (commands : List Command) :
    commandBytes (commands.filter fun command => !command.isResponseOn streamId) =
      commandBytes commands - commandBytes (commands.filter (Command.isResponseOn streamId)) := by
  induction commands with
  | nil => rfl
  | cons command commands induction =>
      cases removed : command.isResponseOn streamId with
      | true =>
          rw [List.filter_cons_of_neg (by simp [removed]), List.filter_cons_of_pos removed,
            commandBytes_cons, commandBytes_cons, induction]
          omega
      | false =>
          rw [List.filter_cons_of_pos (by simp [removed]),
            List.filter_cons_of_neg (by simp [removed]), commandBytes_cons, commandBytes_cons,
            induction]
          omega

theorem responseStreams_append (left right : List Command) :
    responseStreams (left ++ right) = responseStreams left ++ responseStreams right :=
  List.filterMap_append

theorem responseStreams_between {commands rest : List Command} {streamId : StreamId}
    {response : Response} :
    (responseStreams (commands ++ .response streamId response :: rest)).Perm
      (streamId :: responseStreams (commands ++ rest)) :=
  List.Perm.filterMap responseStream List.perm_middle

/-- A response command leaves the running list; what remains no longer names its stream. -/
theorem not_named_again {commands rest : List Command} {streamId : StreamId}
    {response : Response}
    (distinct : (responseStreams (commands ++ .response streamId response :: rest)).Nodup) :
    streamId ∉ responseStreams (commands ++ rest) :=
  (List.nodup_cons.mp (responseStreams_between.nodup_iff.mp distinct)).1

theorem responseStreams_rest {commands rest : List Command} {command : Command} :
    (responseStreams (commands ++ rest)).Sublist (responseStreams (commands ++ command :: rest)) :=
  List.Sublist.filterMap _ (List.Sublist.append_left (List.sublist_cons_self command rest) _)

end CommandLists

/-- The places that `_pending_output_bytes` counts, and the sizes it is bounded with. -/
structure Ledger where
  outbound : OrderedDict StreamId OutboundStream
  commands : List Command
  running : List Command
  pending : Int
  control : Nat
  output : Nat

def ledger {σ : Type} (work : Work σ) : Ledger where
  outbound := work.protocol.outbound
  commands := work.protocol.commands
  running := work.running
  pending := work.protocol.pendingOutputBytes
  control := work.protocol.controlOutput.length
  output := work.output.length

/-- The invariant. A stream has its body in one of the places at most once, and only
after a response was queued on it. -/
structure Ledger.Balanced (config : HTTP2Config) (queued : List StreamId) (ledger : Ledger) :
    Prop where
  counted : ledger.pending = OrderedDict.total OutboundStream.remaining ledger.outbound +
    commandBytes ledger.commands + commandBytes ledger.running
  offsets : ∀ streamId outbound, ledger.outbound.lookup streamId = some outbound →
    outbound.offset ≤ outbound.body.length
  distinct : (responseStreams (ledger.commands ++ ledger.running)).Nodup
  apart : ∀ streamId ∈ responseStreams (ledger.commands ++ ledger.running),
    streamId ∉ ledger.outbound
  known : ∀ streamId, streamId ∈ responseStreams (ledger.commands ++ ledger.running) ∨
    streamId ∈ ledger.outbound → streamId ∈ queued
  control_bounded : ledger.control ≤ config.maxControlOutputBytes
  pending_bounded : ledger.control + ledger.pending ≤ config.maxPendingOutputBytes
  output_bounded : ledger.output + ledger.pending ≤ config.maxPendingOutputBytes

namespace Ledger

variable {config : HTTP2Config} {queued : List StreamId} {ledger : Ledger}

theorem Balanced.remaining_nonneg (balanced : ledger.Balanced config queued) :
    0 ≤ OrderedDict.total OutboundStream.remaining ledger.outbound := by
  apply OrderedDict.total_nonneg
  intro streamId outbound found
  have offset := balanced.offsets streamId outbound found
  unfold OutboundStream.remaining
  omega

theorem Balanced.pending_nonneg (balanced : ledger.Balanced config queued) :
    0 ≤ ledger.pending := by
  have unsent := balanced.remaining_nonneg
  have waiting := commandBytes_nonneg ledger.commands
  have running := commandBytes_nonneg ledger.running
  rw [balanced.counted]
  omega

def drop (ledger : Ledger) (streamId : StreamId) : Ledger where
  outbound := ledger.outbound.erase streamId
  commands := ledger.commands.filter fun command => !command.isResponseOn streamId
  running := ledger.running
  pending := ledger.pending -
    (ledger.outbound.lookup streamId).elim 0 OutboundStream.remaining -
      ((ledger.commands.filter (Command.isResponseOn streamId)).map Command.bodySize).sum
  control := ledger.control
  output := ledger.output

theorem ledger_dropStream {σ : Type} (work : Work σ) (streamId : StreamId) :
    Http2Outbound.ledger { work with protocol := dropStream work.protocol streamId } =
      (Http2Outbound.ledger work).drop streamId := by
  rw [dropStream_eq]
  rfl

theorem Balanced.drop (balanced : ledger.Balanced config queued) (streamId : StreamId) :
    (ledger.drop streamId).Balanced config queued := by
  have part : (responseStreams ((ledger.drop streamId).commands ++ ledger.running)).Sublist
      (responseStreams (ledger.commands ++ ledger.running)) :=
    List.Sublist.filterMap _ (List.Sublist.append_right List.filter_sublist _)
  have unsent : 0 ≤ (ledger.outbound.lookup streamId).elim 0 OutboundStream.remaining := by
    cases found : ledger.outbound.lookup streamId with
    | none => exact Int.le_refl 0
    | some outbound =>
        have offset := balanced.offsets streamId outbound found
        rw [Option.elim_some]
        unfold OutboundStream.remaining
        omega
  have removed := commandBytes_nonneg (ledger.commands.filter (Command.isResponseOn streamId))
  have less : (ledger.drop streamId).pending ≤ ledger.pending := by
    unfold commandBytes at removed
    change ledger.pending - _ - _ ≤ ledger.pending
    omega
  have sameRunning : (ledger.drop streamId).running = ledger.running := rfl
  have pendingBounded := balanced.pending_bounded
  have outputBounded := balanced.output_bounded
  constructor
  · change ledger.pending - _ - commandBytes _ = OrderedDict.total _ (AList.erase _ _) +
      commandBytes (List.filter _ _) + _
    rw [OrderedDict.total_erase, commandBytes_filter, balanced.counted, sameRunning]
    omega
  · intro other outbound found
    change (ledger.outbound.erase streamId).lookup other = some outbound at found
    rw [OrderedDict.lookup_erase_eq] at found
    split at found
    · cases found
    · exact balanced.offsets other outbound found
  · exact balanced.distinct.sublist part
  · intro other member inside
    exact balanced.apart other (part.subset member) (AList.mem_erase.mp inside).2
  · intro other place
    refine balanced.known other ?_
    rcases place with member | inside
    · exact Or.inl (part.subset member)
    · exact Or.inr (AList.mem_erase.mp inside).2
  · exact balanced.control_bounded
  · change (ledger.control : Int) + _ ≤ _
    omega
  · change (ledger.output : Int) + _ ≤ _
    omega

end Ledger

section Effects

variable {σ : Type} {config : HTTP2Config} {queued : List StreamId} {work next : Work σ}

theorem Ledger.Balanced.more {ledger : Ledger} (balanced : ledger.Balanced config queued)
    (extra : List StreamId) : ledger.Balanced config (queued ++ extra) :=
  { balanced with
    known := fun streamId place => List.mem_append_left _ (balanced.known streamId place) }

theorem Ledger.Balanced.pop {ledger : Ledger} (balanced : ledger.Balanced config queued)
    {command : Command} {rest : List Command} (running : ledger.running = command :: rest) :
    Ledger.Balanced config queued { ledger with
      running := rest
      pending := ledger.pending - command.bodySize } := by
  have part := @responseStreams_rest ledger.commands rest command
  have counted := balanced.counted
  have pendingBounded := balanced.pending_bounded
  have outputBounded := balanced.output_bounded
  have known := balanced.known
  have apart := balanced.apart
  have distinct := balanced.distinct
  have size : 0 ≤ command.bodySize := by
    have nonneg := commandBytes_nonneg [command]
    rw [commandBytes_cons, commandBytes_nil] at nonneg
    omega
  rw [running] at counted known apart distinct
  rw [commandBytes_cons] at counted
  constructor
  · change ledger.pending - command.bodySize =
      OrderedDict.total OutboundStream.remaining ledger.outbound + commandBytes ledger.commands +
        commandBytes rest
    omega
  · exact balanced.offsets
  · exact distinct.sublist part
  · exact fun streamId member => apart streamId (part.subset member)
  · exact fun streamId place => known streamId (place.imp_left fun member => part.subset member)
  · exact balanced.control_bounded
  · change (ledger.control : Int) + (ledger.pending - command.bodySize) ≤ _
    omega
  · change (ledger.output : Int) + (ledger.pending - command.bodySize) ≤ _
    omega

theorem Ledger.balanced_empty (config : HTTP2Config) (queued : List StreamId) :
    Ledger.Balanced config queued ⟨∅, [], [], 0, 0, 0⟩ where
  counted := rfl
  offsets := fun streamId outbound found => by cases found
  distinct := List.nodup_nil
  apart := fun streamId member => by cases member
  known := fun streamId place => by
    rcases place with member | inside
    · cases member
    · exact absurd inside (AList.notMem_empty streamId)
  control_bounded := Nat.zero_le _
  pending_bounded := Int.natCast_nonneg _
  output_bounded := Int.natCast_nonneg _

/-- A queued reset sends no body. -/
theorem Ledger.Balanced.queueReset {ledger : Ledger} (balanced : ledger.Balanced config queued)
    (streamId : StreamId) :
    Ledger.Balanced config queued { ledger with
      commands := ledger.commands ++ [.reset streamId] } := by
  have same : responseStreams (ledger.commands ++ [.reset streamId] ++ ledger.running) =
      responseStreams (ledger.commands ++ ledger.running) := by
    rw [responseStreams_append, responseStreams_append, responseStreams_append]
    simp [responseStreams, responseStream]
  refine { balanced with counted := ?_, distinct := ?_, apart := ?_, known := ?_ }
  · change ledger.pending = _ + commandBytes (ledger.commands ++ [.reset streamId]) + _
    rw [commandBytes_append, commandBytes_cons, commandBytes_nil]
    exact balanced.counted.trans (by simp [Command.bodySize])
  · exact same.symm ▸ balanced.distinct
  · exact same.symm ▸ balanced.apart
  · exact same.symm ▸ balanced.known

/-- The first response queued on a stream, which fits with what is pending. -/
theorem Ledger.Balanced.queue {ledger : Ledger} (balanced : ledger.Balanced config queued)
    {streamId : StreamId} {response : Response} (absent : streamId ∉ queued)
    (pendingFits : ledger.control + (ledger.pending + response.body.length) ≤
      (config.maxPendingOutputBytes : Int))
    (outputFits : ledger.output + (ledger.pending + response.body.length) ≤
      (config.maxPendingOutputBytes : Int)) :
    Ledger.Balanced config (queued ++ [streamId]) { ledger with
      commands := ledger.commands ++ [.response streamId response]
      pending := ledger.pending + response.body.length } := by
  have streams : (responseStreams
      (ledger.commands ++ [.response streamId response] ++ ledger.running)).Perm
        (streamId :: responseStreams (ledger.commands ++ ledger.running)) := by
    rw [List.append_assoc]
    exact responseStreams_between
  have unnamed : streamId ∉ responseStreams (ledger.commands ++ ledger.running) :=
    fun member => absent (balanced.known streamId (Or.inl member))
  have unsent : streamId ∉ ledger.outbound :=
    fun member => absent (balanced.known streamId (Or.inr member))
  refine { balanced with
    counted := ?_, distinct := ?_, apart := ?_, known := ?_
    pending_bounded := pendingFits, output_bounded := outputFits }
  · have counted := balanced.counted
    simp only [commandBytes_append, commandBytes_cons, commandBytes_nil, Command.bodySize]
    omega
  · exact streams.nodup_iff.mpr (List.nodup_cons.mpr ⟨unnamed, balanced.distinct⟩)
  · intro other member
    rcases List.mem_cons.mp (streams.subset member) with rfl | old
    · exact unsent
    · exact balanced.apart other old
  · intro other place
    rcases place with member | inside
    · rcases List.mem_cons.mp (streams.subset member) with rfl | old
      · exact List.mem_append_right _ List.mem_cons_self
      · exact List.mem_append_left _ (balanced.known other (Or.inl old))
    · exact List.mem_append_left _ (balanced.known other (Or.inr inside))

/-- `flush` takes the commands, none of which is lost. -/
theorem Ledger.Balanced.take {ledger : Ledger} (balanced : ledger.Balanced config queued)
    (idle : ledger.running = []) :
    Ledger.Balanced config queued { ledger with commands := [], running := ledger.commands } := by
  have same : responseStreams ([] ++ ledger.commands) =
      responseStreams (ledger.commands ++ ledger.running) := by
    rw [idle, List.nil_append, List.append_nil]
  refine { balanced with counted := ?_, distinct := ?_, apart := ?_, known := ?_ }
  · have counted := balanced.counted
    rw [idle, commandBytes_nil] at counted
    simp only [commandBytes_nil]
    omega
  · exact same.symm ▸ balanced.distinct
  · exact same.symm ▸ balanced.apart
  · exact same.symm ▸ balanced.known

/-- The HEADERS frame of a running response is out; its body is still to be sent. -/
theorem Ledger.Balanced.start {ledger : Ledger} (balanced : ledger.Balanced config queued)
    {streamId : StreamId} {response : Response} {rest : List Command}
    (running : ledger.running = .response streamId response :: rest) :
    Ledger.Balanced config queued { ledger with
      outbound := ledger.outbound.set streamId { body := response.body, offset := 0 }
      running := rest } := by
  have counted := balanced.counted
  have distinct := balanced.distinct
  have apart := balanced.apart
  have known := balanced.known
  rw [running] at counted distinct apart known
  have part := @responseStreams_rest ledger.commands rest (.response streamId response)
  have named : streamId ∈ responseStreams
      (ledger.commands ++ .response streamId response :: rest) :=
    responseStreams_between.symm.subset List.mem_cons_self
  have unsent : ledger.outbound.lookup streamId = none :=
    AList.lookup_eq_none.mpr (apart streamId named)
  refine { balanced with
    counted := ?_, offsets := ?_, distinct := distinct.sublist part, apart := ?_, known := ?_ }
  · rw [commandBytes_cons] at counted
    simp only [Command.bodySize] at counted ⊢
    rw [OrderedDict.total_set, unsent, Option.elim_none]
    simp only [OutboundStream.remaining]
    omega
  · intro other outbound found
    rw [OrderedDict.lookup_set_eq] at found
    split at found
    · cases found
      exact Nat.zero_le _
    · exact balanced.offsets other outbound found
  · intro other member inside
    rcases OrderedDict.mem_set.mp inside with rfl | old
    · exact not_named_again distinct member
    · exact apart other (part.subset member) old
  · intro other place
    rcases place with member | inside
    · exact known other (Or.inl (part.subset member))
    · rcases OrderedDict.mem_set.mp inside with rfl | old
      · exact known other (Or.inl named)
      · exact known other (Or.inr old)

/-- A DATA frame takes no more than its stream owes. -/
theorem Ledger.Balanced.send {ledger : Ledger} (balanced : ledger.Balanced config queued)
    {streamId : StreamId} {outbound : OutboundStream} {size : Nat}
    (found : ledger.outbound.lookup streamId = some outbound)
    (owed : (size : Int) ≤ outbound.remaining) :
    Ledger.Balanced config queued { ledger with
      outbound := ledger.outbound.set streamId { outbound with offset := outbound.offset + size }
      pending := ledger.pending - size } := by
  have counted := balanced.counted
  have offset := balanced.offsets streamId outbound found
  have pendingBounded := balanced.pending_bounded
  have outputBounded := balanced.output_bounded
  unfold OutboundStream.remaining at owed
  have present : ∀ other, other ∈ ledger.outbound.set streamId
      { outbound with offset := outbound.offset + size } → other ∈ ledger.outbound := by
    intro other inside
    rcases OrderedDict.mem_set.mp inside with rfl | old
    · exact OrderedDict.mem_of_lookup found
    · exact old
  refine { balanced with
    counted := ?_, offsets := ?_, apart := ?_, known := ?_
    pending_bounded := ?_, output_bounded := ?_ }
  · rw [OrderedDict.total_set, found, Option.elim_some]
    simp only [OutboundStream.remaining]
    push_cast
    omega
  · intro other stream same
    rw [OrderedDict.lookup_set_eq] at same
    split at same
    · cases same
      dsimp only
      omega
    · exact balanced.offsets other stream same
  · exact fun other member inside => balanced.apart other member (present other inside)
  · exact fun other place => balanced.known other (place.imp_right (present other))
  · dsimp only
    omega
  · dsimp only
    omega

/-- A stream that owes nothing leaves the bodies partly sent. -/
theorem Ledger.Balanced.finish {ledger : Ledger} (balanced : ledger.Balanced config queued)
    {streamId : StreamId} {outbound : OutboundStream}
    (found : ledger.outbound.lookup streamId = some outbound)
    (nothing : outbound.remaining ≤ 0) :
    Ledger.Balanced config queued { ledger with
      outbound := ledger.outbound.erase streamId } := by
  have counted := balanced.counted
  have offset := balanced.offsets streamId outbound found
  unfold OutboundStream.remaining at nothing
  refine { balanced with counted := ?_, offsets := ?_, apart := ?_, known := ?_ }
  · rw [OrderedDict.total_erase, found, Option.elim_some]
    simp only [OutboundStream.remaining] at counted ⊢
    omega
  · intro other stream present
    rw [OrderedDict.lookup_erase_eq] at present
    split at present
    · cases present
    · exact balanced.offsets other stream present
  · exact fun other member inside => balanced.apart other member (AList.mem_erase.mp inside).2
  · exact fun other place =>
      balanced.known other (place.imp_right fun inside => (AList.mem_erase.mp inside).2)

/-- Each effect keeps the ledger balanced, if no stream gets a second response. -/
theorem balanced_effect {mark : Mark} (effect : Effect config work mark next)
    (balanced : (ledger work).Balanced config queued)
    (fresh : ∀ streamId, mark.queuedStream = some streamId → streamId ∉ queued) :
    (ledger next).Balanced config (queued ++ mark.queuedStream.toList) := by
  cases effect with
  | engine work connection => exact balanced.more _
  | frames work frames => exact balanced.more _
  | terminated => exact balanced.more _
  | cancelled work streams => exact balanced.more _
  | accepted => exact balanced.more _
  | stored => exact balanced.more _
  | completed => exact balanced.more _
  | parked => exact balanced.more _
  | returned => exact balanced.more _
  | dropped protocol streamId output =>
      have dropped := Ledger.ledger_dropStream (⟨protocol, [], output⟩ : Work σ) streamId
      apply Ledger.Balanced.more
      rw [dropped]
      exact balanced.drop streamId
  | released protocol streamId =>
      rw [releaseInbound_eq]
      exact balanced.more _
  | captured work produced controlFits pendingFits =>
      have length : (work.protocol.controlOutput ++ produced).length =
          work.protocol.controlOutput.length + produced.length := List.length_append
      apply Ledger.Balanced.more
      refine { balanced with control_bounded := ?_, pending_bounded := ?_ }
      · change (work.protocol.controlOutput ++ produced).length ≤ _
        omega
      · change ((work.protocol.controlOutput ++ produced).length : Int) + _ ≤ _
        rw [length]
        push_cast
        exact pendingFits
  | refused protocol streamId =>
      rw [releaseInbound_eq]
      exact (balanced.queueReset streamId).more _
  | queued protocol streamId response active fits =>
      rw [releaseInbound_eq]
      refine balanced.queue (fresh streamId rfl) ?_ ?_
      · simp only [ledger]
        omega
      · -- the flush has put nothing together yet
        simp only [ledger, List.length_nil]
        omega
  | taken protocol => exact (balanced.take rfl).more _
  | reset protocol streamId rest output =>
      have popped := balanced.pop rfl
      change Ledger.Balanced config queued { ledger _ with
        running := rest, pending := protocol.pendingOutputBytes - 0 } at popped
      rw [Int.sub_zero] at popped
      have dropped := Ledger.ledger_dropStream (⟨protocol, rest, output⟩ : Work σ) streamId
      apply Ledger.Balanced.more
      rw [dropped]
      exact popped.drop streamId
  | failed protocol streamId response rest output =>
      have popped := balanced.pop rfl
      have dropped := Ledger.ledger_dropStream (⟨{ protocol with
        pendingOutputBytes := protocol.pendingOutputBytes - response.body.length }, rest, output⟩ :
          Work σ) streamId
      apply Ledger.Balanced.more
      rw [dropped]
      exact popped.drop streamId
  | started protocol streamId response rest output => exact (balanced.start rfl).more _
  | answered protocol streamId response rest output empty =>
      have popped := balanced.pop rfl
      have size : (Command.response streamId response).bodySize = 0 := by
        rw [Command.bodySize, empty]
        rfl
      rw [size, Int.sub_zero] at popped
      exact popped.more _
  | moved protocol =>
      apply Ledger.Balanced.more
      refine { balanced with control_bounded := ?_, pending_bounded := ?_, output_bounded := ?_ }
      · exact Nat.zero_le _
      · exact balanced.output_bounded
      · exact balanced.pending_bounded
  | sent work streamId outbound size found owed => exact (balanced.send found owed).more _
  | finished work streamId outbound found nothing => exact (balanced.finish found nothing).more _
  | emitted work generated fits =>
      apply Ledger.Balanced.more
      refine { balanced with output_bounded := ?_ }
      change ((work.output ++ generated).length : Int) + _ ≤ _
      rw [List.length_append]
      push_cast
      simp only [ledger]
      omega
  | cleared protocol => exact Ledger.balanced_empty config _

end Effects

section Runs

variable {σ : Type} {engine : Engine σ} {config : HTTP2Config}

theorem balanced_reaches {work next : Work σ} {queued requested marked : List StreamId}
    (reached : Reaches config work requested marked next) (once : (queued ++ marked).Nodup)
    (balanced : (ledger work).Balanced config queued) :
    (ledger next).Balanced config (queued ++ marked) := by
  obtain ⟨marks, run, -, rfl⟩ := reached
  induction run with
  | nil =>
      rw [List.filterMap_nil, List.append_nil]
      exact balanced
  | snoc mark run effect induction =>
      rw [List.filterMap_append, ← List.append_assoc] at once ⊢
      have earlier := induction (List.Nodup.of_append_left once)
      rw [filterMap_single] at once ⊢
      apply balanced_effect effect earlier
      intro streamId named member
      rw [named] at once
      exact (List.nodup_append.mp once).2.2 streamId member streamId List.mem_cons_self rfl

/-- An operation that returns keeps the books, and a flush stays within them. -/
theorem balanced_call {protocol next : H2Protocol σ} {call : Call} {queued : List StreamId}
    {result : Result} (step : Calls engine config protocol call next)
    (returned : call.result = .ok result)
    (once : (queued ++ call.operation.queuedStream.toList).Nodup)
    (balanced : (ledger ⟨protocol, [], []⟩).Balanced config queued) :
    (ledger ⟨next, [], []⟩).Balanced config (queued ++ call.operation.queuedStream.toList) ∧
      ∀ output, call.operation = .flush → result = .output output →
        output.length ≤ config.maxPendingOutputBytes := by
  obtain ⟨requested, marked, rest, assembled, reached, -, part, complete⟩ :=
    reaches_perform engine config protocol call.operation
  rw [step.1] at reached complete
  obtain ⟨rfl, flushed⟩ := complete result returned
  have onceMarked := once.sublist (List.Sublist.append_left part queued)
  have after := balanced_reaches reached onceMarked balanced
  have nonneg := after.pending_nonneg
  have bounded := after.output_bounded
  constructor
  · exact { after with
      known := fun streamId place =>
        (List.append_subset.mpr ⟨List.subset_append_left _ _,
          fun member inside => List.mem_append_right _ (part.subset inside)⟩)
            (after.known streamId place)
      output_bounded := by
        simp only [ledger] at bounded nonneg ⊢
        rw [List.length_nil]
        omega }
  · intro output isFlush same
    have equal := flushed isFlush
    rw [same] at equal
    cases equal
    simp only [ledger] at bounded nonneg
    omega

theorem balanced_new (config : HTTP2Config) (connection : σ) :
    (ledger ⟨H2Protocol.new connection, [], []⟩).Balanced config [] :=
  Ledger.balanced_empty config []

/-- The books of every run whose operations return, with at most one response queued on
each stream. -/
theorem balanced_run {connection : σ} {calls : List Call} {protocol : H2Protocol σ}
    (run : Run (Calls engine config) (H2Protocol.new connection) calls protocol)
    (once : (queuedStreams calls).Nodup)
    (clean : Clean calls) :
    (ledger ⟨protocol, [], []⟩).Balanced config (queuedStreams calls) ∧
      ∀ call ∈ calls, ∀ output, call.operation = .flush → call.result = .ok (.output output) →
        output.length ≤ config.maxPendingOutputBytes := by
  induction run with
  | nil => exact ⟨balanced_new config connection, fun call member => by cases member⟩
  | snoc call run step induction =>
      rw [queuedStreams_snoc] at once ⊢
      obtain ⟨before, outputs⟩ := induction (List.Nodup.of_append_left once)
        fun earlier member => clean earlier (List.mem_append_left _ member)
      obtain ⟨result, returned⟩ := clean call (List.mem_append_right _ List.mem_cons_self)
      obtain ⟨after, flushed⟩ := balanced_call step returned once before
      refine ⟨after, ?_⟩
      intro other member output isFlush same
      rcases List.mem_append.mp member with earlier | last
      · exact outputs other earlier output isFlush same
      · rw [List.mem_singleton.mp last] at isFlush same
        rw [returned] at same
        exact flushed output isFlush (Except.ok.inj same)

/-- `_pending_output_bytes` is what the bodies and commands amount to, and the control
output, the pending output and every flush stay within their limits. -/
theorem pending_output_accounted (engine : Engine σ) (config : HTTP2Config) (connection : σ)
    (calls : List Call) (protocol : H2Protocol σ)
    (run : Run (Calls engine config) (H2Protocol.new connection) calls protocol)
    (once : (queuedStreams calls).Nodup)
    (clean : Clean calls) :
    protocol.pendingOutputBytes =
        OrderedDict.total OutboundStream.remaining protocol.outbound +
          commandBytes protocol.commands ∧
      0 ≤ protocol.pendingOutputBytes ∧
      protocol.controlOutput.length ≤ config.maxControlOutputBytes ∧
      protocol.pendingOutput ≤ config.maxPendingOutputBytes ∧
      ∀ call ∈ calls, ∀ output, call.operation = .flush → call.result = .ok (.output output) →
        output.length ≤ config.maxPendingOutputBytes := by
  obtain ⟨balanced, outputs⟩ := balanced_run run once clean
  have counted := balanced.counted
  have bounded := balanced.pending_bounded
  refine ⟨?_, balanced.pending_nonneg, balanced.control_bounded, ?_, outputs⟩
  · simp only [ledger, commandBytes_nil] at counted
    omega
  · simp only [ledger] at bounded
    unfold H2Protocol.pendingOutput
    omega

def sampleRun : List Call × H2Protocol Script :=
  performAll (scripted 40) HTTP2Config.standard (H2Protocol.new sampleStart)
    [.receiveData clientPreface, .queueResponse 1 (sampleResponse [104, 105]), .flush]

theorem pending_output_accounted_sample :
    sampleRun.2.pendingOutputBytes =
        OrderedDict.total OutboundStream.remaining sampleRun.2.outbound +
          commandBytes sampleRun.2.commands ∧
      0 ≤ sampleRun.2.pendingOutputBytes ∧
      sampleRun.2.controlOutput.length ≤ HTTP2Config.standard.maxControlOutputBytes ∧
      sampleRun.2.pendingOutput ≤ HTTP2Config.standard.maxPendingOutputBytes ∧
      ∀ call ∈ sampleRun.1, ∀ output, call.operation = .flush →
        call.result = .ok (.output output) →
          output.length ≤ HTTP2Config.standard.maxPendingOutputBytes :=
  pending_output_accounted (scripted 40) HTTP2Config.standard sampleStart sampleRun.1 sampleRun.2
    (run_performAll _ _ _ _) (by decide +kernel) (clean_of_all (by decide +kernel))

end Runs

end SmallServer.Http2Outbound
