import SmallServer.Http2Outbound
import SmallServer.Http2Recording

/-!
# The drain loop of the HTTP/2 writer

`_http2_writer_loop` flushes until nothing comes out. A flush that returns something and is not
the first has taken bytes off the bodies, by a chunk that was sent or a stream that was dropped;
so the loop ends, and what it leaves is blocked by the peer.
-/

namespace SmallServer.Http2Drain

open SmallServer HttpValues Http2Frames Http2Protocol Http2Effects Http2Outbound Http2Recording Runs

set_option autoImplicit false

section Measure

variable {σ : Type}

def unsent (outbound : OutboundStream) : Int := max 0 outbound.remaining

def owed (protocol : H2Protocol σ) : Int := OrderedDict.total unsent protocol.outbound

/-- The bytes of all bodies that are still to be sent, queued or begun. -/
def pendingBodyBytes (protocol : H2Protocol σ) : Int :=
  owed protocol + commandBytes protocol.commands

theorem owed_nonneg (protocol : H2Protocol σ) : 0 ≤ owed protocol :=
  OrderedDict.total_nonneg _ fun _ _ _ => Int.le_max_left _ _

theorem owed_dropStream (protocol : H2Protocol σ) (streamId : StreamId) :
    owed (dropStream protocol streamId) =
      owed protocol - (protocol.outbound.lookup streamId).elim 0 unsent := by
  rw [dropStream_eq]
  exact OrderedDict.total_erase unsent protocol.outbound streamId

theorem unsent_elim_nonneg (found : Option OutboundStream) : 0 ≤ found.elim 0 unsent := by
  cases found with
  | none => exact Int.le_refl 0
  | some outbound => exact Int.le_max_left _ _

theorem owed_dropStream_le (protocol : H2Protocol σ) (streamId : StreamId) :
    owed (dropStream protocol streamId) ≤ owed protocol := by
  have dropped := owed_dropStream protocol streamId
  have nonneg := unsent_elim_nonneg (protocol.outbound.lookup streamId)
  omega

end Measure

section Laws

variable {σ : Type}

/-- `data_to_send` returns what earlier calls produced, all of it and once. What sends
produces something, and what only asks for a window produces nothing. -/
structure Buffers (engine : Engine σ) : Prop where
  drained : ∀ connection, (engine.dataToSend (engine.dataToSend connection).2).1 = []
  headers : ∀ connection streamId fields endStream next,
    engine.sendHeaders connection streamId fields endStream = (.ok (), next) →
      (engine.dataToSend next).1 ≠ []
  data : ∀ connection streamId chunk endStream next,
    engine.sendData connection streamId chunk endStream = (.ok (), next) →
      (engine.dataToSend next).1 ≠ []
  window : ∀ connection streamId window next,
    engine.localFlowControlWindow connection streamId = (.ok window, next) →
      (engine.dataToSend connection).1 = [] → (engine.dataToSend next).1 = []

theorem Buffers.recording {engine : Engine σ} (buffers : Buffers engine) :
    Buffers (recording engine) where
  drained connection := buffers.drained connection.connection
  headers connection streamId fields endStream next sends := by
    have answer := congrArg Prod.fst sends
    have moved := congrArg (fun result => result.2.connection) sends
    exact buffers.headers _ _ _ _ _ (Prod.ext answer moved)
  data connection streamId chunk endStream next sends := by
    have answer := congrArg Prod.fst sends
    have moved := congrArg (fun result => result.2.connection) sends
    exact buffers.data _ _ _ _ _ (Prod.ext answer moved)
  window connection streamId window next asks silent := by
    have answered : engine.localFlowControlWindow connection.connection streamId =
        (.ok window, next.connection) := by
      unfold Http2Recording.recording at asks
      dsimp only at asks
      split at asks
      · cases asks
      · rename_i is
        cases asks
        exact is
    exact buffers.window _ _ _ _ answered silent

variable (engine : Engine σ) (config : HTTP2Config)

def Silent (connection : σ) : Prop := (engine.dataToSend connection).1 = []

/-- A part of a flush took bytes off the bodies, or it put nothing out. -/
structure Progresses (output returned : Bytes) (before after : H2Protocol σ) : Prop where
  less : owed after ≤ owed before
  moves : owed after < owed before ∨
    returned = output ∧ (Silent engine before.connection → Silent engine after.connection)

variable {engine config} {protocol next : H2Protocol σ} {streamId : StreamId}
  {outbound : OutboundStream} {output returned : Bytes}

theorem owed_dropStream_lt (found : protocol.outbound.lookup streamId = some outbound)
    (owes : ¬outbound.remaining ≤ 0) : owed (dropStream protocol streamId) < owed protocol := by
  have dropped := owed_dropStream protocol streamId
  rw [found, Option.elim_some, unsent] at dropped
  omega

theorem owed_sent (found : protocol.outbound.lookup streamId = some outbound) {size : Int}
    (positive : ¬size ≤ 0) (within : size ≤ outbound.remaining) :
    OrderedDict.total unsent (protocol.outbound.set streamId
      { outbound with offset := outbound.offset + size.toNat }) = owed protocol - size := by
  have sent : OutboundStream.remaining
      { outbound with offset := outbound.offset + size.toNat } = outbound.remaining - size := by
    unfold OutboundStream.remaining
    push_cast
    omega
  rw [OrderedDict.total_set, found, Option.elim_some, unsent, unsent, sent, owed]
  omega

theorem sendChunk_progresses (window : Int)
    (found : protocol.outbound.lookup streamId = some outbound)
    (owes : ¬outbound.remaining ≤ 0)
    (result : sendChunk engine config protocol streamId outbound window output =
      (.ok returned, next)) :
    Progresses engine output returned protocol next := by
  unfold sendChunk at result
  dsimp only at result
  generalize is : chunkSize outbound.remaining window
    (engine.maxOutboundFrameSize protocol.connection) = size at result
  have within : size ≤ outbound.remaining := by
    rw [chunkSize] at is
    omega
  split at result
  · cases result
    exact ⟨Int.le_refl _, .inr ⟨rfl, id⟩⟩
  · rename_i positive
    split at result
    · rename_i error connection asked
      cases result
      have here : { protocol with connection : H2Protocol σ }.outbound.lookup streamId =
          some outbound := found
      have dropped := owed_dropStream_lt here owes
      exact ⟨dropped.le, .inl dropped⟩
    · have sent := owed_sent found positive within
      split at result
      · cases result
      · cases result
        have finished : ∀ (returned : Bytes) (after : H2Protocol σ),
            owed after ≤ owed protocol - size →
              Progresses engine output returned protocol after := fun _ _ less =>
          ⟨by omega, .inl (by omega)⟩
        split
        · refine finished _ _ ?_
          show OrderedDict.total unsent (AList.erase streamId _) ≤ _
          rw [OrderedDict.total_erase]
          exact (Int.sub_le_self _ (unsent_elim_nonneg _)).trans sent.le
        · exact finished _ _ sent.le

theorem sendBody_progresses (buffers : Buffers engine)
    (found : protocol.outbound.lookup streamId = some outbound)
    (result : sendBody engine config protocol streamId outbound output = (.ok returned, next)) :
    Progresses engine output returned protocol next := by
  unfold sendBody at result
  split at result
  · cases result
    have finished : owed (finishResponse protocol streamId) =
        owed protocol - (protocol.outbound.lookup streamId).elim 0 unsent :=
      OrderedDict.total_erase unsent protocol.outbound streamId
    have nonneg := unsent_elim_nonneg (protocol.outbound.lookup streamId)
    exact ⟨by omega, .inr ⟨rfl, id⟩⟩
  · rename_i owes
    split at result
    · rename_i error connection asked
      cases result
      have here : { protocol with connection : H2Protocol σ }.outbound.lookup streamId =
          some outbound := found
      have dropped := owed_dropStream_lt here owes
      exact ⟨dropped.le, .inl dropped⟩
    · rename_i window connection asked
      have asks : { protocol with connection : H2Protocol σ }.outbound.lookup streamId =
          some outbound := found
      have chunk := sendChunk_progresses window asks owes result
      refine ⟨chunk.less, chunk.moves.imp id fun ⟨same, silent⟩ => ⟨same, fun before => ?_⟩⟩
      exact silent (buffers.window _ _ _ _ asked before)

theorem Progresses.trans {middle after : H2Protocol σ} {last : Bytes}
    (first : Progresses engine output returned protocol middle)
    (second : Progresses engine returned last middle after) :
    Progresses engine output last protocol after := by
  refine ⟨second.less.trans first.less, ?_⟩
  rcases first.moves with less | ⟨same, silent⟩
  · exact .inl (lt_of_le_of_lt second.less less)
  · rcases second.moves with less | ⟨again, quiet⟩
    · exact .inl (lt_of_lt_of_le less first.less)
    · exact .inr ⟨again.trans same, fun before => quiet (silent before)⟩

theorem listed_rest {entry : Sigma fun _ : StreamId => OutboundStream}
    {entries : List (Sigma fun _ : StreamId => OutboundStream)}
    (distinct : (entry :: entries).NodupKeys)
    (listed : ∀ other ∈ entry :: entries, protocol.outbound.lookup other.1 = some other.2)
    (result : sendBody engine config protocol entry.1 entry.2 output = (.ok returned, next)) :
    ∀ other ∈ entries, next.outbound.lookup other.1 = some other.2 := by
  intro other member
  have different : other.1 ≠ entry.1 := fun same =>
    (List.nodupKeys_cons.mp distinct).1 (same ▸ List.mem_keys_of_mem member)
  have kept := (reaches_sendBody engine config protocol (listed entry List.mem_cons_self)
    output).2 other.1 different
  rw [result] at kept
  exact kept.trans (listed other (List.mem_cons_of_mem _ member))

theorem sendBodies_progresses (buffers : Buffers engine)
    (entries : List (Sigma fun _ : StreamId => OutboundStream)) (distinct : entries.NodupKeys)
    (listed : ∀ entry ∈ entries, protocol.outbound.lookup entry.1 = some entry.2)
    (result : sendBodies engine config protocol output entries = (.ok returned, next)) :
    Progresses engine output returned protocol next := by
  induction entries generalizing protocol output with
  | nil =>
      cases result
      exact ⟨Int.le_refl _, .inr ⟨rfl, id⟩⟩
  | cons entry entries hypothesis =>
      unfold sendBodies at result
      split at result
      · cases result
      · rename_i sent middle turn
        have first := sendBody_progresses buffers (listed entry List.mem_cons_self) turn
        have rest := listed_rest distinct listed turn
        exact first.trans (hypothesis (List.nodupKeys_cons.mp distinct).2 rest result)

end Laws

section Commands

variable {σ : Type} {engine : Engine σ} {config : HTTP2Config} {protocol next : H2Protocol σ}

theorem owed_captureControlOutput (protocol : H2Protocol σ) :
    owed (captureControlOutput engine config protocol).2 = owed protocol := by
  unfold captureControlOutput
  dsimp only
  split
  · rfl
  · rfl

theorem owed_runCommand (protocol : H2Protocol σ) (command : Command) :
    owed (runCommand engine config protocol command) ≤ owed protocol + command.bodySize := by
  cases command with
  | reset streamId =>
      have dropped : owed (resetStream engine protocol streamId .enhanceYourCalm) ≤
          owed protocol := owed_dropStream_le _ streamId
      have size : Command.bodySize (.reset streamId) = 0 := rfl
      show owed (resetStream engine protocol streamId .enhanceYourCalm) ≤ _
      omega
  | response streamId response =>
      have dropped : ∀ left : H2Protocol σ, owed left = owed protocol →
          owed (dropStream left streamId) ≤ owed protocol + response.body.length := by
        intro left same
        have less := owed_dropStream_le left streamId
        omega
      unfold runCommand startResponse
      dsimp only [Command.bodySize]
      split
      · exact dropped _ rfl
      · split
        · exact dropped _ rfl
        · split
          · show owed protocol ≤ _
            omega
          · show OrderedDict.total unsent (protocol.outbound.set streamId _) ≤ _
            have nonneg := unsent_elim_nonneg (protocol.outbound.lookup streamId)
            have whole : unsent { body := response.body, offset := 0 } = response.body.length := by
              unfold unsent OutboundStream.remaining
              dsimp only
              omega
            have is : OrderedDict.total unsent protocol.outbound = owed protocol := rfl
            rw [OrderedDict.total_set, whole, is]
            omega

theorem owed_runCommands (commands : List Command)
    (result : runCommands engine config protocol commands = (.ok (), next)) :
    owed next ≤ owed protocol + commandBytes commands := by
  induction commands generalizing protocol with
  | nil =>
      cases result
      rw [commandBytes_nil]
      omega
  | cons command commands hypothesis =>
      have ran : owed (runCommand engine config protocol command) ≤
          owed protocol + command.bodySize := owed_runCommand protocol command
      have captured : owed (captureControlOutput engine config
          (runCommand engine config protocol command)).2 =
            owed (runCommand engine config protocol command) := owed_captureControlOutput _
      unfold runCommands at result
      split at result
      · cases result
      · rename_i middle turn
        rw [turn] at captured
        have rest := hypothesis result
        rw [commandBytes_cons]
        dsimp only at captured
        omega

theorem sendBody_control {streamId : StreamId} {outbound : OutboundStream} {output : Bytes} :
    (sendBody engine config protocol streamId outbound output).2.controlOutput =
      protocol.controlOutput := by
  have dropped : ∀ left : H2Protocol σ, (dropStream left streamId).controlOutput =
      left.controlOutput := fun left => by rw [dropStream_eq]
  unfold sendBody sendChunk
  dsimp only
  split
  · rfl
  · split
    · exact dropped _
    · split
      · rfl
      · split
        · exact dropped _
        · split
          · rfl
          · split
            · rfl
            · rfl

theorem sendBodies_control (entries : List (Sigma fun _ : StreamId => OutboundStream))
    (output : Bytes) :
    (sendBodies engine config protocol output entries).2.controlOutput =
      protocol.controlOutput := by
  induction entries generalizing protocol output with
  | nil => rfl
  | cons entry entries hypothesis =>
      have sent : (sendBody engine config protocol entry.1 entry.2 output).2.controlOutput =
          protocol.controlOutput := sendBody_control
      unfold sendBodies
      split
      · rename_i raised middle turn
        rw [turn] at sent
        exact sent
      · rename_i returned middle turn
        rw [turn] at sent
        exact (hypothesis returned).trans sent

end Commands

section Flushes

variable {σ : Type} {engine : Engine σ} {config : HTTP2Config} {protocol after : H2Protocol σ}
  {output : Bytes}

theorem flush_parts (result : flush engine config protocol = (.ok output, after)) :
    ∃ started bodies sent,
      runCommands engine config { protocol with commands := [] } protocol.commands =
        (.ok (), started) ∧
      sendBodies engine config { started with controlOutput := [] } started.controlOutput
        started.outbound.entries = (.ok sent, bodies) ∧
      output = sent ++ (engine.dataToSend bodies.connection).1 ∧
      after = { bodies with connection := (engine.dataToSend bodies.connection).2 } := by
  unfold flush at result
  split at result
  · cases result
  · rename_i started ran
    split at result
    · cases result
    · rename_i sent bodies sends
      unfold drainEngine at result
      dsimp only at result
      split at result
      · cases result
      · cases result
        exact ⟨started, bodies, sent, ran, sends, rfl, rfl⟩

/-- No command waits, no control output is kept back, and the engine has nothing to send. -/
structure Settled (engine : Engine σ) (protocol : H2Protocol σ) : Prop where
  commands : protocol.commands = []
  control : protocol.controlOutput = []
  silent : Silent engine protocol.connection

theorem flush_settles (buffers : Buffers engine)
    (result : flush engine config protocol = (.ok output, after)) : Settled engine after := by
  have commands := flush_commands engine config protocol
  rw [result] at commands
  obtain ⟨started, bodies, sent, -, sends, -, rfl⟩ := flush_parts result
  have control : (sendBodies engine config { started with controlOutput := [] }
      started.controlOutput started.outbound.entries).2.controlOutput = [] := sendBodies_control _ _
  rw [sends] at control
  exact ⟨commands, control, buffers.drained bodies.connection⟩

theorem bodies_progress (buffers : Buffers engine) {started bodies : H2Protocol σ} {sent : Bytes}
    (sends : sendBodies engine config { started with controlOutput := [] } started.controlOutput
      started.outbound.entries = (.ok sent, bodies)) :
    Progresses engine started.controlOutput sent { started with controlOutput := [] } bodies :=
  sendBodies_progresses buffers started.outbound.entries started.outbound.nodupKeys
    (fun _ member => AList.mem_lookup_iff.mpr member) sends

theorem flush_owed (buffers : Buffers engine)
    (result : flush engine config protocol = (.ok output, after)) :
    owed after ≤ pendingBodyBytes protocol := by
  obtain ⟨started, bodies, sent, ran, sends, -, rfl⟩ := flush_parts result
  have began := owed_runCommands protocol.commands ran
  exact (bodies_progress buffers sends).less.trans began

/-- Once settled, a flush that returns something takes bytes off. -/
theorem flush_settled (buffers : Buffers engine) (settled : Settled engine protocol)
    (result : flush engine config protocol = (.ok output, after)) (something : output ≠ []) :
    owed after < owed protocol := by
  obtain ⟨started, bodies, sent, ran, sends, is, rfl⟩ := flush_parts result
  rw [settled.commands] at ran
  cases ran
  rcases (bodies_progress buffers sends).moves with less | ⟨same, silent⟩
  · exact less
  · have nothing : (engine.dataToSend bodies.connection).1 = [] := silent settled.silent
    refine absurd ?_ something
    rw [is, same, nothing]
    show protocol.controlOutput ++ [] = []
    rw [settled.control]
    rfl

def afterFlushes (engine : Engine σ) (config : HTTP2Config) (number : Nat)
    (protocol : H2Protocol σ) : H2Protocol σ :=
  (fun state => (flush engine config state).2)^[number] protocol

def NeverRaises (engine : Engine σ) (config : HTTP2Config) (protocol : H2Protocol σ) : Prop :=
  ∀ number, ∃ output, (flush engine config (afterFlushes engine config number protocol)).1 =
    .ok output

theorem NeverRaises.later (never : NeverRaises engine config protocol) :
    NeverRaises engine config (flush engine config protocol).2 := fun number => never (number + 1)

theorem NeverRaises.flush (never : NeverRaises engine config protocol) :
    ∃ output, flush engine config protocol =
      (.ok output, (Http2Protocol.flush engine config protocol).2) := by
  obtain ⟨output, returned⟩ := never 0
  exact ⟨output, Prod.ext returned rfl⟩

/-- From a settled state the loop ends after as many flushes as there are bytes. -/
theorem settled_drains (buffers : Buffers engine) (bound : Nat) (settled : Settled engine protocol)
    (never : NeverRaises engine config protocol) (bounded : owed protocol ≤ bound) :
    ∃ number ≤ bound, (flush engine config (afterFlushes engine config number protocol)).1 =
      .ok [] := by
  induction bound generalizing protocol with
  | zero =>
      obtain ⟨output, result⟩ := never.flush
      by_cases nothing : output = []
      · exact ⟨0, Nat.le_refl 0, (congrArg Prod.fst result).trans (by rw [nothing])⟩
      · have less := flush_settled buffers settled result nothing
        have nonneg := owed_nonneg (flush engine config protocol).2
        omega
  | succ bound hypothesis =>
      obtain ⟨output, result⟩ := never.flush
      by_cases nothing : output = []
      · exact ⟨0, Nat.zero_le _, (congrArg Prod.fst result).trans (by rw [nothing])⟩
      · have less := flush_settled buffers settled result nothing
        obtain ⟨number, within, ends⟩ := hypothesis (flush_settles buffers result) never.later
          (by omega)
        exact ⟨number + 1, Nat.succ_le_succ within, ends⟩

/-- The loop ends: two flushes and one for each byte are enough. -/
theorem drains (buffers : Buffers engine) (never : NeverRaises engine config protocol) :
    ∃ number : Nat, (number : Int) + 1 ≤ pendingBodyBytes protocol + 2 ∧
      (flush engine config (afterFlushes engine config number protocol)).1 = .ok [] := by
  obtain ⟨output, result⟩ := never.flush
  have left := flush_owed buffers result
  have nonneg := owed_nonneg (flush engine config protocol).2
  obtain ⟨number, within, ends⟩ := settled_drains buffers
    (owed (flush engine config protocol).2).toNat (flush_settles buffers result) never.later
    (by omega)
  exact ⟨number + 1, by push_cast; omega, ends⟩

theorem ok_of_isOk {result : Except Raised Bytes} (ok : result.isOk = true) :
    ∃ output, result = .ok output := by
  cases result with
  | error raised => cases ok
  | ok output => exact ⟨output, rfl⟩

structure Idle (engine : Engine σ) (config : HTTP2Config) (protocol : H2Protocol σ) : Prop where
  settled : Settled engine protocol
  none : protocol.outbound = ∅
  affordable : protocol.pendingOutputBytes ≤ config.maxPendingOutputBytes

theorem Idle.flush (idle : Idle engine config protocol) (buffers : Buffers engine) :
    ∃ next, Http2Protocol.flush engine config protocol = (.ok [], next) ∧
      Idle engine config next := by
  have silent : (engine.dataToSend protocol.connection).1 = [] := idle.settled.silent
  have affordable := idle.affordable
  have flushes : Http2Protocol.flush engine config protocol =
      (.ok [], { protocol with
        commands := []
        controlOutput := []
        connection := (engine.dataToSend protocol.connection).2 }) := by
    unfold Http2Protocol.flush
    rw [idle.settled.commands, idle.settled.control]
    unfold runCommands
    dsimp only
    have entries : protocol.outbound.entries = [] := by rw [idle.none]; rfl
    rw [entries]
    unfold sendBodies drainEngine validateWireOutput
    dsimp only
    rw [silent, if_neg (by simp only [List.length_nil]; omega)]
    rfl
  exact ⟨_, flushes, ⟨rfl, rfl, buffers.drained _⟩, idle.none, affordable⟩

theorem Idle.never_raises (idle : Idle engine config protocol) (buffers : Buffers engine) :
    NeverRaises engine config protocol := by
  intro number
  induction number generalizing protocol with
  | zero =>
      obtain ⟨next, flushes, -⟩ := idle.flush buffers
      exact ⟨[], congrArg Prod.fst flushes⟩
  | succ number hypothesis =>
      obtain ⟨next, flushes, stays⟩ := idle.flush buffers
      have after : (Http2Protocol.flush engine config protocol).2 = next :=
        congrArg Prod.snd flushes
      have later := hypothesis stays
      rw [← after] at later
      exact later

end Flushes

section Blocked

variable {σ : Type} {engine : Engine σ} {config : HTTP2Config}
  {protocol next after : H2Protocol (Recorded σ)} {output returned : Bytes}

/-- The engine reported a window, or a frame size, that lets nothing of the stream through. -/
def Blocked (reports : List Report) (streamId : StreamId) : Prop :=
  ∃ report ∈ reports, report.streamId = streamId ∧ (report.window ≤ 0 ∨ report.maxFrame ≤ 0)

/-- Blocked by the window, or by a frame size that this engine has somewhere. -/
def BlockedBy (engine : Engine σ) (reports : List Report) (streamId : StreamId) : Prop :=
  ∃ report ∈ reports, report.streamId = streamId ∧
    (report.window ≤ 0 ∨ ∃ connection, report.maxFrame = engine.maxOutboundFrameSize connection ∧
      engine.maxOutboundFrameSize connection ≤ 0)

theorem blockedBy_append {old new : List Report} {streamId : StreamId}
    (blocked : BlockedBy engine old streamId ∨ BlockedBy engine new streamId) :
    BlockedBy engine (old ++ new) streamId := by
  rcases blocked with ⟨report, member, is⟩ | ⟨report, member, is⟩
  · exact ⟨report, List.mem_append_left _ member, is⟩
  · exact ⟨report, List.mem_append_right _ member, is⟩

theorem BlockedBy.blocked {reports : List Report} {streamId : StreamId}
    (blocked : BlockedBy engine reports streamId) : Blocked reports streamId := by
  obtain ⟨report, member, about, window | ⟨connection, is, frame⟩⟩ := blocked
  · exact ⟨report, member, about, .inl window⟩
  · exact ⟨report, member, about, .inr (is ▸ frame)⟩

theorem BlockedBy.window {reports : List Report} {streamId : StreamId}
    (positive : ∀ connection, 0 < engine.maxOutboundFrameSize connection)
    (blocked : BlockedBy engine reports streamId) :
    ∃ report ∈ reports, report.streamId = streamId ∧ report.window ≤ 0 := by
  obtain ⟨report, member, about, window | ⟨connection, is, frame⟩⟩ := blocked
  · exact ⟨report, member, about, window⟩
  · exact absurd frame (not_le.mpr (positive connection))

theorem runCommand_reports (protocol : H2Protocol (Recorded σ)) (command : Command) :
    (runCommand (recording engine) config protocol command).connection.reports =
      protocol.connection.reports := by
  have dropped : ∀ (left : H2Protocol (Recorded σ)) (streamId : StreamId),
      left.connection.reports = protocol.connection.reports →
      (dropStream left streamId).connection.reports = protocol.connection.reports := by
    intro left streamId same
    rw [dropStream_eq]
    exact same
  cases command with
  | reset streamId => exact dropped _ streamId rfl
  | response streamId response =>
      unfold runCommand startResponse
      dsimp only
      split
      · exact dropped _ streamId rfl
      · split
        · rename_i error connection asked
          have same : protocol.connection.reports = connection.reports :=
            congrArg (fun answer => answer.2.reports) asked
          exact dropped _ streamId same.symm
        · rename_i connection asked
          have same : protocol.connection.reports = connection.reports :=
            congrArg (fun answer => answer.2.reports) asked
          split
          · exact same.symm
          · exact same.symm

theorem captureControlOutput_reports (protocol : H2Protocol (Recorded σ)) :
    (captureControlOutput (recording engine) config protocol).2.connection.reports =
      protocol.connection.reports := by
  unfold captureControlOutput
  dsimp only
  split
  · rfl
  · rfl

theorem runCommands_reports (commands : List Command) (protocol : H2Protocol (Recorded σ)) :
    (runCommands (recording engine) config protocol commands).2.connection.reports =
      protocol.connection.reports := by
  induction commands generalizing protocol with
  | nil => rfl
  | cons command commands hypothesis =>
      have both : (captureControlOutput (recording engine) config
          (runCommand (recording engine) config protocol command)).2.connection.reports =
            protocol.connection.reports :=
        (captureControlOutput_reports _).trans (runCommand_reports protocol command)
      unfold runCommands
      split
      · rename_i raised middle result
        rw [result] at both
        exact both
      · rename_i middle result
        rw [result] at both
        exact (hypothesis middle).trans both

/-- A turn that puts nothing out leaves its stream blocked, or out of the table. -/
theorem sendBody_blocked (buffers : Buffers engine) {streamId : StreamId}
    {outbound : OutboundStream}
    (result : sendBody (recording engine) config protocol streamId outbound output =
      (.ok returned, next)) :
    ∃ new, next.connection.reports = protocol.connection.reports ++ new ∧
      (returned = [] → output = [] ∧
        (streamId ∈ next.outbound → BlockedBy engine new streamId)) := by
  have gone : ∀ left : H2Protocol (Recorded σ), streamId ∉ (dropStream left streamId).outbound :=
    fun left => (dropStream_gone left streamId).2
  unfold sendBody at result
  split at result
  · cases result
    refine ⟨[], (List.append_nil _).symm, fun nothing => ⟨nothing, fun present => ?_⟩⟩
    exact absurd rfl (AList.mem_erase.mp present).1
  · rename_i owes
    split at result
    · rename_i error connection asked
      cases result
      refine ⟨[], ?_, fun nothing => ⟨nothing, fun present => absurd present (gone _)⟩⟩
      have same : connection.reports = protocol.connection.reports := by
        unfold recording at asked
        dsimp only at asked
        split at asked
        · cases asked
          rfl
        · cases asked
      rw [dropStream_eq, List.append_nil]
      exact same
    · rename_i window connection asked
      have reported : connection.reports = protocol.connection.reports ++
          [⟨streamId, window, engine.maxOutboundFrameSize connection.connection⟩] := by
        unfold recording at asked
        dsimp only at asked
        split at asked
        · cases asked
        · cases asked
          rfl
      unfold sendChunk at result
      dsimp only at result
      split at result
      · rename_i small
        cases result
        refine ⟨_, reported, fun nothing => ⟨nothing, fun _ =>
          ⟨_, List.mem_singleton_self _, rfl, ?_⟩⟩⟩
        have is : (recording engine).maxOutboundFrameSize connection =
            engine.maxOutboundFrameSize connection.connection := rfl
        rw [chunkSize, is] at small
        show window ≤ 0 ∨ _
        by_cases shut : window ≤ 0
        · exact .inl shut
        · exact .inr ⟨connection.connection, rfl, by omega⟩
      · split at result
        · rename_i error refused sends
          cases result
          refine ⟨[⟨streamId, window, engine.maxOutboundFrameSize connection.connection⟩], ?_,
            fun nothing => ⟨nothing, fun present => absurd present (gone _)⟩⟩
          rw [dropStream_eq]
          exact (congrArg (fun answer => answer.2.reports) sends).symm.trans reported
        · rename_i sent sends
          have same : sent.reports = connection.reports :=
            (congrArg (fun answer => answer.2.reports) sends).symm
          have made := buffers.recording.data _ _ _ _ _ sends
          split at result
          · cases result
          · cases result
            refine ⟨[⟨streamId, window, engine.maxOutboundFrameSize connection.connection⟩], ?_,
              fun nothing => absurd (List.append_eq_nil_iff.mp nothing).2 made⟩
            split
            · exact same.trans reported
            · exact same.trans reported

theorem sendBody_outbound {streamId other : StreamId} {outbound : OutboundStream}
    (found : protocol.outbound.lookup streamId = some outbound)
    (result : sendBody (recording engine) config protocol streamId outbound output =
      (.ok returned, next))
    (present : other ∈ next.outbound) : other ∈ protocol.outbound := by
  by_cases own : other = streamId
  · exact own ▸ OrderedDict.mem_of_lookup found
  · have kept := (reaches_sendBody (recording engine) config protocol found output).2 other own
    rw [result] at kept
    rw [← AList.lookup_isSome] at present ⊢
    exact kept ▸ present

/-- A body loop that puts nothing out leaves its streams blocked, or out of the table. -/
theorem sendBodies_blocked (buffers : Buffers engine)
    (entries : List (Sigma fun _ : StreamId => OutboundStream)) (distinct : entries.NodupKeys)
    (listed : ∀ entry ∈ entries, protocol.outbound.lookup entry.1 = some entry.2)
    (result : sendBodies (recording engine) config protocol output entries =
      (.ok returned, next)) :
    ∃ new, next.connection.reports = protocol.connection.reports ++ new ∧
      (∀ streamId ∈ next.outbound, streamId ∈ protocol.outbound) ∧
      (returned = [] → output = [] ∧
        ∀ entry ∈ entries, entry.1 ∈ next.outbound → BlockedBy engine new entry.1) := by
  induction entries generalizing protocol output with
  | nil =>
      cases result
      exact ⟨[], (List.append_nil _).symm, fun _ => id, fun nothing => ⟨nothing,
        fun _ member => absurd member List.not_mem_nil⟩⟩
  | cons entry entries hypothesis =>
      unfold sendBodies at result
      split at result
      · cases result
      · rename_i sent middle turn
        have found := listed entry List.mem_cons_self
        obtain ⟨first, reported, blocked⟩ := sendBody_blocked buffers turn
        obtain ⟨rest, reportedRest, stays, blockedRest⟩ := hypothesis
          (List.nodupKeys_cons.mp distinct).2 (listed_rest distinct listed turn) result
        refine ⟨first ++ rest, ?_, ?_, fun nothing => ?_⟩
        · rw [reportedRest, reported, List.append_assoc]
        · exact fun streamId present => sendBody_outbound found turn (stays streamId present)
        · obtain ⟨none, others⟩ := blockedRest nothing
          obtain ⟨nothingBefore, own⟩ := blocked none
          refine ⟨nothingBefore, fun other member present => blockedBy_append ?_⟩
          rcases List.mem_cons.mp member with rfl | behind
          · exact .inl (own (stays _ present))
          · exact .inr (others other behind present)

theorem flush_blocked (buffers : Buffers engine)
    (result : flush (recording engine) config protocol = (.ok [], after)) :
    ∃ new, after.connection.reports = protocol.connection.reports ++ new ∧
      ∀ streamId ∈ after.outbound, BlockedBy engine new streamId := by
  obtain ⟨started, bodies, sent, ran, sends, is, rfl⟩ := flush_parts result
  have began : (runCommands (recording engine) config { protocol with commands := [] }
      protocol.commands).2.connection.reports = protocol.connection.reports :=
    runCommands_reports protocol.commands _
  rw [ran] at began
  have moved : ∀ entry ∈ started.outbound.entries,
      ({ started with controlOutput := [] } : H2Protocol (Recorded σ)).outbound.lookup entry.1 =
        some entry.2 := fun _ member => AList.mem_lookup_iff.mpr member
  obtain ⟨new, reported, stays, blocked⟩ := sendBodies_blocked buffers started.outbound.entries
    started.outbound.nodupKeys moved sends
  refine ⟨new, reported.trans (congrArg (· ++ new) began), fun streamId present => ?_⟩
  have listed : streamId ∈ started.outbound := stays streamId present
  obtain ⟨entry, member, rfl⟩ := List.mem_map.mp listed
  exact (blocked (List.append_eq_nil_iff.mp is.symm).1).2 entry member present

/-- The drain loop ends after at most two flushes and one for each byte of the bodies, and a
flush that returns nothing leaves no command, no control output and only streams that the
engine reported to be blocked. With an engine that always allows a frame of some size, these are
streams without a window. -/
theorem drain_ends_quiet (engine : Engine σ) (config : HTTP2Config) (buffers : Buffers engine)
    (protocol : H2Protocol (Recorded σ)) :
    (NeverRaises (recording engine) config protocol →
      ∃ number : Nat, (number : Int) + 1 ≤ pendingBodyBytes protocol + 2 ∧
        (flush (recording engine) config
          (afterFlushes (recording engine) config number protocol)).1 = .ok []) ∧
    ∀ after, flush (recording engine) config protocol = (.ok [], after) →
      after.commands = [] ∧ after.controlOutput = [] ∧
        ∃ new, after.connection.reports = protocol.connection.reports ++ new ∧
          (∀ streamId ∈ after.outbound, Blocked new streamId) ∧
          ((∀ connection, 0 < engine.maxOutboundFrameSize connection) →
            ∀ streamId ∈ after.outbound, ∃ report ∈ new,
              report.streamId = streamId ∧ report.window ≤ 0) := by
  refine ⟨drains buffers.recording, fun after result => ?_⟩
  have settled := flush_settles buffers.recording result
  obtain ⟨new, reported, blocked⟩ := flush_blocked buffers result
  exact ⟨settled.commands, settled.control, new, reported,
    fun streamId present => (blocked streamId present).blocked,
    fun positive streamId present => (blocked streamId present).window positive⟩

end Blocked

section Samples

theorem scripted_buffers (engine : Engine Script)
    (dataToSend : engine.dataToSend = (scripted 40).dataToSend)
    (sendHeaders : engine.sendHeaders = (scripted 40).sendHeaders)
    (sendData : engine.sendData = (scripted 40).sendData)
    (localFlowControlWindow : engine.localFlowControlWindow =
      (scripted 40).localFlowControlWindow) : Buffers engine where
  drained connection := by
    rw [dataToSend]
    rfl
  headers connection streamId fields endStream next sends := by
    rw [sendHeaders] at sends
    rw [dataToSend]
    cases sends
    exact List.append_ne_nil_of_right_ne_nil _ (List.cons_ne_nil _ _)
  data connection streamId chunk endStream next sends := by
    rw [sendData] at sends
    rw [dataToSend]
    cases sends
    rw [List.append_assoc]
    exact List.append_ne_nil_of_right_ne_nil _ (List.cons_ne_nil _ _)
  window connection streamId window next asks silent := by
    rw [localFlowControlWindow] at asks
    cases asks
    exact silent

def waiting (engine : Engine Script) : H2Protocol (Recorded Script) :=
  (performAll (recording engine) HTTP2Config.standard (H2Protocol.new { connection := sampleStart })
    [.receiveData clientPreface, .queueResponse 1 (sampleResponse [104, 105])]).2

def drained : H2Protocol (Recorded Script) :=
  (flush (recording (scripted 40)) HTTP2Config.standard (waiting (scripted 40))).2

def rested : H2Protocol (Recorded Script) :=
  (flush (recording (scripted 40)) HTTP2Config.standard drained).2

theorem waiting_never_raises :
    NeverRaises (recording (scripted 40)) HTTP2Config.standard (waiting (scripted 40)) := by
  have idle : Idle (recording (scripted 40)) HTTP2Config.standard drained :=
    ⟨⟨by decide +kernel, by decide +kernel, by unfold Silent; decide +kernel⟩,
      AList.ext (by decide +kernel), by decide +kernel⟩
  intro number
  cases number with
  | zero => exact ok_of_isOk (by decide +kernel)
  | succ number =>
      exact idle.never_raises (scripted_buffers (scripted 40) rfl rfl rfl rfl).recording number

theorem drain_ends_quiet_sample :
    (∃ number : Nat, (number : Int) + 1 ≤ pendingBodyBytes (waiting (scripted 40)) + 2 ∧
      (flush (recording (scripted 40)) HTTP2Config.standard (afterFlushes
        (recording (scripted 40)) HTTP2Config.standard number (waiting (scripted 40)))).1 =
          .ok []) ∧
    rested.commands = [] ∧ rested.controlOutput = [] ∧
      ∃ new, rested.connection.reports = drained.connection.reports ++ new ∧
        (∀ streamId ∈ rested.outbound, Blocked new streamId) ∧
        ((∀ connection, 0 < (scripted 40).maxOutboundFrameSize connection) →
          ∀ streamId ∈ rested.outbound, ∃ report ∈ new,
            report.streamId = streamId ∧ report.window ≤ 0) :=
  ⟨(drain_ends_quiet (scripted 40) HTTP2Config.standard
      (scripted_buffers (scripted 40) rfl rfl rfl rfl) (waiting (scripted 40))).1
      waiting_never_raises,
    (drain_ends_quiet (scripted 40) HTTP2Config.standard
      (scripted_buffers (scripted 40) rfl rfl rfl rfl) drained).2 rested
      (Prod.ext (by decide +kernel) rfl)⟩

def noFrames : Engine Script := { scripted 40 with maxOutboundFrameSize := fun _ => 0 }

def stalled : H2Protocol (Recorded Script) :=
  (performAll (recording noFrames) HTTP2Config.standard (waiting noFrames) [.flush]).2

theorem sleeps_with_open_window :
    Buffers noFrames ∧
    Run (Calls (recording noFrames) HTTP2Config.standard)
      (H2Protocol.new { connection := sampleStart })
      (performAll (recording noFrames) HTTP2Config.standard
        (H2Protocol.new { connection := sampleStart })
        [.receiveData clientPreface, .queueResponse 1 (sampleResponse [104, 105]), .flush]).1
      stalled ∧
    (flush (recording noFrames) HTTP2Config.standard stalled).1 = .ok [] ∧
    1 ∈ (flush (recording noFrames) HTTP2Config.standard stalled).2.outbound ∧
    (flush (recording noFrames) HTTP2Config.standard stalled).2.connection.reports =
      stalled.connection.reports ++ [⟨1, 65535, 0⟩] :=
  ⟨scripted_buffers noFrames rfl rfl rfl rfl, run_performAll _ _ _ _, by decide +kernel,
    by decide +kernel, by decide +kernel⟩

end Samples

end SmallServer.Http2Drain
