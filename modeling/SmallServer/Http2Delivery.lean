import SmallServer.Http2Recording
import Mathlib.Data.List.ReduceOption

/-!
# The body of a response on the wire

A response that was accepted goes through three stages: its command waits, its body is being
sent, and nothing of it is left. What the engine is asked to send about its stream is given by
the moves between them.
-/

namespace SmallServer.Http2Delivery

open SmallServer HttpValues Http2Frames Http2Protocol Http2Effects Http2Recording Runs

set_option autoImplicit false

section Progress

/-- How far a response has come; `sent` says how much of the body the engine has taken. -/
inductive Progress where
  | waiting
  | sent (offset : Nat)
  | ended
deriving DecidableEq

variable (streamId : StreamId) (response : Response)

def chunkAt (body : Bytes) (offset size : Nat) : Bytes := (body.drop offset).take size

structure Fits (body : Bytes) (offset size : Nat) (report : Report) : Prop where
  positive : 0 < size
  within : offset + size ≤ body.length
  window : (size : Int) ≤ report.window
  frame : (size : Int) ≤ report.maxFrame

/-- The moves, each with the call it makes on the engine, if it makes one. -/
inductive Advances : Progress → Option Sending → Progress → Prop
  | headers : Advances .waiting
      (some (.headers streamId (responseFields response) response.body.isEmpty true)) (.sent 0)
  | headersRefused : Advances .waiting
      (some (.headers streamId (responseFields response) response.body.isEmpty false)) .ended
  | chunk (offset size : Nat) (report : Report) (own : report.streamId = streamId)
      (fits : Fits response.body offset size report) :
      Advances (.sent offset)
        (some (.data streamId (chunkAt response.body offset size)
          (decide (offset + size = response.body.length)) (some report) true))
        (.sent (offset + size))
  | chunkRefused (offset size : Nat) (report : Report) (own : report.streamId = streamId)
      (fits : Fits response.body offset size report) :
      Advances (.sent offset)
        (some (.data streamId (chunkAt response.body offset size)
          (decide (offset + size = response.body.length)) (some report) false)) .ended
  | left (progress : Progress) : Advances progress none .ended
  | reset (progress : Progress) : Advances progress (some (.reset streamId)) .ended

def Standing : Progress → List Command → Option OutboundStream → Prop
  | .waiting, commands, outbound => commands = [.response streamId response] ∧ outbound = none
  | .sent offset, commands, outbound => commands = [] ∧ outbound = some ⟨response.body, offset⟩
  | .ended, commands, outbound => commands = [] ∧ outbound = none

variable {streamId response} {progress last : Progress} {moves : List (Option Sending)}

theorem over_run (run : Run (Advances streamId response) .ended moves last) :
    last = .ended ∧ ∃ number, moves.reduceOption = List.replicate number (.reset streamId) := by
  induction run with
  | nil => exact ⟨rfl, 0, rfl⟩
  | snoc move run advances hypothesis =>
      obtain ⟨rfl, number, resets⟩ := hypothesis
      cases advances with
      | left =>
          refine ⟨rfl, number, ?_⟩
          rw [List.reduceOption_append, resets]
          exact List.append_nil _
      | reset =>
          refine ⟨rfl, number + 1, ?_⟩
          rw [List.reduceOption_append, resets, List.replicate_succ']
          rfl

end Progress

section Transmissions

def payloads (sent : List Sending) : Bytes := sent.flatMap Sending.payload

/-- What the engine may be asked to send for a response. -/
structure Transmission (streamId : StreamId) (response : Response) (sent : List Sending) :
    Prop where
  inOrder : payloads sent <+: response.body
  bounded : ∀ id chunk endStream report succeeded,
    Sending.data id chunk endStream report succeeded ∈ sent → chunk ≠ [] ∧
      ∃ given, report = some given ∧ given.streamId = streamId ∧
        (chunk.length : Int) ≤ given.window ∧ (chunk.length : Int) ≤ given.maxFrame
  begins : ∀ earlier sending later, sent = earlier ++ sending :: later →
    sending.isReset = false →
      (earlier = [] ∧ ∃ succeeded, sending =
        .headers streamId (responseFields response) response.body.isEmpty succeeded) ∨
      earlier ≠ [] ∧ ∃ chunk endStream report succeeded,
        sending = .data streamId chunk endStream report succeeded
  ends : ∀ earlier sending later, sent = earlier ++ sending :: later →
    sending.isReset = false →
      (sending.ends = true ↔ payloads (earlier ++ [sending]) = response.body)
  stops : ∀ earlier sending later, sent = earlier ++ sending :: later →
    sending.stops = true → ∀ call ∈ later, call.isReset = true

variable {streamId : StreamId} {response : Response} {sent : List Sending} {sending : Sending}

theorem payloads_snoc (sent : List Sending) (sending : Sending) :
    payloads (sent ++ [sending]) = payloads sent ++ sending.payload := by
  unfold payloads
  rw [List.flatMap_append, List.flatMap_singleton]

theorem split_snoc {earlier later : List Sending} {other : Sending}
    (is : sent ++ [sending] = earlier ++ other :: later) :
    (later = [] ∧ other = sending ∧ earlier = sent) ∨
      ∃ rest, later = rest ++ [sending] ∧ sent = earlier ++ other :: rest := by
  rcases List.eq_nil_or_concat later with empty | ⟨rest, final, whole⟩
  · subst empty
    obtain ⟨same, last⟩ := List.append_inj' is rfl
    exact .inl ⟨rfl, (List.singleton_inj.mp last).symm, same.symm⟩
  · subst whole
    rw [List.concat_eq_append] at is ⊢
    rw [← List.cons_append, ← List.append_assoc] at is
    obtain ⟨same, last⟩ := List.append_inj' is rfl
    exact .inr ⟨rest, by rw [List.singleton_inj.mp last], same⟩

theorem transmission_nil : Transmission streamId response [] := by
  have none : ∀ (earlier : List Sending) sending later, [] ≠ earlier ++ sending :: later :=
    fun _ _ _ is => List.append_ne_nil_of_right_ne_nil _ (List.cons_ne_nil _ _) is.symm
  exact {
    inOrder := List.nil_prefix
    bounded := fun _ _ _ _ _ member => absurd member List.not_mem_nil
    begins := fun earlier sending later is => absurd is (none earlier sending later)
    ends := fun earlier sending later is => absurd is (none earlier sending later)
    stops := fun earlier sending later is => absurd is (none earlier sending later) }

theorem Transmission.snoc (transmission : Transmission streamId response sent)
    (inOrder : payloads (sent ++ [sending]) <+: response.body)
    (bounded : ∀ id chunk endStream report succeeded,
      sending = .data id chunk endStream report succeeded → chunk ≠ [] ∧
        ∃ given, report = some given ∧ given.streamId = streamId ∧
          (chunk.length : Int) ≤ given.window ∧ (chunk.length : Int) ≤ given.maxFrame)
    (begins : (sent = [] ∧ ∃ succeeded, sending =
        .headers streamId (responseFields response) response.body.isEmpty succeeded) ∨
      sent ≠ [] ∧ ∃ chunk endStream report succeeded,
        sending = .data streamId chunk endStream report succeeded)
    (ends : sending.ends = true ↔ payloads (sent ++ [sending]) = response.body)
    (goesOn : ∀ call ∈ sent, call.stops = false) :
    Transmission streamId response (sent ++ [sending]) where
  inOrder := inOrder
  bounded := by
    intro id chunk endStream report succeeded member
    rcases List.mem_append.mp member with before | last
    · exact transmission.bounded id chunk endStream report succeeded before
    · exact bounded id chunk endStream report succeeded (List.mem_singleton.mp last).symm
  begins := by
    intro earlier other later is sends
    obtain ⟨-, rfl, rfl⟩ | ⟨rest, -, before⟩ := split_snoc is
    · exact begins
    · exact transmission.begins earlier other rest before sends
  ends := by
    intro earlier other later is sends
    obtain ⟨-, rfl, rfl⟩ | ⟨rest, -, before⟩ := split_snoc is
    · exact ends
    · exact transmission.ends earlier other rest before sends
  stops := by
    intro earlier other later is stops call member
    obtain ⟨rfl, -, -⟩ | ⟨rest, -, before⟩ := split_snoc is
    · exact absurd member List.not_mem_nil
    · have inside : other ∈ sent := before ▸ List.mem_append_right _ List.mem_cons_self
      exact Bool.noConfusion ((goesOn other inside).symm.trans stops)

theorem Transmission.reset (transmission : Transmission streamId response sent) (id : StreamId) :
    Transmission streamId response (sent ++ [.reset id]) where
  inOrder := by
    rw [payloads_snoc]
    exact (List.append_nil _).symm ▸ transmission.inOrder
  bounded := by
    intro other chunk endStream report succeeded member
    rcases List.mem_append.mp member with before | last
    · exact transmission.bounded other chunk endStream report succeeded before
    · exact nomatch List.mem_singleton.mp last
  begins := by
    intro earlier other later is sends
    obtain ⟨-, rfl, rfl⟩ | ⟨rest, -, before⟩ := split_snoc is
    · exact Bool.noConfusion sends
    · exact transmission.begins earlier other rest before sends
  ends := by
    intro earlier other later is sends
    obtain ⟨-, rfl, rfl⟩ | ⟨rest, -, before⟩ := split_snoc is
    · exact Bool.noConfusion sends
    · exact transmission.ends earlier other rest before sends
  stops := by
    intro earlier other later is stops call member
    obtain ⟨rfl, -, -⟩ | ⟨rest, rfl, before⟩ := split_snoc is
    · exact absurd member List.not_mem_nil
    · rcases List.mem_append.mp member with inside | last
      · exact transmission.stops earlier other rest before stops call inside
      · rw [List.mem_singleton.mp last]
        rfl

/-- The calls up to a stage. While the body is being sent all calls went well, and the bytes
they passed are those before the offset. -/
def Reached (response : Response) (sent : List Sending) : Progress → Prop
  | .waiting => sent = []
  | .sent offset => sent ≠ [] ∧ offset ≤ response.body.length ∧
      payloads sent = response.body.take offset ∧
      (offset < response.body.length → ∀ call ∈ sent, call.stops = false)
  | .ended => True

theorem chunkAt_length {body : Bytes} {offset size : Nat} {report : Report}
    (fits : Fits body offset size report) : (chunkAt body offset size).length = size := by
  have within := fits.within
  rw [chunkAt, List.length_take, List.length_drop]
  omega

theorem take_chunkAt (body : Bytes) (offset size : Nat) :
    body.take offset ++ chunkAt body offset size = body.take (offset + size) :=
  List.take_add.symm

theorem take_all_iff {body : Bytes} {offset : Nat} (within : offset ≤ body.length) :
    offset = body.length ↔ body.take offset = body := by
  rw [List.take_eq_self_iff]
  omega

theorem Transmission.chunk (transmission : Transmission streamId response sent) {offset size : Nat}
    {report : Report} (reached : Reached response sent (.sent offset))
    (own : report.streamId = streamId) (fits : Fits response.body offset size report)
    (succeeded : Bool) :
    Transmission streamId response (sent ++ [.data streamId (chunkAt response.body offset size)
      (decide (offset + size = response.body.length)) (some report) succeeded]) := by
  obtain ⟨begun, _, passed, goesOn⟩ := reached
  have positive := fits.positive
  have within := fits.within
  have length := chunkAt_length fits
  have passes : payloads (sent ++ [.data streamId (chunkAt response.body offset size)
      (decide (offset + size = response.body.length)) (some report) succeeded]) =
      response.body.take (offset + size) := by
    rw [payloads_snoc, passed]
    exact take_chunkAt response.body offset size
  refine transmission.snoc ?_ ?_ (.inr ⟨begun, _, _, _, _, rfl⟩) ?_ (goesOn (by omega))
  · rw [passes]
    exact List.take_prefix _ _
  · intro id chunk endStream given answered is
    cases is
    refine ⟨List.ne_nil_of_length_pos (length.symm ▸ positive), report, rfl, own, ?_, ?_⟩
    · exact length.symm ▸ fits.window
    · exact length.symm ▸ fits.frame
  · rw [passes, ← take_all_iff within]
    exact decide_eq_true_iff

theorem transmission_headers (streamId : StreamId) (response : Response) (succeeded : Bool) :
    Transmission streamId response
      [.headers streamId (responseFields response) response.body.isEmpty succeeded] := by
  have passes : payloads ([] ++ [.headers streamId (responseFields response)
      response.body.isEmpty succeeded]) = [] := rfl
  refine transmission_nil.snoc ?_ ?_ (.inl ⟨rfl, succeeded, rfl⟩) ?_ ?_
  · rw [passes]
    exact List.nil_prefix
  · intro id chunk endStream given answered is
    exact nomatch is
  · rw [passes]
    show response.body.isEmpty = true ↔ _
    rw [List.isEmpty_iff]
    exact eq_comm
  · exact fun call member => absurd member List.not_mem_nil

/-- The calls that the moves make are a transmission of the response. -/
theorem transmission_run {progress : Progress} {moves : List (Option Sending)}
    (run : Run (Advances streamId response) .waiting moves progress) :
    Transmission streamId response moves.reduceOption ∧
      Reached response moves.reduceOption progress := by
  induction run with
  | nil => exact ⟨transmission_nil, rfl⟩
  | snoc move run advances hypothesis =>
      obtain ⟨transmission, reached⟩ := hypothesis
      rw [List.reduceOption_append]
      cases advances with
      | headers =>
          have none : List.reduceOption _ = [] := reached
          rw [none]
          refine ⟨transmission_headers streamId response true, ?_, Nat.zero_le _, rfl, ?_⟩
          · exact List.cons_ne_nil _ _
          · intro owed call member
            cases List.mem_singleton.mp member
            show (false || !true || response.body.isEmpty) = false
            cases empty : response.body with
            | nil =>
                rw [empty] at owed
                exact absurd owed (Nat.lt_irrefl _)
            | cons byte rest => rfl
      | headersRefused =>
          have none : List.reduceOption _ = [] := reached
          rw [none]
          exact ⟨transmission_headers streamId response false, trivial⟩
      | chunk offset size report own fits =>
          have within := fits.within
          refine ⟨transmission.chunk reached own fits true, ?_, within, ?_, ?_⟩
          · exact List.append_ne_nil_of_right_ne_nil _ (List.cons_ne_nil _ _)
          · obtain ⟨_, _, passed, _⟩ := reached
            rw [List.reduceOption_singleton, Option.toList, payloads_snoc, passed]
            exact take_chunkAt response.body offset size
          · intro owed call member
            rcases List.mem_append.mp member with before | last
            · exact reached.2.2.2 (by omega) call before
            · cases List.mem_singleton.mp last
              have unfinished : decide (offset + size = response.body.length) = false :=
                decide_eq_false (Nat.ne_of_lt owed)
              show (false || !true || decide (offset + size = response.body.length)) = false
              rw [unfinished]
              rfl
      | chunkRefused offset size report own fits =>
          exact ⟨transmission.chunk reached own fits false, trivial⟩
      | left => exact ⟨(List.append_nil _).symm ▸ transmission, trivial⟩
      | reset => exact ⟨transmission.reset streamId, trivial⟩

end Transmissions

section Beside

variable {σ : Type}

def keptCommands (streamId : StreamId) (commands : List Command) : List Command :=
  commands.filter fun command => !command.isResponseOn streamId

/-- Nothing has changed for a stream. -/
structure Same (streamId : StreamId) (before after : H2Protocol (Recorded σ)) : Prop where
  commands : commandsOn streamId after.commands = commandsOn streamId before.commands
  outbound : after.outbound.lookup streamId = before.outbound.lookup streamId
  sent : sentOn streamId after = sentOn streamId before

structure Dropped (streamId : StreamId) (before after : H2Protocol (Recorded σ)) : Prop where
  commands : (commandsOn streamId after.commands).Sublist
    (keptCommands streamId (commandsOn streamId before.commands))
  outbound : after.outbound.lookup streamId = none
  sent : ∃ number,
    sentOn streamId after = sentOn streamId before ++ List.replicate number (.reset streamId)

/-- What an operation may do about a stream that it does not answer. -/
def Beside (streamId : StreamId) (before after : H2Protocol (Recorded σ)) : Prop :=
  Same streamId before after ∨ Dropped streamId before after

variable {streamId : StreamId} {before middle after : H2Protocol (Recorded σ)}

theorem Same.refl (protocol : H2Protocol (Recorded σ)) : Same streamId protocol protocol :=
  ⟨rfl, rfl, rfl⟩

theorem Same.trans (first : Same streamId before middle) (second : Same streamId middle after) :
    Same streamId before after where
  commands := second.commands.trans first.commands
  outbound := second.outbound.trans first.outbound
  sent := second.sent.trans first.sent

theorem keptCommands_idem (commands : List Command) :
    keptCommands streamId (keptCommands streamId commands) = keptCommands streamId commands := by
  unfold keptCommands
  rw [List.filter_filter]
  simp only [Bool.and_self]

theorem Beside.refl (protocol : H2Protocol (Recorded σ)) : Beside streamId protocol protocol :=
  .inl (Same.refl protocol)

theorem Beside.trans (first : Beside streamId before middle)
    (second : Beside streamId middle after) : Beside streamId before after := by
  rcases first with first | first
  · rcases second with second | second
    · exact .inl (first.trans second)
    · obtain ⟨number, resets⟩ := second.sent
      exact .inr ⟨first.commands ▸ second.commands, second.outbound, number,
        first.sent ▸ resets⟩
  · obtain ⟨number, resets⟩ := first.sent
    rcases second with second | second
    · exact .inr ⟨second.commands ▸ first.commands, second.outbound.trans first.outbound,
        number, second.sent.trans resets⟩
    · obtain ⟨more, moreResets⟩ := second.sent
      refine .inr ⟨?_, second.outbound, number + more, ?_⟩
      · have kept : (keptCommands streamId (commandsOn streamId middle.commands)).Sublist
            (keptCommands streamId (keptCommands streamId (commandsOn streamId before.commands))) :=
          first.commands.filter _
        rw [keptCommands_idem] at kept
        exact second.commands.trans kept
      · rw [moreResets, resets, List.append_assoc, List.replicate_add]

theorem commandsOn_kept_other {dropped : StreamId} (commands : List Command)
    (other : streamId ≠ dropped) :
    commandsOn streamId (keptCommands dropped commands) = commandsOn streamId commands := by
  unfold commandsOn keptCommands
  rw [List.filter_filter]
  refine List.filter_congr fun command _ => ?_
  cases command with
  | reset id => exact Bool.and_true _
  | response id response =>
      by_cases here : id = streamId
      · subst here
        show ((id == id) && !(id == dropped)) = (id == id)
        rw [beq_false_of_ne other]
        exact Bool.and_true _
      · show ((id == streamId) && !(id == dropped)) = (id == streamId)
        rw [beq_false_of_ne here]
        rfl

theorem commandsOn_kept_same (commands : List Command) :
    commandsOn streamId (keptCommands streamId commands) =
      keptCommands streamId (commandsOn streamId commands) := by
  unfold commandsOn keptCommands
  rw [List.filter_filter, List.filter_filter]
  exact List.filter_congr fun command _ => Bool.and_comm _ _

theorem dropStream_same (protocol : H2Protocol (Recorded σ)) {dropped : StreamId}
    (other : streamId ≠ dropped) : Same streamId protocol (dropStream protocol dropped) := by
  rw [dropStream_eq]
  exact ⟨commandsOn_kept_other protocol.commands other, AList.lookup_erase_ne other, rfl⟩

theorem dropStream_dropped (protocol : H2Protocol (Recorded σ)) (streamId : StreamId) :
    Dropped streamId protocol (dropStream protocol streamId) := by
  rw [dropStream_eq]
  have kept : commandsOn streamId (keptCommands streamId protocol.commands) =
      keptCommands streamId (commandsOn streamId protocol.commands) :=
    commandsOn_kept_same protocol.commands
  exact ⟨kept ▸ List.Sublist.refl _, AList.lookup_erase _ _, 0, (List.append_nil _).symm⟩

theorem dropStream_beside (protocol : H2Protocol (Recorded σ)) (dropped : StreamId) :
    Beside streamId protocol (dropStream protocol dropped) := by
  by_cases here : streamId = dropped
  · exact .inr (here ▸ dropStream_dropped protocol streamId)
  · exact .inl (dropStream_same protocol here)

theorem logged_own (log : List Sending) {sending : Sending} (own : sending.streamId = streamId) :
    ((log ++ [sending]).filter fun other => other.streamId == streamId) =
      (log.filter fun other => other.streamId == streamId) ++ [sending] := by
  rw [List.filter_append]
  simp [own]

theorem logged_other (log : List Sending) {sending : Sending}
    (other : sending.streamId ≠ streamId) :
    ((log ++ [sending]).filter fun other => other.streamId == streamId) =
      log.filter fun other => other.streamId == streamId := by
  rw [List.filter_append]
  simp [other]

variable (engine : Engine σ) (config : HTTP2Config)

theorem resetStream_same (protocol : H2Protocol (Recorded σ)) {reset : StreamId}
    (errorCode : ErrorCode) (other : streamId ≠ reset) :
    Same streamId protocol (resetStream (recording engine) protocol reset errorCode) := by
  have logged := logged_other protocol.connection.sent 
    (show (Sending.reset reset).streamId ≠ streamId from other.symm)
  have asked : Same streamId protocol { protocol with
      connection := ((recording engine).resetStream protocol.connection reset errorCode).2 } :=
    ⟨rfl, rfl, logged⟩
  exact asked.trans (dropStream_same _ other)

theorem resetStream_dropped (protocol : H2Protocol (Recorded σ)) (streamId : StreamId)
    (errorCode : ErrorCode) :
    Dropped streamId protocol (resetStream (recording engine) protocol streamId errorCode) ∧
      sentOn streamId (resetStream (recording engine) protocol streamId errorCode) =
        sentOn streamId protocol ++ [.reset streamId] := by
  have logged := logged_own protocol.connection.sent
    (show (Sending.reset streamId).streamId = streamId from rfl)
  have dropped := dropStream_dropped { protocol with
    connection := ((recording engine).resetStream protocol.connection streamId errorCode).2 }
    streamId
  have sent : sentOn streamId (resetStream (recording engine) protocol streamId errorCode) =
      sentOn streamId protocol ++ [.reset streamId] := by
    unfold resetStream
    rw [dropStream_eq]
    exact logged
  exact ⟨⟨dropped.commands, dropped.outbound, 1, sent⟩, sent⟩

theorem resetStream_beside (protocol : H2Protocol (Recorded σ)) (reset : StreamId)
    (errorCode : ErrorCode) :
    Beside streamId protocol (resetStream (recording engine) protocol reset errorCode) := by
  by_cases here : streamId = reset
  · exact .inr (here ▸ (resetStream_dropped engine protocol streamId errorCode).1)
  · exact .inl (resetStream_same engine protocol errorCode here)

theorem releaseInbound_same (protocol : H2Protocol (Recorded σ)) (released : StreamId) :
    Same streamId protocol (releaseInbound protocol released) := by
  rw [releaseInbound_eq]
  exact ⟨rfl, rfl, rfl⟩

theorem requestReceived_beside (protocol : H2Protocol (Recorded σ)) (requested : StreamId)
    (rawHeaders : RawHeaders) :
    Beside streamId protocol
      (requestReceived (recording engine) config protocol requested rawHeaders) := by
  unfold requestReceived
  split
  · exact resetStream_beside engine protocol requested .refusedStream
  · split
    · exact resetStream_beside engine protocol requested .protocolError
    · exact .inl ⟨rfl, rfl, rfl⟩

theorem storeData_beside (protocol : H2Protocol (Recorded σ)) (stored : StreamId) (data : Bytes) :
    Beside streamId protocol (storeData (recording engine) config protocol stored data) := by
  unfold storeData
  split
  · exact Beside.refl protocol
  · dsimp only
    split
    · exact resetStream_beside engine protocol stored .enhanceYourCalm
    · split
      · exact resetStream_beside engine protocol stored .streamClosed
      · exact .inl ⟨rfl, rfl, rfl⟩

theorem moved_same (protocol : H2Protocol (Recorded σ)) {connection : Recorded σ}
    (sent : connection.sent = protocol.connection.sent) :
    Same streamId protocol { protocol with connection } :=
  ⟨rfl, rfl, congrArg (List.filter _) sent⟩

theorem dataReceived_beside (protocol : H2Protocol (Recorded σ)) (received : StreamId)
    (data : Bytes) (flowLength : Nat) :
    Beside streamId protocol
      (dataReceived (recording engine) config protocol received data flowLength).2 := by
  unfold dataReceived
  split
  · rename_i error connection answer
    exact .inl (moved_same protocol (congrArg (·.2.sent) answer).symm)
  · rename_i connection answer
    have moved : Beside streamId protocol { protocol with connection } :=
      .inl (moved_same protocol (congrArg (·.2.sent) answer).symm)
    exact moved.trans (storeData_beside engine config _ received data)

theorem streamEnded_beside (protocol : H2Protocol (Recorded σ)) (ended : StreamId) :
    Beside streamId protocol (streamEnded (recording engine) protocol ended).2 := by
  unfold streamEnded
  split
  · exact Beside.refl protocol
  · split
    · exact resetStream_beside engine protocol ended .protocolError
    · dsimp only
      split
      · exact .inl ⟨rfl, rfl, rfl⟩
      · exact .inl ⟨rfl, rfl, rfl⟩

theorem handleEvent_beside (protocol : H2Protocol (Recorded σ)) (event : Event) :
    Beside streamId protocol (handleEvent (recording engine) config protocol event).2 := by
  cases event with
  | requestReceived requested headers =>
      exact requestReceived_beside engine config protocol requested headers
  | dataReceived received data flowLength =>
      exact dataReceived_beside engine config protocol received data flowLength
  | streamEnded ended =>
      have ends : Beside streamId protocol (streamEnded (recording engine) protocol ended).2 :=
        streamEnded_beside engine protocol ended
      unfold handleEvent
      dsimp only
      split
      · rename_i raised next result
        rw [result] at ends
        exact ends
      · rename_i next result
        rw [result] at ends
        exact ends
      · rename_i completed next result
        rw [result] at ends
        exact ends.trans (.inl ⟨rfl, rfl, rfl⟩)
  | streamReset reset =>
      have noted : Beside streamId protocol { protocol with
          cancelledStreams := protocol.cancelledStreams ++ [reset] } := .inl ⟨rfl, rfl, rfl⟩
      exact noted.trans (dropStream_beside _ reset)
  | trailersReceived received => exact resetStream_beside engine protocol received .protocolError
  | connectionTerminated => exact .inl ⟨rfl, rfl, rfl⟩
  | windowUpdated => exact Beside.refl protocol
  | remoteSettingsChanged => exact Beside.refl protocol
  | ignored => exact Beside.refl protocol

theorem handleEvents_beside (events : List Event) (protocol : H2Protocol (Recorded σ)) :
    Beside streamId protocol (handleEvents (recording engine) config protocol events).2 := by
  induction events generalizing protocol with
  | nil => exact Beside.refl protocol
  | cons event events hypothesis =>
      have handled : Beside streamId protocol
          (handleEvent (recording engine) config protocol event).2 :=
        handleEvent_beside engine config protocol event
      unfold handleEvents
      split
      · rename_i raised next result
        rw [result] at handled
        exact handled
      · rename_i next result
        rw [result] at handled
        exact handled.trans (hypothesis next)

theorem captureControlOutput_same (protocol : H2Protocol (Recorded σ)) :
    Same streamId protocol (captureControlOutput (recording engine) config protocol).2 := by
  unfold captureControlOutput
  dsimp only
  split
  · exact moved_same protocol rfl
  · exact (moved_same protocol rfl).trans ⟨rfl, rfl, rfl⟩

theorem receiveFrame_beside (protocol : H2Protocol (Recorded σ)) (wireChunk : Bytes) :
    Beside streamId protocol (receiveFrame (recording engine) config protocol wireChunk).2 := by
  unfold receiveFrame
  split
  · rename_i error connection answer
    exact .inl (moved_same protocol (congrArg (·.2.sent) answer).symm)
  · rename_i events connection answer
    have moved : Beside streamId protocol { protocol with connection } :=
      .inl (moved_same protocol (congrArg (·.2.sent) answer).symm)
    have handled := moved.trans (handleEvents_beside engine config events _)
    split
    · rename_i raised next result
      rw [result] at handled
      exact handled
    · rename_i next result
      rw [result] at handled
      exact handled.trans (.inl (captureControlOutput_same engine config next))

theorem receiveFrames_beside (wireChunks : List Bytes) (protocol : H2Protocol (Recorded σ)) :
    Beside streamId protocol (receiveFrames (recording engine) config protocol wireChunks).2 := by
  induction wireChunks generalizing protocol with
  | nil => exact Beside.refl protocol
  | cons wireChunk wireChunks hypothesis =>
      have received : Beside streamId protocol
          (receiveFrame (recording engine) config protocol wireChunk).2 :=
        receiveFrame_beside engine config protocol wireChunk
      unfold receiveFrames
      split
      · rename_i raised next result
        rw [result] at received
        exact received
      · rename_i next result
        rw [result] at received
        exact received.trans (hypothesis next)

theorem receiveData_beside (protocol : H2Protocol (Recorded σ)) (data : Bytes) :
    Beside streamId protocol (receiveData (recording engine) config protocol data).2 := by
  unfold receiveData
  split
  · exact .inl ⟨rfl, rfl, rfl⟩
  · rename_i fed _
    have taken : Beside streamId protocol { protocol with
        frames := (fed.take config.readerFrameBatchSize).2 } := .inl ⟨rfl, rfl, rfl⟩
    have received := taken.trans (receiveFrames_beside engine config
      (fed.take config.readerFrameBatchSize).1 _)
    dsimp only
    split
    · rename_i raised next result
      rw [result] at received
      exact received
    · rename_i next result
      rw [result] at received
      refine received.trans ?_
      dsimp only
      unfold releaseReady
      split
      · exact Beside.refl next
      · exact .inl ⟨rfl, rfl, rfl⟩

theorem queueResponse_same (protocol : H2Protocol (Recorded σ)) {queued : StreamId}
    (answer : Response) (other : streamId ≠ queued) :
    Same streamId protocol
      (queueResponse (recording engine) config protocol queued answer).2 := by
  have appended : ∀ command : Command, command.streamId = queued →
      commandsOn streamId (protocol.commands ++ [command]) =
        commandsOn streamId protocol.commands := by
    intro command about
    unfold commandsOn
    rw [List.filter_append]
    simp [about, other.symm]
  unfold queueResponse
  rw [releaseInbound_eq]
  split
  · exact Same.refl protocol
  · dsimp only
    split
    · split
      · exact ⟨rfl, rfl, rfl⟩
      · exact ⟨appended (.reset queued) rfl, rfl, rfl⟩
    · split
      · have released : Same streamId protocol (releaseInbound protocol queued) :=
          releaseInbound_same protocol queued
        rw [releaseInbound_eq] at released
        exact released.trans (resetStream_same engine _ .enhanceYourCalm other)
      · exact ⟨appended (.response queued answer) rfl, rfl, rfl⟩

theorem initiate_same (protocol : H2Protocol (Recorded σ)) :
    Same streamId protocol (initiate (recording engine) config protocol).2 := by
  unfold initiate
  dsimp only
  split
  · exact moved_same protocol rfl
  · split
    · exact moved_same protocol rfl
    · exact moved_same protocol rfl

theorem close_dropped (protocol : H2Protocol (Recorded σ)) (errorCode : Nat) :
    Dropped streamId protocol (close (recording engine) config protocol errorCode).2 := by
  have cleared : ∀ (left : H2Protocol (Recorded σ)) (connection : Recorded σ),
      connection.sent = protocol.connection.sent →
      Dropped streamId protocol { clearTables left with connection } :=
    fun left connection sent => ⟨List.nil_sublist _, rfl, 0,
      (congrArg (List.filter _) sent).trans (List.append_nil _).symm⟩
  unfold close
  dsimp only
  generalize left : (if protocol.localClosed = true then protocol else { protocol with
    localClosed := true
    connection := ((recording engine).closeConnection protocol.connection errorCode
      protocol.lastProcessedStreamId).2 }) = closed
  have sent : closed.connection.sent = protocol.connection.sent := by
    rw [← left]
    split
    · rfl
    · rfl
  split
  · exact cleared closed _ sent
  · split
    · exact cleared closed _ sent
    · exact cleared closed _ sent

end Beside

section Operations

variable {σ : Type} (engine : Engine σ) (config : HTTP2Config) {streamId : StreamId}
  {response : Response}

/-- What every operation but a flush and `queue_response` for the stream may do about it. -/
theorem perform_beside (protocol : H2Protocol (Recorded σ)) (operation : Operation)
    (flushes : operation ≠ .flush) (queues : operation.queuedStream ≠ some streamId) :
    Beside streamId protocol (perform (recording engine) config protocol operation).2 := by
  cases operation with
  | initiate => exact .inl (initiate_same engine config protocol)
  | receiveData data => exact receiveData_beside engine config protocol data
  | takeCancelledStreams => exact .inl ⟨rfl, rfl, rfl⟩
  | queueResponse queued answer =>
      exact .inl (queueResponse_same engine config protocol answer
        fun same => queues (congrArg some same.symm))
  | flush => exact absurd rfl flushes
  | dropStream dropped => exact dropStream_beside protocol dropped
  | resetStream reset errorCode => exact resetStream_beside engine protocol reset errorCode
  | close errorCode => exact .inr (close_dropped engine config protocol errorCode)

/-- The response is at a stage, with these commands about its stream. -/
def Stands (streamId : StreamId) (response : Response) (progress : Progress)
    (commands : List Command) (protocol : H2Protocol (Recorded σ)) : Prop :=
  Standing streamId response progress (commandsOn streamId commands)
    (protocol.outbound.lookup streamId)

def Carried (streamId : StreamId) (response : Response) (progress last : Progress)
    (sent : List Sending) : Prop :=
  ∃ moves, Run (Advances streamId response) progress moves last ∧ moves.reduceOption = sent

variable {progress middle last : Progress} {sent more : List Sending}

theorem Carried.refl (progress : Progress) : Carried streamId response progress progress [] :=
  ⟨[], .nil, rfl⟩

theorem Carried.trans (first : Carried streamId response progress middle sent)
    (second : Carried streamId response middle last more) :
    Carried streamId response progress last (sent ++ more) := by
  obtain ⟨moves, run, rfl⟩ := first
  obtain ⟨others, rest, rfl⟩ := second
  exact ⟨moves ++ others, run.append rest, List.reduceOption_append _ _⟩

theorem Carried.call {sending : Sending}
    (advances : Advances streamId response progress (some sending) last) :
    Carried streamId response progress last [sending] :=
  ⟨[some sending], Run.single advances, rfl⟩

theorem carried_left (progress : Progress) : Carried streamId response progress .ended [] :=
  ⟨[none], Run.single (.left progress), rfl⟩

theorem carried_dropped (progress : Progress) (number : Nat) :
    Carried streamId response progress .ended (List.replicate number (.reset streamId)) := by
  induction number with
  | zero => exact carried_left progress
  | succ number hypothesis =>
      rw [List.replicate_succ']
      exact hypothesis.trans (.call (.reset .ended))

theorem kept_standing {commands : List Command} {outbound : Option OutboundStream}
    (standing : Standing streamId response progress commands outbound) :
    keptCommands streamId commands = [] := by
  cases progress with
  | waiting =>
      rw [standing.1]
      exact List.filter_cons_of_neg (by simp [Command.isResponseOn])
  | sent offset => rw [standing.1]; rfl
  | ended => rw [standing.1]; rfl

/-- An operation that does not answer the stream leaves the response where it is, or ends it. -/
theorem Stands.beside {before after : H2Protocol (Recorded σ)}
    (stands : Stands streamId response progress before.commands before)
    (beside : Beside streamId before after) :
    ∃ last sent, Carried streamId response progress last sent ∧
      Stands streamId response last after.commands after ∧
      sentOn streamId after = sentOn streamId before ++ sent ∧
      ∀ call ∈ sent, call.isReset = true := by
  rcases beside with same | dropped
  · refine ⟨progress, [], .refl progress, ?_, ?_, fun call member => absurd member List.not_mem_nil⟩
    · unfold Stands
      rw [same.commands, same.outbound]
      exact stands
    · rw [same.sent, List.append_nil]
  · obtain ⟨number, resets⟩ := dropped.sent
    refine ⟨.ended, _, carried_dropped progress number, ⟨?_, dropped.outbound⟩, resets, ?_⟩
    · have kept := kept_standing stands
      exact List.sublist_nil.mp (kept ▸ dropped.commands)
    · intro call member
      rw [List.eq_of_mem_replicate member]
      rfl

end Operations

section Flushing

variable {σ : Type} (engine : Engine σ) (config : HTTP2Config) {streamId : StreamId}
  {response : Response} (protocol : H2Protocol (Recorded σ))

theorem sendHeaders_logged {engine : Engine σ} {recorded connection : Recorded σ}
    {id : StreamId} {fields : List (Text × Text)} {endStream : Bool}
    {answer : Except EngineError Unit}
    (is : (recording engine).sendHeaders recorded id fields endStream = (answer, connection)) :
    connection.sent = recorded.sent ++ [.headers id fields endStream answer.isOk] := by
  have answered : (engine.sendHeaders recorded.connection id fields endStream).1 = answer :=
    congrArg Prod.fst is
  rw [← answered]
  exact (congrArg (·.2.sent) is).symm

theorem sendData_logged {engine : Engine σ} {recorded connection : Recorded σ} {id : StreamId}
    {chunk : Bytes} {endStream : Bool} {answer : Except EngineError Unit}
    (is : (recording engine).sendData recorded id chunk endStream = (answer, connection)) :
    connection.sent = recorded.sent ++
      [.data id chunk endStream recorded.reports.getLast? answer.isOk] := by
  have answered : (engine.sendData recorded.connection id chunk endStream).1 = answer :=
    congrArg Prod.fst is
  rw [← answered]
  exact (congrArg (·.2.sent) is).symm

/-- A window query sends nothing, and its answer is the last report. -/
theorem window_logged {engine : Engine σ} {recorded connection : Recorded σ} {id : StreamId}
    {answer : Except EngineError Int}
    (is : (recording engine).localFlowControlWindow recorded id = (answer, connection)) :
    connection.sent = recorded.sent ∧ ∀ window, answer = .ok window →
      connection.reports.getLast? =
        some ⟨id, window, (recording engine).maxOutboundFrameSize connection⟩ := by
  unfold recording at is
  dsimp only at is
  split at is
  · cases is
    exact ⟨rfl, nofun⟩
  · cases is
    refine ⟨rfl, fun window same => ?_⟩
    cases same
    exact List.getLast?_concat

/-- `drop_stream` and what follows it leave the stream out of the active ones. -/
theorem dropStream_inactive (streamId : StreamId) :
    streamId ∉ (dropStream protocol streamId).activeStreams := by
  rw [dropStream_eq]
  exact Finset.notMem_erase streamId _

theorem dropStream_active (dropped : StreamId) :
    (dropStream protocol dropped).activeStreams ⊆ protocol.activeStreams := by
  rw [dropStream_eq]
  exact Finset.erase_subset _ _

theorem startResponse_same {started : StreamId} (answer : Response)
    (other : streamId ≠ started) :
    Same streamId protocol
      (startResponse (recording engine) config protocol started answer) := by
  unfold startResponse
  dsimp only
  split
  · have refunded : Same streamId protocol { protocol with
        pendingOutputBytes := protocol.pendingOutputBytes - answer.body.length } :=
      ⟨rfl, rfl, rfl⟩
    exact refunded.trans (resetStream_same engine _ .internalError other)
  · split
    · rename_i error connection is
      have sent : (connection.sent.filter fun call => call.streamId == streamId) =
          sentOn streamId protocol := by
        rw [sendHeaders_logged is]
        exact logged_other _ other.symm
      have refunded : Same streamId protocol { protocol with
          pendingOutputBytes := protocol.pendingOutputBytes - answer.body.length
          connection } := ⟨rfl, rfl, sent⟩
      exact refunded.trans (dropStream_same _ other)
    · rename_i connection is
      have sent : (connection.sent.filter fun call => call.streamId == streamId) =
          sentOn streamId protocol := by
        rw [sendHeaders_logged is]
        exact logged_other _ other.symm
      split
      · exact ⟨rfl, rfl, sent⟩
      · exact ⟨rfl, OrderedDict.lookup_set_ne _ _ other, sent⟩

theorem startResponse_active (started : StreamId) (answer : Response) :
    (startResponse (recording engine) config protocol started answer).activeStreams ⊆
      protocol.activeStreams := by
  unfold startResponse
  dsimp only
  split
  · exact dropStream_active _ started
  · split
    · exact dropStream_active _ started
    · split
      · exact Finset.erase_subset _ _
      · exact Finset.Subset.refl _

theorem captureControlOutput_active :
    (captureControlOutput (recording engine) config protocol).2.activeStreams =
      protocol.activeStreams := by
  unfold captureControlOutput
  dsimp only
  split
  · rfl
  · rfl

theorem startResponse_carries (absent : protocol.outbound.lookup streamId = none) :
    ∃ last sent, Carried streamId response .waiting last sent ∧
      Stands streamId response last []
        (startResponse (recording engine) config protocol streamId response) ∧
      sentOn streamId (startResponse (recording engine) config protocol streamId response) =
        sentOn streamId protocol ++ sent ∧
      ((∃ call ∈ sent, call.ends = true) → last = .ended ∧ streamId ∉
        (startResponse (recording engine) config protocol streamId response).activeStreams) := by
  unfold startResponse
  dsimp only
  split
  · have dropped := resetStream_dropped engine { protocol with
      pendingOutputBytes := protocol.pendingOutputBytes - response.body.length } streamId
      .internalError
    refine ⟨.ended, [.reset streamId], .call (.reset .waiting), ⟨rfl, dropped.1.outbound⟩,
      dropped.2, ?_⟩
    rintro ⟨call, member, ends⟩
    rw [List.mem_singleton.mp member] at ends
    exact Bool.noConfusion ends
  · split
    · rename_i error connection is
      have logged := sendHeaders_logged is
      refine ⟨.ended, _, .call .headersRefused, ⟨rfl, ?_⟩, ?_, fun _ => ⟨rfl, ?_⟩⟩
      · exact (dropStream_dropped _ streamId).outbound
      · rw [dropStream_eq]
        show (connection.sent.filter _) = _
        rw [logged]
        exact logged_own _ rfl
      · exact dropStream_inactive _ streamId
    · rename_i connection is
      have logged := sendHeaders_logged is
      have sent : (connection.sent.filter fun call => call.streamId == streamId) =
          sentOn streamId protocol ++
            [.headers streamId (responseFields response) response.body.isEmpty true] := by
        rw [logged]
        exact logged_own _ rfl
      split
      · refine ⟨.ended, _, (Carried.call .headers).trans (carried_left _), ⟨rfl, absent⟩, ?_,
          fun _ => ⟨rfl, Finset.notMem_erase _ _⟩⟩
        rw [List.append_nil]
        exact sent
      · rename_i filled
        refine ⟨.sent 0, _, .call .headers, ⟨rfl, OrderedDict.lookup_set _ _ _⟩, sent, ?_⟩
        rintro ⟨call, member, ends⟩
        rw [List.mem_singleton.mp member] at ends
        exact absurd (List.isEmpty_iff.mp ends) filled

theorem runCommand_same (command : Command) (other : streamId ≠ command.streamId) :
    Same streamId protocol (runCommand (recording engine) config protocol command) := by
  cases command with
  | reset reset => exact resetStream_same engine protocol .enhanceYourCalm other
  | response started answer => exact startResponse_same engine config protocol answer other

theorem runCommand_active (command : Command) :
    (runCommand (recording engine) config protocol command).activeStreams ⊆
      protocol.activeStreams := by
  cases command with
  | reset reset => exact dropStream_active _ reset
  | response started answer => exact startResponse_active engine config protocol started answer

/-- What a part of `flush` does about the stream: the response moves on, and where it has been
sent to its end, and nothing raised, nothing of it is left. -/
structure Turn (streamId : StreamId) (response : Response) (progress last : Progress)
    (sent : List Sending) (before after : H2Protocol (Recorded σ)) (returns : Prop) : Prop where
  carried : Carried streamId response progress last sent
  logged : sentOn streamId after = sentOn streamId before ++ sent
  ended : returns → (∃ call ∈ sent, call.ends = true) →
    last = .ended ∧ streamId ∉ after.activeStreams

variable {progress middle last : Progress} {sent more : List Sending}
  {before next after : H2Protocol (Recorded σ)} {returns : Prop}

theorem Carried.stays_over (carried : Carried streamId response .ended last sent) :
    last = .ended := by
  obtain ⟨moves, run, _⟩ := carried
  exact (over_run run).1

theorem Turn.same (same : Same streamId before after) :
    Turn streamId response progress progress [] before after returns where
  carried := .refl progress
  logged := by rw [same.sent, List.append_nil]
  ended := fun _ ⟨call, member, _⟩ => absurd member List.not_mem_nil

theorem Turn.trans {first : Prop} (turn : Turn streamId response progress middle sent before next
      first) (rest : Turn streamId response middle last more next after returns)
    (returned : returns → first) (active : after.activeStreams ⊆ next.activeStreams) :
    Turn streamId response progress last (sent ++ more) before after returns where
  carried := turn.carried.trans rest.carried
  logged := by rw [rest.logged, turn.logged, List.append_assoc]
  ended := by
    rintro returns ⟨call, member, ends⟩
    rcases List.mem_append.mp member with early | late
    · obtain ⟨rfl, inactive⟩ := turn.ended (returned returns) ⟨call, early, ends⟩
      exact ⟨rest.carried.stays_over, fun again => inactive (active again)⟩
    · exact rest.ended returns ⟨call, late, ends⟩

theorem stands_lost {commands : List Command} {protocol : H2Protocol (Recorded σ)}
    (stands : Stands streamId response progress commands protocol) :
    ∃ last, Carried streamId response progress last [] ∧
      Stands streamId response last [] protocol := by
  cases progress with
  | waiting => exact ⟨.ended, carried_left _, rfl, stands.2⟩
  | sent offset => exact ⟨.sent offset, .refl _, rfl, stands.2⟩
  | ended => exact ⟨.ended, .refl _, rfl, stands.2⟩

theorem stands_own {command : Command} {commands : List Command}
    {protocol : H2Protocol (Recorded σ)} (own : command.streamId = streamId)
    (stands : Stands streamId response progress (command :: commands) protocol) :
    progress = .waiting ∧ command = .response streamId response ∧
      commandsOn streamId commands = [] ∧ protocol.outbound.lookup streamId = none := by
  have first : commandsOn streamId (command :: commands) =
      command :: commandsOn streamId commands := List.filter_cons_of_pos (beq_iff_eq.mpr own)
  unfold Stands at stands
  rw [first] at stands
  cases progress with
  | waiting =>
      obtain ⟨is, absent⟩ := stands
      exact ⟨rfl, (List.cons.inj is).1, (List.cons.inj is).2, absent⟩
  | sent offset => exact absurd stands.1 (List.cons_ne_nil _ _)
  | ended => exact absurd stands.1 (List.cons_ne_nil _ _)

theorem stands_other {command : Command} {commands : List Command}
    {protocol : H2Protocol (Recorded σ)} (other : command.streamId ≠ streamId)
    (stands : Stands streamId response progress (command :: commands) protocol) :
    Stands streamId response progress commands protocol := by
  unfold Stands commandsOn at stands
  rw [List.filter_cons_of_neg (by simpa using other)] at stands
  exact stands

theorem Stands.same {commands : List Command}
    (stands : Stands streamId response progress commands before)
    (same : Same streamId before after) :
    Stands streamId response progress commands after := by
  unfold Stands
  rw [same.outbound]
  exact stands

theorem runCommands_turns (commands : List Command) (protocol : H2Protocol (Recorded σ))
    (stands : Stands streamId response progress commands protocol) :
    ∃ last sent, Turn streamId response progress last sent protocol
        (runCommands (recording engine) config protocol commands).2
        ((runCommands (recording engine) config protocol commands).1 = .ok ()) ∧
      Stands streamId response last [] (runCommands (recording engine) config protocol commands).2 ∧
      (runCommands (recording engine) config protocol commands).2.activeStreams ⊆
        protocol.activeStreams := by
  induction commands generalizing protocol progress with
  | nil => exact ⟨progress, [], .same (.refl protocol), stands, Finset.Subset.refl _⟩
  | cons command commands hypothesis =>
      have ran := runCommand_active engine config protocol command
      unfold runCommands
      generalize is : runCommand (recording engine) config protocol command = run at ran ⊢
      have captured : Same streamId run (captureControlOutput (recording engine) config run).2 :=
        captureControlOutput_same engine config run
      have active := captureControlOutput_active engine config run
      -- the turn of this command, and where the response is then
      obtain ⟨last, sent, turn, standsRun⟩ : ∃ last sent,
          Turn streamId response progress last sent protocol run True ∧
            Stands streamId response last commands run := by
        by_cases own : command.streamId = streamId
        · obtain ⟨rfl, rfl, others, absent⟩ := stands_own own stands
          obtain ⟨last, sent, carried, standsRun, logged, ended⟩ :=
            startResponse_carries engine config protocol absent
          rw [← is]
          refine ⟨last, sent, ⟨carried, logged, fun _ => ended⟩, ?_⟩
          unfold Stands
          rw [others]
          exact standsRun
        · have same : Same streamId protocol run :=
            is ▸ runCommand_same engine config protocol command fun same => own same.symm
          exact ⟨progress, [], .same same, (stands_other own stands).same same⟩
      split
      · rename_i raised next result
        rw [result] at captured active
        obtain ⟨final, lost, standsLost⟩ := stands_lost (standsRun.same captured)
        refine ⟨final, sent ++ [], ⟨turn.carried.trans lost, ?_, nofun⟩, standsLost,
          active ▸ ran⟩
        rw [List.append_nil, captured.sent]
        exact turn.logged
      · rename_i next result
        rw [result] at captured active
        obtain ⟨final, more, rest, standsRest, restActive⟩ :=
          hypothesis next (standsRun.same captured)
        have began : Turn streamId response progress last (sent ++ []) protocol next True :=
          turn.trans (.same captured) (fun _ => trivial) active.subset
        rw [List.append_nil] at began
        exact ⟨final, sent ++ more, began.trans rest (fun _ => trivial) restActive, standsRest,
          restActive.trans (active ▸ ran)⟩

theorem finishResponse_same {finished : StreamId} (other : streamId ≠ finished) :
    Same streamId protocol (finishResponse protocol finished) :=
  ⟨rfl, AList.lookup_erase_ne other, rfl⟩

theorem sendChunk_same {sending : StreamId} (outbound : OutboundStream) (window : Int)
    (output : Bytes) (other : streamId ≠ sending) :
    Same streamId protocol
      (sendChunk (recording engine) config protocol sending outbound window output).2 := by
  unfold sendChunk
  dsimp only
  split
  · exact .refl protocol
  · split
    · rename_i error connection is
      have sent : (connection.sent.filter fun call => call.streamId == streamId) =
          sentOn streamId protocol := by
        rw [sendData_logged is]
        exact logged_other _ other.symm
      have asked : Same streamId protocol { protocol with connection } := ⟨rfl, rfl, sent⟩
      exact asked.trans (dropStream_same _ other)
    · rename_i connection is
      have sent : (connection.sent.filter fun call => call.streamId == streamId) =
          sentOn streamId protocol := by
        rw [sendData_logged is]
        exact logged_other _ other.symm
      split
      · exact ⟨rfl, OrderedDict.lookup_set_ne _ _ other, sent⟩
      · split
        · exact ⟨rfl, (AList.lookup_erase_ne other).trans (OrderedDict.lookup_set_ne _ _ other),
            sent⟩
        · exact ⟨rfl, OrderedDict.lookup_set_ne _ _ other, sent⟩

theorem sendChunk_active (sending : StreamId) (outbound : OutboundStream) (window : Int)
    (output : Bytes) :
    (sendChunk (recording engine) config protocol sending outbound window output).2.activeStreams ⊆
      protocol.activeStreams := by
  unfold sendChunk
  dsimp only
  split
  · exact Finset.Subset.refl _
  · split
    · exact dropStream_active _ sending
    · split
      · exact Finset.Subset.refl _
      · split
        · exact Finset.erase_subset _ _
        · exact Finset.Subset.refl _

theorem sendBody_same {sending : StreamId} (outbound : OutboundStream) (output : Bytes)
    (other : streamId ≠ sending) :
    Same streamId protocol
      (sendBody (recording engine) config protocol sending outbound output).2 := by
  unfold sendBody
  split
  · exact finishResponse_same protocol other
  · split
    · rename_i error connection is
      have asked : Same streamId protocol { protocol with connection } :=
        moved_same protocol (window_logged is).1
      exact asked.trans (dropStream_same _ other)
    · rename_i window connection is
      have asked : Same streamId protocol { protocol with connection } :=
        moved_same protocol (window_logged is).1
      exact asked.trans (sendChunk_same engine config _ outbound window output other)

theorem sendBody_active (sending : StreamId) (outbound : OutboundStream) (output : Bytes) :
    (sendBody (recording engine) config protocol sending outbound output).2.activeStreams ⊆
      protocol.activeStreams := by
  unfold sendBody
  split
  · exact Finset.erase_subset _ _
  · split
    · exact dropStream_active _ sending
    · exact sendChunk_active engine config _ sending outbound _ output

theorem fits_chunkSize (streamId : StreamId) (body : Bytes) (offset : Nat) {size : Int}
    (window maxFrame : Int)
    (is : chunkSize (OutboundStream.remaining ⟨body, offset⟩) window maxFrame = size)
    (positive : ¬size ≤ 0) : Fits body offset size.toNat ⟨streamId, window, maxFrame⟩ := by
  have remains : OutboundStream.remaining ⟨body, offset⟩ = body.length - offset := rfl
  rw [chunkSize, remains] at is
  refine ⟨by omega, by omega, ?_, ?_⟩
  · show (size.toNat : Int) ≤ window
    omega
  · show (size.toNat : Int) ≤ maxFrame
    omega

theorem ends_iff {body : Bytes} {offset : Nat} {size : Int} (positive : ¬size ≤ 0) :
    (size == OutboundStream.remaining ⟨body, offset⟩) =
      decide (offset + size.toNat = body.length) := by
  unfold OutboundStream.remaining
  rw [Bool.eq_iff_iff, beq_iff_eq, decide_eq_true_iff]
  dsimp only
  omega

theorem sendChunk_turns {offset : Nat} {window : Int} (output : Bytes)
    (stands : Stands streamId response (.sent offset) [] protocol)
    (reported : protocol.connection.reports.getLast? = some ⟨streamId, window,
      (recording engine).maxOutboundFrameSize protocol.connection⟩) :
    ∃ last sent, Turn streamId response (.sent offset) last sent protocol
        (sendChunk (recording engine) config protocol streamId ⟨response.body, offset⟩ window
          output).2
        (∃ returned, (sendChunk (recording engine) config protocol streamId
          ⟨response.body, offset⟩ window output).1 = .ok returned) ∧
      Stands streamId response last []
        (sendChunk (recording engine) config protocol streamId ⟨response.body, offset⟩ window
          output).2 := by
  unfold sendChunk
  dsimp only
  generalize is : chunkSize (OutboundStream.remaining ⟨response.body, offset⟩) window
    ((recording engine).maxOutboundFrameSize protocol.connection) = size
  split
  · exact ⟨.sent offset, [], .same (.refl protocol), stands⟩
  · rename_i positive
    have fits : Fits response.body offset size.toNat ⟨streamId, window,
        (recording engine).maxOutboundFrameSize protocol.connection⟩ :=
      fits_chunkSize streamId response.body offset window _ is positive
    rw [ends_iff positive]
    split
    · rename_i error connection asked
      have logged := sendData_logged asked
      rw [reported] at logged
      refine ⟨.ended, _, ⟨.call (.chunkRefused offset size.toNat _ rfl fits), ?_, fun _ _ =>
        ⟨rfl, dropStream_inactive _ streamId⟩⟩, rfl, (dropStream_dropped _ streamId).outbound⟩
      rw [dropStream_eq]
      show (connection.sent.filter _) = _
      rw [logged]
      exact logged_own _ rfl
    · rename_i connection asked
      have logged := sendData_logged asked
      rw [reported] at logged
      have moved : Carried streamId response (.sent offset) (.sent (offset + size.toNat)) _ :=
        .call (.chunk offset size.toNat _ rfl fits)
      have sent : (connection.sent.filter fun call => call.streamId == streamId) =
          sentOn streamId protocol ++ [.data streamId (chunkAt response.body offset size.toNat)
            (decide (offset + size.toNat = response.body.length)) (some ⟨streamId, window,
              (recording engine).maxOutboundFrameSize protocol.connection⟩) true] := by
        rw [logged]
        exact logged_own _ rfl
      split
      · exact ⟨.sent (offset + size.toNat), _, ⟨moved, sent, nofun⟩, rfl,
          OrderedDict.lookup_set _ _ _⟩
      · split
        · refine ⟨.ended, _, ⟨moved.trans (carried_left _), ?_, fun _ _ => ⟨rfl, ?_⟩⟩, rfl, ?_⟩
          · rw [List.append_nil]
            exact sent
          · exact Finset.notMem_erase _ _
          · exact AList.lookup_erase _ _
        · rename_i unfinished
          refine ⟨.sent (offset + size.toNat), _, ⟨moved, sent, ?_⟩, rfl,
            OrderedDict.lookup_set _ _ _⟩
          rintro - ⟨call, member, ends⟩
          rw [List.mem_singleton.mp member] at ends
          exact absurd ends unfinished

theorem sendBody_turns {offset : Nat} (output : Bytes)
    (stands : Stands streamId response (.sent offset) [] protocol) :
    ∃ last sent, Turn streamId response (.sent offset) last sent protocol
        (sendBody (recording engine) config protocol streamId ⟨response.body, offset⟩ output).2
        (∃ returned, (sendBody (recording engine) config protocol streamId
          ⟨response.body, offset⟩ output).1 = .ok returned) ∧
      Stands streamId response last []
        (sendBody (recording engine) config protocol streamId ⟨response.body, offset⟩
          output).2 := by
  unfold sendBody
  split
  · refine ⟨.ended, [], ⟨carried_left _, (List.append_nil _).symm, ?_⟩, rfl, AList.lookup_erase _ _⟩
    exact fun _ ⟨call, member, _⟩ => absurd member List.not_mem_nil
  · split
    · rename_i error connection asked
      refine ⟨.ended, [], ⟨carried_left _, ?_, ?_⟩, rfl, (dropStream_dropped _ streamId).outbound⟩
      · rw [dropStream_eq, List.append_nil]
        exact congrArg (List.filter _) (window_logged asked).1
      · exact fun _ ⟨call, member, _⟩ => absurd member List.not_mem_nil
    · rename_i window connection asked
      obtain ⟨sent, reports⟩ := window_logged asked
      obtain ⟨last, calls, turn, stood⟩ := sendChunk_turns engine config
        { protocol with connection } output stands (reports window rfl)
      refine ⟨last, calls, ⟨turn.carried, turn.logged.trans ?_, turn.ended⟩, stood⟩
      exact congrArg (· ++ calls) (congrArg (List.filter _) sent)

theorem sendBodies_turns (entries : List (Sigma fun _ : StreamId => OutboundStream))
    (protocol : H2Protocol (Recorded σ)) (output : Bytes) (distinct : entries.NodupKeys)
    (listed : ∀ entry ∈ entries, entry.1 = streamId →
      protocol.outbound.lookup streamId = some entry.2)
    (stands : Stands streamId response progress [] protocol) :
    ∃ last sent, Turn streamId response progress last sent protocol
        (sendBodies (recording engine) config protocol output entries).2
        (∃ returned, (sendBodies (recording engine) config protocol output entries).1 =
          .ok returned) ∧
      Stands streamId response last []
        (sendBodies (recording engine) config protocol output entries).2 ∧
      (sendBodies (recording engine) config protocol output entries).2.activeStreams ⊆
        protocol.activeStreams := by
  induction entries generalizing protocol progress output with
  | nil => exact ⟨progress, [], .same (.refl protocol), stands, Finset.Subset.refl _⟩
  | cons entry entries hypothesis =>
      obtain ⟨absent, restDistinct⟩ := List.nodupKeys_cons.mp distinct
      have active := sendBody_active engine config protocol entry.1 entry.2 output
      -- one turn, after which the rest does not list the stream or lists it as it is
      obtain ⟨last, sent, turn, stood, restListed⟩ : ∃ last sent,
          Turn streamId response progress last sent protocol
            (sendBody (recording engine) config protocol entry.1 entry.2 output).2
            (∃ returned, (sendBody (recording engine) config protocol entry.1 entry.2 output).1 =
              .ok returned) ∧
          Stands streamId response last []
            (sendBody (recording engine) config protocol entry.1 entry.2 output).2 ∧
          ∀ other ∈ entries, other.1 = streamId →
            (sendBody (recording engine) config protocol entry.1 entry.2 output).2.outbound.lookup
              streamId = some other.2 := by
        by_cases own : entry.1 = streamId
        · have found := listed entry List.mem_cons_self own
          have none : ∀ other ∈ entries, other.1 ≠ streamId := fun other member same =>
            absent ((own.trans same.symm) ▸ List.mem_keys_of_mem member)
          cases progress with
          | waiting => exact nomatch stands.2.symm.trans found
          | ended => exact nomatch stands.2.symm.trans found
          | sent offset =>
              have is : entry.2 = ⟨response.body, offset⟩ :=
                Option.some.inj (found.symm.trans stands.2)
              obtain ⟨last, sent, turn, stood⟩ :=
                sendBody_turns engine config protocol output stands
              rw [own, is]
              exact ⟨last, sent, turn, stood, fun other member same =>
                absurd same (none other member)⟩
        · have same := sendBody_same engine config protocol entry.2 output fun same => own same.symm
          refine ⟨progress, [], .same same, stands.same same, fun other member here => ?_⟩
          rw [same.outbound]
          exact listed other (List.mem_cons_of_mem _ member) here
      unfold sendBodies
      split
      · rename_i raised next result
        rw [result] at turn stood active
        exact ⟨last, sent, ⟨turn.carried, turn.logged, nofun⟩, stood, active⟩
      · rename_i returned next result
        rw [result] at turn stood active restListed
        obtain ⟨final, more, rest, standsRest, restActive⟩ :=
          hypothesis next returned restDistinct restListed stood
        exact ⟨final, sent ++ more, turn.trans rest (fun _ => ⟨returned, rfl⟩) restActive,
          standsRest, restActive.trans active⟩

theorem drainEngine_same (output : Bytes) :
    Same streamId protocol (drainEngine (recording engine) config protocol output).2 := by
  unfold drainEngine
  dsimp only
  split
  · exact moved_same protocol rfl
  · exact moved_same protocol rfl

theorem drainEngine_active (output : Bytes) :
    (drainEngine (recording engine) config protocol output).2.activeStreams =
      protocol.activeStreams := by
  unfold drainEngine
  dsimp only
  split
  · rfl
  · rfl

/-- A flush: where it returns, a response that has been sent to its end has left the tables. -/
theorem flush_turns (stands : Stands streamId response progress protocol.commands protocol) :
    ∃ last sent, Turn streamId response progress last sent protocol
        (flush (recording engine) config protocol).2
        (∃ output, (flush (recording engine) config protocol).1 = .ok output) ∧
      Stands streamId response last (flush (recording engine) config protocol).2.commands
        (flush (recording engine) config protocol).2 := by
  rw [flush_commands]
  obtain ⟨middle, early, ran, standsRan, _⟩ := runCommands_turns engine config protocol.commands
    { protocol with commands := [] } stands
  unfold flush
  split
  · rename_i raised next result
    rw [result] at ran standsRan
    exact ⟨middle, early, ⟨ran.carried, ran.logged, nofun⟩, standsRan⟩
  · rename_i started result
    rw [result] at ran standsRan
    obtain ⟨last, sent, bodies, standsBodies, active⟩ := sendBodies_turns engine config
      started.outbound.entries { started with controlOutput := [] } started.controlOutput
      started.outbound.nodupKeys
      (fun entry member own => own ▸ AList.mem_lookup_iff.mpr member) standsRan
    have moved : Same streamId started { started with controlOutput := [] } := ⟨rfl, rfl, rfl⟩
    have began := ran.trans (.same moved) (fun _ : True => rfl) (Finset.Subset.refl _)
    have both := began.trans bodies (fun _ => trivial) active
    rw [List.append_nil] at both
    split
    · rename_i raised next returned
      rw [returned] at both standsBodies
      exact ⟨last, early ++ sent, ⟨both.carried, both.logged, nofun⟩, standsBodies⟩
    · rename_i output next returned
      rw [returned] at both standsBodies
      have drained : Same streamId next (drainEngine (recording engine) config next output).2 :=
        drainEngine_same engine config next output
      have whole := both.trans (.same drained)
        (fun _ : ∃ drained, (drainEngine (recording engine) config next output).1 = .ok drained =>
          ⟨output, rfl⟩)
        (drainEngine_active engine config next output).subset
      rw [List.append_nil] at whole
      exact ⟨last, early ++ sent, ⟨whole.carried, whole.logged, whole.ended⟩,
        standsBodies.same drained⟩

end Flushing

section Resets

variable {σ : Type} {engine : Engine σ} {config : HTTP2Config} {protocol : H2Protocol σ}
variable {streamId : StreamId} {event : Event}

/-- The event ends its stream: the peer reset it, or sent trailers on it. -/
def Resets (streamId : StreamId) (event : Event) : Prop :=
  event = .streamReset streamId ∨ event = .trailersReceived streamId

/-- Nothing of a response is left, nor about to be started. -/
structure GoneWithin (streamId : StreamId) (work : Work σ) : Prop where
  gone : Gone streamId work.protocol
  running : ∀ command ∈ work.running, command.isResponseOn streamId = false

theorem gone_dropStream (gone : Gone streamId protocol) (other : StreamId) :
    Gone streamId (dropStream protocol other) := by
  rw [dropStream_eq]
  exact ⟨fun command kept => gone.1 command (List.mem_filter.mp kept).1,
    fun present => gone.2 (AList.mem_erase.mp present).2⟩

/-- Only the queueing of a response brings something of it back. -/
theorem goneWithin_effect {work next : Work σ} {mark : Mark}
    (effect : Effect config work mark next) (others : mark.queuedStream ≠ some streamId)
    (within : GoneWithin streamId work) : GoneWithin streamId next := by
  obtain ⟨gone, running⟩ := within
  cases effect with
  | engine | frames | terminated | cancelled | accepted | stored | completed | parked | returned
  | captured | emitted => exact ⟨gone, running⟩
  | dropped protocol other output => exact ⟨gone_dropStream gone other, running⟩
  | released protocol other =>
      rw [releaseInbound_eq]
      exact ⟨gone, running⟩
  | refused protocol other =>
      rw [releaseInbound_eq]
      refine ⟨⟨fun command member => ?_, gone.2⟩, running⟩
      rcases List.mem_append.mp member with old | new
      · exact gone.1 command old
      · rw [List.mem_singleton.mp new]
        rfl
  | queued protocol other response =>
      rw [releaseInbound_eq]
      refine ⟨⟨fun command member => ?_, gone.2⟩, running⟩
      rcases List.mem_append.mp member with old | new
      · exact gone.1 command old
      · rw [List.mem_singleton.mp new]
        exact beq_false_of_ne fun same => others (congrArg some same)
  | taken protocol => exact ⟨⟨nofun, gone.2⟩, gone.1⟩
  | reset protocol other rest output =>
      exact ⟨gone_dropStream gone other,
        fun command member => running command (List.mem_cons_of_mem _ member)⟩
  | failed protocol other response rest output =>
      have charged : Gone streamId { protocol with
          pendingOutputBytes := protocol.pendingOutputBytes - response.body.length } := gone
      exact ⟨gone_dropStream charged other,
        fun command member => running command (List.mem_cons_of_mem _ member)⟩
  | started protocol other response rest output =>
      have different : (other == streamId) = false := running _ List.mem_cons_self
      refine ⟨⟨gone.1, fun present => ?_⟩,
        fun command member => running command (List.mem_cons_of_mem _ member)⟩
      rcases OrderedDict.mem_set.mp present with same | inside
      · exact ne_of_beq_false different same.symm
      · exact gone.2 inside
  | answered protocol other response rest output =>
      exact ⟨gone, fun command member => running command (List.mem_cons_of_mem _ member)⟩
  | moved protocol => exact ⟨gone, nofun⟩
  | sent work other outbound size found =>
      refine ⟨⟨gone.1, fun present => ?_⟩, running⟩
      rcases OrderedDict.mem_set.mp present with rfl | inside
      · exact gone.2 (OrderedDict.mem_of_lookup found)
      · exact gone.2 inside
  | finished work other =>
      exact ⟨⟨gone.1, fun present => gone.2 (AList.mem_erase.mp present).2⟩, running⟩
  | cleared protocol => exact ⟨⟨nofun, AList.notMem_empty streamId⟩, nofun⟩

theorem gone_reaches {requested : List StreamId} {next : H2Protocol σ}
    (reaches : Reaches config { protocol } requested [] { protocol := next })
    (gone : Gone streamId protocol) : Gone streamId next := by
  have within : ∀ {marks : List Mark} {work after : Work σ}, Run (Effect config) work marks after →
      marks.filterMap Mark.queuedStream = [] → GoneWithin streamId work →
        GoneWithin streamId after := by
    intro marks work after run silent gone
    induction run with
    | nil => exact gone
    | snoc mark before effect induction =>
        rw [List.filterMap_append] at silent
        obtain ⟨earlier, last⟩ := List.append_eq_nil_iff.mp silent
        refine goneWithin_effect effect (fun queued => ?_) (induction earlier)
        rw [filterMap_single, queued] at last
        cases last
  obtain ⟨marks, run, -, silent⟩ := reaches
  exact (within run silent ⟨gone, nofun⟩).gone

theorem handleEvent_gone (resets : Resets streamId event) :
    Gone streamId (handleEvent engine config protocol event).2 := by
  rcases resets with rfl | rfl
  · exact dropStream_gone _ streamId
  · exact dropStream_gone _ streamId

theorem handleEvents_gone {events : List Event} (resets : Resets streamId event)
    (member : event ∈ events) {next : H2Protocol σ}
    (handled : handleEvents engine config protocol events = (.ok (), next)) :
    Gone streamId next := by
  induction events generalizing protocol with
  | nil => cases member
  | cons first events induction =>
      unfold handleEvents at handled
      split at handled
      · cases handled
      · rename_i middle turn
        rcases List.mem_cons.mp member with rfl | later
        · have gone := @handleEvent_gone σ engine config protocol streamId _ resets
          rw [turn] at gone
          obtain ⟨requested, -, reached⟩ := reaches_handleEvents engine config middle events
          rw [handled] at reached
          exact gone_reaches reached gone
        · exact induction later handled

theorem receiveFrames_gone {wireChunks : List Bytes} (resets : Resets streamId event)
    (member : event ∈ frameEvents engine config protocol wireChunks) {next : H2Protocol σ}
    (received : receiveFrames engine config protocol wireChunks = (.ok (), next)) :
    Gone streamId next := by
  induction wireChunks generalizing protocol with
  | nil => cases member
  | cons wireChunk wireChunks induction =>
      unfold receiveFrames at received
      unfold frameEvents at member
      split at received
      · cases received
      · rename_i middle turn
        split at member
        · cases member
        · rename_i events connection taken
          rw [turn] at member
          rcases List.mem_append.mp member with here | later
          · have gone : Gone streamId middle := by
              unfold receiveFrame at turn
              rw [taken] at turn
              dsimp only at turn
              split at turn
              · cases turn
              · rename_i handledNext handled
                have captured := reaches_captureControlOutput engine config
                  { protocol := handledNext }
                rw [turn] at captured
                exact gone_reaches captured (handleEvents_gone resets here handled)
            obtain ⟨requested, -, reached⟩ := reaches_receiveFrames engine config middle wireChunks
            rw [received] at reached
            exact gone_reaches reached gone
          · exact induction later received

/-- A `receive_data` that returns leaves nothing of the streams that were reset in it. -/
theorem receiveData_gone {data : Bytes} {ready : List H2ReadyRequest} {next : H2Protocol σ}
    (resets : Resets streamId event)
    (member : event ∈ operationEvents engine config protocol (.receiveData data))
    (received : receiveData engine config protocol data = (.ok ready, next)) :
    Gone streamId next := by
  unfold operationEvents at member
  unfold receiveData at received
  split at received
  · cases received
  · rename_i fed taken
    dsimp only at received member
    rw [taken] at member
    split at received
    · cases received
    · rename_i middle turn
      have gone := receiveFrames_gone resets member turn
      have released := gone_reaches (reaches_releaseReady config middle) gone
      cases received
      exact released

theorem call_gone {call : Call} {next : H2Protocol σ} {result : Result}
    (step : Calls engine config protocol call next) (resets : Resets streamId event)
    (member : event ∈ call.events) (returned : call.result = .ok result) : Gone streamId next := by
  obtain ⟨operation, events, answer⟩ := call
  obtain ⟨performed, reported⟩ := step
  dsimp only at performed reported member returned
  subst reported returned
  cases operation with
  | receiveData data =>
      unfold perform at performed
      dsimp only at performed
      generalize outcome : receiveData engine config protocol data = received at performed
      obtain ⟨answer, last⟩ := received
      cases answer with
      | error raised => cases performed
      | ok ready =>
          cases performed
          exact receiveData_gone resets member outcome
  | initiate | takeCancelledStreams | queueResponse | flush | dropStream | resetStream | close =>
      cases member

end Resets

section Runs

variable {σ : Type} {engine : Engine σ} {config : HTTP2Config} {streamId : StreamId}
  {response : Response} {progress : Progress}
  {before protocol next : H2Protocol (Recorded σ)} {calls : List Call} {call : Call}

/-- A call moves the response on. Where it sends to the end and returns, the stream is out of
the tables. -/
theorem call_carries (step : Calls (recording engine) config protocol call next)
    (queues : call.operation.queuedStream ≠ some streamId)
    (stands : Stands streamId response progress protocol.commands protocol) :
    ∃ last sent, Carried streamId response progress last sent ∧
      Stands streamId response last next.commands next ∧
      sentOn streamId next = sentOn streamId protocol ++ sent ∧
      ((∃ result, call.result = .ok result) → (∃ made ∈ sent, made.ends = true) →
        last = .ended ∧ streamId ∉ next.activeStreams) := by
  by_cases flushes : call.operation = .flush
  · obtain ⟨last, sent, turn, stood⟩ := flush_turns engine config protocol stands
    have performed := step.1
    rw [flushes] at performed
    have result : (flush (recording engine) config protocol).1.map .output = call.result :=
      congrArg Prod.fst performed
    have after : (flush (recording engine) config protocol).2 = next := congrArg Prod.snd performed
    rw [after] at turn stood
    refine ⟨last, sent, turn.carried, stood, turn.logged, fun ⟨value, returned⟩ => turn.ended ?_⟩
    rw [returned] at result
    cases flushed : (flush (recording engine) config protocol).1 with
    | error raised =>
        rw [flushed] at result
        exact nomatch result
    | ok output => exact ⟨output, rfl⟩
  · have beside : Beside streamId protocol next := by
      have after : (perform (recording engine) config protocol call.operation).2 = next :=
        congrArg Prod.snd step.1
      exact after ▸ perform_beside engine config protocol call.operation flushes queues
    obtain ⟨last, sent, carried, stood, logged, resets⟩ := stands.beside beside
    refine ⟨last, sent, carried, stood, logged, fun _ ⟨made, member, ends⟩ => ?_⟩
    have reset := resets made member
    cases made with
    | reset id => exact Bool.noConfusion ends
    | headers => exact Bool.noConfusion reset
    | data => exact Bool.noConfusion reset

theorem run_carries (run : Run (Calls (recording engine) config) before calls protocol)
    (queues : streamId ∉ queuedStreams calls)
    (stands : Stands streamId response progress before.commands before) :
    ∃ last sent, Carried streamId response progress last sent ∧
      Stands streamId response last protocol.commands protocol ∧
      sentOn streamId protocol = sentOn streamId before ++ sent := by
  induction run with
  | nil => exact ⟨progress, [], .refl progress, stands, (List.append_nil _).symm⟩
  | snoc call run step hypothesis =>
      rw [queuedStreams_snoc, List.mem_append, not_or] at queues
      obtain ⟨middle, early, first, stood, logged⟩ := hypothesis queues.1
      have others : call.operation.queuedStream ≠ some streamId := fun same =>
        queues.2 (same ▸ List.mem_cons_self)
      obtain ⟨last, sent, second, stands, loggedLast, -⟩ := call_carries step others stood
      exact ⟨last, early ++ sent, first.trans second, stands,
        by rw [loggedLast, logged, List.append_assoc]⟩

theorem none_unqueued (response : Response) {connection : σ}
    (run : Run (Calls (recording engine) config) (H2Protocol.new { connection }) calls protocol)
    (queues : streamId ∉ queuedStreams calls) :
    Stands streamId response .ended protocol.commands protocol := by
  have initially : Stands streamId response .ended []
      (H2Protocol.new { connection : Recorded σ }) := ⟨rfl, rfl⟩
  obtain ⟨last, sent, carried, stands, -⟩ := run_carries run queues initially
  rw [carried.stays_over] at stands
  exact stands

theorem accepted_waits {queued : H2Protocol (Recorded σ)}
    (none : Stands streamId response .ended protocol.commands protocol)
    (accepted : queueResponse (recording engine) config protocol streamId response =
      (true, queued)) :
    Stands streamId response .waiting queued.commands queued := by
  unfold queueResponse at accepted
  rw [releaseInbound_eq] at accepted
  split at accepted
  · cases accepted
  · dsimp only at accepted
    split at accepted
    · split at accepted
      · cases accepted
      · cases accepted
    · split at accepted
      · cases accepted
      · cases accepted
        have appended : commandsOn streamId
            (protocol.commands ++ [.response streamId response]) =
              commandsOn streamId protocol.commands ++ [.response streamId response] := by
          unfold commandsOn
          rw [List.filter_append]
          simp [Command.streamId]
        refine ⟨?_, none.2⟩
        rw [appended, none.1]
        rfl

theorem over_of_gone (stands : Stands streamId response progress protocol.commands protocol)
    (gone : Gone streamId protocol) : progress = .ended := by
  cases progress with
  | waiting =>
      have member : Command.response streamId response ∈ commandsOn streamId protocol.commands :=
        stands.1 ▸ List.mem_cons_self
      have kept := gone.1 _ (List.mem_filter.mp member).1
      exact absurd kept (by simp [Command.isResponseOn])
  | sent offset => exact absurd (AList.lookup_isSome.mp (by rw [stands.2]; rfl)) gone.2
  | ended => rfl

theorem gone_of_over (stands : Stands streamId response .ended protocol.commands protocol) :
    Gone streamId protocol := by
  refine ⟨fun command member => ?_, AList.lookup_eq_none.mp stands.2⟩
  cases command with
  | reset id => rfl
  | response id answer =>
      refine beq_false_of_ne fun same => ?_
      have about : Command.response id answer ∈ commandsOn streamId protocol.commands :=
        List.mem_filter.mpr ⟨member, beq_iff_eq.mpr same⟩
      rw [stands.1] at about
      exact absurd about List.not_mem_nil

/-- What is sent for a response that was accepted is a transmission of it. Once nothing of the
response is left, as after a drop and after a call that returns and in which the peer reset the
stream, only resets follow. A call that sends to the end and returns leaves the stream in neither
table. -/
theorem body_sent_once (engine : Engine σ) (config : HTTP2Config) (connection : σ)
    (earlier first second : List Call) (start queued middle last : H2Protocol (Recorded σ))
    (streamId : StreamId) (response : Response)
    (before : Run (Calls (recording engine) config) (H2Protocol.new { connection }) earlier start)
    (accepted : queueResponse (recording engine) config start streamId response = (true, queued))
    (firstRun : Run (Calls (recording engine) config) queued first middle)
    (secondRun : Run (Calls (recording engine) config) middle second last)
    (once : streamId ∉ queuedStreams (earlier ++ first ++ second)) :
    ∃ sent, sentOn streamId last = sentOn streamId queued ++ sent ∧
      Transmission streamId response sent ∧
      (∀ protocol : H2Protocol (Recorded σ), Gone streamId (dropStream protocol streamId)) ∧
      (Gone streamId middle → Gone streamId last ∧ ∃ number, sentOn streamId last =
        sentOn streamId middle ++ List.replicate number (.reset streamId)) ∧
      ∀ call next, Calls (recording engine) config last call next →
        call.operation.queuedStream ≠ some streamId →
        ∃ more, sentOn streamId next = sentOn streamId last ++ more ∧
          ((∃ result, call.result = .ok result) → (∃ made ∈ more, made.ends = true) →
            streamId ∉ next.outbound ∧ streamId ∉ next.activeStreams) ∧
          ((∃ result, call.result = .ok result) → (∃ event ∈ call.events, Resets streamId event) →
            Gone streamId next) := by
  have split : queuedStreams (earlier ++ first ++ second) =
      queuedStreams earlier ++ queuedStreams first ++ queuedStreams second := by
    unfold queuedStreams
    rw [List.filterMap_append, List.filterMap_append]
  rw [split, List.mem_append, List.mem_append, not_or, not_or] at once
  obtain ⟨⟨unqueued, notFirst⟩, notSecond⟩ := once
  have waits := accepted_waits (none_unqueued response before unqueued) accepted
  obtain ⟨progress, sent, ⟨moves, run, made⟩, stands, logged⟩ :=
    run_carries firstRun notFirst waits
  obtain ⟨final, more, ⟨others, rest, madeMore⟩, stood, loggedMore⟩ :=
    run_carries secondRun notSecond stands
  have transmission := (transmission_run (run.append rest)).1
  rw [List.reduceOption_append, made, madeMore] at transmission
  refine ⟨sent ++ more, ?_, transmission, fun protocol => dropStream_gone protocol streamId,
    ?_, ?_⟩
  · rw [loggedMore, logged, List.append_assoc]
  · intro gone
    cases over_of_gone stands gone
    obtain ⟨rfl, number, resets⟩ := over_run rest
    exact ⟨gone_of_over stood, number, by rw [loggedMore, ← madeMore, resets]⟩
  · intro call next step others
    obtain ⟨ending, new, -, standsNext, loggedNext, ended⟩ := call_carries step others stood
    refine ⟨new, loggedNext, fun returned ends => ?_, ?_⟩
    · obtain ⟨rfl, inactive⟩ := ended returned ends
      exact ⟨(gone_of_over standsNext).2, inactive⟩
    · rintro ⟨result, returned⟩ ⟨event, member, resets⟩
      exact call_gone step resets member returned

end Runs

section Samples

def requested (config : HTTP2Config) : List Call × H2Protocol (Recorded Script) :=
  performAll (recording (scripted 40)) config (H2Protocol.new { connection := sampleStart })
    [.receiveData clientPreface]

def answered (config : HTTP2Config) (body : Bytes) : H2Protocol (Recorded Script) :=
  (queueResponse (recording (scripted 40)) config (requested config).2 1 (sampleResponse body)).2

def flushed : List Call × H2Protocol (Recorded Script) :=
  performAll (recording (scripted 40)) HTTP2Config.standard
    (answered HTTP2Config.standard [104, 105]) [.flush]

def dropped : List Call × H2Protocol (Recorded Script) :=
  performAll (recording (scripted 40)) HTTP2Config.standard flushed.2 [.dropStream 1]

theorem body_sent_once_sample :
    payloads (sentOn 1 dropped.2) = [104, 105] ∧
    ∃ sent, sentOn 1 dropped.2 = sentOn 1 (answered HTTP2Config.standard [104, 105]) ++ sent ∧
      Transmission 1 (sampleResponse [104, 105]) sent ∧
      (∀ protocol : H2Protocol (Recorded Script), Gone 1 (dropStream protocol 1)) ∧
      (Gone 1 flushed.2 → Gone 1 dropped.2 ∧ ∃ number, sentOn 1 dropped.2 =
        sentOn 1 flushed.2 ++ List.replicate number (.reset 1)) ∧
      ∀ call next, Calls (recording (scripted 40)) HTTP2Config.standard dropped.2 call next →
        call.operation.queuedStream ≠ some 1 →
        ∃ more, sentOn 1 next = sentOn 1 dropped.2 ++ more ∧
          ((∃ result, call.result = .ok result) → (∃ made ∈ more, made.ends = true) →
            1 ∉ next.outbound ∧ 1 ∉ next.activeStreams) ∧
          ((∃ result, call.result = .ok result) → (∃ event ∈ call.events, Resets 1 event) →
            Gone 1 next) :=
  ⟨by decide +kernel, body_sent_once (scripted 40) HTTP2Config.standard sampleStart
    (requested HTTP2Config.standard).1 flushed.1 dropped.1 (requested HTTP2Config.standard).2
    (answered HTTP2Config.standard [104, 105]) flushed.2 dropped.2 1 (sampleResponse [104, 105])
    (run_performAll _ _ _ _) (Prod.ext (by decide +kernel) rfl) (run_performAll _ _ _ _)
    (run_performAll _ _ _ _) (by decide +kernel)⟩

/-- Room for the HEADERS frame and the body, not for the header of the DATA frame. -/
def narrowBudget : HTTP2Config where
  maxPendingOutputBytes := 64
  maxControlOutputBytes := 64
  maxResponseBodyBytes := 20
  accepted := by decide

def overrun : List Call × H2Protocol (Recorded Script) :=
  performAll (recording (scripted 40)) narrowBudget
    (answered narrowBudget (List.replicate 20 0)) [.flush]

/-- The chunk that completes the body is sent, the flush raises, and the stream stays in both
tables. -/
theorem raising_flush_keeps_stream :
    Run (Calls (recording (scripted 40)) narrowBudget)
      (H2Protocol.new { connection := sampleStart }) (requested narrowBudget).1
      (requested narrowBudget).2 ∧
    queueResponse (recording (scripted 40)) narrowBudget (requested narrowBudget).2 1
      (sampleResponse (List.replicate 20 0)) =
        (true, answered narrowBudget (List.replicate 20 0)) ∧
    Run (Calls (recording (scripted 40)) narrowBudget)
      (answered narrowBudget (List.replicate 20 0)) overrun.1 overrun.2 ∧
    payloads (sentOn 1 overrun.2) = List.replicate 20 0 ∧
    (sentOn 1 overrun.2).any Sending.ends = true ∧
    1 ∈ overrun.2.outbound ∧ 1 ∈ overrun.2.activeStreams :=
  ⟨run_performAll _ _ _ _, Prod.ext (by decide +kernel) rfl, run_performAll _ _ _ _,
    by decide +kernel, by decide +kernel, by decide +kernel, by decide +kernel⟩

end Samples

end SmallServer.Http2Delivery
