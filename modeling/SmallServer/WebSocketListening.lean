import SmallServer.WebSocketGuard
import SmallServer.WebSocketHandshake
import SmallServer.WebSocketHearing

/-!
# The reader between two chunks

What a reader has taken, forwarded and drained, as an invariant of its steps and of those of the
other tasks: the guard is where the octets lead it, the engine has yielded all its events, and
what was delivered is what the events amount to.
-/

namespace SmallServer.WebSocketListening

open SmallServer HttpValues WebSocket WebSocketState WebSocketTasks WebSocketFrames
  WebSocketGuard WebSocketFragments WebSocketSources WebSocketHearing Feeding Runs
open SmallServer.WebSocketEffects (Core core Change Changes Commits readerResult)
open SmallServer.WebSocketSteps (changes_invariant next_changes)
open SmallServer.WebSocketHandshake (Consistent change_consistent consistent_initial)

set_option autoImplicit false

section Engines

/-- The states of an engine while it yields events, up to a Close. -/
def Tracks {State : Type} (heard : State → List Event → Prop) :
    List Event → List (Event × State) → Prop
  | _, [] => True
  | earlier, (event, after) :: rest =>
      event.isClose = false →
        heard after (earlier ++ [event]) ∧ Tracks heard (earlier ++ [event]) rest

/-- The events of an engine depend on the octets it was given, and not on how they were cut.
`heard` is a state that has been given these octets and has yielded these events. -/
structure Chunkless (engine : Engine) where
  decode : Bytes → List Event
  atEnd : Bytes → List Event
  heard : engine.State → Bytes → List Event → Prop
  decode_nil : decode [] = []
  decode_append : ∀ octets more, decode octets <+: decode (octets ++ more)
  created : heard engine.create [] []
  sent : ∀ {state next octets events event payload}, heard state octets events →
    engine.send state event = some (payload, next) → heard next octets events
  received : ∀ {state octets events} chunk, heard state octets events →
    ∃ next, engine.receive state chunk = some next ∧ heard next (octets ++ chunk) events
  yielded : ∀ {state octets events}, heard state octets events →
    events ++ (engine.events state).map Prod.fst = decode octets ∧
      Tracks (fun next => heard next octets) events (engine.events state)
  ended : ∀ {state octets}, heard state octets (decode octets) →
    ∃ next, engine.receiveEnd state = some next ∧
      (engine.events next).map Prod.fst = atEnd octets

end Engines

section Forwarding

variable {maxPayloadBytes : Nat}

theorem forwarded_octet (progress : Progress) (received : UInt8) :
    progress.forwarded <+: (octet maxPayloadBytes progress received).2.forwarded := by
  unfold octet
  split
  · exact List.prefix_append _ _
  · dsimp only
    split
    · exact List.prefix_refl _
    · split
      · exact List.prefix_refl _
      · exact List.prefix_append _ _

theorem forwarded_run (progress : Progress) (data : Bytes) :
    progress.forwarded <+: (run (octet maxPayloadBytes) progress data).2.forwarded := by
  induction data generalizing progress with
  | nil => exact List.prefix_refl _
  | cons received data induction =>
      have first : progress.forwarded <+:
          (octet maxPayloadBytes progress received).2.forwarded := forwarded_octet progress received
      rw [run_cons]
      revert first
      rcases octet maxPayloadBytes progress received with ⟨_ | _, next⟩
      · exact id
      · exact fun first => first.trans (induction next)

end Forwarding

section Told

variable {engine : Engine} {state : WebSocketState engine} {disconnect : Disconnect}

theorem told_disconnectWith (told : state.disconnect = some disconnect) (code : Nat)
    (reason : String) : (state.disconnectWith code reason).disconnect = some disconnect := by
  unfold disconnectWith
  dsimp only
  rw [told]
  rfl

theorem told_closeCall (told : state.disconnect = some disconnect) (caller : Caller) :
    (state.closeCall caller).disconnect = some disconnect := by
  unfold closeCall
  split
  · unfold pingFailed
    split
    · exact told
    · exact told
  · exact told_disconnectWith told _ _
  · exact told

theorem told_cancelHandler (told : state.disconnect = some disconnect) (cancel : Cancel) :
    (state.cancelHandler cancel).2.disconnect = some disconnect := by
  have left := told_closeCall told .handler
  unfold cancelHandler
  split
  · exact told
  · split
    · unfold closeHandler
      split
      · exact told
      · dsimp only
        split
        · exact left
        · exact left
      · exact told_disconnectWith left 1006 ""
      · exact told
    · exact told
    · exact told

theorem first_disconnectWith (connected : state.disconnect = none) (code : Nat)
    (reason : String) : (state.disconnectWith code reason).disconnect = some ⟨code, reason⟩ := by
  unfold disconnectWith
  dsimp only
  rw [connected]
  rfl

theorem readerFailed_tells (connected : state.disconnect = none)
    (running : state.shutdown = false) {fault : Fault} (other : fault ≠ .interrupt)
    (cancel : Cancel) :
    ∃ reason, (readerFailed state fault cancel).disconnect = some ⟨faultCode fault, reason⟩ := by
  have closes : ∀ code reason size, (((closeForError state code reason size).cancelHandler
      cancel).2).disconnect = some ⟨code, reason⟩ := by
    intro code reason size
    refine told_cancelHandler ?_ cancel
    unfold closeForError
    refine first_disconnectWith ?_ code reason
    exact (disconnect_enqueueControl state _ size).trans connected
  unfold readerFailed
  cases fault with
  | interrupt => exact absurd rfl other
  | capacity message =>
      dsimp only
      rw [running, if_neg Bool.false_ne_true]
      exact ⟨_, closes 1009 _ 19⟩
  | _ =>
      dsimp only
      rw [running, if_neg Bool.false_ne_true]
      exact ⟨_, closes 1002 _ 16⟩

theorem readerFailed_interrupt (told : state.disconnect = some disconnect) (cancel : Cancel) :
    (readerFailed state .interrupt cancel).disconnect = some disconnect := by
  have noted : ({ state with fatalError := some .interrupt } :
      WebSocketState engine).disconnect = some disconnect := told
  exact told_cancelHandler (told_disconnectWith noted 1006 "") cancel

theorem delivered_readerFailed (fault : Fault) (cancel : Cancel) :
    (readerFailed state fault cancel).delivered = state.delivered :=
  (beside_readerGoesOn (.error fault, state) cancel).delivered

end Told

section Reading

variable {engine : Engine} {chunkless : Chunkless engine} {settings : WebSocketConfig}
  {taken octets : Bytes} {earlier : List Event} {state : WebSocketState engine}

/-- A reader that has taken these octets, has forwarded those and has drained these events. -/
structure Listens (chunkless : Chunkless engine) (settings : WebSocketConfig)
    (taken octets : Bytes) (earlier : List Event) (state : WebSocketState engine) : Prop where
  config : state.config = settings
  guarded : ∃ phase, run (octet settings.maxFramePayloadBytes) {} taken =
      (.ok (), ⟨phase, octets⟩) ∧
    phase.Waits ∧ state.guard = guardOf settings.maxFramePayloadBytes phase
  heard : ∃ protocol, state.protocol = some protocol ∧ chunkless.heard protocol octets earlier
  keeps : Keeps (hearing settings.maxMessageBytes earlier) state
  silent : (hearing settings.maxMessageBytes earlier).code = none
  connected : state.disconnect = none
  running : state.shutdown = false
  unfailed : state.handshakeState ≠ .failed

/-- What a reader that has ended delivered, and its code: the guard has refused a header, the
events have ended it, or the stream is over. -/
inductive Ended (chunkless : Chunkless engine) (settings : WebSocketConfig) (taken : Bytes) :
    Bool → List Payload → Nat → Prop
  | refused (octets lost : Bytes) (phase : Phase) (error : GuardError)
      (ran : run (octet settings.maxFramePayloadBytes) {} taken =
        (.error error, ⟨phase, octets ++ lost⟩))
      (silent : (hearing settings.maxMessageBytes (chunkless.decode octets)).code = none) :
      Ended chunkless settings taken false
        (hearing settings.maxMessageBytes (chunkless.decode octets)).messages
        (faultCode (guardFault error))
  | told (octets : Bytes) (phase : Phase) (code : Nat)
      (ran : run (octet settings.maxFramePayloadBytes) {} taken = (.ok (), ⟨phase, octets⟩))
      (ended : (hearing settings.maxMessageBytes (chunkless.decode octets)).code = some code) :
      Ended chunkless settings taken false
        (hearing settings.maxMessageBytes (chunkless.decode octets)).messages code
  | finished (octets : Bytes) (phase : Phase)
      (ran : run (octet settings.maxFramePayloadBytes) {} taken = (.ok (), ⟨phase, octets⟩)) :
      Ended chunkless settings taken true
        (hearing settings.maxMessageBytes
          (chunkless.decode octets ++ chunkless.atEnd octets)).messages
        ((hearing settings.maxMessageBytes
          (chunkless.decode octets ++ chunkless.atEnd octets)).code.getD 1006)

inductive Attempt (chunkless : Chunkless engine) (settings : WebSocketConfig) (taken : Bytes) :
    Except Fault Bool × WebSocketState engine → Prop
  | goesOn (octets : Bytes) (next : WebSocketState engine)
      (listens : Listens chunkless settings taken octets (chunkless.decode octets) next) :
      Attempt chunkless settings taken (.ok false, next)
  | closed (next : WebSocketState engine) (messages : List Payload) (code : Nat)
      (reason : String) (verdict : Ended chunkless settings taken false messages code)
      (delivered : next.delivered = messages) (told : next.disconnect = some ⟨code, reason⟩) :
      Attempt chunkless settings taken (.ok true, next)
  | failed (next : WebSocketState engine) (messages : List Payload) (fault : Fault)
      (verdict : Ended chunkless settings taken false messages (faultCode fault))
      (delivered : next.delivered = messages) (other : fault ≠ .interrupt)
      (connected : next.disconnect = none) (running : next.shutdown = false) :
      Attempt chunkless settings taken (.error fault, next)

theorem receiveChunks_heard (chunks : List Bytes) {protocol : engine.State}
    (has : state.protocol = some protocol) (heard : chunkless.heard protocol octets earlier) :
    ∃ next, receiveChunks chunks state = (.ok (), { state with protocol := some next }) ∧
      chunkless.heard next (octets ++ chunks.flatten) earlier := by
  induction chunks generalizing state protocol octets with
  | nil =>
      refine ⟨protocol, ?_, ?_⟩
      · rw [← has]
        rfl
      · rw [List.flatten_nil, List.append_nil]
        exact heard
  | cons chunk chunks induction =>
      obtain ⟨middle, receives, later⟩ := chunkless.received chunk heard
      have first : (state.protocol.bind fun protocol => engine.receive protocol chunk) =
          some middle := by
        rw [has]
        exact receives
      obtain ⟨next, rest, last⟩ := induction
        (rfl : ({ state with protocol := some middle } : WebSocketState engine).protocol = _) later
      refine ⟨next, ?_, ?_⟩
      · unfold receiveChunks
        rw [first]
        exact rest
      · rw [List.flatten_cons, ← List.append_assoc]
        exact last

/-- A piece of the stream is forwarded, or it holds a header that is refused. Then nothing of
it is forwarded. -/
theorem receiveProtocolData_cases (listens : Listens chunkless settings taken octets earlier state)
    (data : Bytes) :
    (∃ more next, receiveProtocolData data state = (.ok (), next) ∧
      Listens chunkless settings (taken ++ data) (octets ++ more) earlier next) ∨
    ∃ error lost phase next, receiveProtocolData data state = (.error (guardFault error), next) ∧
      run (octet settings.maxFramePayloadBytes) {} (taken ++ data) =
        (.error error, ⟨phase, octets ++ lost⟩) ∧
      next.disconnect = none ∧ next.shutdown = false ∧ next.delivered = state.delivered := by
  obtain ⟨phase, ran, waits, guard⟩ := listens.guarded
  obtain ⟨protocol, has, heard⟩ := listens.heard
  have fed := feedLoop_fed settings.maxFramePayloadBytes (data.length + 1) waits []
    (Nat.lt_succ_self data.length)
  change Fed settings.maxFramePayloadBytes phase data []
    ((guardOf settings.maxFramePayloadBytes phase).feed data) at fed
  unfold receiveProtocolData
  rw [guard]
  revert fed
  generalize (guardOf settings.maxFramePayloadBytes phase).feed data = outcome
  intro fed
  cases fed with
  | ok after more waits runs =>
      refine .inl ⟨more.flatten, ?_⟩
      have still : ({ state with guard := guardOf settings.maxFramePayloadBytes after } :
          WebSocketState engine).protocol = some protocol := has
      obtain ⟨next, received, later⟩ := receiveChunks_heard more still heard
      refine ⟨_, received, listens.config, ⟨after, ?_, waits, rfl⟩, ⟨next, rfl, later⟩,
        listens.keeps.beside ⟨rfl, rfl, rfl, rfl, rfl⟩, listens.silent, listens.connected,
        listens.running, listens.unfailed⟩
      rw [run_append_ok ran, runs]
  | raised error header lost complete bad runs =>
      refine .inr ⟨error, lost, .header header, _, rfl, ?_, listens.connected, listens.running, rfl⟩
      rw [run_append_ok ran, runs]

theorem drainEvents_tracks (batch : List (Event × engine.State)) {protocol : engine.State}
    {next : WebSocketState engine} {heard : engine.State → List Event → Prop}
    (has : state.protocol = some protocol) (heardSo : heard protocol earlier)
    (tracks : Tracks heard earlier batch) (goes : drainEvents batch state = (.ok false, next)) :
    ∃ last, next.protocol = some last ∧ heard last (earlier ++ batch.map Prod.fst) := by
  induction batch generalizing state protocol earlier with
  | nil =>
      cases goes
      refine ⟨protocol, has, ?_⟩
      rw [List.map_nil, List.append_nil]
      exact heardSo
  | cons first batch induction =>
      obtain ⟨event, after⟩ := first
      have same := untouched_drainEvent { state with protocol := some after } event
      unfold drainEvents at goes
      split at goes
      · rename_i middle drained
        rw [drained] at same
        have closes : event.isClose = false := by
          cases event with
          | closeConnection code reason =>
              unfold drainEvent at drained
              dsimp only at drained
              rcases closed : ({ state with protocol := some after } :
                WebSocketState engine).receiveClose code reason with ⟨error | _, last⟩
              · rw [closed] at drained
                cases drained
              · rw [closed] at drained
                cases drained
          | _ => rfl
        obtain ⟨now, rest⟩ := tracks closes
        obtain ⟨last, has, all⟩ := induction same.protocol now rest goes
        refine ⟨last, has, ?_⟩
        rw [List.map_cons, ← List.singleton_append, ← List.append_assoc]
        exact all
      · rename_i result middle other drained
        cases goes
        exact (other rfl).elim

theorem drain_attempt (listens : Listens chunkless settings taken octets earlier state)
    (room : ∀ fault, (drainProtocolEvents state).1 = .error fault → ¬Full fault) :
    Attempt chunkless settings taken (drainProtocolEvents state) := by
  obtain ⟨phase, ran, waits, guard⟩ := listens.guarded
  obtain ⟨protocol, has, heard⟩ := listens.heard
  obtain ⟨whole, tracks⟩ := chunkless.yielded heard
  have all : drainProtocolEvents state = drainEvents (engine.events protocol) state := by
    unfold drainProtocolEvents
    rw [has]
  rw [all] at room ⊢
  have drained := drainEvents_drained _ listens.keeps listens.silent listens.connected room
  have same : Untouched _ (drainEvents (engine.events protocol) state).2 :=
    untouched_drainEvents (engine.events protocol)
  rw [listens.config, ← hearing_append, whole] at drained
  rcases result : drainEvents (engine.events protocol) state with ⟨outcome, next⟩
  rw [result] at drained same
  have running : next.shutdown = false := same.shutdown.trans listens.running
  cases drained with
  | goesOn _ silent keeps connected =>
      obtain ⟨last, hasLast, later⟩ := drainEvents_tracks _ has heard tracks result
      rw [whole] at later
      exact .goesOn octets next ⟨same.config.trans listens.config,
        ⟨phase, ran, waits, same.guard.trans guard⟩, ⟨last, hasLast, later⟩, keeps, silent,
        connected, running, fun failed => listens.unfailed (same.handshake.symm.trans failed)⟩
  | closed _ code reason ended told delivered =>
      exact .closed next _ code reason (.told octets phase code ran ended) delivered told
  | failed _ fault ended other connected delivered =>
      exact .failed next _ fault (.told octets phase _ ran ended) delivered other connected running

theorem refused_attempt
    (listens : Listens chunkless settings taken octets (chunkless.decode octets) state)
    {data lost : Bytes} {error : GuardError} {phase : Phase} {next : WebSocketState engine}
    (refused : run (octet settings.maxFramePayloadBytes) {} (taken ++ data) =
      (.error error, ⟨phase, octets ++ lost⟩))
    (gone : next.disconnect = none ∧ next.shutdown = false ∧ next.delivered = state.delivered) :
    Attempt chunkless settings (taken ++ data) (.error (guardFault error), next) := by
  have other : guardFault error ≠ .interrupt := by
    unfold guardFault
    split
    · exact nofun
    · exact nofun
  exact .failed next _ _ (.refused octets lost phase error refused listens.silent)
    (gone.2.2.trans listens.keeps.delivered) other gone.1 gone.2.1

theorem receive_attempt
    (listens : Listens chunkless settings taken octets (chunkless.decode octets) state)
    (data : Bytes)
    (room : ∀ fault, (receiveAndDrain data state).1 = .error fault → ¬Full fault) :
    Attempt chunkless settings (taken ++ data) (receiveAndDrain data state) := by
  unfold receiveAndDrain at room ⊢
  obtain ⟨more, next, received, later⟩ | ⟨error, lost, phase, next, received, refused, gone⟩ :=
    receiveProtocolData_cases listens data
  · rw [received] at room ⊢
    exact drain_attempt later room
  · rw [received]
    exact refused_attempt listens refused gone


end Reading

section Positions

variable {engine : Engine} {chunkless : Chunkless engine} {settings : WebSocketConfig}
  {trailing taken : Bytes} {finished : Bool} {state after : WebSocketState engine}

structure Opening (chunkless : Chunkless engine) (settings : WebSocketConfig) (trailing : Bytes)
    (state : WebSocketState engine) : Prop where
  config : state.config = settings
  guard : state.guard = guardOf settings.maxFramePayloadBytes (.header [])
  trailing : state.trailingData = trailing
  heard : ∀ protocol, state.protocol = some protocol → chunkless.heard protocol [] []
  keeps : Keeps {} state
  connected : state.disconnect = none
  running : state.shutdown = false
  unfailed : state.handshakeState ≠ .failed
  consistent : Consistent (core state)
  reader : state.reader = .absent ∨
    (state.reader = .spawned ∧ Settled (core state) ∧ state.protocol.isSome = true)

/-- Where the reader is, having taken these octets. -/
inductive Position (chunkless : Chunkless engine) (settings : WebSocketConfig)
    (trailing : Bytes) : Bytes → Bool → WebSocketState engine → Prop
  | opening (state : WebSocketState engine)
      (opening : Opening chunkless settings trailing state) :
      Position chunkless settings trailing [] false state
  | reading (taken octets : Bytes) (state : WebSocketState engine)
      (receives : state.reader = .receiving) (settled : Settled (core state))
      (listens : Listens chunkless settings taken octets (chunkless.decode octets) state) :
      Position chunkless settings trailing taken false state
  | ended (taken : Bytes) (finished : Bool) (messages : List Payload) (code : Nat)
      (reason : String) (state : WebSocketState engine) (stopped : state.reader = .ended)
      (verdict : Ended chunkless settings taken finished messages code)
      (delivered : state.delivered = messages) (told : state.disconnect = some ⟨code, reason⟩) :
      Position chunkless settings trailing taken finished state

theorem goesOn_position {result : Except Fault Bool × WebSocketState engine} {cancel : Cancel}
    (attempt : Attempt chunkless settings taken result)
    (settled : Settled (core (readerGoesOn result cancel))) :
    Position chunkless settings trailing taken false (readerGoesOn result cancel) := by
  have beside := beside_readerGoesOn result cancel
  cases attempt with
  | goesOn octets next listens =>
      have goes : readerGoesOn (.ok false, next) cancel = { next with reader := .receiving } := by
        unfold readerGoesOn
        dsimp only
        rw [listens.running, if_neg (by decide)]
      rw [goes] at settled beside ⊢
      exact .reading taken octets _ rfl settled ⟨listens.config, listens.guarded, listens.heard,
        listens.keeps.beside beside, listens.silent, listens.connected, listens.running,
        listens.unfailed⟩
  | closed next messages code reason verdict delivered told =>
      have stopped : readerGoesOn (.ok true, next) cancel = { next with reader := .ended } := by
        unfold readerGoesOn
        dsimp only
        rw [if_pos (.inl rfl)]
      rw [stopped]
      exact .ended taken false messages code reason _ rfl verdict delivered told
  | failed next messages fault verdict delivered other connected running =>
      obtain ⟨reason, told⟩ := readerFailed_tells connected running other cancel
      exact .ended taken false messages _ reason _ rfl verdict
        ((delivered_readerFailed fault cancel).trans delivered) told

/-- At the end of the stream the handler is cancelled, whatever comes of that, and the first
disconnect is kept. -/
theorem cancelled_position (trailing : Bytes) {messages : List Payload} {code : Nat}
    {reason : String} (verdict : Ended chunkless settings taken true messages code)
    (told : (state.disconnectWith 1006 "").disconnect = some ⟨code, reason⟩)
    (delivered : state.delivered = messages) (cancel again : Cancel) :
    Position chunkless settings trailing taken true
        { ((state.disconnectWith 1006 "").cancelHandler cancel).2 with reader := .ended } ∧
      Position chunkless settings trailing taken true
        (readerFailed ((state.disconnectWith 1006 "").cancelHandler cancel).2
          .interrupt again) := by
  have kept := told_cancelHandler told cancel
  have beside : Beside (state.disconnectWith 1006 "")
      ((state.disconnectWith 1006 "").cancelHandler cancel).2 :=
    beside_of_moves (WebSocketMoves.moves_cancelHandler _ cancel :
      WebSocketMoves.Moves quiet _ _) fun _ => id
  have still := beside.delivered.trans delivered
  exact ⟨.ended taken true _ code reason _ rfl verdict still kept,
    .ended taken true _ code reason _ rfl verdict
      ((delivered_readerFailed .interrupt again).trans still) (readerFailed_interrupt kept again)⟩

theorem readerEnds_position {octets : Bytes}
    (listens : Listens chunkless settings taken octets (chunkless.decode octets) state)
    (cancel again : Cancel) (room : ∀ fault next,
      readerResult state (.readerEnds cancel again) = some (.error fault, next) → ¬Full fault) :
    Position chunkless settings trailing taken true (readerEnds state cancel again) := by
  obtain ⟨phase, ran, waits, guard⟩ := listens.guarded
  obtain ⟨protocol, has, heard⟩ := listens.heard
  obtain ⟨last, ends, yields⟩ := chunkless.ended heard
  have bound : state.protocol.bind engine.receiveEnd = some last := by
    rw [has]
    exact ends
  have verdict : Ended chunkless settings taken true _ _ := .finished octets phase ran
  obtain ⟨begun, is⟩ : ∃ begun : WebSocketState engine,
      begun = { state with protocol := some last } := ⟨_, rfl⟩
  have config : begun.config = settings := by
    rw [is]
    exact listens.config
  have moved : Keeps (hearing settings.maxMessageBytes (chunkless.decode octets)) begun := by
    rw [is]
    exact listens.keeps.beside ⟨rfl, rfl, rfl, rfl, rfl⟩
  have connected : begun.disconnect = none := by
    rw [is]
    exact listens.connected
  have running : begun.shutdown = false := by
    rw [is]
    exact listens.running
  have all : drainProtocolEvents begun = drainEvents (engine.events last) begun := by
    rw [is]
    rfl
  have drained := drainEvents_drained (engine.events last) moved listens.silent connected
  have same : Untouched _ (drainEvents (engine.events last) begun).2 :=
    untouched_drainEvents (engine.events last)
  rw [config, ← hearing_append, yields] at drained
  unfold readerResult at room
  unfold readerEnds
  dsimp only at room ⊢
  rw [bound] at room ⊢
  dsimp only at room ⊢
  rw [← is, all] at room ⊢
  rcases result : drainEvents (engine.events last) begun with ⟨outcome, next⟩
  rw [result] at drained same room
  have known := drained fun fault raised => room fault next (by cases raised; rfl)
  have runs : next.shutdown = false := same.shutdown.trans running
  cases known with
  | goesOn _ silent keeps connected =>
      rw [silent] at verdict
      have both := cancelled_position trailing verdict
        (first_disconnectWith connected 1006 "") keeps.delivered cancel again
      dsimp only
      split
      · rename_i left cancelled
        rw [cancelled] at both
        exact both.1
      · rename_i left cancelled
        rw [cancelled] at both
        exact both.2
  | closed _ code reason ended told delivered =>
      rw [ended] at verdict
      have both := cancelled_position trailing verdict
        (told_disconnectWith told 1006 "") delivered cancel again
      dsimp only
      split
      · rename_i left cancelled
        rw [cancelled] at both
        exact both.1
      · rename_i left cancelled
        rw [cancelled] at both
        exact both.2
  | failed _ fault ended other connected delivered =>
      obtain ⟨reason, told⟩ := readerFailed_tells connected runs other cancel
      rw [ended, Option.getD_some] at verdict
      exact .ended taken true _ _ reason _ rfl verdict
        ((delivered_readerFailed fault cancel).trans delivered) told

end Positions

section Steps

variable {engine : Engine} {chunkless : Chunkless engine} {settings : WebSocketConfig}
  {trailing taken : Bytes} {state after : WebSocketState engine}

def octetsOf (trailing : Bytes) : Step → Bytes
  | .readerStarts _ => trailing
  | .readerReceives chunk _ => chunk
  | _ => []

def isEnd : Step → Bool
  | .readerEnds _ _ => true
  | _ => false

/-- A step while the reader runs, in which the queues have room, `recv` does not raise and no
other task ends the connection. -/
structure Reads (state : WebSocketState engine) (step : Step) (after : WebSocketState engine) :
    Prop where
  taken : Steps state step after
  runs : state.reader ≠ .ended
  room : ∀ fault next, readerResult state step = some (.error fault, next) → ¬Full fault
  arrives : ∀ interrupt cancel, step ≠ .readerRaises interrupt cancel
  calm : ofReader step = false → ¬Disturbed after

theorem settled_next {step : Step} (taken : Steps state step after)
    (settled : Settled (core state)) : Settled (core after) := by
  have changes : Changes (fun _ => True) (core state) (core after) :=
    next_changes step (fun _ _ => trivial) taken
  exact changes_invariant (fun _ _ => change_settled) settled changes

theorem consistent_next {step : Step} (taken : Steps state step after)
    (unfailed : state.handshakeState ≠ .failed) (consistent : Consistent (core state)) :
    Consistent (core after) := by
  have changes : Changes (· ≠ .lateDecision) (core state) (core after) := by
    refine next_changes step (fun defect commits is => ?_) taken
    rw [is] at commits
    unfold Commits at commits
    dsimp only at commits
    cases step with
    | sendsHandshake caller reply interrupt => exact unfailed commits.1
    | _ => exact commits
  exact changes_invariant (fun _ _ => change_consistent) consistent changes

theorem beside_next {step : Step} (other : ofReader step = false)
    (taken : Steps state step after) : Beside state after := by
  have moves := WebSocketMoves.next_moves step taken
  refine beside_of_moves moves fun event heard => ?_
  cases step with
  | readerStarts cancel => cases other
  | readerReceives chunk cancel => cases other
  | readerEnds cancel again => cases other
  | readerRaises interrupt cancel => cases other
  | _ => exact List.not_mem_nil heard

theorem unfailed_of_source (same : (source after).failed = (source state).failed)
    (unfailed : state.handshakeState ≠ .failed) : after.handshakeState ≠ .failed := by
  have before : (source state).failed = false := decide_eq_false unfailed
  exact of_decide_eq_false (same.trans before)

theorem calm_connected (calm : ¬Disturbed after) :
    after.disconnect = none ∧ after.shutdown = false :=
  ⟨not_not.mp fun told => calm (.inl told), Bool.eq_false_iff.mpr fun shut => calm (.inr shut)⟩

theorem opening_next {step : Step} (opening : Opening chunkless settings trailing state)
    (other : ofReader step = false) (taken : Steps state step after)
    (calm : ¬Disturbed after) : Opening chunkless settings trailing after := by
  have beside := beside_next other taken
  have consistent := consistent_next taken opening.unfailed opening.consistent
  obtain ⟨connected, running⟩ := calm_connected calm
  -- what is the same for every way of leaving things to the reader
  have next : ∀ {left : Source engine}, source after = left →
      left.guard = state.guard → left.trailingData = state.trailingData →
      left.failed = (source state).failed →
      (∀ protocol, left.protocol = some protocol → chunkless.heard protocol [] []) →
      (left.reader = .absent ∨
        (left.reader = .spawned ∧ Settled (core after) ∧ left.protocol.isSome = true)) →
      Opening chunkless settings trailing after := by
    intro left is guard trailingData failed heard reader
    subst is
    exact {
      config := beside.config.trans opening.config
      guard := guard.trans opening.guard
      trailing := trailingData.trans opening.trailing
      heard
      keeps := opening.keeps.beside beside
      connected
      running
      unfailed := unfailed_of_source failed opening.unfailed
      consistent
      reader }
  have later : state.reader = .spawned ∧ Settled (core state) ∧ state.protocol.isSome = true →
      Settled (core after) := fun spawned => settled_next taken spawned.2.1
  cases next_leaves step other taken with
  | same same =>
      refine next same rfl rfl rfl opening.heard (opening.reader.imp id fun spawned => ?_)
      exact ⟨spawned.1, later spawned, spawned.2.2⟩
  | sent protocol last event payload had sends same =>
      refine next same rfl rfl rfl (fun _ is => ?_) (opening.reader.imp id fun spawned => ?_)
      · cases is
        exact chunkless.sent (opening.heard protocol had) sends
      · exact ⟨spawned.1, later spawned, rfl⟩
  | created pending same =>
      refine next same rfl rfl rfl (fun _ is => ?_) (opening.reader.imp id fun spawned => ?_)
      · cases is
        exact chunkless.created
      · exact ⟨spawned.1, later spawned, rfl⟩
  | spawned deciding accepted settled same =>
      have protocol : state.protocol.isSome = true := (opening.consistent.accepted accepted).2
      exact next same rfl rfl rfl opening.heard (.inr ⟨rfl, settled, protocol⟩)
  | late failed => exact absurd failed opening.unfailed
  | disturbed disturbed => exact absurd disturbed calm

theorem reading_next {step : Step} {octets : Bytes} (receives : state.reader = .receiving)
    (settled : Settled (core state))
    (listens : Listens chunkless settings taken octets (chunkless.decode octets) state)
    (other : ofReader step = false) (stepped : Steps state step after) (calm : ¬Disturbed after) :
    Position chunkless settings trailing taken false after := by
  have beside := beside_next other stepped
  have later := settled_next stepped settled
  obtain ⟨connected, running⟩ := calm_connected calm
  obtain ⟨phase, ran, waits, guard⟩ := listens.guarded
  have next : ∀ {left : Source engine}, source after = left → left.guard = state.guard →
      left.reader = state.reader → left.failed = (source state).failed →
      (∃ protocol, left.protocol = some protocol ∧
        chunkless.heard protocol octets (chunkless.decode octets)) →
      Position chunkless settings trailing taken false after := by
    intro left is same reader failed heard
    subst is
    exact .reading taken octets after (reader.trans receives) later
      ⟨beside.config.trans listens.config, ⟨phase, ran, waits, same.trans guard⟩, heard,
        listens.keeps.beside beside, listens.silent, connected, running,
        unfailed_of_source failed listens.unfailed⟩
  cases next_leaves step other stepped with
  | same same => exact next same rfl rfl rfl listens.heard
  | sent protocol last event payload had sends same =>
      obtain ⟨before, has, heard⟩ := listens.heard
      cases had.symm.trans has
      exact next same rfl rfl rfl ⟨last, rfl, chunkless.sent heard sends⟩
  | created pending same => exact absurd settled.decided (by rw [pending]; decide)
  | spawned deciding accepted joined same => exact absurd (.inr deciding) settled.spawned
  | late failed => exact absurd failed listens.unfailed
  | disturbed disturbed => exact absurd disturbed calm

theorem opening_listens (opening : Opening chunkless settings trailing state)
    (spawned : state.reader = .spawned) :
    Listens chunkless settings [] [] (chunkless.decode []) state := by
  obtain absent | ⟨_, _, has⟩ := opening.reader
  · cases absent.symm.trans spawned
  · obtain ⟨protocol, is⟩ := Option.isSome_iff_exists.mp has
    rw [chunkless.decode_nil]
    exact ⟨opening.config, ⟨.header [], rfl, Or.inl (by decide), opening.guard⟩,
      ⟨protocol, is, opening.heard protocol is⟩, opening.keeps, rfl, opening.connected,
      opening.running, opening.unfailed⟩

theorem readerStarts_position (opening : Opening chunkless settings trailing state)
    (spawned : state.reader = .spawned) (cancel : Cancel)
    (settled : Settled (core (readerStarts state cancel)))
    (room : ∀ fault next, readerResult state (.readerStarts cancel) = some (.error fault, next) →
      ¬Full fault) :
    Position chunkless settings trailing trailing false (readerStarts state cancel) := by
  have start := opening_listens opening spawned
  have same := opening.trailing
  unfold readerResult at room
  unfold readerStarts at settled ⊢
  dsimp only at room
  by_cases empty : state.trailingData = []
  · rw [if_pos empty] at settled ⊢
    rw [← same, empty]
    exact goesOn_position (.goesOn [] state start) settled
  · rw [if_neg empty] at settled room ⊢
    obtain ⟨more, next, received, later⟩ | ⟨error, lost, phase, next, received, refused, gone⟩ :=
      receiveProtocolData_cases start state.trailingData
    · rw [received] at settled room ⊢
      rw [same, List.nil_append] at later
      have emptied : Listens chunkless settings trailing ([] ++ more) (chunkless.decode [])
          { next with trailingData := [] } :=
        ⟨later.config, later.guarded, later.heard,
          later.keeps.beside ⟨rfl, rfl, rfl, rfl, rfl⟩, later.silent, later.connected,
          later.running, later.unfailed⟩
      refine goesOn_position (drain_attempt emptied fun fault raised => ?_) settled
      exact room fault _ (congrArg some (Prod.ext raised rfl))
    · rw [received] at settled ⊢
      have attempt := refused_attempt start refused gone
      rw [same, List.nil_append] at attempt
      exact goesOn_position attempt settled

/-- Data behind the request with a header that is refused: nothing of it is delivered. -/
theorem readerStarts_refused (opening : Opening chunkless settings trailing state)
    (spawned : state.reader = .spawned) (cancel : Cancel) {error : GuardError}
    {progress : Progress}
    (ran : run (octet settings.maxFramePayloadBytes) {} trailing = (.error error, progress)) :
    (readerStarts state cancel).reader = .ended ∧ (readerStarts state cancel).delivered = [] ∧
      (readerStarts state cancel).disconnect.map Disconnect.code =
        some (faultCode (guardFault error)) := by
  have start := opening_listens opening spawned
  have same := opening.trailing
  have some : state.trailingData ≠ [] := by
    intro empty
    rw [← same, empty] at ran
    cases ran
  unfold readerStarts
  rw [if_neg some]
  obtain ⟨more, next, received, later⟩ | ⟨_, lost, phase, next, received, refused, gone⟩ :=
    receiveProtocolData_cases start state.trailingData
  · obtain ⟨phase, passed, _, _⟩ := later.guarded
    rw [same, List.nil_append, ran] at passed
    cases passed
  · rw [same, List.nil_append, ran] at refused
    cases refused
    have other : guardFault error ≠ .interrupt := by
      unfold guardFault
      split
      · exact nofun
      · exact nofun
    obtain ⟨reason, told⟩ := readerFailed_tells gone.1 gone.2.1 other cancel
    rw [received]
    dsimp only
    refine ⟨rfl, ?_, ?_⟩
    · rw [delivered_readerFailed, gone.2.2]
      exact opening.keeps.delivered
    · rw [told]
      rfl

theorem quiet_step (trailing : Bytes) {step : Step} (other : ofReader step = false) :
    octetsOf trailing step = [] ∧ isEnd step = false := by
  cases step with
  | readerStarts cancel => cases other
  | readerReceives chunk cancel => cases other
  | readerEnds cancel again => cases other
  | readerRaises interrupt cancel => cases other
  | _ => exact ⟨rfl, rfl⟩

theorem opening_cases {step : Step} (opening : Opening chunkless settings trailing state)
    (reads : Reads state step after) :
    (ofReader step = false ∧ Opening chunkless settings trailing after) ∨
      ∃ cancel, step = .readerStarts cancel ∧ state.reader = .spawned ∧
        after = readerStarts state cancel := by
  have stepped := reads.taken
  have idle : state.reader ≠ .receiving := by
    rcases opening.reader with absent | ⟨spawned, _⟩
    · rw [absent]
      exact nofun
    · rw [spawned]
      exact nofun
  by_cases other : ofReader step = false
  · exact .inl ⟨other, opening_next opening other stepped (reads.calm other)⟩
  · unfold Steps next at stepped
    cases step with
    | readerStarts cancel =>
        dsimp only at stepped
        split at stepped
        · rename_i spawned
          cases stepped
          exact .inr ⟨cancel, rfl, spawned, rfl⟩
        · cases stepped
    | readerReceives chunk cancel =>
        dsimp only at stepped
        split at stepped
        · rename_i receives
          exact absurd receives.1 idle
        · cases stepped
    | readerEnds cancel again =>
        dsimp only at stepped
        split at stepped
        · rename_i receives
          exact absurd receives idle
        · cases stepped
    | readerRaises interrupt cancel => exact absurd rfl (reads.arrives interrupt cancel)
    | _ => exact absurd rfl other

theorem starts_position {cancel : Cancel} (opening : Opening chunkless settings trailing state)
    (reads : Reads state (.readerStarts cancel) after) (spawned : state.reader = .spawned)
    (is : after = readerStarts state cancel) :
    Position chunkless settings trailing trailing false after := by
  have joined := opening.reader.resolve_left (by rw [spawned]; exact nofun)
  have settled := settled_next reads.taken joined.2.1
  subst is
  exact readerStarts_position opening spawned cancel settled reads.room

theorem opening_position {step : Step} (opening : Opening chunkless settings trailing state)
    (reads : Reads state step after) :
    Position chunkless settings trailing (octetsOf trailing step) (isEnd step) after := by
  obtain ⟨other, still⟩ | ⟨cancel, rfl, spawned, is⟩ := opening_cases opening reads
  · obtain ⟨none, goesOn⟩ := quiet_step trailing other
    rw [none, goesOn]
    exact .opening after still
  · exact starts_position opening reads spawned is

theorem reading_position {step : Step} {octets : Bytes} (receives : state.reader = .receiving)
    (settled : Settled (core state))
    (listens : Listens chunkless settings taken octets (chunkless.decode octets) state)
    (reads : Reads state step after) :
    Position chunkless settings trailing (taken ++ octetsOf trailing step) (isEnd step) after := by
  have stepped := reads.taken
  have later := settled_next stepped settled
  by_cases other : ofReader step = false
  · obtain ⟨none, goesOn⟩ := quiet_step trailing other
    rw [none, goesOn, List.append_nil]
    exact reading_next receives settled listens other stepped (reads.calm other)
  · have room := reads.room
    cases step with
    | readerStarts cancel =>
        unfold Steps next at stepped
        dsimp only at stepped
        split at stepped
        · rename_i spawned
          cases spawned.symm.trans receives
        · cases stepped
    | readerReceives chunk cancel =>
        unfold Steps next at stepped
        dsimp only at stepped
        split at stepped
        · cases stepped
          have active : Listens chunkless settings taken octets (chunkless.decode octets)
              { state with lastActivity := state.now } :=
            ⟨listens.config, listens.guarded, listens.heard,
              listens.keeps.beside ⟨rfl, rfl, rfl, rfl, rfl⟩, listens.silent, listens.connected,
              listens.running, listens.unfailed⟩
          refine goesOn_position (receive_attempt active chunk fun fault raised => ?_) later
          exact room fault _ (congrArg some (Prod.ext raised rfl))
        · cases stepped
    | readerEnds cancel again =>
        have is : next state (.readerEnds cancel again) = some (readerEnds state cancel again) :=
          if_pos receives
        cases is.symm.trans stepped
        show Position chunkless settings trailing (taken ++ []) true _
        rw [List.append_nil]
        exact readerEnds_position listens cancel again room
    | readerRaises interrupt cancel => exact absurd rfl (reads.arrives interrupt cancel)
    | _ => exact absurd rfl other

theorem position_next {step : Step} {finished : Bool}
    (position : Position chunkless settings trailing taken finished state)
    (reads : Reads state step after) :
    Position chunkless settings trailing (taken ++ octetsOf trailing step)
      (finished || isEnd step) after := by
  cases position with
  | ended _ _ messages code reason _ stopped verdict delivered told =>
      exact absurd stopped reads.runs
  | opening _ opening => exact opening_position opening reads
  | reading _ octets _ receives settled listens =>
      exact reading_position receives settled listens reads

end Steps

end SmallServer.WebSocketListening
