import SmallServer.WebSocketSteps

/-!
# The Closes of a connection

Six paths append a Close. `close_sent` keeps all but one of them from doing so, as long as
each path asks for it first, and it tells the truth, as long as it is set only where the outbox
took the Close.
-/

namespace SmallServer.WebSocketClosing

open SmallServer HttpValues KernelTransport WebSocket WebSocketState WebSocketTasks
  WebSocketEffects WebSocketSteps Runs

set_option autoImplicit false

section Signatures

/-- What is asked of a command, whatever became of it. -/
def signature (commands : List OutboundCommand) : List (Event × Option Caller) :=
  commands.map fun command => (command.event, command.waiter)

theorem signature_append (commands more : List OutboundCommand) :
    signature (commands ++ more) = signature commands ++ signature more :=
  List.map_append

theorem signature_modify (commands : List OutboundCommand) (id : CommandId)
    (change : OutboundCommand → OutboundCommand)
    (keeps : ∀ command, (change command).event = command.event ∧
      (change command).waiter = command.waiter) :
    signature (commands.modify id change) = signature commands := by
  refine List.ext_getElem? fun place => ?_
  unfold signature
  rw [List.getElem?_map, List.getElem?_map, List.getElem?_modify]
  cases commands[place]? with
  | none => rfl
  | some command =>
      by_cases here : id = place
      · simp [here, (keeps command).1, (keeps command).2]
      · simp [here]

theorem signature_settle (ids : List CommandId) (error : Fault)
    (commands : List OutboundCommand) :
    signature (settle ids error commands) = signature commands := by
  refine List.ext_getElem? fun place => ?_
  unfold signature settle
  rw [List.getElem?_map, List.getElem?_map, List.getElem?_mapIdx]
  cases commands[place]? with
  | none => rfl
  | some command =>
      by_cases settled : place ∈ ids
      · simp [settled]
      · simp [settled]

def closes (commands : List OutboundCommand) : Nat :=
  commands.countP fun command => command.event.isClose

theorem closes_signature (commands : List OutboundCommand) :
    closes commands = (signature commands).countP fun entry => entry.1.isClose := by
  unfold closes signature
  rw [List.countP_map]
  rfl

theorem closes_append (commands : List OutboundCommand) (event : Event) (size : Nat)
    (waiter : Option Caller) :
    closes (commands ++ [{ event := event, size := size, waiter := waiter }]) =
      closes commands + if event.isClose then 1 else 0 := by
  unfold closes
  rw [List.countP_append, List.countP_singleton]

theorem closed_iff (core : Core) : core.Closed ↔ 0 < closes core.commands :=
  List.countP_pos_iff.symm

theorem owes_iff (core : Core) : core.Owes ↔
    core.closeSent = false ∧
      ∃ event, (event, some Caller.coordinator) ∈ signature core.commands := by
  unfold Core.Owes signature
  refine and_congr_right fun _ => ?_
  constructor
  · rintro ⟨command, member, waits⟩
    exact ⟨command.event, List.mem_map.mpr ⟨command, member, by rw [waits]⟩⟩
  · rintro ⟨event, member⟩
    obtain ⟨command, member, is⟩ := List.mem_map.mp member
    exact ⟨command, member, congrArg Prod.snd is⟩

end Signatures

section Single

/-- At most one Close was appended, and where one was, `close_sent` is set or will be. -/
structure Single (core : Core) : Prop where
  single : closes core.commands ≤ 1
  guarded : core.Closed → core.closeSent = true ∨ core.Owes

variable {before after : Core}

theorem Single.same (held : Single before)
    (signatures : signature after.commands = signature before.commands)
    (sent : after.closeSent = before.closeSent) : Single after := by
  have counts : closes after.commands = closes before.commands := by
    rw [closes_signature, closes_signature, signatures]
  refine ⟨counts.le.trans held.single, ?_⟩
  rw [closed_iff, owes_iff, counts, signatures, sent, ← closed_iff, ← owes_iff]
  exact held.guarded

theorem Single.none (held : Single before)
    (first : before.Repeats → Defect.secondClose ≠ .secondClose) : closes before.commands = 0 := by
  by_contra some
  have closed : before.Closed := (closed_iff before).mpr (Nat.pos_of_ne_zero some)
  obtain sent | owes := held.guarded closed
  · exact first (.inl ⟨sent, closed⟩) rfl
  · exact first (.inr owes) rfl

theorem change_single (change : Change (· ≠ .secondClose) before after)
    (held : Single before) : Single after := by
  cases change with
  | enqueued event size waiter other asked stranded =>
      have counts := closes_append before.commands event size waiter
      rw [other] at counts
      refine ⟨counts.le.trans held.single, fun closed => ?_⟩
      have formerly : before.Closed := by
        rw [closed_iff] at closed ⊢
        exact closed.trans_eq counts
      refine (held.guarded formerly).imp id fun owes => ?_
      rw [owes_iff] at owes ⊢
      refine owes.imp_right fun coordinators => coordinators.imp fun event member => ?_
      rw [signature_append]
      exact List.mem_append_left _ member
  | closeEnqueued event size waiter closing repeats stranded =>
      have counts := closes_append before.commands event size waiter
      rw [held.none repeats, closing] at counts
      exact ⟨counts.le, fun _ => .inl rfl⟩
  | closeRefused refused => exact ⟨held.single, fun _ => .inl rfl⟩
  | coordinatorCloses event size closing unsent repeats stranded stays =>
      have counts := closes_append before.commands event size (some .coordinator)
      rw [held.none repeats, closing] at counts
      refine ⟨counts.le, fun _ => .inr ⟨unsent,
        { event := event, size := size, waiter := some .coordinator }, ?_, rfl⟩⟩
      exact List.mem_append_right _ (List.mem_singleton.mpr rfl)
  | closeConfirmed command was => exact ⟨held.single, fun _ => .inl rfl⟩
  | commandPassed command outbox frame fault writer loops queued passed broken goes =>
      exact held.same (signature_modify _ _ _ fun _ => ⟨rfl, rfl⟩) rfl
  | frameFinished command send rest accepted sends whole =>
      exact held.same (signature_modify _ _ _ fun _ => ⟨rfl, rfl⟩) rfl
  | frameFailed command send rest fault writer sends written goes =>
      exact held.same (signature_modify _ _ _ fun _ => ⟨rfl, rfl⟩) rfl
  | frameClosed command send rest sends idle =>
      exact held.same (signature_modify _ _ _ fun _ => ⟨rfl, rfl⟩) rfl
  | outboundFailed disconnect => exact held.same (signature_settle _ _ _) rfl
  | _ => exact held.same rfl rfl

theorem single_initial (engine : Engine) (config : WebSocketConfig)
    (subprotocols offered : List Text) (trailingData : Bytes) (now : Nat) :
    Single (core (initial engine config subprotocols offered trailingData now)) where
  single := Nat.zero_le 1
  guarded := by
    rintro ⟨command, member, -⟩
    cases member

/-- At most one Close is appended as long as no step appends one in the two windows that
`close_sent` does not guard: after it is set, by a path that does not read it, and between the
coordinator's append and its assignment of `close_sent`. -/
theorem at_most_one_close (engine : Engine) (config : WebSocketConfig)
    (subprotocols offered : List Text) (trailingData : Bytes) (now : Nat) (labels : List Step)
    (state : WebSocketState engine)
    (run : Run (Avoids .secondClose)
      (initial engine config subprotocols offered trailingData now) labels state) :
    closes state.commands ≤ 1 :=
  (run_invariant (fun _ _ => change_single)
    (single_initial engine config subprotocols offered trailingData now) run).single

end Single

section Truth

/-- `close_sent` is set only where a Close was appended, and the coordinator waits for nothing
but its own. -/
structure Truthful (core : Core) : Prop where
  sent : core.closeSent = true → core.Closed
  waits : ∀ command, core.calls .coordinator = .sends command → core.Closed

variable {before after : Core}

theorem Truthful.same (held : Truthful before)
    (signatures : signature after.commands = signature before.commands)
    (sent : after.closeSent = before.closeSent)
    (calls : ∀ command, after.calls .coordinator = .sends command →
      before.calls .coordinator = .sends command) : Truthful after := by
  have closed : after.Closed ↔ before.Closed := by
    rw [closed_iff, closed_iff, closes_signature, closes_signature, signatures]
  refine ⟨?_, fun command is => closed.mpr (held.waits command (calls command is))⟩
  rw [closed, sent]
  exact held.sent

theorem update_sends {calls : Caller → Call} {caller : Caller} {call : Call} {id : CommandId}
    (other : caller = .coordinator → ∀ id, call ≠ .sends id)
    (is : Function.update calls caller call .coordinator = .sends id) :
    calls .coordinator = .sends id := by
  by_cases same : caller = .coordinator
  · subst same
    rw [Function.update_self] at is
    exact absurd is (other rfl id)
  · rw [Function.update_of_ne (Ne.symm same)] at is
    exact is

theorem closed_last {event : Event} {size : Nat} {waiter : Option Caller}
    (closes : event.isClose = true)
    (appended : after.commands = before.commands ++
      [{ event := event, size := size, waiter := waiter }]) : after.Closed := by
  refine ⟨{ event := event, size := size, waiter := waiter }, ?_, closes⟩
  rw [appended]
  exact List.mem_append_right _ (List.mem_singleton.mpr rfl)

theorem change_truthful (change : Change (· ≠ .refusedClose) before after)
    (held : Truthful before) : Truthful after := by
  cases change with
  | acceptBegun caller send subprotocol pending =>
      exact held.same rfl rfl fun _ => update_sends fun _ _ => nofun
  | rejectBegun caller send pending =>
      exact held.same rfl rfl fun _ => update_sends fun _ _ => nofun
  | acceptTurned caller send later subprotocol was =>
      exact held.same rfl rfl fun _ => update_sends fun _ _ => nofun
  | rejectTurned caller send later was =>
      exact held.same rfl rfl fun _ => update_sends fun _ _ => nofun
  | acceptCommitted caller send subprotocol was late =>
      exact held.same rfl rfl fun _ => update_sends fun _ _ => nofun
  | rejectCommitted caller send was late =>
      exact held.same rfl rfl fun _ => update_sends fun _ _ => nofun
  | callLeft caller => exact held.same rfl rfl fun _ => update_sends fun _ _ => nofun
  | callMoved caller call other was waits =>
      exact held.same rfl rfl fun _ => update_sends fun same => absurd same other
  | enqueued event size waiter other asked stranded =>
      refine ⟨fun sent => ?_, fun id waits => ?_⟩
      · obtain ⟨command, member, closing⟩ := held.sent sent
        exact ⟨command, List.mem_append_left _ member, closing⟩
      · obtain ⟨command, member, closing⟩ := held.waits id waits
        exact ⟨command, List.mem_append_left _ member, closing⟩
  | closeEnqueued event size waiter closing repeats stranded =>
      exact ⟨fun _ => closed_last closing rfl, fun _ _ => closed_last closing rfl⟩
  | closeRefused refused =>
      have closed : before.Closed := by
        by_contra none
        exact refused none rfl
      exact ⟨fun _ => closed, held.waits⟩
  | coordinatorCloses event size closing unsent repeats stranded stays =>
      exact ⟨fun _ => closed_last closing rfl, fun _ _ => closed_last closing rfl⟩
  | closeConfirmed command was =>
      have closed : before.Closed := held.waits command was
      exact ⟨fun _ => closed, fun _ _ => closed⟩
  | commandPassed command outbox frame fault writer loops queued passed broken goes =>
      exact held.same (signature_modify _ _ _ fun _ => ⟨rfl, rfl⟩) rfl fun _ => id
  | frameFinished command send rest accepted sends whole =>
      exact held.same (signature_modify _ _ _ fun _ => ⟨rfl, rfl⟩) rfl fun _ => id
  | frameFailed command send rest fault writer sends written goes =>
      exact held.same (signature_modify _ _ _ fun _ => ⟨rfl, rfl⟩) rfl fun _ => id
  | frameClosed command send rest sends idle =>
      exact held.same (signature_modify _ _ _ fun _ => ⟨rfl, rfl⟩) rfl fun _ => id
  | outboundFailed disconnect => exact held.same (signature_settle _ _ _) rfl fun _ => id
  | _ => exact held.same rfl rfl fun _ => id

theorem truthful_initial (engine : Engine) (config : WebSocketConfig)
    (subprotocols offered : List Text) (trailingData : Bytes) (now : Nat) :
    Truthful (core (initial engine config subprotocols offered trailingData now)) where
  sent := nofun
  waits := nofun

/-- In every run in which the outbox refuses no Close that sets `close_sent`, the flag is set
only where a Close was appended. -/
theorem close_sent_truthful (engine : Engine) (config : WebSocketConfig)
    (subprotocols offered : List Text) (trailingData : Bytes) (now : Nat) (labels : List Step)
    (state : WebSocketState engine)
    (run : Run (Avoids .refusedClose)
      (initial engine config subprotocols offered trailingData now) labels state)
    (sent : state.closeSent = true) :
    ∃ command ∈ state.commands, command.event.isClose = true :=
  (run_invariant (fun _ _ => change_truthful)
    (truthful_initial engine config subprotocols offered trailingData now) run).sent sent

end Truth

section Samples

def closesFirst (state : WebSocketState sampleEngine) : Step → Bool
  | .readerStarts _ => decide (state.trailingData = [])
  | .readerReceives _ _ => false
  | .readerEnds _ _ => false
  | .readerRaises _ _ => false
  | .sendsMessage _ _ => true
  | .writerTakes _ => true
  | .writerSends _ _ _ => true
  | .resumes _ => true
  | _ => state.commands.isEmpty

theorem first_unrepeated {state : WebSocketState sampleEngine} {size : Nat}
    (none : state.commands.isEmpty = true) : ¬Repeated state size := by
  have empty : (core state).commands = [] := List.isEmpty_iff.mp none
  rintro ⟨-, ⟨-, command, member, -⟩ | ⟨-, command, member, -⟩⟩
  · rw [empty] at member
    cases member
  · rw [empty] at member
    cases member

/-- Without a step of the reader there is only the last case. -/
theorem unread_unrepeated {state : WebSocketState sampleEngine} {step : Step} {closes : Prop}
    (unread : readerResult state step = none) (never : ¬closes) :
    ¬((∃ failed size, readerCloses state step failed size ∧ Repeated failed size) ∨
      (readerReplies state step ∧ (core state).Owes) ∨ closes) := by
  rintro (⟨failed, size, ⟨fault, is, -⟩, -⟩ | ⟨⟨-, last, is⟩, -⟩ | closing)
  · rw [unread] at is
    cases is
  · rw [unread] at is
    cases is
  · exact never closing

theorem closesFirst_sound (state : WebSocketState sampleEngine) (step : Step)
    (test : closesFirst state step = true) : ¬Commits state .secondClose step := by
  cases step with
  | readerStarts cancel => exact unread_unrepeated (if_pos (of_decide_eq_true test)) id
  | readerReceives chunk cancel => cases test
  | readerEnds cancel again => cases test
  | readerRaises interrupt cancel => cases test
  | closes caller code reason =>
      exact unread_unrepeated rfl fun closing => first_unrepeated test closing.2
  | requestsShutdown code cancel =>
      exact unread_unrepeated rfl fun closing => first_unrepeated test closing.2
  | coordinatorFinishes cancel closes =>
      exact unread_unrepeated rfl fun closing => first_unrepeated test closing.2
  | deadlineWakes response closing cancel =>
      exact unread_unrepeated rfl fun ⟨_, _, again⟩ => first_unrepeated test again
  | coordinatorJoins result =>
      exact unread_unrepeated rfl fun ⟨_, _, again⟩ => first_unrepeated test again
  | coordinatorCancelled =>
      exact unread_unrepeated rfl fun ⟨_, _, _, again⟩ => first_unrepeated test again
  | _ => exact unread_unrepeated rfl id

def closesOnce : List Step :=
  sampleOpening ++ [.deadlineStarts, .closes .handler 1000 "",
    .sendsMessage (.other 0) (.bytes [1]), .writerTakes sampleCancel,
    .writerSends (.sent 4) false sampleCancel]

def closedOnce : WebSocketState sampleEngine := endOf (nextWhere closesFirst) sampleStart closesOnce

theorem at_most_one_close_sample : closes closedOnce.commands ≤ 1 :=
  at_most_one_close sampleEngine {} [] [] [] 0 closesOnce closedOnce
    (run_endOf (avoids_nextWhere closesFirst_sound) (by decide +kernel))

/-- The application has closed when the peer sends a frame without a mask. -/
def closesTwice : List Step :=
  sampleOpening ++ [.closes .handler 1000 "", .readerReceives [0x82, 0x00] sampleCancel]

def closedTwice : WebSocketState sampleEngine := endOf next sampleStart closesTwice

theorem closed_twice :
    Run Steps sampleStart closesTwice closedTwice ∧ closes closedTwice.commands = 2 :=
  ⟨run_endOf (fun _ _ _ => id) (by decide +kernel), by decide +kernel⟩

def hasRoomFor (state : WebSocketState sampleEngine) : Step → Bool
  | .readerStarts _ => decide (state.trailingData = [])
  | .readerReceives _ _ => false
  | .readerEnds _ _ => false
  | .readerRaises _ _ => false
  | .deadlineWakes _ _ _ => false
  | .closes _ _ reason => state.hasRoom (2 + (encodeUtf8 reason).length)
  | .requestsShutdown _ _ => state.hasRoom 17
  | .coordinatorFinishes _ _ => state.hasRoom 17
  | _ => true

theorem unread_unrefused {state : WebSocketState sampleEngine} {step : Step} {closes : Prop}
    (unread : readerResult state step = none) (never : ¬closes) :
    ¬((∃ failed size, readerCloses state step failed size ∧ Refuses failed size) ∨ closes) := by
  rintro (⟨failed, size, ⟨fault, is, -⟩, -⟩ | closing)
  · rw [unread] at is
    cases is
  · exact never closing

theorem room_unrefused {state : WebSocketState sampleEngine} {size : Nat}
    (room : state.hasRoom size = true) : ¬Refuses state size := fun refuses =>
  Bool.noConfusion (refuses.1.symm.trans room)

theorem hasRoomFor_sound (state : WebSocketState sampleEngine) (step : Step)
    (test : hasRoomFor state step = true) : ¬Commits state .refusedClose step := by
  cases step with
  | readerStarts cancel => exact unread_unrefused (if_pos (of_decide_eq_true test)) id
  | readerReceives chunk cancel => cases test
  | readerEnds cancel again => cases test
  | readerRaises interrupt cancel => cases test
  | deadlineWakes response closing cancel => cases test
  | closes caller code reason =>
      exact unread_unrefused rfl fun closing => room_unrefused test closing.2
  | requestsShutdown code cancel =>
      exact unread_unrefused rfl fun closing => room_unrefused test closing.2
  | coordinatorFinishes cancel closes =>
      exact unread_unrefused rfl fun closing => room_unrefused test closing.2
  | _ => exact unread_unrefused rfl id

def closedWithRoom : WebSocketState sampleEngine :=
  endOf (nextWhere hasRoomFor) sampleStart closesOnce

theorem close_sent_truthful_sample :
    ∃ command ∈ closedWithRoom.commands, command.event.isClose = true :=
  close_sent_truthful sampleEngine {} [] [] [] 0 closesOnce closedWithRoom
    (run_endOf (avoids_nextWhere hasRoomFor_sound) (by decide +kernel)) (by decide +kernel)

def smallStart : WebSocketState sampleEngine :=
  initial sampleEngine
    { maxFramePayloadBytes := 64, maxOutboundBytes := 10, handshakeTimeout := 5000 } [] [] [] 0

def refusesOnly : List Step := sampleOpening ++ [.requestsShutdown 1001 sampleCancel]

def refusedOnly : WebSocketState sampleEngine := endOf next smallStart refusesOnly

theorem close_sent_untrue :
    Run Steps smallStart refusesOnly refusedOnly ∧ refusedOnly.closeSent = true ∧
      ¬∃ command ∈ refusedOnly.commands, command.event.isClose = true := by
  refine ⟨run_endOf (fun _ _ _ => id) (by decide +kernel), by decide +kernel, ?_⟩
  have none : refusedOnly.commands = [] := by decide +kernel
  rw [none]
  rintro ⟨command, member, -⟩
  cases member

end Samples

end SmallServer.WebSocketClosing
