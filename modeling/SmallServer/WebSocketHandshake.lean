import SmallServer.WebSocketSteps

/-!
# The handshake decision

`handshake_state` moves along the edges below and stays where it ends. That needs one
condition: no `send_all` returns to an `accept` or a `reject` after another task has failed
the handshake, for these two set their result without asking.
-/

namespace SmallServer.WebSocketHandshake

open SmallServer HttpValues KernelTransport WebSocket WebSocketState WebSocketTasks
  WebSocketEffects WebSocketSteps Runs

set_option autoImplicit false

section Moves

inductive Move : HandshakeState → HandshakeState → Prop
  | claimsAccept : Move .pending .accepting
  | claimsReject : Move .pending .rejecting
  | failsPending : Move .pending .failed
  | accepts : Move .accepting .accepted
  | failsAccept : Move .accepting .failed
  | rejects : Move .rejecting .rejected
  | failsReject : Move .rejecting .failed

abbrev Moves : HandshakeState → HandshakeState → Prop := Relation.ReflTransGen Move

theorem move_undecided {before after : HandshakeState} (move : Move before after) :
    before.undecided = true := by
  cases move with
  | _ => rfl

theorem moves_decided {before after : HandshakeState} (moves : Moves before after)
    (decided : before.undecided = false) : after = before := by
  obtain same | ⟨middle, move, -⟩ := moves.cases_head
  · exact same.symm
  · exact Bool.noConfusion (decided.symm.trans (move_undecided move))

end Moves

section Invariant

/-- The flags agree with `handshake_state`, and so does every call that waits for the kernel to
take a handshake response. -/
structure Consistent (core : Core) : Prop where
  accepted : core.accepted = true → core.handshakeState = .accepted ∧ core.hasProtocol = true
  rejected : core.rejected = true → core.handshakeState = .rejected
  accepts : ∀ caller send subprotocol, core.calls caller = .accepts send subprotocol →
    (core.handshakeState = .accepting ∧ core.hasProtocol = true) ∨ core.handshakeState = .failed
  rejects : ∀ caller send, core.calls caller = .rejects send →
    core.handshakeState = .rejecting ∨ core.handshakeState = .failed
  single : ∀ first second, inFlight (core.calls first) = true →
    inFlight (core.calls second) = true → first = second

variable {core : Core} (consistent : Consistent core)

include consistent

theorem Consistent.flying {caller : Caller} (flies : inFlight (core.calls caller) = true) :
    core.handshakeState = .accepting ∨ core.handshakeState = .rejecting ∨
      core.handshakeState = .failed := by
  cases call : core.calls caller with
  | accepts send subprotocol =>
      obtain ⟨accepting, -⟩ | failed := consistent.accepts caller send subprotocol call
      · exact .inl accepting
      · exact .inr (.inr failed)
  | rejects send => exact .inr (consistent.rejects caller send call)
  | _ =>
      rw [call] at flies
      cases flies

theorem Consistent.quiet (pending : core.handshakeState = .pending) (caller : Caller) :
    inFlight (core.calls caller) = false := by
  refine Bool.eq_false_iff.mpr fun flies => ?_
  have states := consistent.flying flies
  rw [pending] at states
  rcases states with states | states | states
  · cases states
  · cases states
  · cases states

omit consistent in
theorem update_inFlight {calls : Caller → Call} {caller other : Caller} {call : Call}
    (waits : inFlight call = false)
    (flies : inFlight (Function.update calls caller call other) = true) :
    other ≠ caller ∧ inFlight (calls other) = true := by
  by_cases same : other = caller
  · subst same
    rw [Function.update_self] at flies
    exact Bool.noConfusion (waits.symm.trans flies)
  · rw [Function.update_of_ne same] at flies
    exact ⟨same, flies⟩

theorem Consistent.moved (caller : Caller) {call : Call}
    (waits : inFlight call = false) :
    Consistent { core with calls := Function.update core.calls caller call } where
  accepted := consistent.accepted
  rejected := consistent.rejected
  accepts := by
    intro other send subprotocol is
    change Function.update core.calls caller call other = .accepts send subprotocol at is
    by_cases same : other = caller
    · subst same
      rw [Function.update_self] at is
      rw [is] at waits
      cases waits
    · rw [Function.update_of_ne same] at is
      exact consistent.accepts other send subprotocol is
  rejects := by
    intro other send is
    change Function.update core.calls caller call other = .rejects send at is
    by_cases same : other = caller
    · subst same
      rw [Function.update_self] at is
      rw [is] at waits
      cases waits
    · rw [Function.update_of_ne same] at is
      exact consistent.rejects other send is
  single := fun first second left right =>
    consistent.single first second (update_inFlight waits left).2 (update_inFlight waits right).2

end Invariant

section Changes

variable {before after : Core}

theorem update_alone {calls : Caller → Call} {caller other : Caller} {call : Call}
    (alone : ∀ other, other ≠ caller → inFlight (calls other) = false)
    (flies : inFlight (Function.update calls caller call other) = true) : other = caller := by
  by_contra different
  rw [Function.update_of_ne different] at flies
  exact Bool.noConfusion ((alone other different).symm.trans flies)

theorem Consistent.alone (consistent : Consistent before) {caller : Caller}
    (flies : inFlight (before.calls caller) = true) (other : Caller) (different : other ≠ caller) :
    inFlight (before.calls other) = false :=
  Bool.eq_false_iff.mpr fun also => different (consistent.single other caller also flies)

theorem accepting_consistent (before : Core) {caller : Caller} (send : SendAll)
    (subprotocol : Option Text)
    (accepted : before.accepted = false) (rejected : before.rejected = false)
    (accepting : (before.handshakeState = .accepting ∧ before.hasProtocol = true) ∨
      before.handshakeState = .failed)
    (alone : ∀ other, other ≠ caller → inFlight (before.calls other) = false) :
    Consistent { before with
      calls := Function.update before.calls caller (.accepts send subprotocol) } where
  accepted := fun is => Bool.noConfusion (accepted.symm.trans is)
  rejected := fun is => Bool.noConfusion (rejected.symm.trans is)
  accepts := fun _ _ _ _ => accepting
  rejects := by
    intro other later is
    change Function.update before.calls caller _ other = _ at is
    have same : other = caller := update_alone alone (by rw [is]; rfl)
    subst same
    rw [Function.update_self] at is
    cases is
  single := fun _ _ left right => (update_alone alone left).trans (update_alone alone right).symm

theorem rejecting_consistent (before : Core) {caller : Caller} (send : SendAll)
    (accepted : before.accepted = false) (rejected : before.rejected = false)
    (rejecting : before.handshakeState = .rejecting ∨ before.handshakeState = .failed)
    (alone : ∀ other, other ≠ caller → inFlight (before.calls other) = false) :
    Consistent { before with
      calls := Function.update before.calls caller (.rejects send) } where
  accepted := fun is => Bool.noConfusion (accepted.symm.trans is)
  rejected := fun is => Bool.noConfusion (rejected.symm.trans is)
  accepts := by
    intro other later subprotocol is
    change Function.update before.calls caller _ other = _ at is
    have same : other = caller := update_alone alone (by rw [is]; rfl)
    subst same
    rw [Function.update_self] at is
    cases is
  rejects := fun _ _ _ => rejecting
  single := fun _ _ left right => (update_alone alone left).trans (update_alone alone right).symm

theorem landed_consistent (before : Core) {caller : Caller}
    (accepted : before.accepted = true →
      before.handshakeState = .accepted ∧ before.hasProtocol = true)
    (rejected : before.rejected = true → before.handshakeState = .rejected)
    (alone : ∀ other, other ≠ caller → inFlight (before.calls other) = false) :
    Consistent { before with calls := Function.update before.calls caller .idle } := by
  have quiet : ∀ other, inFlight (Function.update before.calls caller .idle other) = false := by
    intro other
    refine Bool.eq_false_iff.mpr fun flies => ?_
    have moved := update_inFlight rfl flies
    exact Bool.noConfusion ((alone other moved.1).symm.trans moved.2)
  refine ⟨accepted, rejected, fun other send subprotocol is => ?_, fun other send is => ?_,
    fun first _ flies => ?_⟩
  · have still := quiet other
    rw [show Function.update before.calls caller .idle other = _ from is] at still
    cases still
  · have still := quiet other
    rw [show Function.update before.calls caller .idle other = _ from is] at still
    cases still
  · exact Bool.noConfusion ((quiet first).symm.trans flies)

theorem Consistent.unset (consistent : Consistent before)
    (undecided : before.handshakeState ≠ .accepted ∧ before.handshakeState ≠ .rejected) :
    before.accepted = false ∧ before.rejected = false :=
  ⟨Bool.eq_false_iff.mpr fun is => undecided.1 (consistent.accepted is).1,
    Bool.eq_false_iff.mpr fun is => undecided.2 (consistent.rejected is)⟩

theorem Consistent.flies_unset (consistent : Consistent before) {caller : Caller}
    (flies : inFlight (before.calls caller) = true) :
    before.accepted = false ∧ before.rejected = false := by
  refine consistent.unset ?_
  rcases consistent.flying flies with is | is | is
  · rw [is]
    exact ⟨nofun, nofun⟩
  · rw [is]
    exact ⟨nofun, nofun⟩
  · rw [is]
    exact ⟨nofun, nofun⟩

theorem Consistent.same (consistent : Consistent before)
    (handshake : after.handshakeState = before.handshakeState)
    (accepted : after.accepted = before.accepted) (rejected : after.rejected = before.rejected)
    (protocol : after.hasProtocol = before.hasProtocol) (calls : after.calls = before.calls) :
    Consistent after where
  accepted := by
    rw [handshake, accepted, protocol]
    exact consistent.accepted
  rejected := by
    rw [handshake, rejected]
    exact consistent.rejected
  accepts := by
    rw [handshake, protocol, calls]
    exact consistent.accepts
  rejects := by
    rw [handshake, calls]
    exact consistent.rejects
  single := by
    rw [calls]
    exact consistent.single

theorem change_consistent (change : Change (· ≠ .lateDecision) before after)
    (consistent : Consistent before) : Consistent after := by
  cases change with
  | handshakeFailed unfailed undecided =>
      exact {
        accepted := nofun
        rejected := nofun
        accepts := fun _ _ _ _ => .inr rfl
        rejects := fun _ _ _ => .inr rfl
        single := consistent.single }
  | acceptBegun caller send subprotocol pending =>
      have unset := consistent.unset (by rw [pending]; exact ⟨nofun, nofun⟩)
      exact accepting_consistent { before with
        handshakeState := .accepting
        hasProtocol := true } send subprotocol unset.1 unset.2 (.inl ⟨rfl, rfl⟩)
        fun other _ => consistent.quiet pending other
  | rejectBegun caller send pending =>
      have unset := consistent.unset (by rw [pending]; exact ⟨nofun, nofun⟩)
      exact rejecting_consistent { before with handshakeState := .rejecting } send
        unset.1 unset.2 (.inl rfl) fun other _ => consistent.quiet pending other
  | acceptTurned caller send later subprotocol was =>
      have flies : inFlight (before.calls caller) = true := by
        rw [was]
        rfl
      have unset := consistent.flies_unset flies
      exact accepting_consistent before later subprotocol unset.1 unset.2
        (consistent.accepts caller send subprotocol was) (consistent.alone flies)
  | rejectTurned caller send later was =>
      have flies : inFlight (before.calls caller) = true := by
        rw [was]
        rfl
      have unset := consistent.flies_unset flies
      exact rejecting_consistent before later unset.1 unset.2 (consistent.rejects caller send was)
        (consistent.alone flies)
  | acceptCommitted caller send subprotocol was late =>
      have flies : inFlight (before.calls caller) = true := by
        rw [was]
        rfl
      have unset := consistent.flies_unset flies
      have timely : before.handshakeState ≠ .failed := fun failed => late failed rfl
      have accepting := (consistent.accepts caller send subprotocol was).resolve_right timely
      refine landed_consistent { before with
        accepted := true
        handshakeState := .accepted } (fun _ => ⟨rfl, accepting.2⟩) ?_ (consistent.alone flies)
      exact fun is => Bool.noConfusion (unset.2.symm.trans is)
  | rejectCommitted caller send was late =>
      have flies : inFlight (before.calls caller) = true := by
        rw [was]
        rfl
      have unset := consistent.flies_unset flies
      refine landed_consistent { before with
        rejected := true
        handshakeState := .rejected } ?_ (fun _ => rfl) (consistent.alone flies)
      exact fun is => Bool.noConfusion (unset.1.symm.trans is)
  | callLeft caller => exact consistent.moved caller rfl
  | callMoved caller call other was waits => exact consistent.moved caller waits
  | coordinatorCloses event size closes unsent repeats stranded stays =>
      have moved : Consistent { before with
          calls := Function.update before.calls .coordinator (.sends before.commands.length) } :=
        consistent.moved .coordinator rfl
      exact moved.same rfl rfl rfl rfl rfl
  | closeConfirmed command was =>
      have moved : Consistent { before with
          calls := Function.update before.calls .coordinator .idle } :=
        consistent.moved .coordinator rfl
      exact moved.same rfl rfl rfl rfl rfl
  | _ => exact consistent.same rfl rfl rfl rfl rfl

theorem change_moves (change : Change (· ≠ .lateDecision) before after)
    (consistent : Consistent before) : Moves before.handshakeState after.handshakeState := by
  have fails : before.handshakeState = .accepting ∨ before.handshakeState = .rejecting ∨
      before.handshakeState = .failed → before.handshakeState ≠ .failed →
        Moves before.handshakeState .failed := by
    rintro (is | is | is) unfailed
    · rw [is]
      exact .single .failsAccept
    · rw [is]
      exact .single .failsReject
    · exact absurd is unfailed
  cases change with
  | handshakeFailed unfailed undecided =>
      obtain undecided | ⟨caller, flies⟩ := undecided
      · change Moves before.handshakeState .failed
        cases is : before.handshakeState with
        | pending => exact .single .failsPending
        | accepting => exact .single .failsAccept
        | rejecting => exact .single .failsReject
        | failed => exact .refl
        | _ =>
            rw [is] at undecided
            cases undecided
      · exact fails (consistent.flying flies) unfailed
  | acceptBegun caller send subprotocol pending =>
      change Moves before.handshakeState .accepting
      rw [pending]
      exact .single .claimsAccept
  | rejectBegun caller send pending =>
      change Moves before.handshakeState .rejecting
      rw [pending]
      exact .single .claimsReject
  | acceptCommitted caller send subprotocol was late =>
      have timely : before.handshakeState ≠ .failed := fun failed => late failed rfl
      have accepting := (consistent.accepts caller send subprotocol was).resolve_right timely
      change Moves before.handshakeState .accepted
      rw [accepting.1]
      exact .single .accepts
  | rejectCommitted caller send was late =>
      have timely : before.handshakeState ≠ .failed := fun failed => late failed rfl
      have rejecting := (consistent.rejects caller send was).resolve_right timely
      change Moves before.handshakeState .rejected
      rw [rejecting]
      exact .single .rejects
  | _ => exact .refl

end Changes

section Runs

variable {engine : Engine} {start state : WebSocketState engine} {labels : List Step}

theorem consistent_initial (config : WebSocketConfig) (subprotocols offered : List Text)
    (trailingData : Bytes) (now : Nat) :
    Consistent (core (initial engine config subprotocols offered trailingData now)) where
  accepted := nofun
  rejected := nofun
  accepts := nofun
  rejects := nofun
  single := nofun

theorem run_consistent (run : Run (Avoids .lateDecision) start labels state)
    (consistent : Consistent (core start)) : Consistent (core state) :=
  run_invariant (fun _ _ => change_consistent) consistent run

theorem changes_moves {before after : Core} (changes : Changes (· ≠ .lateDecision) before after)
    (consistent : Consistent before) : Moves before.handshakeState after.handshakeState := by
  induction changes with
  | refl => exact .refl
  | tail earlier change hypothesis =>
      have middle := changes_invariant (fun _ _ => change_consistent) consistent earlier
      exact hypothesis.trans (change_moves change middle)

theorem run_moves (run : Run (Avoids .lateDecision) start labels state)
    (consistent : Consistent (core start)) : Moves start.handshakeState state.handshakeState := by
  induction run with
  | nil => exact .refl
  | snoc step earlier avoids hypothesis =>
      have middle := run_consistent earlier consistent
      exact hypothesis.trans (changes_moves avoids.changes middle)

end Runs

/-- In every run in which no response is decided late, `handshake_state` moves along the edges,
a decision is final, and the flags agree with it. -/
theorem handshake_final (engine : Engine) (config : WebSocketConfig)
    (subprotocols offered : List Text) (trailingData : Bytes) (now : Nat)
    (earlier later : List Step) (state last : WebSocketState engine)
    (reached : Run (Avoids .lateDecision)
      (initial engine config subprotocols offered trailingData now) earlier state)
    (goesOn : Run (Avoids .lateDecision) state later last) :
    Moves state.handshakeState last.handshakeState ∧
      (state.handshakeState.undecided = false → last.handshakeState = state.handshakeState) ∧
      ¬(last.accepted = true ∧ last.rejected = true) ∧
      (last.accepted = true →
        last.handshakeState = .accepted ∧ last.protocol.isSome = true) := by
  have consistent := run_consistent reached
    (consistent_initial config subprotocols offered trailingData now)
  have moves := run_moves goesOn consistent
  have settled := run_consistent goesOn consistent
  refine ⟨moves, moves_decided moves, ?_, settled.accepted⟩
  rintro ⟨accepted, rejected⟩
  have both := (settled.accepted accepted).1.symm.trans (settled.rejected rejected)
  cases both

section Samples

def timely (state : WebSocketState sampleEngine) (_ : Step) : Bool :=
  decide (state.handshakeState ≠ .failed)

theorem timely_sound (state : WebSocketState sampleEngine) (step : Step)
    (test : timely state step = true) : ¬Commits state .lateDecision step := by
  have unfailed : state.handshakeState ≠ .failed := of_decide_eq_true test
  cases step with
  | sendsHandshake caller reply interrupt => exact fun commits => unfailed commits.1
  | _ => exact id

def sampleAccepted : WebSocketState sampleEngine :=
  endOf (nextWhere timely) sampleStart sampleOpening

def sampleRest : List Step :=
  [.deadlineStarts, .sendsMessage .handler (.bytes [1]), .requestsShutdown 1001 sampleCancel,
    .readerEnds sampleCancel sampleCancel]

def sampleLeft : WebSocketState sampleEngine := endOf (nextWhere timely) sampleAccepted sampleRest

theorem handshake_final_sample :
    Moves sampleAccepted.handshakeState sampleLeft.handshakeState ∧
      (sampleAccepted.handshakeState.undecided = false →
        sampleLeft.handshakeState = sampleAccepted.handshakeState) ∧
      ¬(sampleLeft.accepted = true ∧ sampleLeft.rejected = true) ∧
      (sampleLeft.accepted = true →
        sampleLeft.handshakeState = .accepted ∧ sampleLeft.protocol.isSome = true) :=
  handshake_final sampleEngine {} [] [] [] 0 sampleOpening sampleRest sampleAccepted sampleLeft
    (run_endOf (avoids_nextWhere timely_sound) (by decide +kernel))
    (run_endOf (avoids_nextWhere timely_sound) (by decide +kernel))

/-- The reject of the deadline task is under way when the server shuts down. -/
def rejectsLate : List Step :=
  [.coordinatorStarts, .handlerStarts, .deadlineStarts, .passes 10000,
    .deadlineWakes sampleResponse sampleCancel sampleCancel,
    .sendsHandshake .deadline (.raised (some .write)) false,
    .requestsShutdown 1001 sampleCancel]

/-- The accept of a task that the shutdown does not cancel is under way. -/
def acceptsLate : List Step :=
  [.coordinatorStarts, .handlerStarts, .accepts (.other 0) none (some sampleResponse),
    .requestsShutdown 1001 sampleCancel]

def failedReject : WebSocketState sampleEngine := endOf next sampleStart rejectsLate

def failedAccept : WebSocketState sampleEngine := endOf next sampleStart acceptsLate

def lateReject : WebSocketState sampleEngine :=
  sendHandshake .deadline failedReject (.sent 1) false

def lateAccept : WebSocketState sampleEngine :=
  sendHandshake (.other 0) failedAccept (.sent 1) false

theorem failed_handshake_decided :
    Run Steps sampleStart rejectsLate failedReject ∧
      Steps failedReject (.sendsHandshake .deadline (.sent 1) false) lateReject ∧
      failedReject.handshakeState = .failed ∧ lateReject.handshakeState = .rejected ∧
    Run Steps sampleStart acceptsLate failedAccept ∧
      Steps failedAccept (.sendsHandshake (.other 0) (.sent 1) false) lateAccept ∧
      failedAccept.handshakeState = .failed ∧ lateAccept.handshakeState = .accepted ∧
      lateAccept.accepted = true ∧ lateAccept.protocol = none :=
  ⟨run_endOf (fun _ _ _ => id) (by decide +kernel), rfl, by decide +kernel, by decide +kernel,
    run_endOf (fun _ _ _ => id) (by decide +kernel), rfl, by decide +kernel, by decide +kernel,
    by decide +kernel, by decide +kernel⟩

end Samples

end SmallServer.WebSocketHandshake
