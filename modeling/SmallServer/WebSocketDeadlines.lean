import SmallServer.WebSocketMoves
import SmallServer.WebSocketSteps

/-!
# The handshake deadline

Where the deadline task finds that an `accept` or a `reject` takes too long, it fails the
handshake at once. Where nobody has decided, it sends the rejection itself, and then waits for
the peer's socket like any other sender.
-/

namespace SmallServer.WebSocketDeadlines

open SmallServer HttpValues KernelTransport WebSocket WebSocketState WebSocketTasks
  WebSocketMoves WebSocketSteps Runs

set_option autoImplicit false

variable {engine : Engine}

section Waiting

/-- The deadline task has seen the timeout pass, the handshake is undecided, and only the peer's
socket takes the task on. -/
def AwaitsPeer (state : WebSocketState engine) : Prop :=
  state.handshakeState.undecided = true ∧ state.deadline = .rejects ∧
    ∃ send, state.calls .deadline = .rejects send

/-- A step in which the deadline task does not find an undecided handshake pending. -/
def Timely (state : WebSocketState engine) (step : Step) (after : WebSocketState engine) : Prop :=
  Steps state step after ∧ ¬overdue state step

variable {start state after : WebSocketState engine}

/-- Only a pending handshake that takes too long makes the deadline task reject. -/
theorem next_deadline {step : Step} (timely : Timely state step after)
    (elsewhere : state.deadline ≠ .rejects) : after.deadline ≠ .rejects := by
  have kept : ∀ {left right : Exchange}, Move (occasion state step) left right →
      left.deadline ≠ .rejects → right.deadline ≠ .rejects := by
    intro left right move was
    cases move with
    | deadlineMoved deadline rejects => exact fun is => timely.2 (rejects is)
    | pingFailed caller command generation waits =>
        split
        · exact was
        · exact was
    | _ => exact was
  have initially : (exchange state).deadline ≠ .rejects := elsewhere
  exact (next_moves step timely.1).keeps kept initially

theorem run_deadline {steps : List Step} (initially : start.deadline ≠ .rejects)
    (run : Run Timely start steps state) : state.deadline ≠ .rejects := by
  induction run with
  | nil => exact initially
  | snoc step _ timely hypothesis => exact next_deadline timely hypothesis

end Waiting

section Failing

variable (state : WebSocketState engine)

theorem failHandshake_failed (error : Fault) :
    (state.failHandshake error).handshakeState = .failed := by
  unfold failHandshake
  split
  · rename_i failed
    exact failed
  · rfl

theorem closeCall_handshakeState (caller : Caller) :
    (state.closeCall caller).handshakeState = state.handshakeState := by
  unfold closeCall
  split
  · unfold pingFailed
    split
    · rfl
    · rfl
  · rfl
  · rfl

theorem cancelHandler_failed (cancel : Cancel) (failed : state.handshakeState = .failed) :
    (state.cancelHandler cancel).2.handshakeState = .failed := by
  have left : (state.closeCall .handler).handshakeState = .failed :=
    (closeCall_handshakeState state .handler).trans failed
  unfold cancelHandler
  split
  · exact failed
  · split
    · unfold closeHandler
      split
      · exact failed
      · dsimp only
        rw [if_neg (left ▸ nofun)]
        exact left
      · exact left
      · exact failed
    · exact failed
    · exact failed

end Failing

section Timeouts

/-- In a run in which the deadline task finds no undecided handshake pending, it never waits for
the peer. The first timeout that it finds fails the handshake at once where somebody was
deciding, and makes it wait for the peer where nobody was. -/
theorem timeout_awaits_peer_iff (engine : Engine) (config : WebSocketConfig)
    (subprotocols offered : List Text) (trailingData : Bytes) (now : Nat) (steps : List Step)
    (state : WebSocketState engine)
    (run : Run Timely (initial engine config subprotocols offered trailingData now) steps state) :
    ¬AwaitsPeer state ∧
      ∀ response closing cancel after,
        Steps state (.deadlineWakes response closing cancel) after →
        state.handshakeState.undecided = true →
        state.config.handshakeTimeout ≤ state.now - state.createdAt →
          (after.handshakeState = .failed ↔ state.handshakeState ≠ .pending) ∧
          (AwaitsPeer after ↔ state.handshakeState = .pending) ∧
          (state.handshakeState = .pending → ∀ mode interrupt,
            Steps after (.sendsHandshake .deadline (.raised (some mode)) interrupt) after) := by
  have initially : (initial engine config subprotocols offered trailingData now).deadline ≠
      .rejects := nofun
  have elsewhere : state.deadline ≠ .rejects := run_deadline initially run
  refine ⟨fun awaits => elsewhere awaits.2.1, ?_⟩
  intro response closing cancel after taken undecided elapsed
  have woken : after = handshakeTimedOut state response cancel := by
    unfold Steps next at taken
    dsimp only at taken
    split at taken
    · split at taken
      · unfold deadlineWakes at taken
        rw [if_pos undecided, if_pos elapsed] at taken
        exact (Option.some.inj taken).symm
      · cases taken
    · cases taken
  subst woken
  by_cases pending : state.handshakeState = .pending
  · have rejects : handshakeTimedOut state response cancel =
        { state.beginReject .deadline response with deadline := .rejects } := if_pos pending
    have call : (state.beginReject .deadline response).calls .deadline =
        .rejects response.send := by
      show Function.update state.calls .deadline (.rejects response.send) .deadline = _
      exact Function.update_self ..
    rw [rejects]
    refine ⟨iff_of_false nofun (not_not.mpr pending),
      iff_of_true ⟨rfl, rfl, response.send, call⟩ pending, fun _ mode interrupt => ?_⟩
    refine congrArg some ?_
    unfold sendHandshake
    dsimp only
    rw [call]
    rfl
  · have fails : handshakeTimedOut state response cancel =
        { ((state.failHandshake (.disconnect ⟨1006, "handshake timed out"⟩)).cancelHandler
            cancel).2 with deadline := .ended } := if_neg pending
    have failed : (handshakeTimedOut state response cancel).handshakeState = .failed := by
      rw [fails]
      exact cancelHandler_failed _ cancel (failHandshake_failed state _)
    refine ⟨iff_of_true failed pending, iff_of_false (fun awaits => ?_) pending,
      fun is => absurd is pending⟩
    have undecidedStill := awaits.1
    rw [failed] at undecidedStill
    cases undecidedStill

end Timeouts

section Samples

def accepting : List Step :=
  [.coordinatorStarts, .handlerStarts, .deadlineStarts,
    .accepts .handler none (some sampleResponse), .passes 10000]

def unhurried (state : WebSocketState sampleEngine) : Step → Bool
  | .deadlineWakes _ _ _ => decide (state.handshakeState ≠ .pending)
  | _ => true

theorem timely_nextWhere (state : WebSocketState sampleEngine) (step : Step)
    (after : WebSocketState sampleEngine) (taken : nextWhere unhurried state step = some after) :
    Timely state step after := by
  unfold nextWhere at taken
  split at taken
  · rename_i passes
    refine ⟨taken, fun late => ?_⟩
    cases step with
    | deadlineWakes response closing cancel => exact of_decide_eq_true passes late.1
    | _ => exact late
  · cases taken

def acceptingSample : WebSocketState sampleEngine :=
  endOf (nextWhere unhurried) sampleStart accepting

def timedOut : WebSocketState sampleEngine :=
  deadlineWakes acceptingSample sampleResponse sampleCancel sampleCancel

theorem timeout_awaits_peer_iff_sample :
    ¬AwaitsPeer acceptingSample ∧ timedOut.handshakeState = .failed := by
  have bounded := timeout_awaits_peer_iff sampleEngine {} [] [] [] 0 accepting acceptingSample
    (run_endOf timely_nextWhere (by decide +kernel))
  exact ⟨bounded.1, (bounded.2 sampleResponse sampleCancel sampleCancel timedOut rfl
    (by decide +kernel) (by decide +kernel)).1.mpr (by decide +kernel)⟩

/-- Nobody has decided when the timeout passes, and the socket does not take the rejection. -/
def stalling : List Step :=
  [.coordinatorStarts, .handlerStarts, .deadlineStarts, .passes 10000,
    .deadlineWakes sampleResponse sampleCancel sampleCancel,
    .sendsHandshake .deadline (.raised (some .write)) false]

def stalled : WebSocketState sampleEngine := endOf next sampleStart stalling

theorem deadline_awaits_peer : ¬ ∀ (steps : List Step) (state : WebSocketState sampleEngine),
    Run Steps sampleStart steps state → ¬AwaitsPeer state := fun bounded =>
  bounded stalling stalled (run_endOf (fun _ _ _ => id) (by decide +kernel))
    ⟨by decide +kernel, by decide +kernel, sampleResponse.send, by decide +kernel⟩

end Samples

end SmallServer.WebSocketDeadlines
