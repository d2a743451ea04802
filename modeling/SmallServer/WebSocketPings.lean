import SmallServer.WebSocketMoves
import SmallServer.WebSocketSteps

/-!
# The Pings of the application

At most one Ping waits for its Pong, and it is always the last that was armed. A call of `ping`
knows its own Ping by the generation, so a call that fails late leaves a later Ping alone.
-/

namespace SmallServer.WebSocketPings

open SmallServer HttpValues WebSocket WebSocketState WebSocketTasks WebSocketMoves
  WebSocketSteps Runs

set_option autoImplicit false

section Tracking

/-- The pending Ping is whole and is the last that was armed; each call that waits has its own
generation, and none of them is still to come. -/
structure Tracked (exchange : Exchange) : Prop where
  together : (exchange.pendingPingGeneration = none ∧ exchange.pendingPingPayload = none ∧
      exchange.pongDeadline = none) ∨
    ∃ payload deadline, exchange.pendingPingGeneration = some exchange.pingGeneration ∧
      exchange.pendingPingPayload = some payload ∧ exchange.pongDeadline = some deadline
  issued : ∀ caller generation, pingOf (exchange.calls caller) = some generation →
    generation ≤ exchange.pingGeneration
  distinct : ∀ caller other generation, pingOf (exchange.calls caller) = some generation →
    pingOf (exchange.calls other) = some generation → caller = other

variable {about : Occasion} {exchange after : Exchange}

theorem pingOf_atCall {caller other : Caller} {call : Call} {generation : Nat}
    (none : pingOf call = none)
    (waits : pingOf ((exchange.atCall caller call).calls other) = some generation) :
    other ≠ caller ∧ pingOf (exchange.calls other) = some generation := by
  by_cases same : other = caller
  · subst same
    rw [show (exchange.atCall other call).calls other = call from Function.update_self ..,
      none] at waits
    cases waits
  · rw [show (exchange.atCall caller call).calls other = exchange.calls other from
      Function.update_of_ne same ..] at waits
    exact ⟨same, waits⟩

theorem tracked_atCall (tracked : Tracked exchange) (caller : Caller) {call : Call}
    (none : pingOf call = none) : Tracked (exchange.atCall caller call) where
  together := tracked.together
  issued other generation waits :=
    tracked.issued other generation (pingOf_atCall none waits).2
  distinct left right generation leftWaits rightWaits :=
    tracked.distinct left right generation (pingOf_atCall none leftWaits).2
      (pingOf_atCall none rightWaits).2

theorem tracked_clearPing (tracked : Tracked exchange) : Tracked exchange.clearPing where
  together := Or.inl ⟨rfl, rfl, rfl⟩
  issued := tracked.issued
  distinct := tracked.distinct

theorem tracked_pingArmed (tracked : Tracked exchange) (caller : Caller) (command : CommandId)
    (payload : Bytes) (deadline : Nat) :
    Tracked ((exchange.armPing payload deadline).atCall caller
      (.pings command (exchange.pingGeneration + 1))) := by
  have waiting : ∀ other generation, pingOf (((exchange.armPing payload deadline).atCall caller
      (.pings command (exchange.pingGeneration + 1))).calls other) = some generation →
      (other = caller ∧ generation = exchange.pingGeneration + 1) ∨
        (pingOf (exchange.calls other) = some generation ∧
          generation ≤ exchange.pingGeneration) := by
    intro other generation waits
    by_cases same : other = caller
    · subst same
      rw [show ((exchange.armPing payload deadline).atCall other
        (.pings command (exchange.pingGeneration + 1))).calls other =
          .pings command (exchange.pingGeneration + 1) from Function.update_self ..] at waits
      exact Or.inl ⟨rfl, (Option.some.inj waits).symm⟩
    · rw [show ((exchange.armPing payload deadline).atCall caller
        (.pings command (exchange.pingGeneration + 1))).calls other = exchange.calls other from
          Function.update_of_ne same ..] at waits
      exact Or.inr ⟨waits, tracked.issued other generation waits⟩
  refine ⟨Or.inr ⟨payload, deadline, rfl, rfl, rfl⟩, fun other generation waits => ?_,
    fun left right generation leftWaits rightWaits => ?_⟩
  · show generation ≤ exchange.pingGeneration + 1
    rcases waiting other generation waits with ⟨_, rfl⟩ | ⟨_, old⟩
    · exact Nat.le_refl _
    · omega
  · rcases waiting left generation leftWaits with ⟨rfl, rfl⟩ | ⟨leftOld, leftIssued⟩
    · rcases waiting right _ rightWaits with ⟨rfl, _⟩ | ⟨_, rightIssued⟩
      · rfl
      · omega
    · rcases waiting right generation rightWaits with ⟨_, rfl⟩ | ⟨rightOld, _⟩
      · omega
      · exact tracked.distinct left right generation leftOld rightOld

theorem move_tracked (move : Move about exchange after) (tracked : Tracked exchange) :
    Tracked after := by
  obtain ⟨together, issued, distinct⟩ := id tracked
  cases move with
  | appended event size short fits sized => exact ⟨together, issued, distinct⟩
  | taken id rest queued => exact ⟨together, issued, distinct⟩
  | cleared => exact ⟨together, issued, distinct⟩
  | assembled event asked data kind buffer bytes => exact ⟨together, issued, distinct⟩
  | delivered event asked data payload short fits => exact ⟨together, issued, distinct⟩
  | received caller payload rest waits =>
      have taken : Tracked (exchange.take payload rest) := ⟨together, issued, distinct⟩
      have idle : pingOf .idle = none := rfl
      obtain ⟨together, issued, distinct⟩ := tracked_atCall taken caller idle
      exact ⟨together, issued, distinct⟩
  | called caller call other => exact tracked_atCall tracked caller other
  | answered caller outcome other => exact ⟨together, issued, distinct⟩
  | pingArmed caller command payload deadline free =>
      exact tracked_pingArmed tracked caller command payload deadline
  | pingRefused free =>
      exact ⟨Or.inl ⟨rfl, rfl, rfl⟩, fun caller generation waits =>
        Nat.le_succ_of_le (issued caller generation waits), distinct⟩
  | pingFailed caller command generation was =>
      split
      · exact tracked_atCall (tracked_clearPing tracked) caller rfl
      · exact tracked_atCall tracked caller rfl
  | ponged payload asked same => exact tracked_clearPing tracked
  | deadlineMoved deadline rejects => exact ⟨together, issued, distinct⟩

end Tracking

section Fate

def Kept (before after : Exchange) (generation : Nat) : Prop :=
  after.pendingPingGeneration = some generation ∧
    after.pendingPingPayload = before.pendingPingPayload ∧
      after.pongDeadline = before.pongDeadline

def Answered (about : Occasion) (before : Exchange) : Prop :=
  ∃ payload, about.heard (.pong payload) ∧ before.pendingPingPayload = some payload

def Left (before after : Exchange) (generation : Nat) : Prop :=
  ∃ caller, pingOf (before.calls caller) = some generation ∧
    pingOf (after.calls caller) ≠ some generation

/-- What has become of a pending Ping; meanwhile no old generation was given to another call. -/
structure Fate (about : Occasion) (before after : Exchange) (generation : Nat) : Prop where
  tracked : Tracked after
  later : generation ≤ after.pingGeneration
  old : ∀ caller, pingOf (after.calls caller) = some generation →
    pingOf (before.calls caller) = some generation
  fate : Kept before after generation ∨ Answered about before ∨ Left before after generation

variable {about : Occasion} {before middle after : Exchange} {generation : Nat}

/-- A move after which every call has its generation, or is over and the Ping is pending. -/
theorem Fate.quiet (fate : Fate about before middle generation) (move : Move about middle after)
    (later : middle.pingGeneration ≤ after.pingGeneration)
    (old : ∀ caller, pingOf (after.calls caller) = some generation →
      pingOf (middle.calls caller) = some generation)
    (pending : after.pendingPingGeneration = middle.pendingPingGeneration ∧
      after.pendingPingPayload = middle.pendingPingPayload ∧
        after.pongDeadline = middle.pongDeadline) : Fate about before after generation where
  tracked := move_tracked move fate.tracked
  later := fate.later.trans later
  old caller waits := fate.old caller (old caller waits)
  fate := by
    rcases fate.fate with ⟨isPending, payload, deadline⟩ | answered | ⟨caller, was, past⟩
    · exact Or.inl ⟨pending.1.trans isPending, pending.2.1.trans payload,
        pending.2.2.trans deadline⟩
    · exact Or.inr (Or.inl answered)
    · exact Or.inr (Or.inr ⟨caller, was, fun waits => past (old caller waits)⟩)

theorem Fate.settled (fate : Fate about before middle generation) (move : Move about middle after)
    (later : middle.pingGeneration ≤ after.pingGeneration)
    (old : ∀ caller, pingOf (after.calls caller) = some generation →
      pingOf (middle.calls caller) = some generation)
    (settled : Answered about before ∨ Left before middle generation) :
    Fate about before after generation where
  tracked := move_tracked move fate.tracked
  later := fate.later.trans later
  old caller waits := fate.old caller (old caller waits)
  fate := by
    rcases settled with answered | ⟨caller, was, past⟩
    · exact Or.inr (Or.inl answered)
    · exact Or.inr (Or.inr ⟨caller, was, fun waits => past (old caller waits)⟩)

/-- The Ping is given up for its Pong, or for the failure of its own call; no other move takes it
away, as a Ping is armed only where there is none. -/
theorem Fate.move (fate : Fate about before middle generation) (move : Move about middle after) :
    Fate about before after generation := by
  have free : middle.pendingPingGeneration = none →
      Answered about before ∨ Left before middle generation := by
    intro none
    rcases fate.fate with ⟨isPending, _, _⟩ | settled
    · rw [none] at isPending
      cases isPending
    · exact settled
  cases id move with
  | appended event size short fits sized =>
      exact fate.quiet move (Nat.le_refl _) (fun _ => id) ⟨rfl, rfl, rfl⟩
  | taken id rest queued =>
      exact fate.quiet move (Nat.le_refl _) (fun _ waits => waits) ⟨rfl, rfl, rfl⟩
  | cleared => exact fate.quiet move (Nat.le_refl _) (fun _ => id) ⟨rfl, rfl, rfl⟩
  | assembled event asked data kind buffer bytes =>
      exact fate.quiet move (Nat.le_refl _) (fun _ => id) ⟨rfl, rfl, rfl⟩
  | delivered event asked data payload short fits =>
      exact fate.quiet move (Nat.le_refl _) (fun _ => id) ⟨rfl, rfl, rfl⟩
  | received caller payload rest waits =>
      have idle : pingOf .idle = none := rfl
      exact fate.quiet move (Nat.le_refl _)
        (fun other ahead => (pingOf_atCall idle ahead).2) ⟨rfl, rfl, rfl⟩
  | called caller call other =>
      exact fate.quiet move (Nat.le_refl _)
        (fun other' ahead => (pingOf_atCall other ahead).2) ⟨rfl, rfl, rfl⟩
  | answered caller outcome other =>
      exact fate.quiet move (Nat.le_refl _) (fun _ => id) ⟨rfl, rfl, rfl⟩
  | pingArmed caller command payload deadline none =>
      refine fate.settled move (Nat.le_succ _) (fun other waits => ?_) (free none)
      by_cases same : other = caller
      · subst same
        rw [show ((middle.armPing payload deadline).atCall other
          (.pings command (middle.pingGeneration + 1))).calls other =
            .pings command (middle.pingGeneration + 1) from Function.update_self ..] at waits
        have new := Option.some.inj waits
        have issued := fate.later
        omega
      · rw [show ((middle.armPing payload deadline).atCall caller
          (.pings command (middle.pingGeneration + 1))).calls other = middle.calls other from
            Function.update_of_ne same ..] at waits
        exact waits
  | pingRefused none =>
      exact fate.settled move (Nat.le_succ _) (fun _ => id) (free none)
  | pingFailed caller command failed was =>
      have idle : pingOf .idle = none := rfl
      by_cases own : middle.pendingPingGeneration = some failed
      · rw [if_pos own] at move ⊢
        have old : ∀ other, pingOf ((middle.clearPing.atCall caller .idle).calls other) =
            some generation → pingOf (middle.calls other) = some generation :=
          fun other waits => (pingOf_atCall idle waits).2
        rcases fate.fate with ⟨isPending, _, _⟩ | settled
        · have same : failed = generation := Option.some.inj (own.symm.trans isPending)
          subst same
          have waited : pingOf (middle.calls caller) = some failed := by rw [was]; rfl
          refine ⟨move_tracked move fate.tracked, fate.later,
            fun other waits => fate.old other (old other waits),
            Or.inr (Or.inr ⟨caller, fate.old caller waited, fun waits => ?_⟩)⟩
          exact (pingOf_atCall idle waits).1 rfl
        · exact fate.settled move (Nat.le_refl _) old settled
      · rw [if_neg own] at move ⊢
        exact fate.quiet move (Nat.le_refl _)
          (fun other waits => (pingOf_atCall idle waits).2) ⟨rfl, rfl, rfl⟩
  | ponged payload asked same =>
      refine fate.settled move (Nat.le_refl _) (fun _ => id) ?_
      rcases fate.fate with ⟨_, waited, _⟩ | settled
      · exact Or.inl ⟨payload, asked, waited.symm.trans same.symm⟩
      · exact settled
  | deadlineMoved deadline rejects =>
      exact fate.quiet move (Nat.le_refl _) (fun _ => id) ⟨rfl, rfl, rfl⟩

theorem fate_of_moves (moves : Moves about before after) (tracked : Tracked before)
    (pending : before.pendingPingGeneration = some generation) :
    Fate about before after generation := by
  have issued : generation ≤ before.pingGeneration := by
    rcases tracked.together with ⟨none, _⟩ | ⟨_, _, newest, _⟩
    · rw [none] at pending
      cases pending
    · exact Nat.le_of_eq (Option.some.inj (pending.symm.trans newest))
  have initially : Fate about before before generation :=
    ⟨tracked, issued, fun _ => id, Or.inl ⟨pending, rfl, rfl⟩⟩
  have kept : ∀ {left right : Exchange}, Move about left right →
      Fate about before left generation → Fate about before right generation :=
    fun move fate => fate.move move
  exact moves.keeps kept initially

end Fate

section Runs

variable {engine : Engine} {start state after : WebSocketState engine} {steps : List Step}

theorem tracked_initial (engine : Engine) (config : WebSocketConfig)
    (subprotocols offered : List Text) (trailingData : Bytes) (now : Nat) :
    Tracked (exchange (initial engine config subprotocols offered trailingData now)) where
  together := Or.inl ⟨rfl, rfl, rfl⟩
  issued _ _ waits := by cases waits
  distinct _ _ _ waits := by cases waits

theorem next_tracked {step : Step} (taken : next state step = some after)
    (tracked : Tracked (exchange state)) : Tracked (exchange after) :=
  (next_moves step taken).keeps (fun move => move_tracked move) tracked

theorem run_tracked (initially : Tracked (exchange start)) (run : Run Steps start steps state) :
    Tracked (exchange state) := by
  induction run with
  | nil => exact initially
  | snoc step _ taken hypothesis => exact next_tracked taken hypothesis

theorem next_pingGeneration {step : Step} (taken : next state step = some after) :
    state.pingGeneration ≤ after.pingGeneration := by
  let reached := fun exchange : Exchange => state.pingGeneration ≤ exchange.pingGeneration
  have kept : ∀ {left right : Exchange}, Move (occasion state step) left right →
      reached left → reached right := by
    intro left right move below
    have grows : left.pingGeneration ≤ right.pingGeneration := by
      cases move with
      | pingArmed caller command payload deadline free => exact Nat.le_succ _
      | pingRefused free => exact Nat.le_succ _
      | pingFailed caller command generation was =>
          split
          · exact Nat.le_refl _
          · exact Nat.le_refl _
      | _ => exact Nat.le_refl _
    exact below.trans grows
  have initially : reached (exchange state) := Nat.le_refl _
  exact (next_moves step taken).keeps kept initially

def generations : WebSocketState engine → List Step → List Nat
  | _, [] => []
  | state, step :: steps =>
      match next state step with
      | none => []
      | some after =>
          if after.pingGeneration = state.pingGeneration then generations after steps
          else after.pingGeneration :: generations after steps

theorem generations_increase (state : WebSocketState engine) (steps : List Step) :
    (∀ generation ∈ generations state steps, state.pingGeneration < generation) ∧
      (generations state steps).Pairwise (· < ·) := by
  induction steps generalizing state with
  | nil => exact ⟨fun _ member => absurd member List.not_mem_nil, List.Pairwise.nil⟩
  | cons step steps hypothesis =>
      unfold generations
      cases taken : next state step with
      | none => exact ⟨fun _ member => absurd member List.not_mem_nil, List.Pairwise.nil⟩
      | some after =>
          dsimp only
          obtain ⟨above, increasing⟩ := hypothesis after
          have grows := next_pingGeneration taken
          split
          · exact ⟨fun generation member => grows.trans_lt (above generation member), increasing⟩
          · rename_i changed
            have greater : state.pingGeneration < after.pingGeneration :=
              lt_of_le_of_ne grows fun same => changed same.symm
            refine ⟨fun generation member => ?_, List.Pairwise.cons above increasing⟩
            rcases List.mem_cons.mp member with rfl | later
            · exact greater
            · exact greater.trans (above generation later)

theorem pingOf_eq_some {call : Call} {generation : Nat} (is : pingOf call = some generation) :
    ∃ command, call = .pings command generation := by
  unfold pingOf at is
  split at is
  · rename_i command own
    exact ⟨command, by rw [Option.some.inj is]⟩
  · cases is

/-- In every reachable state the pending Ping is whole or absent; generations are given out in
increasing order, and no two calls have the same one; a Pong with another payload changes
nothing; and a pending Ping stays as it is until the reader hears its Pong or its own call is
over, whatever other calls of `ping` come to. -/
theorem pings_tracked (engine : Engine) (config : WebSocketConfig)
    (subprotocols offered : List Text) (trailingData : Bytes) (now : Nat) (steps : List Step)
    (state : WebSocketState engine)
    (run : Run Steps (initial engine config subprotocols offered trailingData now) steps state) :
    ((state.pendingPingGeneration = none ∧ state.pendingPingPayload = none ∧
        state.pongDeadline = none) ∨
      (state.pendingPingGeneration.isSome = true ∧ state.pendingPingPayload.isSome = true ∧
        state.pongDeadline.isSome = true)) ∧
      ((generations (initial engine config subprotocols offered trailingData now) steps).Pairwise
          (· < ·) ∧
        ∀ caller other command another generation,
          state.calls caller = .pings command generation →
            state.calls other = .pings another generation → caller = other) ∧
      (∀ payload, some payload ≠ state.pendingPingPayload →
        state.drainEvent (.pong payload) = (.ok false, state)) ∧
      ∀ step after generation, Steps state step after →
        state.pendingPingGeneration = some generation →
          (after.pendingPingGeneration = some generation ∧
            after.pendingPingPayload = state.pendingPingPayload ∧
              after.pongDeadline = state.pongDeadline) ∨
          (∃ payload, Event.pong payload ∈ events state step ∧
            state.pendingPingPayload = some payload) ∨
          ∃ caller command, state.calls caller = .pings command generation ∧
            ∀ later, after.calls caller ≠ .pings later generation := by
  have tracked := run_tracked
    (tracked_initial engine config subprotocols offered trailingData now) run
  refine ⟨?_, ⟨(generations_increase _ steps).2, ?_⟩, ?_, ?_⟩
  · rcases tracked.together with absent | ⟨payload, deadline, generation, isPayload, isDeadline⟩
    · exact Or.inl absent
    · exact Or.inr ⟨Option.isSome_of_eq_some generation, Option.isSome_of_eq_some isPayload,
        Option.isSome_of_eq_some isDeadline⟩
  · intro caller other command another generation waits otherWaits
    refine tracked.distinct caller other generation ?_ ?_
    · show pingOf (state.calls caller) = _
      rw [waits]
      rfl
    · show pingOf (state.calls other) = _
      rw [otherWaits]
      rfl
  · intro payload different
    show (Except.ok false, state.handlePong payload) = _
    unfold handlePong
    rw [if_neg fun both => different both.2]
  · intro step after generation taken pending
    rcases (fate_of_moves (next_moves step taken) tracked pending).fate with
      kept | answered | ⟨caller, was, past⟩
    · exact Or.inl kept
    · exact Or.inr (Or.inl answered)
    · obtain ⟨command, waits⟩ := pingOf_eq_some was
      refine Or.inr (Or.inr ⟨caller, command, waits, fun later still => past ?_⟩)
      show pingOf (after.calls caller) = some generation
      rw [still]
      rfl

end Runs

section Samples

/-- The first Ping is answered before it is acknowledged, so its call still waits when the
second one is armed. -/
def pinging : List Step :=
  sampleOpening ++ [.pings (.other 1) [1],
    .readerReceives (clientFrame 10 [2] ++ clientFrame 10 [1]) sampleCancel,
    .pings .handler [3]]

def pinged : WebSocketState sampleEngine := endOf next sampleStart pinging

theorem pings_tracked_sample :
    (generations sampleStart pinging = [1, 2] ∧ pinged.calls (.other 1) = .pings 0 1 ∧
      pinged.pendingPingGeneration = some 2 ∧
        (pinged.closeCall (.other 1)).pendingPingGeneration = some 2) ∧
      (generations sampleStart pinging).Pairwise (· < ·) ∧
        ∀ caller other command another generation,
          pinged.calls caller = .pings command generation →
            pinged.calls other = .pings another generation → caller = other :=
  ⟨by decide +kernel, (pings_tracked sampleEngine {} [] [] [] 0 pinging pinged
    (run_endOf (fun _ _ _ => id) (by decide +kernel))).2.1⟩

end Samples

end SmallServer.WebSocketPings
