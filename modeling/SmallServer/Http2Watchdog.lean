import SmallServer.Http2Frames
import Mathlib.Algebra.Order.Floor.Ring
import Mathlib.Data.Rat.Floor
import Mathlib.Logic.Relation
import Mathlib.Tactic.Linarith

/-!
# HTTP/2 timeouts

`_http2_watchdog` sleeps in pieces of at most one second, first until the client preface
is there and then for as long as the connection stays active. Sleeps are exact rational
durations; what the coroutine reads of the connection is given by a schedule.
-/

namespace SmallServer.Http2Watchdog

open SmallServer HttpValues Http2Frames

set_option autoImplicit false

structure ConnectionState where
  frames : FrameBudget
  closing : Bool := false
  activityEpoch : Nat := 0

namespace ConnectionState

def prefaceReceived (state : ConnectionState) : Bool := state.frames.prefaceReceived

def markActivity (state : ConnectionState) : ConnectionState :=
  { state with activityEpoch := state.activityEpoch + 1 }

def receive (config : HTTP2Config) (state : ConnectionState) (data : Bytes) : ConnectionState :=
  { state.markActivity with frames := (FrameBudget.feed config state.frames data).2 }

def close (state : ConnectionState) : ConnectionState := { state with closing := true }

end ConnectionState

inductive Happens (config : HTTP2Config) : ConnectionState → ConnectionState → Prop
  | receives (state : ConnectionState) (data : Bytes) :
      Happens config state (state.receive config data)
  | closes (state : ConnectionState) : Happens config state state.close

/-- The connection at every moment, counted from the start of its watchdog. -/
structure Schedule (config : HTTP2Config) where
  stateAt : Rat → ConnectionState
  later : ∀ earlier moment, earlier ≤ moment →
    Relation.ReflTransGen (Happens config) (stateAt earlier) (stateAt moment)

def prefaceTimedOut : String := "HTTP/2 client preface timed out"

def idleTooLong : String := "HTTP/2 connection was idle too long"

/-- Where the coroutine is: asleep in its first or its second loop, or at its end. -/
inductive Watchdog
  | handshake (handshakeElapsed interval : Rat)
  | idle (observedEpoch : Nat) (idleElapsed interval : Rat)
  | returned
  | forceClosed (error : String)
deriving DecidableEq

/-- The head of `while not state.closing`. -/
def idleLoop (config : HTTP2Config) (state : ConnectionState) (observedEpoch : Nat)
    (idleElapsed : Rat) : Watchdog :=
  if state.closing then .returned
  else .idle observedEpoch idleElapsed (min 1 (config.idleTimeout - idleElapsed))

/-- The head of `while not state.protocol.preface_received and not state.closing`. -/
def handshakeLoop (config : HTTP2Config) (state : ConnectionState) (handshakeElapsed : Rat) :
    Watchdog :=
  if state.prefaceReceived || state.closing then idleLoop config state state.activityEpoch 0
  else .handshake handshakeElapsed (min 1 (config.handshakeTimeout - handshakeElapsed))

def start (config : HTTP2Config) (state : ConnectionState) : Watchdog :=
  handshakeLoop config state 0

def resume (config : HTTP2Config) (state : ConnectionState) : Watchdog → Watchdog
  | .handshake handshakeElapsed interval =>
      let elapsed := handshakeElapsed + interval
      if config.handshakeTimeout ≤ elapsed then .forceClosed prefaceTimedOut
      else handshakeLoop config state elapsed
  | .idle observedEpoch idleElapsed interval =>
      if observedEpoch ≠ state.activityEpoch then idleLoop config state state.activityEpoch 0
      else
        let elapsed := idleElapsed + interval
        if config.idleTimeout ≤ elapsed then .forceClosed idleTooLong
        else idleLoop config state observedEpoch elapsed
  | .returned => .returned
  | .forceClosed error => .forceClosed error

namespace Watchdog

def interval : Watchdog → Rat
  | .handshake _ interval => interval
  | .idle _ _ interval => interval
  | .returned => 0
  | .forceClosed _ => 0

def asleep : Watchdog → Bool
  | .handshake _ _ => true
  | .idle _ _ _ => true
  | .returned => false
  | .forceClosed _ => false

/-- The first loop was left by its condition, not by its timeout. -/
def leftHandshake : Watchdog → Prop
  | .handshake _ _ => False
  | .idle _ _ _ => True
  | .returned => True
  | .forceClosed error => error = idleTooLong

end Watchdog

structure Trace where
  clock : Rat
  watchdog : Watchdog

/-- The end of the current sleep; `seen` gives the connection at that moment. -/
def Trace.wake (config : HTTP2Config) (seen : Rat → ConnectionState) (trace : Trace) : Trace where
  clock := trace.clock + trace.watchdog.interval
  watchdog := resume config (seen (trace.clock + trace.watchdog.interval)) trace.watchdog

def run {config : HTTP2Config} (schedule : Schedule config) : Nat → Trace
  | 0 => { clock := 0, watchdog := start config (schedule.stateAt 0) }
  | sleeps + 1 => (run schedule sleeps).wake config schedule.stateAt

section Handshake

variable {config : HTTP2Config}

theorem receive_prefaceReceived (state : ConnectionState) (data : Bytes)
    (received : state.prefaceReceived = true) :
    (state.receive config data).prefaceReceived = true := by
  have fed : FrameBudget.feed config state.frames data =
      FrameBudget.feedFrames config state.frames data := if_pos received
  show (FrameBudget.feed config state.frames data).2.prefaceReceived = true
  rw [fed, FrameBudget.feedFrames_prefaceReceived]
  exact received

theorem settled_forever {state next : ConnectionState}
    (happened : Relation.ReflTransGen (Happens config) state next) :
    (state.prefaceReceived = true → next.prefaceReceived = true) ∧
      (state.closing = true → next.closing = true) := by
  induction happened with
  | refl => exact ⟨id, id⟩
  | tail _ last induction =>
      cases last with
      | receives data =>
          exact ⟨fun received => receive_prefaceReceived _ _ (induction.1 received), induction.2⟩
      | closes => exact ⟨induction.1, fun _ => rfl⟩

variable (schedule : Schedule config)

def Schedule.awaits (moment : Rat) : Prop :=
  (schedule.stateAt moment).prefaceReceived = false ∧ (schedule.stateAt moment).closing = false

theorem Schedule.awaits_earlier {earlier moment : Rat} (ordered : earlier ≤ moment)
    (awaiting : schedule.awaits moment) : schedule.awaits earlier := by
  have settled := settled_forever (schedule.later earlier moment ordered)
  obtain ⟨absent, running⟩ := awaiting
  constructor
  · by_contra received
    have still := settled.1 (by simpa using received)
    rw [absent] at still
    cases still
  · by_contra closing
    have still := settled.2 (by simpa using closing)
    rw [running] at still
    cases still

theorem handshakeTimeout_positive (config : HTTP2Config) : 0 < config.handshakeTimeout :=
  config.timeouts_positive.1

theorem idleTimeout_positive (config : HTTP2Config) : 0 < config.idleTimeout :=
  config.timeouts_positive.2

/-- The handshake phase sleeps this often when no preface comes: whole seconds, then the
rest of the timeout. -/
def handshakeSleeps (config : HTTP2Config) : Nat := ⌈config.handshakeTimeout⌉₊

/-- The moment at which the last sleep of the handshake phase begins: the largest whole
second before the timeout. -/
def lastHandshakeSleep (config : HTTP2Config) : Rat := ((handshakeSleeps config - 1 : Nat) : Rat)

theorem handshakeSleeps_positive (config : HTTP2Config) : 0 < handshakeSleeps config :=
  Nat.ceil_pos.mpr (handshakeTimeout_positive config)

theorem handshakeTimeout_le (config : HTTP2Config) :
    config.handshakeTimeout ≤ lastHandshakeSleep config + 1 := by
  have positive := handshakeSleeps_positive config
  have rounded : config.handshakeTimeout ≤ (handshakeSleeps config : Rat) := Nat.le_ceil _
  have last : ((handshakeSleeps config - 1 : Nat) : Rat) + 1 = (handshakeSleeps config : Rat) := by
    exact_mod_cast congrArg (Nat.cast (R := Rat)) (show handshakeSleeps config - 1 + 1 = _ by omega)
  unfold lastHandshakeSleep
  rw [last]
  exact rounded

theorem handshakeLoop_awaiting (config : HTTP2Config) {state : ConnectionState}
    (absent : state.prefaceReceived = false)
    (running : state.closing = false) (elapsed : Rat) :
    handshakeLoop config state elapsed =
      .handshake elapsed (min 1 (config.handshakeTimeout - elapsed)) := by
  unfold handshakeLoop
  rw [absent, running]
  rfl

theorem idleLoop_leftHandshake (state : ConnectionState) (observedEpoch : Nat) (elapsed : Rat) :
    (idleLoop config state observedEpoch elapsed).leftHandshake := by
  unfold idleLoop
  split
  · exact trivial
  · exact trivial

theorem handshakeLoop_settled {state : ConnectionState} (elapsed : Rat)
    (settled : ¬ (state.prefaceReceived = false ∧ state.closing = false)) :
    (handshakeLoop config state elapsed).leftHandshake := by
  have left : (state.prefaceReceived || state.closing) = true := by
    cases received : state.prefaceReceived
    · cases closing : state.closing
      · exact absurd ⟨received, closing⟩ settled
      · rfl
    · rfl
  unfold handshakeLoop
  rw [if_pos left]
  exact idleLoop_leftHandshake state _ _

theorem resume_leftHandshake (state : ConnectionState) {watchdog : Watchdog}
    (left : watchdog.leftHandshake) : (resume config state watchdog).leftHandshake := by
  cases watchdog with
  | handshake elapsed interval => exact absurd left id
  | idle observedEpoch elapsed interval =>
      simp only [resume]
      split
      · exact idleLoop_leftHandshake state _ _
      · split
        · exact rfl
        · exact idleLoop_leftHandshake state _ _
  | returned => exact trivial
  | forceClosed error => exact left

theorem run_leftHandshake {sleeps later : Nat} (ordered : sleeps ≤ later)
    (left : (run schedule sleeps).watchdog.leftHandshake) :
    (run schedule later).watchdog.leftHandshake := by
  induction later, ordered using Nat.le_induction with
  | base => exact left
  | succ later _ induction => exact resume_leftHandshake _ induction

theorem run_awaiting {sleeps : Nat} (inTime : sleeps < handshakeSleeps config)
    (awaiting : schedule.awaits sleeps) :
    run schedule sleeps = { clock := sleeps
                            watchdog := .handshake sleeps
                              (min 1 (config.handshakeTimeout - sleeps)) } := by
  induction sleeps with
  | zero =>
      have first := handshakeLoop_awaiting config awaiting.1 awaiting.2 0
      unfold run start
      simp only [Nat.cast_zero] at first ⊢
      rw [first]
  | succ sleeps induction =>
      have before : schedule.awaits sleeps :=
        schedule.awaits_earlier (by push_cast; linarith) awaiting
      have early : ((sleeps + 1 : Nat) : Rat) < config.handshakeTimeout := Nat.lt_ceil.mp inTime
      push_cast at early
      have wholeSecond : min 1 (config.handshakeTimeout - (sleeps : Rat)) = 1 :=
        min_eq_left (by linarith)
      have next := handshakeLoop_awaiting config awaiting.1 awaiting.2
        ((sleeps : Rat) + 1)
      unfold run
      rw [induction (by omega) before, wholeSecond]
      unfold Trace.wake
      simp only [Watchdog.interval, resume]
      rw [if_neg (not_le.mpr early)]
      push_cast at next ⊢
      rw [next]

/-- Left waiting through its last sleep, the watchdog closes the connection. -/
theorem run_times_out (awaiting : schedule.awaits (lastHandshakeSleep config)) :
    run schedule (handshakeSleeps config) =
      { clock := config.handshakeTimeout, watchdog := .forceClosed prefaceTimedOut } := by
  have positive := handshakeSleeps_positive config
  have atLast := run_awaiting schedule
    (show handshakeSleeps config - 1 < handshakeSleeps config by omega) awaiting
  have rest : min 1 (config.handshakeTimeout - lastHandshakeSleep config) =
      config.handshakeTimeout - lastHandshakeSleep config :=
    min_eq_right (by linarith [handshakeTimeout_le config])
  have count : handshakeSleeps config = handshakeSleeps config - 1 + 1 := by omega
  rw [count]
  unfold run
  rw [atLast]
  unfold Trace.wake
  change min 1 (config.handshakeTimeout - ((handshakeSleeps config - 1 : Nat) : Rat)) =
    config.handshakeTimeout - ((handshakeSleeps config - 1 : Nat) : Rat) at rest
  simp only [Watchdog.interval, resume]
  rw [rest, add_sub_cancel, if_pos le_rfl]

theorem run_settles {sleeps : Nat} (inTime : sleeps < handshakeSleeps config)
    (settled : ¬ schedule.awaits sleeps) : (run schedule sleeps).watchdog.leftHandshake := by
  induction sleeps with
  | zero =>
      have first : ¬ schedule.awaits 0 := by simpa using settled
      exact handshakeLoop_settled 0 first
  | succ sleeps induction =>
      by_cases awaiting : schedule.awaits sleeps
      · have early : ((sleeps + 1 : Nat) : Rat) < config.handshakeTimeout := Nat.lt_ceil.mp inTime
        push_cast at early settled
        have wholeSecond : min 1 (config.handshakeTimeout - (sleeps : Rat)) = 1 :=
          min_eq_left (by linarith)
        unfold run
        rw [run_awaiting schedule (by omega) awaiting, wholeSecond]
        unfold Trace.wake
        simp only [Watchdog.interval, resume]
        rw [if_neg (not_le.mpr early)]
        exact handshakeLoop_settled _ settled
      · exact run_leftHandshake schedule (Nat.le_succ sleeps) (induction (by omega) awaiting)

theorem run_forceClosed {sleeps later : Nat} {error : String} (ordered : sleeps ≤ later)
    (closed : (run schedule sleeps).watchdog = .forceClosed error) :
    (run schedule later).watchdog = .forceClosed error := by
  induction later, ordered using Nat.le_induction with
  | base => exact closed
  | succ later _ induction =>
      show resume config _ (run schedule later).watchdog = _
      rw [induction]
      rfl

/-- The watchdog closes a connection for want of its preface only where the preface is not
there when the timeout has elapsed, and one completed earlier lets it leave the first loop. -/
def RespectsPreface (schedule : Schedule config) : Prop :=
  (∀ sleeps, (run schedule sleeps).watchdog = .forceClosed prefaceTimedOut →
    (schedule.stateAt config.handshakeTimeout).prefaceReceived = false) ∧
  ∀ moment, moment < config.handshakeTimeout →
    (schedule.stateAt moment).prefaceReceived = true →
      ∃ sleeps, (run schedule sleeps).watchdog.leftHandshake

/-- The flag is read before each sleep and not after the last one, so a preface completed
during that sleep is ignored. -/
theorem preface_respected_iff (schedule : Schedule config) :
    RespectsPreface schedule ↔
      (schedule.stateAt (lastHandshakeSleep config)).prefaceReceived = true ∨
        (schedule.stateAt (lastHandshakeSleep config)).closing = true ∨
          (schedule.stateAt config.handshakeTimeout).prefaceReceived = false := by
  have positive := handshakeSleeps_positive config
  have inTime : handshakeSleeps config - 1 < handshakeSleeps config := by omega
  constructor
  · rintro ⟨onlyMissing, _⟩
    by_cases awaiting : schedule.awaits (lastHandshakeSleep config)
    · have closed := congrArg Trace.watchdog (run_times_out schedule awaiting)
      exact Or.inr (Or.inr (onlyMissing _ closed))
    · unfold Schedule.awaits at awaiting
      cases received : (schedule.stateAt (lastHandshakeSleep config)).prefaceReceived
      · cases closing : (schedule.stateAt (lastHandshakeSleep config)).closing
        · exact absurd ⟨received, closing⟩ awaiting
        · exact Or.inr (Or.inl rfl)
      · exact Or.inl rfl
  · intro condition
    by_cases awaiting : schedule.awaits (lastHandshakeSleep config)
    · have missing : (schedule.stateAt config.handshakeTimeout).prefaceReceived = false := by
        rcases condition with received | closing | missing
        · rw [awaiting.1] at received
          cases received
        · rw [awaiting.2] at closing
          cases closing
        · exact missing
      refine ⟨fun _ _ => missing, fun moment early received => ?_⟩
      have still := (settled_forever (schedule.later _ _ early.le)).1 received
      rw [missing] at still
      cases still
    · have left := run_settles schedule inTime awaiting
      refine ⟨fun sleeps closed => ?_, fun _ _ _ => ⟨_, left⟩⟩
      have both := run_leftHandshake schedule (Nat.le_max_right sleeps _) left
      rw [run_forceClosed schedule (Nat.le_max_left sleeps _) closed] at both
      have same : prefaceTimedOut = idleTooLong := both
      exact absurd same (by decide)

end Handshake

section Idle

def openState (frames : FrameBudget) (epoch : Nat) : ConnectionState :=
  { frames := frames, activityEpoch := epoch }

/-- The second loop, after its first `sleeps` sleeps. The epoch read before sleep `n` is
`seen n`. -/
def idleRun (config : HTTP2Config) (frames : Nat → FrameBudget) (seen : Nat → Nat) : Nat → Trace
  | 0 => { clock := 0, watchdog := idleLoop config (openState (frames 0) (seen 0)) (seen 0) 0 }
  | sleeps + 1 =>
      (idleRun config frames seen sleeps).wake config
        fun _ => openState (frames (sleeps + 1)) (seen (sleeps + 1))

def markedEpochs (frames : Nat → FrameBudget) (first : Nat) (calls : Nat → Nat) : Nat → Nat
  | 0 => first
  | sleeps + 1 =>
      (ConnectionState.markActivity^[calls sleeps]
        (openState (frames sleeps) (markedEpochs frames first calls sleeps))).activityEpoch

structure Sleep where
  length : Rat
  active : Bool

/-- The total length of the most recent consecutive sleeps without an epoch change. -/
def quiet (sleeps : List Sleep) : Rat :=
  ((sleeps.reverse.takeWhile fun sleep => !sleep.active).map Sleep.length).sum

variable (config : HTTP2Config) (frames : Nat → FrameBudget) (seen : Nat → Nat)

def sleepAt (sleeps : Nat) : Sleep where
  length := (idleRun config frames seen sleeps).watchdog.interval
  active := decide (seen sleeps ≠ seen (sleeps + 1))

def sleepsBefore (sleeps : Nat) : List Sleep :=
  (List.range sleeps).map (sleepAt config frames seen)

def ClosesAt (sleeps : Nat) : Prop :=
  (idleRun config frames seen sleeps).watchdog = .forceClosed idleTooLong ∧
    ∀ earlier, earlier < sleeps → (idleRun config frames seen earlier).watchdog.asleep = true

/-- The first sleep end at which the connection has been quiet for the whole timeout. -/
def DueAt (sleeps : Nat) : Prop :=
  config.idleTimeout ≤ quiet (sleepsBefore config frames seen sleeps) ∧
    ∀ earlier, earlier < sleeps →
      quiet (sleepsBefore config frames seen earlier) < config.idleTimeout

theorem quiet_append (sleeps : List Sleep) (last : Sleep) :
    quiet (sleeps ++ [last]) = if last.active then 0 else quiet sleeps + last.length := by
  unfold quiet
  rw [List.reverse_append, List.reverse_singleton, List.singleton_append, List.takeWhile_cons]
  cases active : last.active
  · simp [add_comm]
  · simp

theorem quiet_succ (sleeps : Nat) :
    quiet (sleepsBefore config frames seen (sleeps + 1)) =
      if seen sleeps ≠ seen (sleeps + 1) then 0
      else quiet (sleepsBefore config frames seen sleeps) +
        (idleRun config frames seen sleeps).watchdog.interval := by
  unfold sleepsBefore
  rw [List.range_succ, List.map_append, List.map_singleton, quiet_append]
  simp only [sleepAt, decide_eq_true_eq]

/-- Until the timeout is due, `idle_elapsed` is the time the connection has been quiet. -/
theorem idleRun_waiting (sleeps : Nat)
    (early : ∀ earlier, earlier ≤ sleeps →
      quiet (sleepsBefore config frames seen earlier) < config.idleTimeout) :
    (idleRun config frames seen sleeps).watchdog =
      .idle (seen sleeps) (quiet (sleepsBefore config frames seen sleeps))
        (min 1 (config.idleTimeout - quiet (sleepsBefore config frames seen sleeps))) := by
  induction sleeps with
  | zero => rfl
  | succ sleeps induction =>
      have before := induction fun earlier ordered => early earlier (by omega)
      have now := early (sleeps + 1) le_rfl
      have grown := quiet_succ config frames seen sleeps
      show resume config (openState (frames (sleeps + 1)) (seen (sleeps + 1)))
        (idleRun config frames seen sleeps).watchdog = _
      rw [before] at grown ⊢
      simp only [resume, Watchdog.interval] at grown ⊢
      by_cases changed : seen sleeps ≠ seen (sleeps + 1)
      · rw [if_pos changed] at grown
        rw [grown]
        exact if_pos changed
      · rw [if_neg changed] at grown
        rw [grown] at now
        have same : seen sleeps = seen (sleeps + 1) := not_not.mp changed
        rw [grown, ← same]
        have unchanged : ¬ seen sleeps ≠
            (openState (frames (sleeps + 1)) (seen sleeps)).activityEpoch := fun differ =>
          differ rfl
        rw [if_neg unchanged, if_neg (not_le.mpr now)]
        rfl

/-- The first sleep that makes the connection quiet for the timeout ends the loop. -/
theorem idleRun_closes {sleeps : Nat}
    (early : ∀ earlier, earlier ≤ sleeps →
      quiet (sleepsBefore config frames seen earlier) < config.idleTimeout)
    (due : config.idleTimeout ≤ quiet (sleepsBefore config frames seen (sleeps + 1))) :
    (idleRun config frames seen (sleeps + 1)).watchdog = .forceClosed idleTooLong ∧
      quiet (sleepsBefore config frames seen (sleeps + 1)) = config.idleTimeout := by
  have before := idleRun_waiting config frames seen sleeps early
  have grown := quiet_succ config frames seen sleeps
  have positive := idleTimeout_positive config
  by_cases changed : seen sleeps ≠ seen (sleeps + 1)
  · rw [if_pos changed] at grown
    rw [grown] at due
    exact absurd due (not_le.mpr positive)
  · rw [if_neg changed, before] at grown
    simp only [Watchdog.interval] at grown
    have short := min_le_right 1
      (config.idleTimeout - quiet (sleepsBefore config frames seen sleeps))
    have same : seen sleeps = seen (sleeps + 1) := not_not.mp changed
    refine ⟨?_, le_antisymm (by rw [grown]; linarith) due⟩
    show resume config (openState (frames (sleeps + 1)) (seen (sleeps + 1)))
      (idleRun config frames seen sleeps).watchdog = _
    rw [grown] at due
    rw [before, ← same]
    simp only [resume]
    have unchanged : ¬ seen sleeps ≠
        (openState (frames (sleeps + 1)) (seen sleeps)).activityEpoch := fun differ => differ rfl
    rw [if_neg unchanged, if_pos due]

theorem quiet_start : quiet (sleepsBefore config frames seen 0) < config.idleTimeout :=
  idleTimeout_positive config

theorem closesAt_of_dueAt {sleeps : Nat} (due : DueAt config frames seen sleeps) :
    ClosesAt config frames seen sleeps := by
  obtain ⟨reached, early⟩ := due
  cases sleeps with
  | zero => exact absurd reached (not_le.mpr (quiet_start config frames seen))
  | succ sleeps =>
      refine ⟨(idleRun_closes config frames seen
        (fun earlier ordered => early earlier (by omega)) reached).1, ?_⟩
      intro earlier ordered
      have waiting := idleRun_waiting config frames seen earlier
        fun before _ => early before (by omega)
      rw [waiting]
      rfl

/-- If the timeout is due anywhere up to a sleep end, it was due for the first time
somewhere. -/
theorem exists_dueAt {sleeps : Nat}
    (reached : config.idleTimeout ≤ quiet (sleepsBefore config frames seen sleeps)) :
    ∃ first, first ≤ sleeps ∧ DueAt config frames seen first := by
  classical
  have some : ∃ count, config.idleTimeout ≤ quiet (sleepsBefore config frames seen count) :=
    ⟨sleeps, reached⟩
  exact ⟨Nat.find some, Nat.find_min' some reached, Nat.find_spec some,
    fun earlier ordered => not_le.mp (Nat.find_min some ordered)⟩

theorem closesAt_iff_dueAt (sleeps : Nat) :
    ClosesAt config frames seen sleeps ↔ DueAt config frames seen sleeps := by
  constructor
  · rintro ⟨closed, asleep⟩
    by_cases due : ∃ count, count ≤ sleeps ∧
        config.idleTimeout ≤ quiet (sleepsBefore config frames seen count)
    · obtain ⟨count, ordered, reached⟩ := due
      obtain ⟨first, atMost, dueFirst⟩ := exists_dueAt config frames seen reached
      have closedFirst := (closesAt_of_dueAt config frames seen dueFirst).1
      have last : first = sleeps := by
        by_contra differ
        have awake := asleep first (by omega)
        rw [closedFirst] at awake
        cases awake
      rw [← last]
      exact dueFirst
    · have waiting := idleRun_waiting config frames seen sleeps
        fun earlier ordered => not_le.mp fun reached => due ⟨earlier, ordered, reached⟩
      rw [waiting] at closed
      cases closed
  · exact closesAt_of_dueAt config frames seen

/-- The quiet time is the time since the last sleep in which the epoch changed. -/
theorem quiet_stretch (sleeps : Nat) :
    ∃ first, first ≤ sleeps ∧
      quiet (sleepsBefore config frames seen sleeps) =
        (idleRun config frames seen sleeps).clock - (idleRun config frames seen first).clock ∧
      ∀ sleep, first ≤ sleep → sleep < sleeps → seen sleep = seen (sleep + 1) := by
  induction sleeps with
  | zero => exact ⟨0, le_rfl, (sub_self _).symm, fun sleep _ below => absurd below (by omega)⟩
  | succ sleeps induction =>
      obtain ⟨first, atMost, total, unchanged⟩ := induction
      have grown := quiet_succ config frames seen sleeps
      by_cases changed : seen sleeps ≠ seen (sleeps + 1)
      · rw [if_pos changed] at grown
        exact ⟨sleeps + 1, le_rfl, by rw [grown, sub_self], fun sleep above below =>
          absurd below (by omega)⟩
      · rw [if_neg changed] at grown
        refine ⟨first, by omega, ?_, fun sleep above below => ?_⟩
        · have ticked : (idleRun config frames seen (sleeps + 1)).clock =
              (idleRun config frames seen sleeps).clock +
                (idleRun config frames seen sleeps).watchdog.interval := rfl
          rw [grown, total, ticked]
          ring
        · rcases Nat.lt_succ_iff_lt_or_eq.mp below with before | last
          · exact unchanged sleep above before
          · rw [last]
            exact not_not.mp changed

/-- When the timeout is due, the connection has been quiet for exactly the timeout. -/
theorem quiet_of_dueAt {sleeps : Nat} (due : DueAt config frames seen sleeps) :
    quiet (sleepsBefore config frames seen sleeps) = config.idleTimeout := by
  obtain ⟨reached, early⟩ := due
  cases sleeps with
  | zero => exact absurd reached (not_le.mpr (quiet_start config frames seen))
  | succ sleeps =>
      exact (idleRun_closes config frames seen
        (fun earlier ordered => early earlier (by omega)) reached).2

theorem not_due_of_asleep {sleeps : Nat}
    (asleep : (idleRun config frames seen sleeps).watchdog.asleep = true) :
    ∀ earlier, earlier ≤ sleeps →
      quiet (sleepsBefore config frames seen earlier) < config.idleTimeout := by
  intro earlier ordered
  by_contra reached
  obtain ⟨first, atMost, due⟩ := exists_dueAt config frames seen (not_lt.mp reached)
  have closed := (closesAt_of_dueAt config frames seen due).1
  have stays : ∀ later, first ≤ later →
      (idleRun config frames seen later).watchdog = .forceClosed idleTooLong := by
    intro later above
    induction later, above using Nat.le_induction with
    | base => exact closed
    | succ later _ induction =>
        show resume config _ (idleRun config frames seen later).watchdog = _
        rw [induction]
        rfl
  rw [stays sleeps (by omega)] at asleep
  cases asleep

/-- After its last activity the watchdog sleeps in whole seconds until the timeout is due. -/
theorem quiet_seconds {start : Nat}
    (fresh : quiet (sleepsBefore config frames seen start) = 0)
    (unchanged : ∀ sleep, start ≤ sleep → seen sleep = seen (sleep + 1)) (seconds : Nat)
    (early : ∀ earlier, earlier ≤ start + seconds →
      quiet (sleepsBefore config frames seen earlier) < config.idleTimeout) :
    quiet (sleepsBefore config frames seen (start + seconds)) = seconds := by
  induction seconds with
  | zero => simpa using fresh
  | succ seconds induction =>
      have before := induction fun earlier ordered => early earlier (by omega)
      have waiting := idleRun_waiting config frames seen (start + seconds)
        fun earlier ordered => early earlier (by omega)
      have grown := quiet_succ config frames seen (start + seconds)
      have now := early (start + seconds + 1) (by omega)
      rw [if_neg (not_not.mpr (unchanged (start + seconds) (by omega))), waiting] at grown
      simp only [Watchdog.interval] at grown
      rw [before] at grown
      have whole : min 1 (config.idleTimeout - (seconds : Rat)) = 1 := by
        rcases min_choice 1 (config.idleTimeout - (seconds : Rat)) with one | rest
        · exact one
        · rw [rest] at grown
          rw [grown] at now
          linarith
      rw [whole] at grown
      push_cast
      exact grown

theorem quiet_since {start sleeps : Nat}
    (fresh : quiet (sleepsBefore config frames seen start) = 0)
    (unchanged : ∀ sleep, start ≤ sleep → seen sleep = seen (sleep + 1))
    (ordered : start ≤ sleeps) :
    quiet (sleepsBefore config frames seen sleeps) =
      (idleRun config frames seen sleeps).clock - (idleRun config frames seen start).clock := by
  induction sleeps, ordered using Nat.le_induction with
  | base => rw [fresh, sub_self]
  | succ sleeps ordered induction =>
      have grown := quiet_succ config frames seen sleeps
      have ticked : (idleRun config frames seen (sleeps + 1)).clock =
          (idleRun config frames seen sleeps).clock +
            (idleRun config frames seen sleeps).watchdog.interval := rfl
      rw [if_neg (not_not.mpr (unchanged sleeps ordered)), induction] at grown
      rw [grown, ticked]
      ring

/-- A connection that was last active during sleep `last` is closed the timeout after its end. -/
theorem closes_after_last {last : Nat}
    (asleep : (idleRun config frames seen last).watchdog.asleep = true)
    (changed : seen last ≠ seen (last + 1))
    (unchanged : ∀ sleep, last < sleep → seen sleep = seen (sleep + 1)) :
    ∃ sleeps, last < sleeps ∧ ClosesAt config frames seen sleeps ∧
      (idleRun config frames seen sleeps).clock =
        (idleRun config frames seen (last + 1)).clock + config.idleTimeout := by
  have before := not_due_of_asleep config frames seen asleep
  have fresh : quiet (sleepsBefore config frames seen (last + 1)) = 0 := by
    rw [quiet_succ config frames seen last, if_pos changed]
  have early : ∀ earlier, earlier ≤ last + 1 →
      quiet (sleepsBefore config frames seen earlier) < config.idleTimeout := by
    intro earlier ordered
    rcases Nat.le_succ_iff.mp ordered with below | same
    · exact before earlier below
    · rw [same, fresh]
      exact idleTimeout_positive config
  have reached : ∃ count, config.idleTimeout ≤ quiet (sleepsBefore config frames seen count) := by
    by_contra never
    have seconds := quiet_seconds config frames seen fresh
      (fun sleep above => unchanged sleep (by omega)) ⌈config.idleTimeout⌉₊
      fun earlier _ => not_le.mp fun due => never ⟨earlier, due⟩
    exact never ⟨_, seconds ▸ Nat.le_ceil config.idleTimeout⟩
  obtain ⟨count, atCount⟩ := reached
  obtain ⟨sleeps, _, due⟩ := exists_dueAt config frames seen atCount
  have later : last + 1 < sleeps := by
    by_contra within
    exact absurd due.1 (not_le.mpr (early sleeps (by omega)))
  have total := quiet_since config frames seen fresh
    (fun sleep above => unchanged sleep (by omega)) later.le
  rw [quiet_of_dueAt config frames seen due] at total
  exact ⟨sleeps, by omega, closesAt_of_dueAt config frames seen due, by rw [total]; ring⟩

theorem interval_le_one {sleeps : Nat}
    (asleep : (idleRun config frames seen sleeps).watchdog.asleep = true) :
    (idleRun config frames seen (sleeps + 1)).clock ≤
      (idleRun config frames seen sleeps).clock + 1 := by
  have waiting := idleRun_waiting config frames seen sleeps
    (not_due_of_asleep config frames seen asleep)
  have short : (idleRun config frames seen sleeps).watchdog.interval ≤ 1 := by
    rw [waiting]
    exact min_le_left _ _
  show (idleRun config frames seen sleeps).clock +
    (idleRun config frames seen sleeps).watchdog.interval ≤ _
  linarith

theorem iterate_markActivity (calls : Nat) (state : ConnectionState) :
    (ConnectionState.markActivity^[calls] state).activityEpoch = state.activityEpoch + calls := by
  induction calls generalizing state with
  | zero => rfl
  | succ calls induction =>
      rw [Function.iterate_succ_apply, induction]
      show state.activityEpoch + 1 + calls = _
      omega

theorem markedEpochs_succ (first : Nat) (calls : Nat → Nat) (sleeps : Nat) :
    markedEpochs frames first calls (sleeps + 1) =
      markedEpochs frames first calls sleeps + calls sleeps :=
  iterate_markActivity _ _

theorem markedEpochs_changed_iff (first : Nat) (calls : Nat → Nat) (sleep : Nat) :
    markedEpochs frames first calls sleep ≠ markedEpochs frames first calls (sleep + 1) ↔
      0 < calls sleep := by
  rw [markedEpochs_succ]
  omega

/-- The second loop closes a connection at the first sleep end at which it has been quiet for
`idle_timeout`, so never one that is active in every such stretch, and one that falls quiet
within `idle_timeout` and a second. -/
theorem idle_watchdog_exact (config : HTTP2Config) (frames : Nat → FrameBudget) :
    (∀ (seen : Nat → Nat) (sleeps : Nat),
      ClosesAt config frames seen sleeps ↔ DueAt config frames seen sleeps) ∧
    (∀ (first : Nat) (calls : Nat → Nat),
      (∀ start stop, start ≤ stop →
        (idleRun config frames (markedEpochs frames first calls) stop).clock -
            (idleRun config frames (markedEpochs frames first calls) start).clock =
          config.idleTimeout →
        ∃ sleep, start ≤ sleep ∧ sleep < stop ∧ 0 < calls sleep) →
      ∀ sleeps,
        (idleRun config frames (markedEpochs frames first calls) sleeps).watchdog.asleep = true) ∧
    ∀ (first : Nat) (calls : Nat → Nat) (last : Nat),
      (idleRun config frames (markedEpochs frames first calls) last).watchdog.asleep = true →
      0 < calls last → (∀ sleep, last < sleep → calls sleep = 0) →
      ∃ sleeps, last < sleeps ∧ ClosesAt config frames (markedEpochs frames first calls) sleeps ∧
        (idleRun config frames (markedEpochs frames first calls) sleeps).clock =
          (idleRun config frames (markedEpochs frames first calls) (last + 1)).clock +
            config.idleTimeout ∧
        ∀ activity,
          (idleRun config frames (markedEpochs frames first calls) last).clock ≤ activity →
          (idleRun config frames (markedEpochs frames first calls) sleeps).clock ≤
            activity + config.idleTimeout + 1 := by
  refine ⟨closesAt_iff_dueAt config frames, fun first calls lively sleeps => ?_,
    fun first calls last asleep active calm => ?_⟩
  · have waiting : ∀ earlier, earlier ≤ sleeps →
        quiet (sleepsBefore config frames (markedEpochs frames first calls) earlier) <
          config.idleTimeout := by
      intro earlier _
      by_contra reached
      obtain ⟨count, _, due⟩ := exists_dueAt config frames _ (not_lt.mp reached)
      obtain ⟨start, atMost, total, unchanged⟩ := quiet_stretch config frames
        (markedEpochs frames first calls) count
      rw [quiet_of_dueAt config frames _ due] at total
      obtain ⟨sleep, above, below, active⟩ := lively start count atMost total.symm
      exact (markedEpochs_changed_iff frames first calls sleep).mpr active
        (unchanged sleep above below)
    rw [idleRun_waiting config frames _ sleeps waiting]
    rfl
  · have changed := (markedEpochs_changed_iff frames first calls last).mpr active
    have unchanged : ∀ sleep, last < sleep →
        markedEpochs frames first calls sleep = markedEpochs frames first calls (sleep + 1) := by
      intro sleep later
      rw [markedEpochs_succ, calm sleep later, Nat.add_zero]
    obtain ⟨sleeps, later, closes, total⟩ :=
      closes_after_last config frames _ asleep changed unchanged
    refine ⟨sleeps, later, closes, total, fun activity since => ?_⟩
    have short := interval_le_one config frames _ asleep
    rw [total]
    linarith

end Idle

section Samples

def sampleConfig : HTTP2Config where
  handshakeTimeout := 1
  idleTimeout := 1 / 2
  maxConcurrentStreams := 8
  accepted := by decide +kernel

def sampleSchedule : Schedule sampleConfig where
  stateAt moment :=
    if moment < 1 / 2 then { frames := FrameBudget.new }
    else ConnectionState.receive sampleConfig { frames := FrameBudget.new } clientPreface
  later earlier moment ordered := by
    by_cases before : moment < 1 / 2
    · rw [if_pos before, if_pos (lt_of_le_of_lt ordered before)]
    · rw [if_neg before]
      split
      · exact Relation.ReflTransGen.single (Happens.receives _ _)
      · exact Relation.ReflTransGen.refl

theorem preface_ignored :
    (run sampleSchedule 1).watchdog = .forceClosed prefaceTimedOut ∧
      (sampleSchedule.stateAt (1 / 2)).prefaceReceived = true ∧
      ¬ RespectsPreface sampleSchedule := by
  have closed : (run sampleSchedule 1).watchdog = .forceClosed prefaceTimedOut := by decide +kernel
  have received : (sampleSchedule.stateAt 1).prefaceReceived = true := by decide +kernel
  refine ⟨closed, by decide +kernel, fun respected => ?_⟩
  have missing := respected.1 1 closed
  exact absurd (received.symm.trans missing) (by decide)

theorem idle_watchdog_exact_sample :
    (∀ sleeps, (idleRun sampleConfig (fun _ => FrameBudget.new)
      (markedEpochs (fun _ => FrameBudget.new) 0 fun _ => 1) sleeps).watchdog.asleep = true) ∧
    ∃ sleeps, 0 < sleeps ∧ ClosesAt sampleConfig (fun _ => FrameBudget.new)
      (markedEpochs (fun _ => FrameBudget.new) 0 fun sleep => if sleep = 0 then 1 else 0)
      sleeps := by
  obtain ⟨_, lively, calm⟩ := idle_watchdog_exact sampleConfig fun _ => FrameBudget.new
  constructor
  · refine lively 0 (fun _ => 1) fun start stop ordered total => ?_
    rcases Nat.lt_or_eq_of_le ordered with below | same
    · exact ⟨start, le_rfl, below, Nat.one_pos⟩
    · rw [same, sub_self] at total
      exact absurd total (idleTimeout_positive sampleConfig).ne
  · obtain ⟨sleeps, later, closes, _⟩ := calm 0 (fun sleep => if sleep = 0 then 1 else 0) 0 rfl
      Nat.one_pos fun sleep later => if_neg later.ne'
    exact ⟨sleeps, later, closes⟩

end Samples

end SmallServer.Http2Watchdog
