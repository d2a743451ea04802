import SmallServer.ServerSteps

/-!
# What the server owns

The results about whole runs of a server: no accepted stream is lost before its kernel close
has succeeded, no capacity signal is lost, and a shutdown that a failure asks for is driven.
-/

namespace SmallServer.ServerOwnership

open SmallServer Server ServerEffects ServerSteps

set_option autoImplicit false

def ClosedByKernel (stream : StreamId) (handle : ServerHandle) : Prop :=
  (Call.close (.connection stream), true) ∈ handle.log

def InOneTable (stream : StreamId) (handle : ServerHandle) : Prop :=
  (stream ∈ handle.connections ∧ stream ∉ handle.closingConnections) ∨
    (stream ∉ handle.connections ∧ stream ∈ handle.closingConnections)

section Streams

variable {handle after : ServerHandle}

theorem closedByKernel_iff (sound : Sound handle) (stream : StreamId) :
    ClosedByKernel stream handle ↔ stream ∈ handle.closedStreams :=
  sound.recorded.done (.connection stream)

theorem inOneTable (sound : Sound handle) {stream : StreamId}
    (accepted : stream < handle.acceptedStreams) (unclosed : ¬ClosedByKernel stream handle) :
    InOneTable stream handle := by
  rw [closedByKernel_iff sound] at unclosed
  have apart := sound.tables.apart stream
  rcases sound.tables.owned stream accepted unclosed with present | closing
  · exact .inl ⟨present, apart present⟩
  · exact .inr ⟨fun present => apart present closing, closing⟩

theorem left_closed (sound : Sound handle) (afterSound : Sound after)
    (advances : Advances handle after) {stream : StreamId}
    (owned : stream ∈ handle.connections ∨ stream ∈ handle.closingConnections)
    (absent : stream ∉ after.connections) (gone : stream ∉ after.closingConnections) :
    ClosedByKernel stream after := by
  have accepted : stream < handle.acceptedStreams := by
    rcases owned with present | closing
    · exact sound.tables.connections_accepted stream present
    · exact (sound.tables.closing_open stream closing).1
  by_contra unclosed
  rcases inOneTable afterSound (accepted.trans_le advances.accepted) unclosed with ⟨present, -⟩ |
    ⟨-, closing⟩
  · exact absent present
  · exact gone closing

end Streams

section Runs

variable {answers : Nat → Bool} {maxConnections : Nat} {hasWakeup hasObserver : Bool}
  {steps later : List Step} {handle after : ServerHandle}

/-- Whatever runs and whatever the kernel answers, a stream that was accepted and that the
kernel has not closed is in exactly one table; it leaves the tables only closed; no close
follows one that succeeded; and the two tables never hold more than the configuration
allows. -/
theorem accepted_streams_owned
    (run : Runs.Run (Steps answers) (scheduled maxConnections hasWakeup hasObserver) steps handle)
    (rest : Runs.Run (Steps answers) handle later after) :
    (∀ stream, stream < handle.acceptedStreams → ¬ClosedByKernel stream handle →
      InOneTable stream handle) ∧
    (∀ stream, stream ∈ handle.connections ∨ stream ∈ handle.closingConnections →
      stream ∉ after.connections → stream ∉ after.closingConnections →
        ClosedByKernel stream after) ∧
    handle.log.Pairwise CloseIsLast ∧ handle.ownedConnectionCount ≤ maxConnections := by
  obtain ⟨sound, capacity, -, -⟩ := reachable_sound run
  obtain ⟨afterSound, advances⟩ := run_advances sound rest
  refine ⟨?_, ?_, sound.recorded.last, ?_⟩
  · exact fun stream accepted unclosed => inOneTable sound accepted unclosed
  · exact fun stream owned absent gone => left_closed sound afterSound advances owned absent gone
  · exact capacity ▸ sound.tables.bounded

/-- The accept loop is suspended in `_wait_for_capacity`. -/
def WaitsForCapacity (handle : ServerHandle) : Prop :=
  (∃ listener ∈ handle.live, handle.listenerTask = some listener) ∧
    handle.listenerPhase = .waitsCapacity

/-- A listener that waits for capacity and was not signalled has none to wait for. -/
theorem capacity_signal_not_lost
    (run : Runs.Run (Steps answers) (scheduled maxConnections hasWakeup hasObserver) steps handle)
    (waits : WaitsForCapacity handle) (unsignalled : handle.signalled = false)
    (delivered : handle.signalFailed = false) (unrequested : handle.closeRequested = false) :
    maxConnections ≤ handle.ownedConnectionCount := by
  obtain ⟨sound, capacity, -, -⟩ := reachable_sound run
  obtain ⟨⟨listener, live, is⟩, phase⟩ := waits
  obtain ⟨task, found⟩ := Option.isSome_iff_exists.mp (AList.lookup_isSome.mpr live)
  have listens : Listening handle.live :=
    ⟨listener, task, found, (sound.roster.listener listener is).2 task found⟩
  exact capacity ▸ sound.watch.heard listens phase unsignalled delivered unrequested

/-- A shutdown that a failure asked for has been made known or begun; `notify` succeeds at
most once; and the failure stays the first one, its primary error before its cleanup
failure. -/
theorem failure_drives_shutdown
    (run : Runs.Run (Steps answers) (scheduled maxConnections hasWakeup hasObserver) steps handle)
    (rest : Runs.Run (Steps answers) handle later after) :
    (handle.fatalErrors ≠ [] → handle.closeRequested = true ∧
      ((Call.notify, true) ∈ handle.log ∨ handle.finalizationAttempted = true)) ∧
    handle.log.count (.notify, true) ≤ 1 ∧
    (∀ first fatal, handle.fatalErrors = first :: fatal → ∃ error,
      first.identified = some error ∧ handle.failure = some error ∧ after.failure = some error) ∧
    (handle.fatalErrors = [] → handle.failure = none) := by
  obtain ⟨sound, -, -, -⟩ := reachable_sound run
  obtain ⟨afterSound, advances⟩ := run_advances sound rest
  have notified : handle.log.count (.notify, true) = if handle.notificationSent then 1 else 0 :=
    sound.notified
  refine ⟨?_, ?_, ?_, ?_⟩
  · intro failed
    refine ⟨sound.drive.fatal_requested failed, (sound.drive.driven failed).imp_left fun sent => ?_⟩
    have once : handle.log.count (.notify, true) = 1 := by
      rw [notified]
      exact if_pos sent
    exact List.count_pos_iff.mp (once ▸ Nat.one_pos)
  · rw [notified]
    split <;> decide
  · intro first fatal failed
    obtain ⟨error, identified⟩ := Option.isSome_iff_exists.mp
      (sound.drive.identified first (by
        change first ∈ handle.fatalErrors
        rw [failed]
        exact List.mem_cons_self))
    have here : handle.failure = first.identified := by
      have known : handle.failure = handle.fatalErrors.head?.bind FatalError.identified :=
        sound.drive.first
      rw [known, failed]
      rfl
    have there : after.failure = first.identified := by
      have known : after.failure = after.fatalErrors.head?.bind FatalError.identified :=
        afterSound.drive.first
      obtain ⟨more, grown⟩ := advances.fatal
      rw [known, ← grown, failed]
      rfl
    exact ⟨error, identified, here.trans identified, there.trans identified⟩
  · intro none
    have known : handle.failure = handle.fatalErrors.head?.bind FatalError.identified :=
      sound.drive.first
    rw [known, none]
    rfl

end Runs

section Samples

def willing : Nat → Bool := fun _ => true

def single : ServerHandle := scheduled 1 true false

def accepts : List Step := [.runsListener (.stream none .forked)]

def fills : List Step := accepts ++ [.runsListener .wouldBlock]

def completes : List Step := [.starts 2, .finishesConnection 2 none]

def breaks : List Step := [.runsListener (.raised (.given 0))]

def accepted : ServerHandle := Runs.endOf (next willing) single accepts

def full : ServerHandle := Runs.endOf (next willing) single fills

def completed : ServerHandle := Runs.endOf (next willing) accepted completes

def broken : ServerHandle := Runs.endOf (next willing) single breaks

def finalized : ServerHandle := Runs.endOf (next willing) broken [.wakesWatcher 1]

theorem reaches_accepted : Runs.Run (Steps willing) single accepts accepted :=
  Runs.run_endOf (fun _ _ _ => id) (by decide +kernel)

theorem reaches_full : Runs.Run (Steps willing) single fills full :=
  Runs.run_endOf (fun _ _ _ => id) (by decide +kernel)

theorem reaches_completed : Runs.Run (Steps willing) accepted completes completed :=
  Runs.run_endOf (fun _ _ _ => id) (by decide +kernel)

theorem reaches_broken : Runs.Run (Steps willing) single breaks broken :=
  Runs.run_endOf (fun _ _ _ => id) (by decide +kernel)

theorem reaches_finalized : Runs.Run (Steps willing) broken [.wakesWatcher 1] finalized :=
  Runs.run_endOf (fun _ _ _ => id) (by decide +kernel)

/-- The connection is owned while it runs, and is closed when it leaves. -/
theorem accepted_streams_owned_sample : InOneTable 0 accepted ∧ ClosedByKernel 0 completed := by
  obtain ⟨owned, left, -, -⟩ := accepted_streams_owned reaches_accepted reaches_completed
  refine ⟨owned 0 (by decide +kernel) ?_, left 0 (by decide +kernel) (by decide +kernel)
    (by decide +kernel)⟩
  unfold ClosedByKernel
  decide +kernel

/-- The listener waits while the one slot is taken. -/
theorem capacity_signal_not_lost_sample : 1 ≤ full.ownedConnectionCount :=
  capacity_signal_not_lost reaches_full
    ⟨⟨0, by decide +kernel, by decide +kernel⟩, by decide +kernel⟩
    (by decide +kernel) (by decide +kernel) (by decide +kernel)

/-- The failure of `accept` is notified, and is still known after the finalization. -/
theorem failure_drives_shutdown_sample :
    broken.closeRequested = true ∧ ∃ error, finalized.failure = some error := by
  obtain ⟨driven, -, first, -⟩ := failure_drives_shutdown reaches_broken reaches_finalized
  obtain ⟨error, -, -, later⟩ := first ⟨some (.given 0), none⟩ [] (by decide +kernel)
  exact ⟨(driven (by decide +kernel)).1, error, later⟩

end Samples

end SmallServer.ServerOwnership
