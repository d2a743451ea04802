import SmallServer.ServerStartup

/-!
# The handle of a startup

A handle whose tasks have never run and that has accepted nothing: cancelling one of its tasks
runs no `finally` block, and a finalization is a close of the wakeup channel, a cancellation of
every task and a close of the listener.
-/

namespace SmallServer.StartupCleanup

open SmallServer Server ServerFinalization

set_option autoImplicit false

variable {answers : Nat → Bool} {larger handle middle after : ServerHandle}

section Idle

def Unstarted (handle : ServerHandle) : Prop :=
  ∀ taskId task, handle.live.lookup taskId = some task → task.started = false

/-- A handle before its runtime runs. -/
structure Idle (handle : ServerHandle) : Prop where
  unstarted : Unstarted handle
  connections : handle.connections.entries = []
  closing : handle.closingConnections.entries = []
  sockets : handle.websocketStates = ∅
  untold : handle.onFinalized = !handle.finished

structure Revokes (tasks : List TaskId) (handle after : ServerHandle) : Prop where
  same : ∃ live pending cancelled errors log, after = { handle with
    live := live
    pendingTaskCancellations := pending
    cancelledTaskIds := cancelled
    cleanupErrors := errors
    log := log }
  unstarted : Unstarted after
  log : handle.log <+: after.log
  failed : ∀ task ∈ after.pendingTaskCancellations,
    CancelFailed task (added handle after) ∨
      task ∈ handle.pendingTaskCancellations ∧ task ∉ tasks

theorem cancelFailed_left {task : TaskId} (first : handle.log <+: middle.log)
    (second : middle.log <+: after.log) (failed : CancelFailed task (added handle middle)) :
    CancelFailed task (added handle after) :=
  failed.imp fun _ member => mem_added_left first second member

theorem cancelFailed_right {task : TaskId} (first : handle.log <+: middle.log)
    (second : middle.log <+: after.log) (failed : CancelFailed task (added middle after)) :
    CancelFailed task (added handle after) :=
  failed.imp fun _ member => mem_added_right first second member

theorem Revokes.refl (unstarted : Unstarted handle) : Revokes [] handle handle where
  same := ⟨_, _, _, _, _, rfl⟩
  unstarted := unstarted
  log := List.prefix_rfl
  failed := fun _ pending => .inr ⟨pending, List.not_mem_nil⟩

theorem Revokes.trans {first second : List TaskId} (revokes : Revokes first handle middle)
    (further : Revokes second middle after) : Revokes (first ++ second) handle after where
  same := by
    obtain ⟨_, _, _, _, _, rfl⟩ := revokes.same
    obtain ⟨_, _, _, _, _, rfl⟩ := further.same
    exact ⟨_, _, _, _, _, rfl⟩
  unstarted := further.unstarted
  log := revokes.log.trans further.log
  failed := by
    intro task pending
    rcases further.failed task pending with failed | ⟨before, other⟩
    · exact .inl (cancelFailed_right revokes.log further.log failed)
    · rcases revokes.failed task before with failed | ⟨earlier, another⟩
      · exact .inl (cancelFailed_left revokes.log further.log failed)
      · exact .inr ⟨earlier, fun member =>
          (List.mem_append.mp member).elim another other⟩

theorem cancel_unstarted (answers : Nat → Bool) (larger : ServerHandle)
    (unstarted : Unstarted handle) (task : TaskId) : ∃ live,
    cancel answers larger task handle = (answers handle.log.length, { handle with
      live := live
      log := handle.log ++
        [(.cancelTask task (decide (task ∉ handle.live)), answers handle.log.length)] }) ∧
    ∀ other entry, live.lookup other = some entry → handle.live.lookup other = some entry := by
  unfold cancel cancelAt cancelStep attempt
  dsimp only
  cases answered : answers handle.log.length with
  | false => exact ⟨handle.live, rfl, fun _ _ found => found⟩
  | true =>
      cases found : handle.live.lookup task with
      | none => exact ⟨handle.live, by dsimp only; rw [found], fun _ _ found => found⟩
      | some entry =>
          refine ⟨handle.live.erase task, ?_, ?_⟩
          · dsimp only
            rw [found]
            dsimp only
            rw [unstarted task entry found]
            rfl
          · intro other entry member
            rw [OrderedDict.lookup_erase_eq] at member
            split at member
            · cases member
            · exact member

theorem cancelAndNote_revokes (answers : Nat → Bool) (larger : ServerHandle)
    (unstarted : Unstarted handle) (task : TaskId) :
    Revokes [task] handle (cancelAndNote (cancel answers larger) task handle) := by
  obtain ⟨live, called, fewer⟩ := cancel_unstarted answers larger unstarted task
  unfold cancelAndNote cancelOrRetainTask
  rw [called]
  cases answered : answers handle.log.length with
  | true =>
      exact {
        same := ⟨_, _, _, _, _, rfl⟩
        unstarted := fun other entry found => unstarted other entry (fewer other entry found)
        log := List.prefix_append _ _
        failed := by
          intro other pending
          obtain ⟨different, before⟩ := AList.mem_erase.mp pending
          exact .inr ⟨before, fun member => different (List.mem_singleton.mp member)⟩ }
  | false =>
      exact {
        same := ⟨_, _, _, _, _, rfl⟩
        unstarted := fun other entry found => unstarted other entry (fewer other entry found)
        log := List.prefix_append _ _
        failed := by
          intro other pending
          rcases OrderedDict.mem_set.mp pending with rfl | before
          · exact .inl ⟨_, mem_added_append rfl (List.mem_singleton_self _)⟩
          · by_cases same : other = task
            · subst same
              exact .inl ⟨_, mem_added_append rfl (List.mem_singleton_self _)⟩
            · exact .inr ⟨before, fun member => same (List.mem_singleton.mp member)⟩ }

theorem cancelPending_revokes (answers : Nat → Bool) (larger : ServerHandle) (tasks : List TaskId)
    (unstarted : Unstarted handle) :
    Revokes tasks handle
      (tasks.foldl (fun next task => cancelAndNote (cancel answers larger) task next)
        handle) := by
  induction tasks generalizing handle with
  | nil => exact .refl unstarted
  | cons task tasks induction =>
      have first := cancelAndNote_revokes answers larger unstarted task
      exact first.trans (induction first.unstarted)

theorem cancelOwned_revokes (answers : Nat → Bool) (larger : ServerHandle) (tasks : List TaskId)
    (state : Attempted) (unstarted : Unstarted state.2) :
    ∃ tried, Revokes tried state.2
      (tasks.foldl (cancelOnce (cancel answers larger) none) state).2 := by
  induction tasks generalizing state with
  | nil => exact ⟨[], .refl unstarted⟩
  | cons task tasks induction =>
      rw [List.foldl_cons]
      unfold cancelOnce
      split
      · exact induction state unstarted
      · have first := cancelAndNote_revokes answers larger unstarted task
        obtain ⟨tried, rest⟩ := induction
          (task :: state.1, cancelAndNote (cancel answers larger) task state.2) first.unstarted
        exact ⟨_, first.trans rest⟩

end Idle

section Finishing

/-- What a finalization makes of a handle before its runtime runs. -/
structure Finishes (handle after : ServerHandle) : Prop where
  idle : Idle after
  requested : after.closeRequested = true
  hasWakeup : after.hasWakeup = handle.hasWakeup
  log : handle.log <+: after.log
  wakeupKept : handle.wakeupClosed = true → after.wakeupClosed = true
  listenerKept : handle.listenerClosed = true → after.listenerClosed = true
  wakeup : handle.hasWakeup = true →
    after.wakeupClosed = true ∨ (.close .wakeup, false) ∈ added handle after
  listener : after.listenerClosed = true ∨ (.close .listener, false) ∈ added handle after
  pending : ∀ task ∈ after.pendingTaskCancellations, CancelFailed task (added handle after)
  finished : after.finished = after.complete
  told : after.finalizedCalls = handle.finalizedCalls + if after.finished then 1 else 0

/-- Of a handle that has accepted nothing, the listener, the wakeup channel and the
cancellations are what is left to do. -/
theorem Idle.complete_iff (idle : Idle handle) (requested : handle.closeRequested = true) :
    handle.complete = true ↔ (handle.hasWakeup = true → handle.wakeupClosed = true) ∧
      handle.listenerClosed = true ∧ handle.pendingTaskCancellations.entries = [] := by
  unfold ServerHandle.complete
  rw [requested, idle.connections, idle.closing, idle.sockets]
  cases handle.hasWakeup <;> cases handle.wakeupClosed <;> cases handle.listenerClosed <;>
    simp

theorem closeWakeup_same (answers : Nat → Bool) (handle : ServerHandle) :
    ∃ closed errors log, closeWakeup answers handle = { handle with
        wakeupClosed := closed
        cleanupErrors := errors
        log := log } ∧ (handle.wakeupClosed = true → closed = true) ∧ handle.log <+: log := by
  unfold closeWakeup attempt
  split
  · cases answers handle.log.length with
    | true => exact ⟨_, _, _, rfl, fun _ => rfl, List.prefix_append _ _⟩
    | false => exact ⟨handle.wakeupClosed, _, _, rfl, id, List.prefix_append _ _⟩
  · exact ⟨_, _, _, rfl, id, List.prefix_rfl⟩

theorem closeListener_same (answers : Nat → Bool) (handle : ServerHandle) :
    ∃ closed errors log, closeListener answers handle = { handle with
        listenerClosed := closed
        cleanupErrors := errors
        log := log } ∧ (handle.listenerClosed = true → closed = true) ∧ handle.log <+: log := by
  unfold closeListener attempt
  split
  · cases answers handle.log.length with
    | true => exact ⟨_, _, _, rfl, fun _ => rfl, List.prefix_append _ _⟩
    | false => exact ⟨handle.listenerClosed, _, _, rfl, id, List.prefix_append _ _⟩
  · exact ⟨_, _, _, rfl, id, List.prefix_rfl⟩

theorem updateFinished_told (idle : Idle handle) (unfinished : handle.finished = false) :
    handle.updateFinished.onFinalized = !handle.updateFinished.finished ∧
      handle.updateFinished.finalizedCalls =
        handle.finalizedCalls + if handle.updateFinished.finished then 1 else 0 := by
  have untold := idle.untold
  rw [unfinished] at untold
  unfold ServerHandle.updateFinished
  split
  · refine ⟨?_, ?_⟩
    · dsimp only
      rw [unfinished, Bool.and_false]
      rfl
    · dsimp only
      rw [unfinished, untold]
      rfl
  · exact ⟨untold, rfl⟩

theorem updateFinished_same (handle : ServerHandle) :
    ∃ finished errors told calls, handle.updateFinished = { handle with
      finished := finished
      cleanupErrors := errors
      onFinalized := told
      finalizedCalls := calls } := by
  unfold ServerHandle.updateFinished
  split <;> exact ⟨_, _, _, _, rfl⟩

/-- `_finish_close` on the owner thread: it asks for every close that is left and cancels
every task that is pending, and it is over when none of these failed. -/
theorem finishClose_finishes (answers : Nat → Bool) (larger : ServerHandle) (idle : Idle handle)
    (unfinished : handle.finished = false) :
    Finishes handle (finishClose answers (cancel answers larger) true none handle) := by
  unfold finishClose
  rw [if_neg (Bool.eq_false_iff.mp unfinished)]
  dsimp only
  rw [if_pos rfl]
  have wakeup : (begun handle).hasWakeup = true →
      (closeWakeup answers (begun handle)).wakeupClosed = true ∨ (.close .wakeup, false) ∈
        added (begun handle) (closeWakeup answers (begun handle)) := closeWakeup_tries
  obtain ⟨wakeupClosed, _, _, opened, wakeupKept, openLog⟩ :=
    closeWakeup_same answers (begun handle)
  generalize closeWakeup answers (begun handle) = opening at opened wakeup ⊢
  have closing : opening.closingConnections.keys = [] := by
    rw [opened]
    exact (congrArg List.keys idle.closing).trans rfl
  rw [closing, List.foldl_nil]
  have unstarted : Unstarted opening := by
    rw [opened]
    exact idle.unstarted
  have pended := cancelPending_revokes answers larger
    opening.pendingTaskCancellations.keys unstarted
  generalize opening.pendingTaskCancellations.keys.foldl
    (fun next task => cancelAndNote (cancel answers larger) task next) opening = cancelled
    at pended ⊢
  have connections : cancelled.connections.entries = [] := by
    obtain ⟨_, _, _, _, _, rfl⟩ := pended.same
    rw [opened]
    exact idle.connections
  rw [connections, List.foldl_nil]
  obtain ⟨tried, owned⟩ := cancelOwned_revokes answers larger
    cancelled.ownedTasks (opening.pendingTaskCancellations.keys, cancelled) pended.unstarted
  have revoked := pended.trans owned
  generalize (cancelled.ownedTasks.foldl (cancelOnce (cancel answers larger) none)
    (opening.pendingTaskCancellations.keys, cancelled)).2 = stopped at revoked ⊢
  have asked : (closeListener answers stopped).listenerClosed = true ∨
      (.close .listener, false) ∈ added stopped (closeListener answers stopped) :=
    closeListener_tries
  obtain ⟨listenerClosed, _, _, closed, listenerKept, closeLog⟩ :=
    closeListener_same answers stopped
  generalize closeListener answers stopped = final at closed asked ⊢
  have openedLog : handle.log <+: opening.log := by
    rw [opened]
    exact openLog
  have finalLog : stopped.log <+: final.log := by
    rw [closed]
    exact closeLog
  have left : ∀ task ∈ final.pendingTaskCancellations, CancelFailed task (added handle final) := by
    intro task pending
    rw [closed] at pending
    rcases revoked.failed task pending with failed | ⟨before, other⟩
    · exact cancelFailed_right openedLog (revoked.log.trans finalLog)
        (cancelFailed_left revoked.log finalLog failed)
    · exact absurd (List.mem_append_left tried before) other
  have known : (handle.wakeupClosed = true → final.wakeupClosed = true) ∧
      (handle.listenerClosed = true → final.listenerClosed = true) ∧
        final.wakeupClosed = opening.wakeupClosed ∧ final.hasWakeup = handle.hasWakeup ∧
          final.finished = false ∧ final.finalizedCalls = handle.finalizedCalls ∧
            final.closeRequested = true ∧ Idle final := by
    have still := revoked.unstarted
    obtain ⟨_, _, _, _, _, same⟩ := revoked.same
    rw [same] at closed still listenerKept
    rw [opened] at closed listenerKept
    rw [closed]
    exact ⟨wakeupKept, listenerKept, by rw [opened], rfl, unfinished, rfl, rfl, {
      unstarted := still
      connections := idle.connections
      closing := idle.closing
      sockets := idle.sockets
      untold := idle.untold }⟩
  obtain ⟨wakeupStays, listenerStays, sameWakeup, hasWakeup, still, calls, requested, idleFinal⟩ :=
    known
  obtain ⟨updated, -⟩ := updateFinished_finished final
  obtain ⟨untold, told⟩ := updateFinished_told idleFinal still
  have log : handle.log <+: final.log := openedLog.trans (revoked.log.trans finalLog)
  obtain ⟨_, _, _, _, last⟩ := updateFinished_same final
  generalize final.updateFinished = after at updated untold told last ⊢
  have sameAdded : added handle after = added handle final := by rw [last]; rfl
  exact {
    idle := {
      unstarted := by rw [last]; exact idleFinal.unstarted
      connections := by rw [last]; exact idleFinal.connections
      closing := by rw [last]; exact idleFinal.closing
      sockets := by rw [last]; exact idleFinal.sockets
      untold := untold }
    requested := by rw [last]; exact requested
    hasWakeup := by rw [last]; exact hasWakeup
    log := by rw [last]; exact log
    wakeupKept := by rw [last]; exact wakeupStays
    listenerKept := by rw [last]; exact listenerStays
    wakeup := by
      intro present
      rw [sameAdded, last]
      rw [← sameWakeup] at wakeup
      exact (wakeup present).imp_right fun member =>
        mem_added_left openedLog (revoked.log.trans finalLog) member
    listener := by
      rw [sameAdded, last]
      exact asked.imp_right (mem_added_right (openedLog.trans revoked.log) finalLog)
    pending := by
      rw [sameAdded, last]
      exact left
    finished := updated
    told := by rw [told, calls] }

end Finishing

end SmallServer.StartupCleanup
