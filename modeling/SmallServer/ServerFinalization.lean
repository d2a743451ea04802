import SmallServer.ServerSteps

/-!
# Finalization converges

Every call of `finalize` that leaves something open has tried to close it and failed. So a
bounded number of failures for each thing leaves nothing open after one call more.
-/

namespace SmallServer.ServerFinalization

open SmallServer Server ServerEffects ServerOperations ServerSteps

set_option autoImplicit false

section Records

def added (handle after : ServerHandle) : List (Call × Bool) := after.log.drop handle.log.length

def CancelFailed (task : TaskId) (log : List (Call × Bool)) : Prop :=
  ∃ ended, (Call.cancelTask task ended, false) ∈ log

def EndedCancelFailed (log : List (Call × Bool)) : Prop :=
  ∃ task, (Call.cancelTask task true, false) ∈ log

/-- What every operation records of its failures. -/
structure Tries (handle after : ServerHandle) : Prop where
  log : handle.log <+: after.log
  live : ∀ task ∈ after.live, task ∈ handle.live
  closing : ∀ stream, stream ∈ after.closingConnections → stream ∉ handle.closingConnections →
    (.close (.connection stream), false) ∈ added handle after
  pended : ∀ task, task ∈ after.pendingTaskCancellations →
    task ∉ handle.pendingTaskCancellations → CancelFailed task (added handle after)
  stays : ∀ task, task ∈ handle.pendingTaskCancellations → task ∈ after.live →
    task ∈ after.pendingTaskCancellations
  lost : ¬EndedCancelFailed (added handle after) → ∀ task,
    task ∈ after.pendingTaskCancellations → task ∉ after.live →
      task ∈ handle.pendingTaskCancellations ∧ task ∉ handle.live

variable {handle middle after : ServerHandle}

theorem added_trans (first : handle.log <+: middle.log) (second : middle.log <+: after.log) :
    added handle after = added handle middle ++ added middle after := by
  obtain ⟨more, grown⟩ := first
  obtain ⟨most, further⟩ := second
  unfold added
  rw [← further, ← grown, List.drop_left, List.append_assoc, List.drop_left,
    ← List.append_assoc, List.drop_left]

theorem mem_added_left {entry : Call × Bool} (first : handle.log <+: middle.log)
    (second : middle.log <+: after.log) (member : entry ∈ added handle middle) :
    entry ∈ added handle after := by
  rw [added_trans first second]
  exact List.mem_append_left _ member

theorem mem_added_right {entry : Call × Bool} (first : handle.log <+: middle.log)
    (second : middle.log <+: after.log) (member : entry ∈ added middle after) :
    entry ∈ added handle after := by
  rw [added_trans first second]
  exact List.mem_append_right _ member

theorem mem_added_append {entries : List (Call × Bool)} {entry : Call × Bool}
    (grown : after.log = handle.log ++ entries) (member : entry ∈ entries) :
    entry ∈ added handle after := by
  unfold added
  rw [grown, List.drop_left]
  exact member

theorem Tries.refl (handle : ServerHandle) : Tries handle handle where
  log := List.prefix_rfl
  live _ := id
  closing _ inside outside := absurd inside outside
  pended _ inside outside := absurd inside outside
  stays _ pending _ := pending
  lost _ _ pending ended := ⟨pending, ended⟩

theorem Tries.trans (first : Tries handle middle) (second : Tries middle after) :
    Tries handle after where
  log := first.log.trans second.log
  live task later := first.live task (second.live task later)
  closing stream inside outside := by
    by_cases before : stream ∈ middle.closingConnections
    · exact mem_added_left first.log second.log (first.closing stream before outside)
    · exact mem_added_right first.log second.log (second.closing stream inside before)
  pended task inside outside := by
    by_cases before : task ∈ middle.pendingTaskCancellations
    · obtain ⟨ended, failed⟩ := first.pended task before outside
      exact ⟨ended, mem_added_left first.log second.log failed⟩
    · obtain ⟨ended, failed⟩ := second.pended task inside before
      exact ⟨ended, mem_added_right first.log second.log failed⟩
  stays task pending live :=
    second.stays task (first.stays task pending (second.live task live)) live
  lost fair task pending ended := by
    have later : ¬EndedCancelFailed (added middle after) := fun ⟨other, failed⟩ =>
      fair ⟨other, mem_added_right first.log second.log failed⟩
    have earlier : ¬EndedCancelFailed (added handle middle) := fun ⟨other, failed⟩ =>
      fair ⟨other, mem_added_left first.log second.log failed⟩
    obtain ⟨pendingBefore, endedBefore⟩ := second.lost later task pending ended
    exact first.lost earlier task pendingBefore endedBefore

theorem mem_dropHandler {connection handler taskId : TaskId} {live : OrderedDict TaskId Task} :
    taskId ∈ dropHandler connection handler live ↔ taskId ∈ live := by
  unfold dropHandler
  split
  · exact Iff.rfl
  · rename_i task found
    rw [OrderedDict.mem_set]
    exact or_iff_right_of_imp fun same => same ▸ OrderedDict.mem_of_lookup found

/-- Only `_close_or_retain` adds to what is to be closed, after a close that failed; the tasks
that are live or remembered stay as they are. -/
theorem effect_tables (effect : Effect handle after) :
    after.pendingTaskCancellations = handle.pendingTaskCancellations ∧
    (∀ taskId, taskId ∈ after.live ↔ taskId ∈ handle.live) ∧
    ∀ stream, stream ∈ after.closingConnections → stream ∉ handle.closingConnections →
      (.close (.connection stream), false) ∈ added handle after := by
  have unchanged : ∀ stream, stream ∈ handle.closingConnections →
      stream ∉ handle.closingConnections →
        (.close (.connection stream), false) ∈ added handle after :=
    fun _ inside outside => absurd inside outside
  have shrunk : ∀ gone stream, stream ∈ handle.closingConnections.erase gone →
      stream ∉ handle.closingConnections →
        (.close (.connection stream), false) ∈ added handle after :=
    fun _ _ inside outside => absurd (AList.mem_erase.mp inside).2 outside
  cases effect with
  | moved stream =>
      refine ⟨rfl, fun _ => Iff.rfl, fun other inside outside => ?_⟩
      obtain rfl := (OrderedDict.mem_set.mp inside).resolve_right outside
      exact mem_added_append rfl (List.mem_singleton_self _)
  | closed stream popped signal =>
      cases signal with
      | none => exact ⟨rfl, fun _ => Iff.rfl, shrunk stream⟩
      | some ok => exact ⟨rfl, fun _ => Iff.rfl, shrunk stream⟩
  | left stream popped signal =>
      cases signal with
      | none => exact ⟨rfl, fun _ => Iff.rfl, shrunk stream⟩
      | some ok => exact ⟨rfl, fun _ => Iff.rfl, shrunk stream⟩
  | updated =>
      unfold ServerHandle.updateFinished at unchanged ⊢
      split
      · exact ⟨rfl, fun _ => Iff.rfl, fun _ inside outside => absurd inside outside⟩
      · exact ⟨rfl, fun _ => Iff.rfl, fun _ inside outside => absurd inside outside⟩
  | handlerLeft connection handler => exact ⟨rfl, fun _ => mem_dropHandler, unchanged⟩
  | _ => exact ⟨rfl, fun _ => Iff.rfl, unchanged⟩

theorem tries_covers : Covers Tries where
  refl := Tries.refl
  trans _ _ _ := Tries.trans
  effect handle after _ effect := by
    obtain ⟨pending, live, closing⟩ := effect_tables effect
    exact {
      log := (Grows.effect effect).log
      live := fun task => (live task).mp
      closing
      pended := fun task inside outside => absurd (pending ▸ inside) outside
      stays := fun task before _ => pending ▸ before
      lost := fun _ task later ended =>
        ⟨pending ▸ later, fun before => ended ((live task).mpr before)⟩ }

theorem tries_allows : Allows Tries Tries where
  remembered handle task error _ := {
    log := List.prefix_append _ _
    live := fun _ => id
    closing := fun _ inside outside => absurd inside outside
    pended := by
      intro other inside outside
      obtain rfl := (OrderedDict.mem_set.mp inside).resolve_right outside
      exact ⟨_, mem_added_append rfl (List.mem_singleton_self _)⟩
    stays := fun _ pending _ => OrderedDict.mem_set.mpr (.inr pending)
    lost := by
      intro fair other pending ended
      rcases OrderedDict.mem_set.mp pending with rfl | before
      · have failed : EndedCancelFailed (added handle
            (remembered other (decide (other ∉ handle.live)) error handle)) := by
          refine ⟨other, mem_added_append rfl ?_⟩
          have absent : other ∉ handle.live := ended
          rw [decide_eq_true absent]
          exact List.mem_singleton_self _
        exact absurd failed fair
      · exact ⟨before, ended⟩ }
  already handle task _ absent := {
    log := List.prefix_append _ _
    live := fun _ member => (AList.mem_erase.mp member).2
    closing := fun _ inside outside => absurd inside outside
    pended := fun _ inside outside => absurd (AList.mem_erase.mp inside).2 outside
    stays := fun other pending live => AList.mem_erase.mpr ⟨(AList.mem_erase.mp live).1, pending⟩
    lost := by
      intro _ other pending ended
      obtain ⟨different, before⟩ := AList.mem_erase.mp pending
      exact ⟨before, fun live => ended (AList.mem_erase.mpr ⟨different, live⟩)⟩ }
  ended handle task after _ live _ grown kept := by
    have tries : Tries (ending task handle) after := kept
    have first : handle.log <+: (ending task handle).log := List.prefix_append _ _
    exact {
      log := first.trans tries.log
      live := fun other later => (AList.mem_erase.mp (tries.live other later)).2
      closing := fun stream inside outside =>
        mem_added_right first tries.log (tries.closing stream inside outside)
      pended := by
        intro other inside outside
        obtain ⟨one, failed⟩ := tries.pended other (AList.mem_erase.mp inside).2 outside
        exact ⟨one, mem_added_right first tries.log failed⟩
      stays := by
        intro other pending later
        have different : other ≠ task := (AList.mem_erase.mp (tries.live other later)).1
        exact AList.mem_erase.mpr ⟨different, tries.stays other pending later⟩
      lost := by
        intro fair other pending ended
        obtain ⟨different, before⟩ := AList.mem_erase.mp pending
        have later : ¬EndedCancelFailed (added (ending task handle) after) := fun ⟨one, failed⟩ =>
          fair ⟨one, mem_added_right first tries.log failed⟩
        obtain ⟨pendingBefore, endedBefore⟩ := tries.lost later other before ended
        exact ⟨pendingBefore, fun liveBefore =>
          endedBefore (AList.mem_erase.mpr ⟨different, liveBefore⟩)⟩ }

theorem cancel_tries (answers : Nat → Bool) (larger : ServerHandle) :
    CancelKeeps Tries (cancel answers larger) := by
  refine cancelAt_keeps (fun _ => Tries) (fun _ => tries_covers) ?_ (fun _ => tries_allows) _
  intro handle task _
  exact {
    log := List.prefix_rfl
    live := fun _ member => (AList.mem_erase.mp member).2
    closing := fun _ inside outside => absurd inside outside
    pended := fun _ inside outside => absurd (AList.mem_erase.mp inside).2 outside
    stays := fun other pending live => AList.mem_erase.mpr ⟨(AList.mem_erase.mp live).1, pending⟩
    lost := by
      intro _ other pending ended
      obtain ⟨different, before⟩ := AList.mem_erase.mp pending
      exact ⟨before, fun live => ended (AList.mem_erase.mpr ⟨different, live⟩)⟩ }

end Records

section Loops

/-- What a loop leaves behind for each of its items, if no later turn takes it back. -/
theorem foldl_leaves {State Item : Type} (turn : State → Item → State) (items : List Item)
    (holds : State → Prop) (left : Item → State → Prop)
    (keeps : ∀ state, ∀ item ∈ items, holds state → holds (turn state item))
    (leaves : ∀ state, ∀ item ∈ items, holds state → left item (turn state item))
    (stays : ∀ state, ∀ item ∈ items, ∀ earlier, holds state → left earlier state →
      left earlier (turn state item))
    (state : State) (start : holds state) :
    holds (items.foldl turn state) ∧ ∀ item ∈ items, left item (items.foldl turn state) := by
  have general : ∀ rest : List Item, (∀ item ∈ rest, item ∈ items) → ∀ (done : List Item) current,
      holds current → (∀ item ∈ done, left item current) →
        holds (rest.foldl turn current) ∧
          ∀ item ∈ done ++ rest, left item (rest.foldl turn current) := by
    intro rest
    induction rest with
    | nil =>
        intro _ done current held kept
        rw [List.append_nil]
        exact ⟨held, kept⟩
    | cons item rest induction =>
        intro members done current held kept
        have member := members item List.mem_cons_self
        have further := induction
          (fun other later => members other (List.mem_cons_of_mem item later)) (done ++ [item])
          (turn current item) (keeps current item member held) (by
            intro other inside
            rcases List.mem_append.mp inside with before | here
            · exact stays current item member other held (kept other before)
            · rw [List.mem_singleton.mp here]
              exact leaves current item member held)
        rw [List.append_assoc] at further
        exact further
  have whole := general items (fun _ => id) [] state start (fun _ member => nomatch member)
  exact whole

variable {answers : Nat → Bool} {handle after : ServerHandle}

theorem closeWakeup_tries (present : handle.hasWakeup = true) :
    (closeWakeup answers handle).wakeupClosed = true ∨
      (.close .wakeup, false) ∈ added handle (closeWakeup answers handle) := by
  unfold closeWakeup
  split
  · split
    · exact .inl rfl
    · rename_i next answer
      obtain rfl := of_attempt answer
      exact .inr (mem_added_append rfl (List.mem_singleton_self _))
  · rename_i closed
    rw [present, Bool.true_and, Bool.not_eq_true, Bool.not_eq_false'] at closed
    exact .inl closed

theorem closeListener_tries :
    (closeListener answers handle).listenerClosed = true ∨
      (.close .listener, false) ∈ added handle (closeListener answers handle) := by
  unfold closeListener
  split
  · split
    · exact .inl rfl
    · rename_i next answer
      obtain rfl := of_attempt answer
      exact .inr (mem_added_append rfl (List.mem_singleton_self _))
  · rename_i closed
    rw [Bool.not_eq_true, Bool.not_eq_false'] at closed
    exact .inl closed

theorem retryConnection_tries (stream : StreamId) :
    stream ∈ (retryConnection answers handle stream).closedStreams ∨
      (.close (.connection stream), false) ∈
        added handle (retryConnection answers handle stream) := by
  unfold retryConnection closeSafely
  by_cases closed : stream ∈ handle.closedStreams
  · rw [if_pos closed]
    exact .inl closed
  · rw [if_neg closed]
    split
    · rename_i next settled
      split at settled
      · rename_i closes answer
        obtain rfl := of_attempt answer
        obtain ⟨-, rfl⟩ := Prod.mk.inj settled
        exact .inl (Finset.mem_insert_self _ _)
      · cases settled
    · rename_i next failed
      split at failed
      · cases failed
      · rename_i tries answer
        obtain rfl := of_attempt answer
        obtain ⟨-, rfl⟩ := Prod.mk.inj failed
        exact .inr (mem_added_append rfl (List.mem_singleton_self _))

/-- What an attempt to cancel a task leaves: the task has ended, or the failure is in the
record and the task remembered. Unless the cancellation of an ended task failed, a task that
had ended before is forgotten. -/
def Left (start : ServerHandle) (task : TaskId) (state : ServerHandle) : Prop :=
  (task ∉ state.live ∨
    CancelFailed task (added start state) ∧ task ∈ state.pendingTaskCancellations) ∧
  (task ∉ start.live →
    task ∉ state.pendingTaskCancellations ∨ EndedCancelFailed (added start state))

theorem Left.stays {start state later : ServerHandle} {task : TaskId}
    (left : Left start task state) (before : Tries start state) (tries : Tries state later) :
    Left start task later := by
  constructor
  · by_cases live : task ∈ later.live
    · obtain ⟨⟨ended, failed⟩, pending⟩ :=
        left.1.resolve_left fun gone => gone (tries.live task live)
      exact .inr ⟨⟨ended, mem_added_left before.log tries.log failed⟩,
        tries.stays task pending live⟩
    · exact .inl live
  · intro ended
    have endedHere : task ∉ state.live := fun live => ended (before.live task live)
    by_cases unfair : EndedCancelFailed (added start later)
    · exact .inr unfair
    · refine .inl fun pending => ?_
      have fair : ¬EndedCancelFailed (added state later) := fun ⟨other, failed⟩ =>
        unfair ⟨other, mem_added_right before.log tries.log failed⟩
      obtain ⟨pendingHere, -⟩ :=
        tries.lost fair task pending fun live => endedHere (tries.live task live)
      rcases left.2 ended with absent | ⟨other, failed⟩
      · exact absent pendingHere
      · exact unfair ⟨other, mem_added_left before.log tries.log failed⟩

theorem cancelAndNote_left (larger : ServerHandle) (sound : Sound handle) {task : TaskId}
    (known : task < handle.nextTask) {start : ServerHandle} (before : Tries start handle)
    (tries : Tries handle (cancelAndNote (cancel answers larger) task handle)) :
    Left start task (cancelAndNote (cancel answers larger) task handle) := by
  unfold cancelAndNote at tries ⊢
  rcases result : cancelOrRetainTask (cancel answers larger) task handle with ⟨ok, next⟩
  rw [result] at tries
  cases ok with
  | true =>
      have gone := (cancel_tries answers larger).gone task handle next known sound result
      have forgotten : task ∉ next.pendingTaskCancellations := by
        unfold cancelOrRetainTask at result
        split at result
        · obtain ⟨-, rfl⟩ := Prod.mk.inj result
          exact fun pending => (AList.mem_erase.mp pending).1 rfl
        · cases result
      exact ⟨.inl gone, fun _ => .inl forgotten⟩
  | false =>
      have pending := (cancel_tries answers larger).pending task handle next result
      have failed : (Call.cancelTask task (decide (task ∉ handle.live)), false) ∈
          added handle next := by
        obtain rfl := cancelStep_failed result
        exact mem_added_append rfl (List.mem_singleton_self _)
      refine ⟨.inr ⟨⟨_, mem_added_right before.log tries.log failed⟩, pending⟩, ?_⟩
      intro ended
      have absent : task ∉ handle.live := fun live => ended (before.live task live)
      rw [decide_eq_true absent] at failed
      exact .inr ⟨task, mem_added_right before.log tries.log failed⟩

end Loops

section Stages

variable {answers : Nat → Bool} {handle middle after larger : ServerHandle}

structure Passes (handle after : ServerHandle) : Prop where
  sound : Sound after
  grown : Grows handle after
  tries : Tries handle after

theorem Passes.of_keeps (kept : Keeps Tries handle after) (sound : Sound handle) :
    Passes handle after := by
  obtain ⟨afterSound, grown, tries⟩ := kept sound
  exact ⟨afterSound, grown, tries⟩

theorem Passes.refl (sound : Sound handle) : Passes handle handle := ⟨sound, .refl _, .refl _⟩

theorem Passes.trans (first : Passes handle middle) (second : Passes middle after) :
    Passes handle after :=
  ⟨second.sound, first.grown.trans second.grown, first.tries.trans second.tries⟩

theorem retry_leaves (answers : Nat → Bool) (sound : Sound handle) :
    let after := handle.closingConnections.keys.foldl (retryConnection answers) handle
    Passes handle after ∧ ∀ stream ∈ handle.closingConnections, stream ∈ after.closedStreams ∨
      (.close (.connection stream), false) ∈ added handle after := by
  have turn : ∀ state, Passes handle state → ∀ stream ∈ handle.closingConnections.keys,
      Passes state (retryConnection answers state stream) := by
    intro state passed stream member
    refine .of_keeps (retryConnection_keeps tries_covers ?_) passed.sound
    exact passed.grown.accepted ▸ (sound.tables.closing_open stream member).1
  refine foldl_leaves (retryConnection answers) _ (Passes handle)
    (fun stream state => stream ∈ state.closedStreams ∨
      (.close (.connection stream), false) ∈ added handle state) ?_ ?_ ?_ handle (.refl sound)
  · exact fun state stream member passed => passed.trans (turn state passed stream member)
  · intro state stream member passed
    have tried := turn state passed stream member
    exact (retryConnection_tries stream).imp_right
      (mem_added_right passed.tries.log tried.tries.log)
  · intro state stream member earlier passed left
    have tried := turn state passed stream member
    exact left.imp (fun closed => tried.grown.closed closed)
      (mem_added_left passed.tries.log tried.tries.log)

theorem cancelPending_leaves (answers : Nat → Bool) (larger : ServerHandle) (sound : Sound handle) :
    let after := handle.pendingTaskCancellations.keys.foldl
      (fun next task => cancelAndNote (cancel answers larger) task next) handle
    Passes handle after ∧
      ∀ task ∈ handle.pendingTaskCancellations.keys, Left handle task after := by
  have known : ∀ state, Passes handle state → ∀ task ∈ handle.pendingTaskCancellations.keys,
      task < state.nextTask := fun state passed task member =>
    passed.grown.nextTask ▸ sound.roster.pending_known task member
  have turn : ∀ state, Passes handle state → ∀ task ∈ handle.pendingTaskCancellations.keys,
      Passes state (cancelAndNote (cancel answers larger) task state) :=
    fun state passed task member => .of_keeps (cancelAndNote_keeps tries_covers
      (cancel_tries answers larger) (known state passed task member)) passed.sound
  refine foldl_leaves (fun next task => cancelAndNote (cancel answers larger) task next) _
    (Passes handle) (Left handle) ?_ ?_ ?_ handle (.refl sound)
  · exact fun state task member passed => passed.trans (turn state passed task member)
  · exact fun state task member passed => cancelAndNote_left larger passed.sound
      (known state passed task member) passed.tries (turn state passed task member).tries
  · exact fun state task member earlier passed left =>
      left.stays passed.tries (turn state passed task member).tries

structure Released (start : ServerHandle) (before : ServerHandle) (state : Attempted) : Prop where
  passes : Passes before state.2
  earlier : Tries start before
  attempted : ∀ task ∈ state.1, Left start task state.2

theorem cancelOnce_leaves (answers : Nat → Bool) (larger : ServerHandle)
    {start before : ServerHandle} {state : Attempted}
    (released : Released start before state) {task : TaskId} (known : task < state.2.nextTask) :
    let later := cancelOnce (cancel answers larger) none state task
    Released start before later ∧ Passes state.2 later.2 ∧ state.1 ⊆ later.1 ∧
      (task ∈ later.1 ∨ task ∉ later.2.live) := by
  have tries := released.earlier.trans released.passes.tries
  unfold cancelOnce
  split
  · rename_i done
    refine ⟨released, .refl released.passes.sound, fun _ => id, ?_⟩
    rw [decide_eq_false (by simp), Bool.false_or, Bool.or_eq_true] at done
    rcases done with cancelled | attempted
    · exact .inr (released.passes.sound.roster.cancelled task (of_decide_eq_true cancelled)).1
    · exact .inl (List.contains_iff_mem.mp attempted)
  · have passed : Passes state.2 (cancelAndNote (cancel answers larger) task state.2) :=
      .of_keeps (cancelAndNote_keeps tries_covers (cancel_tries answers larger) known)
        released.passes.sound
    have left := cancelAndNote_left larger released.passes.sound known tries passed.tries
    refine ⟨⟨released.passes.trans passed, released.earlier, ?_⟩, passed,
      fun _ => List.mem_cons_of_mem task, .inl List.mem_cons_self⟩
    intro other member
    rcases List.mem_cons.mp member with rfl | before
    · exact left
    · exact (released.attempted other before).stays tries passed.tries

/-- Without a finalization to fall back on, the tables of streams are not touched. -/
theorem connectionCloseFailed_connections (error : Fault) (task : Option TaskId)
    (primary : Option Fault) (handle : ServerHandle) :
    (connectionCloseFailed answers (fun _ next => next) error task primary handle).connections =
      handle.connections := by
  unfold connectionCloseFailed
  dsimp only
  split
  · rfl
  · split
    · split
      · rename_i next answer
        obtain rfl := of_attempt answer
        rfl
      · rename_i next answer
        obtain rfl := of_attempt answer
        rfl
    · split <;> rfl

theorem releaseConnection_connections (current : Option TaskId) (stream : StreamId)
    (handle : ServerHandle) :
    (releaseConnection answers current stream handle).connections =
      handle.connections.erase stream := by
  unfold releaseConnection closeOrRetain closeSafely
  dsimp only
  split
  · rename_i next settled
    split at settled
    · obtain ⟨-, rfl⟩ := Prod.mk.inj settled
      rfl
    · split at settled
      · rename_i closes answer
        obtain rfl := of_attempt answer
        obtain ⟨-, rfl⟩ := Prod.mk.inj settled
        rfl
      · cases settled
  · rename_i next failed
    rw [connectionCloseFailed_connections]
    split at failed
    · cases failed
    · split at failed
      · cases failed
      · rename_i tries answer
        obtain rfl := of_attempt answer
        obtain ⟨-, rfl⟩ := Prod.mk.inj failed
        rfl

/-- `_finish_close` on the owner thread takes every connection from its table. -/
theorem finishConnections_leaves (answers : Nat → Bool) (larger : ServerHandle)
    {start : ServerHandle} (pending : List TaskId)
    (sound : Sound handle) (requested : handle.closeRequested = true)
    (attempted : handle.finalizationAttempted = true) (earlier : Tries start handle)
    (left : ∀ task ∈ pending, Left start task handle) :
    let after := handle.connections.entries.foldl
      (finishConnection answers (cancel answers larger) none true) (pending, handle)
    Released start handle after ∧ ∀ stream, stream ∉ after.2.connections := by
  have step : ∀ state, Released start handle state → ∀ entry ∈ handle.connections.entries,
      let later := finishConnection answers (cancel answers larger) none true state entry
      Released start handle later ∧ Passes state.2 later.2 ∧ entry.1 ∉ later.2.connections := by
    intro state released entry member
    have found : handle.connections.lookup entry.1 = some entry.2 :=
      AList.mem_lookup_iff.mpr member
    have known : entry.2 < state.2.nextTask :=
      released.passes.grown.nextTask ▸ sound.roster.entries_known _ _ found
    obtain ⟨stopped, passed, -, -⟩ := cancelOnce_leaves answers larger released known
    have whole := stopped.passes
    have freed : Passes (cancelOnce (cancel answers larger) none state entry.2).2
        (releaseConnection answers none entry.1
          (cancelOnce (cancel answers larger) none state entry.2).2) := by
      refine .of_keeps (releaseConnection_keeps tries_covers none
        (whole.grown.requested requested) (whole.grown.attempted attempted) ?_) whole.sound
      exact whole.grown.accepted ▸
        sound.tables.connections_accepted _ (OrderedDict.mem_of_lookup found)
    refine ⟨⟨whole.trans freed, earlier, ?_⟩, passed.trans freed, ?_⟩
    · intro task attemptedTask
      exact (stopped.attempted task attemptedTask).stays (earlier.trans whole.tries) freed.tries
    · change entry.1 ∉ (releaseConnection answers none entry.1
        (cancelOnce (cancel answers larger) none state entry.2).2).connections
      rw [releaseConnection_connections]
      exact fun present => (AList.mem_erase.mp present).1 rfl
  obtain ⟨released, gone⟩ := foldl_leaves
    (finishConnection answers (cancel answers larger) none true) handle.connections.entries
    (Released start handle) (fun entry state => entry.1 ∉ state.2.connections)
    (fun state entry member released => (step state released entry member).1)
    (fun state entry member released => (step state released entry member).2.2)
    (fun state entry member earlierEntry released absent present => by
      have grown := (step state released entry member).2.1.grown
      obtain ⟨taskId, found⟩ := Option.isSome_iff_exists.mp (AList.lookup_isSome.mpr present)
      exact absent (OrderedDict.mem_of_lookup (grown.connections _ taskId found)))
    (pending, handle) ⟨.refl sound, earlier, left⟩
  refine ⟨released, fun stream present => ?_⟩
  obtain ⟨taskId, found⟩ := Option.isSome_iff_exists.mp (AList.lookup_isSome.mpr present)
  have before := released.passes.grown.connections stream taskId found
  exact gone ⟨stream, taskId⟩ (AList.mem_lookup_iff.mp before) present

/-- `_finish_close` on the owner thread tries to cancel every task the handle owns. -/
theorem cancelOwned_leaves (answers : Nat → Bool) (larger : ServerHandle)
    {start before : ServerHandle} {state : Attempted}
    (released : Released start before state) :
    let after := state.2.ownedTasks.foldl (cancelOnce (cancel answers larger) none) state
    Released start before after ∧ Passes state.2 after.2 ∧
      ∀ task ∈ state.2.ownedTasks, task ∈ after.1 ∨ task ∉ after.2.live := by
  have known : ∀ task ∈ state.2.ownedTasks, ∀ current : Attempted, Passes state.2 current.2 →
      task < current.2.nextTask := fun task member current passed =>
    passed.grown.nextTask ▸ released.passes.sound.roster.owned_known task member
  obtain ⟨⟨stopped, passed⟩, left⟩ := foldl_leaves (cancelOnce (cancel answers larger) none)
    state.2.ownedTasks
    (fun current => Released start before current ∧ Passes state.2 current.2)
    (fun task current => task ∈ current.1 ∨ task ∉ current.2.live)
    (fun current task member holds => by
      obtain ⟨stopped, passed, -, -⟩ := cancelOnce_leaves answers larger holds.1
        (known task member current holds.2)
      exact ⟨stopped, holds.2.trans passed⟩)
    (fun current task member holds => (cancelOnce_leaves answers larger holds.1
      (known task member current holds.2)).2.2.2)
    (fun current task member earlier holds left => by
      obtain ⟨-, passed, more, -⟩ := cancelOnce_leaves answers larger holds.1
        (known task member current holds.2)
      exact left.imp (fun attempted => more attempted)
        fun gone live => gone (passed.tries.live earlier live))
    state ⟨released, .refl released.passes.sound⟩
  exact ⟨stopped, passed, left⟩

end Stages

section Passing

variable {answers : Nat → Bool} {handle after larger : ServerHandle}

inductive Target where
  | resource (resource : Resource)
  | task (task : TaskId)
deriving DecidableEq

def Open : Target → ServerHandle → Prop
  | .resource .wakeup, handle => handle.hasWakeup = true ∧ handle.wakeupClosed = false
  | .resource .listener, handle => handle.listenerClosed = false
  | .resource (.connection stream), handle =>
      stream < handle.acceptedStreams ∧ stream ∉ handle.closedStreams
  | .task task, handle => task ∈ handle.live

def Target.isFailure : Target → Call × Bool → Bool
  | .resource mine, (.close other, false) => decide (mine = other)
  | .task mine, (.cancelTask other _, false) => decide (mine = other)
  | _, _ => false

def failures (target : Target) (log : List (Call × Bool)) : Nat := log.countP target.isFailure

theorem failures_pos {target : Target} {log : List (Call × Bool)} {entry : Call × Bool}
    (member : entry ∈ log) (failed : target.isFailure entry = true) : 1 ≤ failures target log :=
  List.countP_pos_iff.mpr ⟨entry, member, failed⟩

theorem updateFinished_finished (handle : ServerHandle) :
    handle.updateFinished.finished = handle.updateFinished.complete ∧
      (handle.updateFinished.finished = true → handle.updateFinished.cleanupErrors = ∅) := by
  unfold ServerHandle.updateFinished
  split
  · rename_i complete
    exact ⟨complete.symm, fun _ => rfl⟩
  · rename_i incomplete
    exact ⟨(Bool.not_eq_true _ ▸ incomplete : handle.complete = false).symm, Bool.noConfusion⟩

/-- The states that `_finish_close` on the owner thread passes through. -/
structure Stages (handle opened retried cancelled : ServerHandle) (released stopped : Attempted)
    (after : ServerHandle) : Prop where
  opens : Passes handle opened
  requested : opened.closeRequested = true
  wakeup : handle.hasWakeup = true →
    opened.wakeupClosed = true ∨ (.close .wakeup, false) ∈ added handle opened
  retries : Passes opened retried
  streams : ∀ stream ∈ opened.closingConnections, stream ∈ retried.closedStreams ∨
    (.close (.connection stream), false) ∈ added opened retried
  cancels : Passes retried cancelled
  pending : ∀ task ∈ retried.pendingTaskCancellations, Left retried task cancelled
  releases : Released retried cancelled released
  gone : ∀ stream, stream ∉ released.2.connections
  stops : Released retried cancelled stopped
  passed : Passes released.2 stopped.2
  owned : ∀ task ∈ released.2.ownedTasks, task ∈ stopped.1 ∨ task ∉ stopped.2.live
  closes : Passes stopped.2 after
  listener : after.listenerClosed = true ∨ (.close .listener, false) ∈ added stopped.2 after
  finished : after.finished = after.complete
  clean : after.finished = true → after.cleanupErrors = ∅

theorem finishClose_stages (answers : Nat → Bool) (larger : ServerHandle) (sound : Sound handle)
    (unfinished : handle.finished = false) :
    ∃ opened retried cancelled released stopped,
      Stages handle opened retried cancelled released stopped
        (finishClose answers (cancel answers larger) true none handle) := by
  unfold finishClose
  rw [if_neg (Bool.eq_false_iff.mp unfinished)]
  dsimp only
  have begins : Passes handle (begun handle) :=
    .of_keeps (.effect tries_covers (.begun handle)) sound
  have opens : Passes (begun handle) (closeWakeup answers (begun handle)) :=
    .of_keeps (closeWakeup_keeps tries_covers) begins.sound
  have wakeup : (begun handle).hasWakeup = true →
      (closeWakeup answers (begun handle)).wakeupClosed = true ∨ (.close .wakeup, false) ∈
        added (begun handle) (closeWakeup answers (begun handle)) := closeWakeup_tries
  generalize closeWakeup answers (begun handle) = opened at opens wakeup ⊢
  obtain ⟨retries, streams⟩ := retry_leaves answers opens.sound
  generalize opened.closingConnections.keys.foldl (retryConnection answers) opened = retried
    at retries streams ⊢
  obtain ⟨cancels, left⟩ := cancelPending_leaves answers larger retries.sound
  have pending : ∀ task ∈ retried.pendingTaskCancellations, Left retried task _ := left
  generalize retried.pendingTaskCancellations.keys.foldl
    (fun next task => cancelAndNote (cancel answers larger) task next) retried = cancelled
    at cancels left pending ⊢
  have flags : Grows (begun handle) cancelled :=
    (opens.grown.trans retries.grown).trans cancels.grown
  obtain ⟨releases, gone⟩ := finishConnections_leaves answers larger
    retried.pendingTaskCancellations.keys cancels.sound (flags.requested rfl) (flags.attempted rfl)
    cancels.tries left
  generalize cancelled.connections.entries.foldl
    (finishConnection answers (cancel answers larger) none true)
    (retried.pendingTaskCancellations.keys, cancelled) = released at releases gone ⊢
  obtain ⟨stops, passed, owned⟩ := cancelOwned_leaves answers larger releases
  rw [if_pos rfl]
  generalize released.2.ownedTasks.foldl (cancelOnce (cancel answers larger) none) released =
    stopped at stops passed owned ⊢
  have attempted := (flags.trans stops.passes.grown).attempted rfl
  have closes : Passes stopped.2 (closeListener answers stopped.2) :=
    .of_keeps (closeListener_keeps tries_covers attempted) stops.passes.sound
  have listener : (closeListener answers stopped.2).listenerClosed = true ∨
      (.close .listener, false) ∈ added stopped.2 (closeListener answers stopped.2) :=
    closeListener_tries
  generalize closeListener answers stopped.2 = closing at closes listener ⊢
  have updates : Passes closing closing.updateFinished :=
    .of_keeps (.effect tries_covers (.updated closing)) closes.sound
  obtain ⟨finished, clean⟩ := updateFinished_finished closing
  refine ⟨opened, retried, cancelled, released, stopped, {
    opens := begins.trans opens
    requested := opens.grown.requested rfl
    wakeup := fun present => (wakeup present).imp_right
      (mem_added_right begins.tries.log opens.tries.log)
    retries, streams, cancels, pending, releases, gone, stops, passed, owned
    closes := closes.trans updates
    listener := listener.imp updates.grown.listenerClosed
      (mem_added_left closes.tries.log updates.tries.log)
    finished, clean }⟩

namespace Stages

variable {opened retried cancelled : ServerHandle} {released stopped : Attempted}
  (stages : Stages handle opened retried cancelled released stopped after)

include stages

theorem fromRelease : Passes released.2 after := stages.passed.trans stages.closes

theorem fromCancel : Passes cancelled after := stages.stops.passes.trans stages.closes

theorem fromRetry : Passes retried after := stages.cancels.trans stages.fromCancel

theorem fromOpen : Passes opened after := stages.retries.trans stages.fromRetry

theorem whole : Passes handle after := stages.opens.trans stages.fromOpen

theorem live_tried {task : TaskId} (live : task ∈ after.live) :
    CancelFailed task (added handle after) ∧ task ∈ after.pendingTaskCancellations := by
  have attempted : ∀ state, Passes retried state → Passes state after → Left retried task state →
      CancelFailed task (added retried after) ∧ task ∈ after.pendingTaskCancellations := by
    intro state first second left
    obtain ⟨⟨ended, failed⟩, pending⟩ :=
      left.1.resolve_left fun gone => gone (second.tries.live task live)
    exact ⟨⟨ended, mem_added_left first.tries.log second.tries.log failed⟩,
      second.tries.stays task pending live⟩
  have late : CancelFailed task (added retried after) ∧ task ∈ after.pendingTaskCancellations := by
    have here : task ∈ released.2.live := stages.fromRelease.tries.live task live
    rcases stages.releases.passes.sound.roster.kept task here with owned | pending
    · rcases stages.owned task owned with tried | gone
      · exact attempted stopped.2 (stages.cancels.trans stages.stops.passes) stages.closes
          (stages.stops.attempted task tried)
      · exact absurd (stages.closes.tries.live task live) gone
    · by_cases before : task ∈ retried.pendingTaskCancellations
      · exact attempted cancelled stages.cancels stages.fromCancel (stages.pending task before)
      · have reaches := stages.cancels.trans stages.releases.passes
        obtain ⟨ended, failed⟩ := reaches.tries.pended task pending before
        exact ⟨⟨ended, mem_added_left reaches.tries.log stages.fromRelease.tries.log failed⟩,
          stages.fromRelease.tries.stays task pending live⟩
  obtain ⟨⟨ended, failed⟩, pending⟩ := late
  have first := stages.opens.trans stages.retries
  exact ⟨⟨ended, mem_added_right first.tries.log stages.fromRetry.tries.log failed⟩, pending⟩

/-- Unless the cancellation of an ended task failed, what is remembered is live. -/
theorem pending_live (fair : ¬EndedCancelFailed (added handle after)) {task : TaskId}
    (pending : task ∈ after.pendingTaskCancellations) : task ∈ after.live := by
  by_contra ended
  have first := stages.opens.trans stages.retries
  have fairLate : ¬EndedCancelFailed (added retried after) := fun ⟨other, failed⟩ =>
    fair ⟨other, mem_added_right first.tries.log stages.fromRetry.tries.log failed⟩
  obtain ⟨before, endedBefore⟩ := stages.fromRetry.tries.lost fairLate task pending ended
  have fairLast : ¬EndedCancelFailed (added cancelled after) := fun ⟨other, failed⟩ =>
    fairLate ⟨other, mem_added_right stages.cancels.tries.log stages.fromCancel.tries.log failed⟩
  obtain ⟨stillPending, -⟩ := stages.fromCancel.tries.lost fairLast task pending ended
  rcases (stages.pending task before).2 endedBefore with forgotten | ⟨other, failed⟩
  · exact forgotten stillPending
  · exact fairLate
      ⟨other, mem_added_left stages.cancels.tries.log stages.fromCancel.tries.log failed⟩

theorem released_after (stream : StreamId) : stream ∉ after.connections := by
  intro present
  obtain ⟨taskId, found⟩ := Option.isSome_iff_exists.mp (AList.lookup_isSome.mpr present)
  exact stages.gone stream
    (OrderedDict.mem_of_lookup (stages.fromRelease.grown.connections stream taskId found))

theorem stream_tried {stream : StreamId} (accepted : stream < after.acceptedStreams)
    (unclosed : stream ∉ after.closedStreams) :
    (.close (.connection stream), false) ∈ added handle after := by
  have closing : stream ∈ after.closingConnections :=
    (stages.closes.sound.tables.owned stream accepted unclosed).resolve_left
      (stages.released_after stream)
  refine mem_added_right stages.opens.tries.log stages.fromOpen.tries.log ?_
  by_cases before : stream ∈ opened.closingConnections
  · refine mem_added_left stages.retries.tries.log stages.fromRetry.tries.log ?_
    exact (stages.streams stream before).resolve_left fun closed =>
      unclosed (stages.fromRetry.grown.closed closed)
  · exact stages.fromOpen.tries.closing stream closing before

theorem open_tried (target : Target) (still : Open target after) :
    1 ≤ failures target (added handle after) := by
  cases target with
  | resource resource =>
      cases resource with
      | wakeup =>
          obtain ⟨present, unclosed⟩ := still
          have failed : (Call.close .wakeup, false) ∈ added handle opened := by
            refine (stages.wakeup (stages.whole.grown.hasWakeup ▸ present)).resolve_left ?_
            intro closed
            exact Bool.noConfusion
              ((stages.fromOpen.grown.wakeupClosed closed).symm.trans unclosed)
          exact failures_pos
            (mem_added_left stages.opens.tries.log stages.fromOpen.tries.log failed) rfl
      | listener =>
          have failed : (Call.close .listener, false) ∈ added stopped.2 after :=
            stages.listener.resolve_left fun closed => Bool.noConfusion (closed.symm.trans still)
          have first := stages.opens.trans
            (stages.retries.trans (stages.cancels.trans stages.stops.passes))
          exact failures_pos (mem_added_right first.tries.log stages.closes.tries.log failed) rfl
      | connection stream =>
          exact failures_pos (stages.stream_tried still.1 still.2) (decide_eq_true rfl)
  | task task =>
      obtain ⟨⟨ended, failed⟩, -⟩ := stages.live_tried still
      exact failures_pos failed (decide_eq_true rfl)

end Stages

/-- What a finalization that does something leaves. -/
structure Finalized (handle after : ServerHandle) : Prop where
  passes : Passes handle after
  requested : after.closeRequested = true
  tried : ∀ target, Open target after → 1 ≤ failures target (added handle after)
  released : ∀ stream, stream ∉ after.connections
  remembered : ∀ task ∈ after.live, task ∈ after.pendingTaskCancellations
  fair : ¬EndedCancelFailed (added handle after) →
    ∀ task ∈ after.pendingTaskCancellations, task ∈ after.live
  finished : after.finished = after.complete
  clean : after.finished = true → after.cleanupErrors = ∅

theorem finishClose_finalizes (answers : Nat → Bool) (larger : ServerHandle)
    (sound : Sound handle) (unfinished : handle.finished = false) :
    Finalized handle (finishClose answers (cancel answers larger) true none handle) := by
  obtain ⟨opened, retried, cancelled, released, stopped, stages⟩ :=
    finishClose_stages answers larger sound unfinished
  exact {
    passes := stages.whole
    requested := stages.fromOpen.grown.requested stages.requested
    tried := stages.open_tried
    released := stages.released_after
    remembered := fun task live => (stages.live_tried live).2
    fair := fun fair task pending => stages.pending_live fair pending
    finished := stages.finished
    clean := stages.clean }

end Passing

section Repeating

variable {answers : Nat → Bool} {handle after : ServerHandle}

theorem finalize_finalizes (answers : Nat → Bool) (sound : Sound handle)
    (unfinished : handle.finished = false) :
    Finalized handle (finalize answers handle) := by
  have same : Sound { handle with cursor := none } := { sound with }
  have finalized := finishClose_finalizes answers handle same unfinished
  have grown := finalized.passes.grown
  exact { finalized with
    passes := ⟨finalized.passes.sound, { grown with live := grown.live },
      { finalized.passes.tries with }⟩ }

theorem finalize_finished (finished : handle.finished = true) :
    finalize answers handle = { handle with cursor := none } := by
  unfold finalize finishClose
  rw [if_pos finished]

theorem Passes.cursor (sound : Sound handle) (cursor : Option TaskId) :
    Passes handle { handle with cursor } :=
  ⟨{ sound with }, { Grows.refl handle with }, { Tries.refl handle with }⟩

theorem finalize_passes (sound : Sound handle) : Passes handle (finalize answers handle) := by
  cases finished : handle.finished with
  | true =>
      rw [finalize_finished finished]
      exact .cursor sound none
  | false => exact (finalize_finalizes answers sound finished).passes

theorem open_before (passes : Passes handle after) {target : Target} (still : Open target after) :
    Open target handle := by
  have grown := passes.grown
  cases target with
  | resource resource =>
      cases resource with
      | wakeup =>
          refine ⟨grown.hasWakeup ▸ still.1, Bool.eq_false_iff.mpr fun closed => ?_⟩
          exact Bool.noConfusion ((grown.wakeupClosed closed).symm.trans still.2)
      | listener =>
          refine Bool.eq_false_iff.mpr fun closed => ?_
          exact Bool.noConfusion ((grown.listenerClosed closed).symm.trans still)
      | connection stream =>
          exact ⟨grown.accepted ▸ still.1, fun closed => still.2 (grown.closed closed)⟩
  | task task => exact passes.tries.live task still

def finalizeTimes (answers : Nat → Bool) : Nat → ServerHandle → ServerHandle
  | 0, handle => handle
  | times + 1, handle => finalize answers (finalizeTimes answers times handle)

theorem finalizeTimes_passes (answers : Nat → Bool) (sound : Sound handle) (times : Nat) :
    Passes handle (finalizeTimes answers times handle) := by
  induction times with
  | zero => exact .refl sound
  | succ times induction => exact induction.trans (finalize_passes induction.sound)

theorem open_failed (sound : Sound handle) (times : Nat)
    (unfinished : (finalizeTimes answers times handle).finished = false) {target : Target}
    (still : Open target (finalizeTimes answers times handle)) :
    times ≤ failures target (added handle (finalizeTimes answers times handle)) := by
  induction times with
  | zero => exact Nat.zero_le _
  | succ times induction =>
      have before := finalizeTimes_passes answers sound times
      cases finished : (finalizeTimes answers times handle).finished with
      | true =>
          have frozen : (finalizeTimes answers (times + 1) handle).finished = true := by
            rw [finalizeTimes, finalize_finished finished]
            exact finished
          exact Bool.noConfusion (frozen.symm.trans unfinished)
      | false =>
          have last := finalize_finalizes answers before.sound finished
          have earlier := induction finished (open_before last.passes still)
          have more := last.tried target still
          rw [finalizeTimes, added_trans before.tries.log last.passes.tries.log, failures,
            List.countP_append]
          exact Nat.add_le_add earlier more

theorem Finalized.finishes (finalized : Finalized handle after)
    (noSockets : handle.websocketStates = ∅) (fair : ¬EndedCancelFailed (added handle after))
    (closed : ∀ target, ¬Open target after) : after.finished = true := by
  have wakeup : after.hasWakeup = false ∨ after.wakeupClosed = true := by
    by_contra neither
    rw [not_or, Bool.not_eq_false, Bool.not_eq_true] at neither
    exact closed (.resource .wakeup) neither
  have listener : after.listenerClosed = true := by
    by_contra unclosed
    rw [Bool.not_eq_true] at unclosed
    exact closed (.resource .listener) unclosed
  have connections : after.connections.entries = [] := by
    refine List.eq_nil_iff_forall_not_mem.mpr fun entry member => ?_
    exact finalized.released entry.1
      (OrderedDict.mem_of_lookup (AList.mem_lookup_iff.mpr member))
  have closing : after.closingConnections.entries = [] := by
    refine List.eq_nil_iff_forall_not_mem.mpr fun entry member => ?_
    exact closed (.resource (.connection entry.1)) (finalized.passes.sound.tables.closing_open _
      (OrderedDict.mem_of_lookup (AList.mem_lookup_iff.mpr member)))
  have pending : after.pendingTaskCancellations.entries = [] := by
    refine List.eq_nil_iff_forall_not_mem.mpr fun entry member => ?_
    exact closed (.task entry.1) (finalized.fair fair entry.1
      (OrderedDict.mem_of_lookup (AList.mem_lookup_iff.mpr member)))
  have sockets : after.websocketStates = ∅ :=
    Finset.subset_empty.mp (noSockets ▸ finalized.passes.grown.websockets)
  rw [finalized.finished, ServerHandle.complete, finalized.requested, listener, connections,
    closing, pending, decide_eq_true sockets]
  rcases wakeup with absent | done
  · rw [absent]
    rfl
  · rw [done, Bool.or_true]
    rfl

/-- With at most `bound` failures for each target, one call more finishes the handle. -/
theorem finalizeTimes_finishes (sound : Sound handle) (noSockets : handle.websocketStates = ∅)
    (bound : Nat)
    (few : ∀ target, Open target handle →
      failures target (added handle (finalizeTimes answers (bound + 1) handle)) ≤ bound)
    (fair : ¬EndedCancelFailed (added handle (finalizeTimes answers (bound + 1) handle))) :
    (finalizeTimes answers (bound + 1) handle).finished = true := by
  by_contra unfinished
  rw [Bool.not_eq_true] at unfinished
  have before := finalizeTimes_passes answers sound bound
  have closed : ∀ target, ¬Open target (finalizeTimes answers (bound + 1) handle) :=
    fun target still => absurd (open_failed sound (bound + 1) unfinished still)
      (Nat.not_le.mpr (Nat.lt_succ_of_le
        (few target (open_before (finalizeTimes_passes answers sound (bound + 1)) still))))
  cases finished : (finalizeTimes answers bound handle).finished with
  | true =>
      rw [finalizeTimes, finalize_finished finished] at unfinished
      exact Bool.noConfusion (finished.symm.trans unfinished)
  | false =>
      have last := finalize_finalizes answers before.sound finished
      have sockets : (finalizeTimes answers bound handle).websocketStates = ∅ :=
        Finset.subset_empty.mp (noSockets ▸ before.grown.websockets)
      have lastFair : ¬EndedCancelFailed (added (finalizeTimes answers bound handle)
          (finalizeTimes answers (bound + 1) handle)) := fun ⟨task, failed⟩ =>
        fair ⟨task, mem_added_right before.tries.log last.passes.tries.log failed⟩
      exact Bool.noConfusion ((last.finishes sockets lastFair closed).symm.trans unfinished)

/-- A handle that is finished and whose tasks have all ended. -/
structure Quiet (handle : ServerHandle) : Prop where
  finished : handle.finished = true
  clean : handle.cleanupErrors = ∅
  ended : ∀ task, task ∉ handle.live

theorem finalizeTimes_quiet (sound : Sound handle) (unfinished : handle.finished = false)
    (times : Nat) (finished : (finalizeTimes answers times handle).finished = true) :
    Quiet (finalizeTimes answers times handle) := by
  induction times with
  | zero => exact Bool.noConfusion (finished.symm.trans unfinished)
  | succ times induction =>
      have before := finalizeTimes_passes answers sound times
      cases earlier : (finalizeTimes answers times handle).finished with
      | true =>
          have quiet := induction earlier
          rw [finalizeTimes, finalize_finished earlier]
          exact { quiet with }
      | false =>
          have last := finalize_finalizes answers before.sound earlier
          refine ⟨finished, last.clean finished, fun task live => ?_⟩
          have complete := last.finished.symm.trans finished
          have pending :
              (finalizeTimes answers (times + 1) handle).pendingTaskCancellations.entries = [] := by
            have all : ServerHandle.complete (finalizeTimes answers (times + 1) handle) = true :=
              complete
            simp only [ServerHandle.complete, Bool.and_eq_true, List.isEmpty_iff] at all
            exact all.1.2
          have remembered := last.remembered task live
          rw [AList.mem_keys, AList.keys] at remembered
          rw [finalizeTimes] at pending
          rw [pending] at remembered
          cases remembered

theorem Quiet.frozen (quiet : Quiet handle) {step : Step}
    (taken : next answers handle step = some after) : ∃ cursor, after = { handle with cursor } := by
  have gone : ∀ task, handle.live.lookup task = none := fun task =>
    AList.lookup_eq_none.mpr (quiet.ended task)
  have idle : ∀ task, runningConnection task handle = none := fun task => by
    rw [runningConnection, gone]
  cases step with
  | runsListener outcome =>
      simp only [next, gone, Option.map_none] at taken
      split at taken <;> cases taken
  | starts task =>
      simp only [next, gone, Option.map_none] at taken
      cases taken
  | spawns task kind =>
      simp only [next, idle, Option.map_none] at taken
      cases taken
  | endsChild task =>
      simp only [next, gone] at taken
      cases taken
  | cancelsHandler task handler =>
      simp only [next, idle] at taken
      cases taken
  | registersGraceful task =>
      simp only [next, idle, Option.map_none] at taken
      cases taken
  | registersWebsocket task =>
      simp only [next, idle, Option.map_none] at taken
      cases taken
  | tearsDown task =>
      simp only [next, idle, Option.map_none] at taken
      cases taken
  | finishesConnection task primary =>
      simp only [next, idle, Option.map_none] at taken
      cases taken
  | forcesClose task primary =>
      simp only [next, gone] at taken
      cases taken
  | wakesWatcher task =>
      simp only [next, gone] at taken
      cases taken
  | close =>
      cases taken
      refine ⟨handle.cursor, ?_⟩
      unfold Server.close
      rw [if_pos (by rw [quiet.finished, Bool.true_or])]
  | finalize =>
      cases taken
      exact ⟨none, finalize_finished quiet.finished⟩
  | closesFromTask task =>
      cases taken
      refine ⟨handle.cursor, ?_⟩
      rw [closeFromTask, if_pos quiet.finished]

theorem Quiet.run_frozen (quiet : Quiet handle) {steps : List Step}
    (run : Runs.Run (Steps answers) handle steps after) :
    ∃ cursor, after = { handle with cursor } := by
  induction run with
  | nil => exact ⟨handle.cursor, rfl⟩
  | snoc step run taken induction =>
      obtain ⟨cursor, rfl⟩ := induction
      have still : Quiet { handle with cursor } := { quiet with }
      obtain ⟨later, rfl⟩ := still.frozen taken
      exact ⟨later, rfl⟩

end Repeating

section Settling

variable {answers : Nat → Bool} {handle after : ServerHandle}

def Settled (handle : ServerHandle) : Prop :=
  handle.finished = true →
    handle.connections.entries = [] ∧ handle.closingConnections.entries = []

def Settles (handle after : ServerHandle) : Prop := Settled handle → Settled after

theorem erase_empty {Value : Type} {dict : OrderedDict Nat Value} (empty : dict.entries = [])
    (key : Nat) : (dict.erase key).entries = [] := by
  have shorter := OrderedDict.length_erase_le dict key
  rw [empty] at shorter
  exact List.length_eq_zero_iff.mp (Nat.le_zero.mp shorter)

theorem leave_settles (popped : Bool) (stream : StreamId) (signal : Option Bool) :
    Settles handle (withSignal signal (leave popped stream handle)) := by
  intro settled
  have left : Settled (leave popped stream handle) := by
    intro finished
    obtain ⟨connections, closing⟩ := settled finished
    refine ⟨?_, erase_empty closing stream⟩
    cases popped with
    | true => exact erase_empty connections stream
    | false => exact connections
  cases signal with
  | none => exact left
  | some ok => exact left

theorem settles_covers : Covers Settles where
  refl _ := id
  trans _ _ _ first second := second ∘ first
  effect handle after sound effect := by
    cases effect with
    | moved stream unclosed accepted =>
        intro settled finished
        obtain ⟨connections, closing⟩ := settled finished
        rcases sound.tables.owned stream accepted unclosed with present | remembered
        · have member : stream ∈ handle.connections := present
          rw [AList.mem_keys, AList.keys, connections] at member
          cases member
        · have member : stream ∈ handle.closingConnections := remembered
          rw [AList.mem_keys, AList.keys, closing] at member
          cases member
    | closed stream popped signal =>
        have closed : Settles handle (closeStream stream handle) := id
        exact leave_settles popped stream signal ∘ closed
    | left stream popped signal => exact leave_settles popped stream signal
    | updated =>
        intro _ finished
        obtain ⟨complete, -⟩ := updateFinished_finished handle
        have all := complete.symm.trans finished
        simp only [ServerHandle.complete, Bool.and_eq_true, List.isEmpty_iff] at all
        exact ⟨all.1.1.1.2, all.1.1.2⟩
    | _ => exact id

theorem settles_allows : Allows Settles Settles where
  remembered _ _ _ _ := id
  already _ _ _ _ := id
  ended _ _ _ _ _ _ _ kept := kept

theorem cancel_settles (answers : Nat → Bool) (larger : ServerHandle) :
    CancelKeeps Settles (cancel answers larger) :=
  cancelAt_keeps (fun _ => Settles) (fun _ => settles_covers) (fun _ _ _ => id)
    (fun _ => settles_allows) _

theorem Cancels.settles (cancels : Cancels answers handle after) (sound : Sound handle) :
    Settles handle after := by
  obtain ⟨larger, -, keeps⟩ := cancels
  exact (keeps Settles settles_covers (cancel_settles answers larger) sound).2.2

theorem ListenerMove.settles (move : ListenerMove answers handle after) (sound : Sound handle) :
    Settles handle after := by
  cases move with
  | operates finishes => exact Cancels.settles finishes.cancels sound
  | _ => exact id

theorem ListenerMoves.settles (moves : ListenerMoves answers handle after) (sound : Sound handle) :
    Settles handle after := by
  induction moves with
  | refl => exact id
  | tail before move induction =>
      exact ListenerMove.settles move (ListenerMoves.follows before sound).1 ∘ induction

def ClosedRaises (handle : ServerHandle) (step : Step) : Prop :=
  handle.listenerClosed = true → ∀ setup registration,
    step ≠ .runsListener (.stream setup registration)

/-- The steps of a server whose kernel does not accept on a closed listener. -/
def FairSteps (answers : Nat → Bool) (handle : ServerHandle) (step : Step)
    (after : ServerHandle) : Prop :=
  Steps answers handle step after ∧ ClosedRaises handle step

theorem begins_unfinished {outcome : AcceptOutcome} {base : ServerHandle} (sound : Sound handle)
    (raises : ClosedRaises handle (.runsListener outcome))
    (begins : Begins outcome handle base) : base = handle ∨ base.finished = false := by
  rcases begins with same | ⟨-, arrives, setup, registration, accepts⟩
  · exact .inl same
  · have opened : handle.finished = false := Bool.eq_false_iff.mpr fun finished => by
      have closed := (sound.drive.finished_closed finished).1
      exact raises closed setup registration (by rw [accepts])
    cases arrives with
    | closed => exact .inr opened
    | kept => exact .inr opened
    | registered => exact .inr opened

theorem fairSteps_settled (sound : Sound handle) (settled : Settled handle) {step : Step}
    (taken : FairSteps answers handle step after) : Settled after := by
  obtain ⟨taken, raises⟩ := taken
  rcases next_cancels sound taken with ⟨outcome, rfl⟩ | ⟨parent, kind, rfl⟩ | ⟨task, rfl⟩ |
    ⟨base, marks, cancels⟩
  · obtain ⟨-, -, phase, base, start, -, -, marks, before, begins, moves⟩ :=
      runsListener_follows sound taken
    have middleSound := (before.follows (marks.follows sound).1).1
    have baseSound := (begins.sound middleSound).1
    obtain ⟨later, cursor, -, -, rfl⟩ := marks
    refine ListenerMoves.settles moves baseSound ?_
    rcases begins_unfinished middleSound raises begins with rfl | unfinished
    · exact settled
    · exact fun finished => Bool.noConfusion (finished.symm.trans unfinished)
  · obtain ⟨⟨task, stream⟩, running, rfl⟩ := Option.map_eq_some_iff.mp taken
    exact settled
  · obtain ⟨⟨task, stream⟩, running, rfl⟩ := Option.map_eq_some_iff.mp taken
    exact settled
  · have baseSettled : Settled base := by
      obtain ⟨later, cursor, -, -, rfl⟩ := marks
      exact settled
    exact Cancels.settles cancels (marks.follows sound).1 baseSettled

end Settling

section Covering

variable {answers : Nat → Bool} {handle after : ServerHandle}

def Busy (handle : ServerHandle) : Prop :=
  ∃ taskId task stream, handle.live.lookup taskId = some task ∧
    task.routine = .connection stream ∧ task.started = true

/-- Unless a connection task is alive, a finished handle has no cancellation pending and no
WebSocket state registered. -/
def Covered (handle : ServerHandle) : Prop :=
  handle.finished = true → Busy handle ∨
    (handle.pendingTaskCancellations.entries = [] ∧ handle.websocketStates = ∅)

def Covering (handle after : ServerHandle) : Prop := Covered handle → Covered after

theorem busy_erase {ending : TaskId} (cursor : Option TaskId)
    (other : ∀ task stream, handle.live.lookup ending = some task →
      task.routine = .connection stream → task.started = false)
    (busy : Busy handle) : Busy { handle with live := handle.live.erase ending, cursor } := by
  obtain ⟨taskId, task, stream, found, serves, started⟩ := busy
  refine ⟨taskId, task, stream, ?_, serves, started⟩
  change (handle.live.erase ending).lookup taskId = some task
  rw [OrderedDict.lookup_erase_eq, if_neg]
  · exact found
  · rintro rfl
    exact Bool.noConfusion ((other task stream found serves).symm.trans started)

theorem busy_dropHandler (connection handler : TaskId) (busy : Busy handle) :
    Busy { handle with live := dropHandler connection handler handle.live } := by
  obtain ⟨taskId, task, stream, found, serves, started⟩ := busy
  unfold dropHandler
  split
  · exact ⟨taskId, task, stream, found, serves, started⟩
  · rename_i parent known
    by_cases same : taskId = connection
    · rw [same, known] at found
      obtain rfl := Option.some.inj found
      exact ⟨connection, { parent with handlers := parent.handlers.erase handler }, stream,
        OrderedDict.lookup_set _ _ _, serves, started⟩
    · exact ⟨taskId, task, stream, (OrderedDict.lookup_set_ne _ _ same).trans found, serves,
        started⟩

theorem covered_updateFinished (handle : ServerHandle) : Covered handle.updateFinished := by
  intro finished
  obtain ⟨complete, -⟩ := updateFinished_finished handle
  have all := complete.symm.trans finished
  simp only [ServerHandle.complete, Bool.and_eq_true, List.isEmpty_iff, decide_eq_true_eq] at all
  exact .inr ⟨all.1.2, all.2⟩

theorem covering_covers : Covers Covering where
  refl _ := id
  trans _ _ _ first second := second ∘ first
  effect handle after sound effect := by
    cases effect with
    | websocketLeft stream =>
        intro covered finished
        refine (covered finished).imp_right fun ⟨pending, sockets⟩ => ⟨pending, ?_⟩
        exact Finset.subset_empty.mp (sockets ▸ Finset.erase_subset stream _)
    | closed stream popped signal =>
        cases signal with
        | none => exact id
        | some ok => exact id
    | left stream popped signal =>
        cases signal with
        | none => exact id
        | some ok => exact id
    | updated => exact fun _ => covered_updateFinished handle
    | handlerLeft connection handler =>
        exact fun covered finished =>
          (covered finished).imp_left (busy_dropHandler connection handler)
    | _ => exact id

theorem finishClose_updates (answers : Nat → Bool)
    (cancel : TaskId → ServerHandle → Bool × ServerHandle)
    (ownerThread : Bool) (current : Option TaskId) :
    (handle.finished = true ∧ finishClose answers cancel ownerThread current handle = handle) ∨
      ∃ last, finishClose answers cancel ownerThread current handle =
        ServerHandle.updateFinished last := by
  unfold finishClose
  split
  · rename_i finished
    exact .inl ⟨finished, rfl⟩
  · exact .inr ⟨_, rfl⟩

theorem finishClose_covering (cancel : TaskId → ServerHandle → Bool × ServerHandle)
    (ownerThread : Bool) (current : Option TaskId) :
    Covering handle (finishClose answers cancel ownerThread current handle) := by
  rcases finishClose_updates answers cancel ownerThread current with ⟨-, same⟩ |
    ⟨last, same⟩
  · rw [same]
    exact id
  · rw [same]
    exact fun _ => covered_updateFinished last

theorem finishing_covering (answers : Nat → Bool) (larger : ServerHandle) :
    FinishKeeps Covering (finishing answers (cancel answers larger)) := by
  intro task handle attempted sound
  obtain ⟨afterSound, grown, -⟩ := finishing_keeps tries_covers (cancel_tries answers larger) task
    handle attempted sound
  refine ⟨afterSound, grown, fun covered => ?_⟩
  exact finishClose_covering (cancel answers larger) false task fun finished => covered finished

theorem Finishes.covering (finishes : Finishes answers handle after) (sound : Sound handle) :
    Covering handle after := by
  obtain ⟨larger, -, keeps⟩ := finishes
  exact (keeps Covering covering_covers (finishing_covering answers larger) sound).2.2

theorem cancelChild_busy (answers : Nat → Bool) (larger : ServerHandle) {task : TaskId}
    (child : ∀ running, handle.live.lookup task = some running →
      Routine.isChild running.routine = true) (busy : Busy handle) :
    Busy (cancelOrRetainTask (cancel answers larger) task handle).2 := by
  have other : ∀ running stream, handle.live.lookup task = some running →
      running.routine = .connection stream → running.started = false := by
    intro running stream found serves
    have isChild := child running found
    rw [serves] at isChild
    cases isChild
  have ended : Busy (settled task (ending task handle)) := busy_erase handle.cursor other busy
  rcases result : cancelOrRetainTask (cancel answers larger) task handle with ⟨ok, next⟩
  cases ok with
  | false =>
      obtain rfl := cancelStep_failed result
      exact busy
  | true =>
      rcases cancelStep_ended result with ⟨rfl, -⟩ | ⟨running, found, -, rfl⟩
      · exact ended
      · have isChild := child running found
        unfold finallyBlock
        cases routine : running.routine with
        | handler connection => exact busy_dropHandler connection task ended
        | helper stream => exact ended
        | websocketChild => exact ended
        | acceptLoop => rw [routine] at isChild; cases isChild
        | closeWatcher => rw [routine] at isChild; cases isChild
        | routeObserver => rw [routine] at isChild; cases isChild
        | connection stream => rw [routine] at isChild; cases isChild

theorem tearDownConnection_busy (answers : Nat → Bool) (larger : ServerHandle)
    (sound : Sound handle) (task : Task) (known : ∀ child ∈ task.children, child < handle.nextTask)
    (children : ∀ child ∈ task.children, ∀ running, handle.live.lookup child = some running →
      Routine.isChild running.routine = true) (busy : Busy handle) :
    Busy (tearDownConnection (cancel answers larger) task handle) := by
  have turn : ∀ child ∈ task.children, ∀ state, Passes handle state → Busy state →
      Passes handle (cancelOrRetainTask (cancel answers larger) child state).2 ∧
        Passes handle { (cancelOrRetainTask (cancel answers larger) child state).2 with
          ownedTasks := (cancelOrRetainTask (cancel answers larger) child state).2.ownedTasks.erase
            child } ∧
          Busy (cancelOrRetainTask (cancel answers larger) child state).2 := by
    intro child member state passed stillBusy
    have current : child < state.nextTask := passed.grown.nextTask ▸ known child member
    refine ⟨passed.trans (.of_keeps ((cancel_tries answers larger).keeps child state current)
      passed.sound), passed.trans (.of_keeps (cancelAndDisown_keeps tries_covers
        (cancel_tries answers larger) current) passed.sound), ?_⟩
    refine cancelChild_busy answers larger ?_ stillBusy
    intro running found
    obtain ⟨earlier, before, same, -⟩ := passed.grown.live child running found
    rw [← same]
    exact children child member earlier before
  simp only [Task.children, List.mem_append] at turn
  have start : Passes handle handle ∧ Busy handle := ⟨.refl sound, busy⟩
  have handlers := List.foldlRecOn (motive := fun state => Passes handle state ∧ Busy state)
    task.handlers (fun next child => (cancelOrRetainTask (cancel answers larger) child next).2)
    start
    fun state holds child member => by
      obtain ⟨kept, -, still⟩ := turn child (.inl (.inl member)) state holds.1 holds.2
      exact ⟨kept, still⟩
  have helpers := List.foldlRecOn (motive := fun state => Passes handle state ∧ Busy state)
    task.helpers (fun next child =>
      let cancelled := (cancelOrRetainTask (cancel answers larger) child next).2
      { cancelled with ownedTasks := cancelled.ownedTasks.erase child }) handlers
    fun state holds child member => by
      obtain ⟨-, kept, still⟩ := turn child (.inl (.inr member)) state holds.1 holds.2
      exact ⟨kept, still⟩
  refine (List.foldlRecOn (motive := fun state => Passes handle state ∧ Busy state)
    task.websocketChildren _ helpers fun state holds child member => ?_).2
  obtain ⟨kept, disowned, still⟩ := turn child (.inr member) state holds.1 holds.2
  rcases result : cancelOrRetainTask (cancel answers larger) child state with ⟨ok, next⟩
  rw [result] at kept disowned still
  cases ok with
  | true => exact ⟨disowned, still⟩
  | false => exact ⟨kept, still⟩

theorem ListenerMove.covering (move : ListenerMove answers handle after) (sound : Sound handle)
    (settled : Settled handle) : Covering handle after := by
  cases move with
  | operates finishes => exact Finishes.covering finishes sound
  | ends listener is =>
      refine fun covered finished => (covered finished).imp_left fun busy => ?_
      refine busy_erase handle.cursor ?_ busy
      intro task stream found serves
      have accepts := (sound.roster.listener listener is).2 task found
      rw [serves] at accepts
      cases accepts
  | unregisters task running live unstarted =>
      intro covered finished
      refine (covered finished).imp (fun busy => ?_) fun ⟨pending, sockets⟩ => ⟨?_, sockets⟩
      · refine busy_erase handle.cursor (fun other stream found _ => ?_) busy
        obtain rfl := Option.some.inj (live.symm.trans found)
        exact unstarted
      · exact erase_empty pending task
  | remembers task error live registered =>
      exact fun _ finished => absurd (settled finished).1 registered
  | _ => exact id

theorem ListenerMoves.covering (moves : ListenerMoves answers handle after) (sound : Sound handle)
    (settled : Settled handle) : Covering handle after := by
  induction moves with
  | refl => exact id
  | tail before move induction =>
      exact ListenerMove.covering move (ListenerMoves.follows before sound).1
        (ListenerMoves.settles before sound settled) ∘ induction

theorem busy_set {marked : TaskId} {task : Task} (laterTask : Task) (cursor : Option TaskId)
    (found : handle.live.lookup marked = some task) (same : laterTask.routine = task.routine)
    (started : task.started = true → laterTask.started = true) (busy : Busy handle) :
    Busy { handle with live := handle.live.set marked laterTask, cursor } := by
  obtain ⟨taskId, running, stream, alive, serves, runs⟩ := busy
  by_cases here : taskId = marked
  · rw [here, found] at alive
    obtain rfl := Option.some.inj alive
    exact ⟨marked, laterTask, stream, OrderedDict.lookup_set _ _ _, same.trans serves, started runs⟩
  · exact ⟨taskId, running, stream, (OrderedDict.lookup_set_ne _ _ here).trans alive, serves, runs⟩

theorem running_busy {taskId : TaskId} {task : Task} {stream : StreamId}
    (running : runningConnection taskId handle = some (task, stream)) : Busy handle := by
  obtain ⟨found, serves, started⟩ := runningConnection_eq running
  exact ⟨taskId, task, stream, found, serves, started⟩

theorem runsListener_covering (sound : Sound handle) (settled : Settled handle)
    {outcome : AcceptOutcome} (taken : FairSteps answers handle (.runsListener outcome) after) :
    Covering handle after := by
  intro covered
  obtain ⟨taken, raises⟩ := taken
  obtain ⟨listener, task, phase, base, start, found, startEq, marks, before, begins, moves⟩ :=
    runsListener_follows sound taken
  have middleSound := (before.follows (marks.follows sound).1).1
  have baseSound := (begins.sound middleSound).1
  subst startEq
  have startCovered : Covered { handle with
      live := handle.live.set listener { task with started := true }
      cursor := some listener } := fun finished =>
    (covered finished).imp_left
      (busy_set { task with started := true } (some listener) found rfl fun _ => rfl)
  rcases begins_unfinished middleSound raises begins with rfl | unfinished
  · exact ListenerMoves.covering moves baseSound settled startCovered
  · refine ListenerMoves.covering moves baseSound ?_ ?_
    · exact fun finished => Bool.noConfusion (finished.symm.trans unfinished)
    · exact fun finished => Bool.noConfusion (finished.symm.trans unfinished)

/-- The `finally` block of a task other than a connection's, the listener and the watcher. -/
theorem finallyBlock_covered (inner : TaskId → ServerHandle → Bool × ServerHandle)
    {taskId : TaskId} {task : Task} (accepts : task.routine ≠ .acceptLoop)
    (watches : task.routine ≠ .closeWatcher) (serves : ∀ stream, task.routine ≠ .connection stream)
    (covered : Covered handle) : Covered (finallyBlock answers inner taskId task handle) := by
  unfold finallyBlock
  cases routine : task.routine with
  | acceptLoop => exact absurd routine accepts
  | closeWatcher => exact absurd routine watches
  | connection stream => exact absurd routine (serves stream)
  | handler connection =>
      exact fun finished => (covered finished).imp_left (busy_dropHandler connection taskId)
  | helper stream => exact covered
  | websocketChild => exact covered
  | routeObserver => exact covered

theorem endsChild_covering {taskId : TaskId}
    (taken : next answers handle (.endsChild taskId) = some after) : Covering handle after := by
  have ends : ∃ task, handle.live.lookup taskId = some task ∧ task.routine ≠ .acceptLoop ∧
      task.routine ≠ .closeWatcher ∧ (∀ stream, task.routine ≠ .connection stream) ∧
        some (finallyBlock answers (cancel answers handle) taskId task { handle with
          live := handle.live.erase taskId
          cursor := some taskId }) = some after := by
    simp only [next] at taken
    split at taken
    · cases taken
    · rename_i task found
      refine ⟨task, found, ?_⟩
      split at taken
      · cases taken
      · cases taken
      · cases taken
      · rename_i accepts watches serves
        exact ⟨accepts, watches, serves, taken⟩
  obtain ⟨task, found, accepts, watches, serves, ⟨⟩⟩ := ends
  refine fun covered => finallyBlock_covered (cancel answers handle) accepts watches serves ?_
  refine fun finished => (covered finished).imp_left (busy_erase (some taskId) ?_)
  intro running stream same runs
  obtain rfl := Option.some.inj (found.symm.trans same)
  exact absurd runs (serves stream)

theorem spawn_busy (sound : Sound handle) {taskId : TaskId} {task : Task} {stream : StreamId}
    (kind : ChildKind) (running : runningConnection taskId handle = some (task, stream)) :
    Busy (spawn taskId task stream kind handle) := by
  obtain ⟨found, serves, started⟩ := runningConnection_eq running
  have old : taskId ≠ handle.nextTask :=
    Nat.ne_of_lt (sound.roster.known taskId (OrderedDict.mem_of_lookup found))
  cases kind with
  | handler =>
      exact ⟨taskId, { task with handlers := task.handlers ++ [handle.nextTask] }, stream,
        (OrderedDict.lookup_set_ne _ _ old).trans (OrderedDict.lookup_set _ _ _), serves, started⟩
  | helper =>
      exact ⟨taskId, { task with helpers := task.helpers ++ [handle.nextTask] }, stream,
        (OrderedDict.lookup_set_ne _ _ old).trans (OrderedDict.lookup_set _ _ _), serves, started⟩
  | websocketChild =>
      exact ⟨taskId, { task with websocketChildren := task.websocketChildren ++ [handle.nextTask] },
        stream, (OrderedDict.lookup_set_ne _ _ old).trans (OrderedDict.lookup_set _ _ _), serves,
        started⟩

theorem cancelsHandler_busy (sound : Sound handle) {taskId handler : TaskId}
    (taken : next answers handle (.cancelsHandler taskId handler) = some after) : Busy after := by
  simp only [next] at taken
  split at taken
  · cases taken
  · rename_i task stream running
    obtain ⟨found, serves, started⟩ := runningConnection_eq running
    split at taken
    · rename_i known
      cases taken
      have marked := busy_set { task with handlers := task.handlers.erase handler }
        (some taskId) found rfl id (running_busy running)
      refine cancelChild_busy answers handle ?_ marked
      intro other alive
      have member : handler ∈ task.children := by
        simp only [Task.children, List.mem_append]
        exact .inl (.inl (List.contains_iff_mem.mp known))
      change (handle.live.set taskId _).lookup handler = some other at alive
      by_cases same : handler = taskId
      · have isChild := sound.roster.children taskId task found handler member task (same ▸ found)
        rw [serves] at isChild
        cases isChild
      · rw [OrderedDict.lookup_set_ne _ _ same] at alive
        exact sound.roster.children taskId task found handler member other alive
    · cases taken

theorem tearsDown_busy (sound : Sound handle) {taskId : TaskId}
    (taken : next answers handle (.tearsDown taskId) = some after) : Busy after := by
  obtain ⟨⟨task, stream⟩, running, rfl⟩ := Option.map_eq_some_iff.mp taken
  obtain ⟨found, serves, started⟩ := runningConnection_eq running
  let torn : Task := { routine := .connection stream, started := true }
  have marks := Marks.keeps torn found serves (fun child member => nomatch member) (some taskId)
  have marked := busy_set torn (some taskId) found serves.symm (fun _ => rfl)
    (running_busy running)
  have kept := tearDownConnection_busy answers handle (marks.follows sound).1 task
    (sound.roster.children_known taskId task found) ?_ marked
  · exact kept
  · intro child member other alive
    change (handle.live.set taskId torn).lookup child = some other at alive
    by_cases same : child = taskId
    · have isChild := sound.roster.children taskId task found child member task (same ▸ found)
      rw [serves] at isChild
      cases isChild
    · rw [OrderedDict.lookup_set_ne _ _ same] at alive
      exact sound.roster.children taskId task found child member other alive

theorem forcesClose_covering (sound : Sound handle) {taskId : TaskId} {primary : Option Fault}
    (taken : next answers handle (.forcesClose taskId primary) = some after) :
    Covering handle after := by
  simp only [next] at taken
  split at taken
  · cases taken
  · rename_i task found
    split at taken
    · rename_i stream helps
      cases taken
      intro covered
      have marks := Marks.ends handle taskId (some taskId)
      have ended : Covered { handle with
          live := handle.live.erase taskId
          cursor := some taskId } := fun finished =>
        (covered finished).imp_left (busy_erase (some taskId) fun running other same serves => by
          obtain rfl := Option.some.inj (found.symm.trans same)
          rw [helps] at serves
          cases serves)
      have accepted := sound.roster.streams taskId task stream found (by rw [helps]; rfl)
      have closes : ∀ base, Sound base → base.acceptedStreams = handle.acceptedStreams →
          Covered base → Covered (forceConnectionClose answers
            (finishing answers (cancel answers handle)) stream (some taskId) primary base).2 :=
        fun base baseSound same => (forceConnectionClose_keeps covering_covers
          (finishing_covering answers handle) (same ▸ accepted) (some taskId) primary baseSound).2.2
      exact closes _ (marks.follows sound).1 rfl ended
    · cases taken

theorem wakesWatcher_covering {taskId : TaskId}
    (taken : next answers handle (.wakesWatcher taskId) = some after) : Covering handle after := by
  simp only [next] at taken
  split at taken
  · cases taken
  · rename_i task found
    split at taken
    · rename_i watches
      cases taken
      intro covered
      refine finishClose_covering (cancel answers handle) false (some taskId) fun finished => ?_
      refine (covered finished).imp_left (busy_erase (some taskId) ?_)
      intro running other same serves
      obtain rfl := Option.some.inj (found.symm.trans same)
      rw [watches] at serves
      cases serves
    · cases taken

theorem fairSteps_covered (sound : Sound handle) (settled : Settled handle)
    (covered : Covered handle) {step : Step} (taken : FairSteps answers handle step after) :
    Covered after := by
  cases step with
  | runsListener outcome => exact runsListener_covering sound settled taken covered
  | starts taskId =>
      obtain ⟨task, found, rfl⟩ := Option.map_eq_some_iff.mp taken.1
      exact fun finished => (covered finished).imp_left
        (busy_set { task with started := true } handle.cursor found rfl fun _ => rfl)
  | spawns taskId kind =>
      obtain ⟨⟨task, stream⟩, running, rfl⟩ := Option.map_eq_some_iff.mp taken.1
      exact fun _ => .inl (spawn_busy sound kind running)
  | endsChild taskId => exact endsChild_covering taken.1 covered
  | cancelsHandler taskId handler => exact fun _ => .inl (cancelsHandler_busy sound taken.1)
  | registersGraceful taskId =>
      obtain ⟨⟨task, stream⟩, running, rfl⟩ := Option.map_eq_some_iff.mp taken.1
      exact covered
  | registersWebsocket taskId =>
      obtain ⟨⟨task, stream⟩, running, rfl⟩ := Option.map_eq_some_iff.mp taken.1
      exact fun _ => .inl (running_busy running)
  | tearsDown taskId => exact fun _ => .inl (tearsDown_busy sound taken.1)
  | finishesConnection taskId primary =>
      obtain ⟨⟨task, stream⟩, running, rfl⟩ := Option.map_eq_some_iff.mp taken.1
      exact covered_updateFinished _
  | forcesClose taskId primary => exact forcesClose_covering sound taken.1 covered
  | wakesWatcher taskId => exact wakesWatcher_covering taken.1 covered
  | close =>
      cases taken.1
      exact Finishes.covering close_finishes sound covered
  | finalize =>
      cases taken.1
      exact finishClose_covering _ true none fun finished => covered finished
  | closesFromTask task =>
      cases taken.1
      unfold closeFromTask
      split
      · exact covered
      · exact finishClose_covering _ false (some task) fun finished => covered finished

end Covering

section Converging

variable {answers : Nat → Bool} {maxConnections : Nat} {hasWakeup hasObserver : Bool}
  {steps : List Step} {handle after : ServerHandle}

abbrev FairRun (answers : Nat → Bool) := Runs.Run (FairSteps answers)

structure Reached (handle : ServerHandle) : Prop where
  sound : Sound handle
  settled : Settled handle
  covered : Covered handle

theorem fairRun_reached
    (run : FairRun answers (scheduled maxConnections hasWakeup hasObserver) steps handle) :
    Reached handle := by
  induction run with
  | nil => exact ⟨scheduled_sound _ _ _, nofun, nofun⟩
  | snoc step run taken induction =>
      obtain ⟨sound, settled, covered⟩ := induction
      exact ⟨(next_sound sound taken.1).1, fairSteps_settled sound settled taken,
        fairSteps_covered sound settled covered taken⟩

theorem fairRun_finalizeTimes {start : ServerHandle} (run : FairRun answers start steps handle)
    (times : Nat) : ∃ all, FairRun answers start all (finalizeTimes answers times handle) := by
  induction times with
  | zero => exact ⟨steps, run⟩
  | succ times induction =>
      obtain ⟨all, before⟩ := induction
      refine ⟨all ++ [.finalize], .snoc .finalize before ⟨?_, fun _ _ _ => nofun⟩⟩
      rfl

/-- The kernel has closed the resource, and has closed it once. -/
def ClosedOnce (resource : Resource) (handle : ServerHandle) : Prop :=
  handle.log.count (.close resource, true) = 1

theorem closedOnce_of_closed (sound : Sound handle) {resource : Resource}
    (closed : isClosed handle resource) : ClosedOnce resource handle := by
  have member := (sound.recorded.done resource).mpr closed
  obtain ⟨earlier, later, split⟩ := List.append_of_mem member
  have ordered := sound.recorded.last
  have before : (Call.close resource, true) ∉ earlier := fun inside => by
    rw [split, List.pairwise_append] at ordered
    exact ordered.2.2 _ inside _ List.mem_cons_self resource rfl rfl
  have behind : (Call.close resource, true) ∉ later := fun inside => by
    rw [split, List.pairwise_append, List.pairwise_cons] at ordered
    exact ordered.2.1.1 _ inside resource rfl rfl
  rw [ClosedOnce, split, List.count_append, List.count_cons_self,
    List.count_eq_zero_of_not_mem before, List.count_eq_zero_of_not_mem behind]

/-- What holds of a handle that is finished, however it came to be. -/
structure Complete (handle : ServerHandle) : Prop where
  wakeup : handle.hasWakeup = true → ClosedOnce .wakeup handle
  listener : ClosedOnce .listener handle
  connections : ∀ stream < handle.acceptedStreams, ClosedOnce (.connection stream) handle
  told : handle.finalizedCalls = 1
  disowned : handle.connections.entries = [] ∧ handle.closingConnections.entries = []
  rest : Busy handle ∨
    (handle.pendingTaskCancellations.entries = [] ∧ handle.websocketStates = ∅)

theorem Reached.complete (reached : Reached handle) (finished : handle.finished = true) :
    Complete handle := by
  obtain ⟨sound, settled, covered⟩ := reached
  obtain ⟨listener, wakeup⟩ := sound.drive.finished_closed finished
  obtain ⟨connections, closing⟩ := settled finished
  refine ⟨fun present => closedOnce_of_closed sound (wakeup present),
    closedOnce_of_closed sound listener, ?_, ?_, ⟨connections, closing⟩, covered finished⟩
  · intro stream accepted
    refine closedOnce_of_closed sound ?_
    by_contra unclosed
    rcases sound.tables.owned stream accepted unclosed with present | remembered
    · have member : stream ∈ handle.connections := present
      rw [AList.mem_keys, AList.keys, connections] at member
      cases member
    · have member : stream ∈ handle.closingConnections := remembered
      rw [AList.mem_keys, AList.keys, closing] at member
      cases member
  · have told : handle.finalizedCalls = if handle.onFinalized then 0 else 1 := sound.drive.told
    have released : handle.onFinalized = false := sound.drive.finished_told finished
    rw [told, released]
    rfl

/-- In every state a server reaches: a handle that is finished owns no resource, and holds a
cancellation or a WebSocket only while a connection task runs. And with no WebSocket
registered and at most `bound` failures of each resource and each live task, `bound + 1` calls
of `finalize` finish it: the resources are closed, each once, and `on_finalized` was called
once. If the handle was not finished before, no task is left and nothing changes any more. -/
theorem finalization_converges
    (run : FairRun answers (scheduled maxConnections hasWakeup hasObserver) steps handle) :
    (handle.finished = true → Complete handle) ∧
    (handle.websocketStates = ∅ → ∀ bound,
      (∀ target, Open target handle →
        failures target (added handle (finalizeTimes answers (bound + 1) handle)) ≤ bound) →
      ¬EndedCancelFailed (added handle (finalizeTimes answers (bound + 1) handle)) →
      (finalizeTimes answers (bound + 1) handle).finished = true ∧
      Complete (finalizeTimes answers (bound + 1) handle) ∧
      (handle.finished = false → Quiet (finalizeTimes answers (bound + 1) handle) ∧
        ∀ more later, Runs.Run (Steps answers) (finalizeTimes answers (bound + 1) handle) more
          later → ∃ cursor, later = { finalizeTimes answers (bound + 1) handle with cursor })) := by
  have reached := fairRun_reached run
  refine ⟨reached.complete, fun noSockets bound few fair => ?_⟩
  have finished := finalizeTimes_finishes reached.sound noSockets bound few fair
  obtain ⟨all, whole⟩ := fairRun_finalizeTimes run (bound + 1)
  refine ⟨finished, (fairRun_reached whole).complete finished, fun unfinished => ?_⟩
  have quiet := finalizeTimes_quiet reached.sound unfinished (bound + 1) finished
  exact ⟨quiet, fun more later rest => quiet.run_frozen rest⟩

end Converging

section Samples

def fairNext (answers : Nat → Bool) (handle : ServerHandle) : Step → Option ServerHandle
  | .runsListener (.stream setup registration) =>
      if handle.listenerClosed then none
      else next answers handle (.runsListener (.stream setup registration))
  | step => next answers handle step

theorem fairNext_steps {answers : Nat → Bool} (handle : ServerHandle) (step : Step)
    (after : ServerHandle) (taken : fairNext answers handle step = some after) :
    FairSteps answers handle step after := by
  unfold fairNext at taken
  split at taken
  · split at taken
    · cases taken
    · rename_i opened
      exact ⟨taken, fun closed => absurd closed opened⟩
  · rename_i other
    exact ⟨taken, fun _ setup registration => other setup registration⟩

def targetOf : Call → Option Target
  | .close resource => some (.resource resource)
  | .cancelTask task _ => some (.task task)
  | _ => none

theorem failures_bounded {bound : Nat} {log : List (Call × Bool)}
    (few : (log.all fun entry => (targetOf entry.1).all fun target =>
      decide (failures target log ≤ bound)) = true) (target : Target) :
    failures target log ≤ bound := by
  rcases Nat.eq_zero_or_pos (failures target log) with none | some
  · exact none ▸ Nat.zero_le bound
  · obtain ⟨⟨call, ok⟩, member, failed⟩ := List.countP_pos_iff.mp some
    have mine : targetOf call = Option.some target := by
      unfold Target.isFailure at failed
      split at failed
      · rename_i equal
        cases equal
        rw [targetOf, of_decide_eq_true failed]
      · rename_i equal
        cases equal
        rw [targetOf, of_decide_eq_true failed]
      · cases failed
    have here := List.all_eq_true.mp few _ member
    simp only [mine, Option.all_some, decide_eq_true_eq] at here
    exact here

def isEndedFailure : Call × Bool → Bool
  | (.cancelTask _ true, false) => true
  | _ => false

theorem fair_of_all {log : List (Call × Bool)}
    (fair : (log.all fun entry => !isEndedFailure entry) = true) : ¬EndedCancelFailed log := by
  rintro ⟨task, member⟩
  exact Bool.noConfusion (List.all_eq_true.mp fair _ member)

def failsAt (number : Nat) : Nat → Bool := fun call => call != number

def failsTwice : Nat → Bool := fun call => call != 2 && call != 7

def acceptsOne : List Step := [.runsListener (.stream none .forked)]

def acceptedOne : ServerHandle :=
  Runs.endOf (fairNext (failsAt 0)) (scheduled 1 true false) acceptsOne

theorem reaches_acceptedOne :
    FairRun (failsAt 0) (scheduled 1 true false) acceptsOne acceptedOne :=
  Runs.run_endOf fairNext_steps (by decide +kernel)

/-- The wakeup channel fails to close once; the second call finishes the handle. -/
theorem finalization_converges_sample :
    (finalizeTimes (failsAt 0) 2 acceptedOne).finished = true ∧
      ClosedOnce (.connection 0) (finalizeTimes (failsAt 0) 2 acceptedOne) ∧
        Quiet (finalizeTimes (failsAt 0) 2 acceptedOne) := by
  obtain ⟨finished, complete, last⟩ := (finalization_converges reaches_acceptedOne).2
    (by decide +kernel) 1 (fun target _ => failures_bounded (by decide +kernel) target)
    (fair_of_all (by decide +kernel))
  exact ⟨finished, complete.connections 0 (by decide +kernel), (last (by decide +kernel)).1⟩

/-- A helper forces the connection closed while its task runs, and the watcher finishes the
handle. -/
def outlives : List Step :=
  acceptsOne ++ [.starts 2, .spawns 2 .helper, .spawns 2 .handler, .forcesClose 3 none, .close,
    .wakesWatcher 1]

def outlived : ServerHandle :=
  Runs.endOf (fairNext (failsAt 4)) (scheduled 1 true false) outlives

def revoking : ServerHandle :=
  Runs.endOf (fairNext (failsAt 4)) (finalizeTimes (failsAt 4) 2 outlived) [.cancelsHandler 2 4]

def revoked : ServerHandle :=
  Runs.endOf (fairNext (failsAt 4)) revoking [.finishesConnection 2 none]

def disowns : List Step := acceptsOne ++ [.starts 2, .spawns 2 .helper, .forcesClose 3 none]

def disowned : ServerHandle :=
  Runs.endOf (fairNext failsTwice) (scheduled 1 true false) disowns

/-- A connection task that outlives the finalization may still fail to cancel a handler: the
handle is then finished with a cancellation pending, and not finished any more when the task
ends. And a helper that has ended is cancelled with its connection; where that fails in the
second call, two calls do not finish the handle although nothing failed twice. -/
theorem finished_revoked :
    (FairRun (failsAt 4) (scheduled 1 true false) outlives outlived ∧
      outlived.websocketStates = ∅ ∧
      (∀ target, failures target (added outlived (finalizeTimes (failsAt 4) 2 outlived)) ≤ 1) ∧
      FairRun (failsAt 4) (finalizeTimes (failsAt 4) 2 outlived) [.cancelsHandler 2 4] revoking ∧
      revoking.finished = true ∧ 4 ∈ revoking.pendingTaskCancellations ∧
      FairRun (failsAt 4) revoking [.finishesConnection 2 none] revoked ∧
      revoked.finished = false) ∧
    (FairRun failsTwice (scheduled 1 true false) disowns disowned ∧
      disowned.websocketStates = ∅ ∧
      (∀ target, failures target (added disowned (finalizeTimes failsTwice 2 disowned)) ≤ 1) ∧
      (finalizeTimes failsTwice 2 disowned).finished = false) := by
  refine ⟨⟨?_, ?_, ?_, ?_, ?_, ?_, ?_, ?_⟩, ?_, ?_, ?_, ?_⟩
  · exact Runs.run_endOf fairNext_steps (by decide +kernel)
  · decide +kernel
  · exact failures_bounded (by decide +kernel)
  · exact Runs.run_endOf fairNext_steps (by decide +kernel)
  · decide +kernel
  · decide +kernel
  · exact Runs.run_endOf fairNext_steps (by decide +kernel)
  · decide +kernel
  · exact Runs.run_endOf fairNext_steps (by decide +kernel)
  · decide +kernel
  · exact failures_bounded (by decide +kernel)
  · decide +kernel

end Samples

end SmallServer.ServerFinalization
