import SmallServer.ServerOperations
import SmallServer.Runs
import Mathlib.Logic.Relation

/-!
# Steps of the server

What a scheduler step does to a handle: the tasks that run are marked or ended, and then the
operations run. The accept loop is taken apart into moves, since the stream it has just
accepted is in none of the tables yet.
-/

namespace SmallServer.ServerSteps

open SmallServer Server ServerEffects ServerOperations

set_option autoImplicit false

section Operations

variable {answers : Nat → Bool} {handle middle after : ServerHandle}

def Cancels (answers : Nat → Bool) (handle after : ServerHandle) : Prop :=
  ∃ larger : ServerHandle, handle.live.entries.length ≤ larger.live.entries.length ∧
    ∀ P, Covers P → CancelKeeps P (cancel answers larger) → Keeps P handle after

/-- An operation that cancels nothing, except where it falls back on a finalization. -/
def Finishes (answers : Nat → Bool) (handle after : ServerHandle) : Prop :=
  ∃ larger : ServerHandle, handle.live.entries.length ≤ larger.live.entries.length ∧
    ∀ P, Covers P → FinishKeeps P (finishing answers (cancel answers larger)) →
      Keeps P handle after

theorem Cancels.refl (handle : ServerHandle) : Cancels answers handle handle :=
  ⟨handle, Nat.le_refl _, fun _ covers _ => .refl covers⟩

theorem Finishes.cancels (finishes : Finishes answers handle after) :
    Cancels answers handle after := by
  obtain ⟨larger, fewer, keeps⟩ := finishes
  exact ⟨larger, fewer, fun P covers cancels =>
    keeps P covers (finishing_keeps covers cancels)⟩

structure Advances (handle after : ServerHandle) : Prop where
  capacity : after.maxConnections = handle.maxConnections
  hasWakeup : after.hasWakeup = handle.hasWakeup
  accepted : handle.acceptedStreams ≤ after.acceptedStreams
  closed : handle.closedStreams ⊆ after.closedStreams
  log : handle.log <+: after.log
  fatal : handle.fatalErrors <+: after.fatalErrors
  starved : after.starved = handle.starved

theorem Advances.refl (handle : ServerHandle) : Advances handle handle where
  capacity := rfl
  hasWakeup := rfl
  accepted := Nat.le_refl _
  closed := Finset.Subset.refl _
  log := List.prefix_rfl
  fatal := List.prefix_rfl
  starved := rfl

theorem Advances.trans (first : Advances handle middle) (second : Advances middle after) :
    Advances handle after where
  capacity := second.capacity.trans first.capacity
  hasWakeup := second.hasWakeup.trans first.hasWakeup
  accepted := first.accepted.trans second.accepted
  closed := first.closed.trans second.closed
  log := first.log.trans second.log
  fatal := first.fatal.trans second.fatal
  starved := second.starved.trans first.starved

theorem Grows.advances (grown : Grows handle after) (starved : after.starved = handle.starved) :
    Advances handle after where
  capacity := grown.capacity
  hasWakeup := grown.hasWakeup
  accepted := Nat.le_of_eq grown.accepted.symm
  closed := grown.closed
  log := grown.log
  fatal := grown.fatal
  starved := starved

end Operations

section Spawning

/-- A new task is live, and may be known to a task that was live before. -/
def Adds (live later : OrderedDict TaskId Task) (added : TaskId) (routine : Routine) : Prop :=
  ∀ taskId laterTask, later.lookup taskId = some laterTask →
    (taskId = added ∧ laterTask = { routine }) ∨
      ∃ task, live.lookup taskId = some task ∧ task.routine = laterTask.routine ∧
        ∀ child ∈ laterTask.children, child ∈ task.children ∨
          (child = added ∧ Routine.isChild routine = true)

variable {live later : OrderedDict TaskId Task} {added : TaskId} {routine : Routine}

theorem Adds.set (live : OrderedDict TaskId Task) (added : TaskId) (routine : Routine) :
    Adds live (live.set added { routine }) added routine := by
  intro taskId laterTask found
  rw [OrderedDict.lookup_set_eq] at found
  split at found
  · rename_i same
    exact .inl ⟨same, (Option.some.inj found).symm⟩
  · exact .inr ⟨laterTask, found, rfl, fun child member => .inl member⟩

theorem Adds.listening (adds : Adds live later added routine) (other : routine ≠ .acceptLoop)
    (listens : Listening later) : Listening live := by
  obtain ⟨taskId, laterTask, found, accepts⟩ := listens
  rcases adds taskId laterTask found with ⟨-, rfl⟩ | ⟨task, before, same, -⟩
  · exact absurd accepts other
  · exact ⟨taskId, task, before, same.trans accepts⟩

theorem Adds.watch {watch : Watch} (adds : Adds watch.live later added routine)
    (other : routine ≠ .acceptLoop) (sound : watch.Sound) :
    { watch with live := later : Watch }.Sound where
  closing_requested := sound.closing_requested
  listener taskId laterTask found accepts := by
    rcases adds taskId laterTask found with ⟨-, rfl⟩ | ⟨task, before, same, -⟩
    · exact absurd accepts other
    · exact sound.listener taskId task before (same.trans accepts)
  waiting listens := sound.waiting (adds.listening other listens)
  room listens := sound.room (adds.listening other listens)
  heard listens := sound.heard (adds.listening other listens)

theorem Adds.roster {roster : Roster} (adds : Adds roster.live later roster.nextTask routine)
    (sound : roster.Sound) {accepted : Nat} (grown : roster.accepted ≤ accepted)
    {connections : OrderedDict StreamId TaskId}
    (entries : ∀ stream taskId, connections.lookup stream = some taskId →
      (taskId = roster.nextTask ∧ routine = .connection stream) ∨
        roster.connections.lookup stream = some taskId)
    (streams : ∀ stream, Routine.stream routine = some stream → stream < accepted)
    (fresh : ∀ stream, routine = .connection stream → roster.accepted ≤ stream) :
    { roster with
      live := later
      owned := roster.owned ++ [roster.nextTask]
      nextTask := roster.nextTask + 1
      accepted
      connections : Roster }.Sound := by
  have known : ∀ taskId task, roster.live.lookup taskId = some task → taskId < roster.nextTask :=
    fun taskId task found => sound.known taskId (OrderedDict.mem_of_lookup found)
  have lookup : ∀ taskId ∈ later, ∃ laterTask, later.lookup taskId = some laterTask :=
    fun taskId member => Option.isSome_iff_exists.mp (AList.lookup_isSome.mpr member)
  have childKnown : ∀ taskId laterTask, later.lookup taskId = some laterTask →
      ∀ child ∈ laterTask.children, child < roster.nextTask + 1 := by
    intro taskId laterTask found child member
    rcases adds taskId laterTask found with ⟨-, rfl⟩ | ⟨task, before, -, children⟩
    · cases member
    · rcases children child member with old | ⟨rfl, -⟩
      · exact Nat.lt_succ_of_lt (sound.children_known taskId task before child old)
      · exact Nat.lt_succ_self _
  exact {
    kept := by
      intro taskId member
      obtain ⟨laterTask, found⟩ := lookup taskId member
      rcases adds taskId laterTask found with ⟨rfl, -⟩ | ⟨task, before, -⟩
      · exact .inl (List.mem_append_right _ (List.mem_singleton_self _))
      · exact (sound.kept taskId (OrderedDict.mem_of_lookup before)).imp_left
          (List.mem_append_left _)
    cancelled := by
      intro taskId member
      obtain ⟨gone, old⟩ := sound.cancelled taskId member
      refine ⟨fun live => ?_, Nat.lt_succ_of_lt old⟩
      obtain ⟨laterTask, found⟩ := lookup taskId live
      rcases adds taskId laterTask found with ⟨rfl, -⟩ | ⟨task, before, -⟩
      · exact Nat.lt_irrefl _ old
      · exact gone (OrderedDict.mem_of_lookup before)
    known := by
      intro taskId member
      obtain ⟨laterTask, found⟩ := lookup taskId member
      rcases adds taskId laterTask found with ⟨rfl, -⟩ | ⟨task, before, -⟩
      · exact Nat.lt_succ_self _
      · exact Nat.lt_succ_of_lt (known taskId task before)
    owned_known := by
      intro taskId member
      rcases List.mem_append.mp member with old | new
      · exact Nat.lt_succ_of_lt (sound.owned_known taskId old)
      · rw [List.mem_singleton.mp new]
        exact Nat.lt_succ_self _
    pending_known := fun taskId member => Nat.lt_succ_of_lt (sound.pending_known taskId member)
    children_known := childKnown
    streams := by
      intro taskId laterTask stream found acts
      rcases adds taskId laterTask found with ⟨-, rfl⟩ | ⟨task, before, same, -⟩
      · exact streams stream acts
      · exact Nat.lt_of_lt_of_le
          (sound.streams taskId task stream before (same ▸ acts)) grown
    entries := by
      intro stream taskId laterTask entry found
      rcases adds taskId laterTask found with ⟨rfl, rfl⟩ | ⟨task, before, same, -⟩
      · rcases entries stream _ entry with ⟨-, runs⟩ | old
        · exact runs
        · exact absurd (sound.entries_known stream _ old) (Nat.lt_irrefl _)
      · rcases entries stream taskId entry with ⟨rfl, -⟩ | old
        · exact absurd (known _ task before) (Nat.lt_irrefl _)
        · exact same.symm.trans (sound.entries stream taskId task old before)
    entries_known := by
      intro stream taskId entry
      rcases entries stream taskId entry with ⟨rfl, -⟩ | old
      · exact Nat.lt_succ_self _
      · exact Nat.lt_succ_of_lt (sound.entries_known stream taskId old)
    single := by
      intro taskId laterTask other otherLater stream found otherFound runs otherRuns
      have older : ∀ id task, roster.live.lookup id = some task →
          task.routine = .connection stream → routine ≠ .connection stream := by
        intro id task before serves new
        have old := sound.streams id task stream before (by rw [serves]; rfl)
        exact Nat.lt_irrefl _ (Nat.lt_of_lt_of_le old (fresh stream new))
      rcases adds taskId laterTask found with ⟨rfl, rfl⟩ | ⟨task, before, same, -⟩
      · rcases adds other otherLater otherFound with ⟨rfl, -⟩ |
          ⟨otherTask, otherBefore, otherSame, -⟩
        · rfl
        · exact absurd runs (older other otherTask otherBefore (otherSame.trans otherRuns))
      · rcases adds other otherLater otherFound with ⟨rfl, rfl⟩ |
          ⟨otherTask, otherBefore, otherSame, -⟩
        · exact absurd otherRuns (older taskId task before (same.trans runs))
        · exact sound.single taskId task other otherTask stream before otherBefore
            (same.trans runs) (otherSame.trans otherRuns)
    listener := by
      intro taskId is
      obtain ⟨old, runs⟩ := sound.listener taskId is
      refine ⟨Nat.lt_succ_of_lt old, fun laterTask found => ?_⟩
      rcases adds taskId laterTask found with ⟨rfl, -⟩ | ⟨task, before, same, -⟩
      · exact absurd old (Nat.lt_irrefl _)
      · exact same.symm.trans (runs task before)
    children := by
      intro taskId laterTask found child member childLater childFound
      rcases adds child childLater childFound with ⟨rfl, rfl⟩ |
        ⟨childTask, childBefore, childSame, -⟩
      · rcases adds taskId laterTask found with ⟨-, rfl⟩ | ⟨task, before, -, children⟩
        · cases member
        · rcases children _ member with old | ⟨-, isChild⟩
          · exact absurd (sound.children_known taskId task before _ old) (Nat.lt_irrefl _)
          · exact isChild
      · rw [← childSame]
        rcases adds taskId laterTask found with ⟨-, rfl⟩ | ⟨task, before, -, children⟩
        · cases member
        · rcases children child member with old | ⟨rfl, -⟩
          · exact sound.children taskId task before child old childTask childBefore
          · exact absurd (known _ childTask childBefore) (Nat.lt_irrefl _) }

end Spawning

section Accepting

variable {answers : Nat → Bool} {handle after : ServerHandle}

structure Accepting (handle : ServerHandle) : Prop where
  room : handle.ownedConnectionCount < handle.maxConnections
  runs : handle.listenerPhase = .atHead

/-- The kernel hands a stream to the accept loop: it is closed at once, remembered because
its close failed, or registered. -/
inductive Arrives (handle : ServerHandle) : ServerHandle → Prop
  | closed (cleanupErrors : OrderedDict CleanupKey Fault)
      (closeErrors : OrderedDict StreamId Fault) :
      Arrives handle { handle with
        acceptedStreams := handle.acceptedStreams + 1
        closedStreams := insert handle.acceptedStreams handle.closedStreams
        log := handle.log ++ [(.close (.connection handle.acceptedStreams), true)]
        cleanupErrors
        closeErrors }
  | kept (cleanupErrors : OrderedDict CleanupKey Fault)
      (closeErrors : OrderedDict StreamId Fault) :
      Arrives handle { handle with
        closeRequested := true
        acceptedStreams := handle.acceptedStreams + 1
        closingConnections := handle.closingConnections.set handle.acceptedStreams ()
        log := handle.log ++ [(.close (.connection handle.acceptedStreams), false)]
        cleanupErrors
        closeErrors }
  | registered :
      Arrives handle (register handle.acceptedStreams
        { handle with acceptedStreams := handle.acceptedStreams + 1 })

inductive ListenerMove (answers : Nat → Bool) : ServerHandle → ServerHandle → Prop
  | operates {handle after : ServerHandle} (finishes : Finishes answers handle after) :
      ListenerMove answers handle after
  | ends (handle : ServerHandle) (listener : TaskId)
      (is : handle.listenerTask = some listener) :
      ListenerMove answers handle (listenerEnds listener handle)
  | unregisters (handle : ServerHandle) (task : TaskId) (running : Task)
      (live : handle.live.lookup task = some running) (unstarted : running.started = false) :
      ListenerMove answers handle
        { settled task (ending task handle) with ownedTasks := handle.ownedTasks.erase task }
  | remembers (handle : ServerHandle) (task : TaskId) (error : Fault) (live : task ∈ handle.live)
      (registered : handle.connections.entries ≠ []) :
      ListenerMove answers handle (remembered task (decide (task ∉ handle.live)) error handle)
  | waitsCapacity (handle : ServerHandle)
      (full : handle.maxConnections ≤ handle.ownedConnectionCount) :
      ListenerMove answers handle { handle with
        capacityWaiting := true
        listenerPhase := .waitsCapacity
        signalled := false }
  | wakes (handle : ServerHandle) :
      ListenerMove answers handle { handle with
        capacityWaiting := false
        listenerPhase := .atHead }
  | waitsAccept (handle : ServerHandle)
      (room : handle.ownedConnectionCount < handle.maxConnections) :
      ListenerMove answers handle { handle with listenerPhase := .waitsAccept }
  | turns (handle : ServerHandle) :
      ListenerMove answers handle { handle with listenerPhase := .atHead }

theorem tables_acceptClosed {tables : Tables} (sound : tables.Sound) :
    { tables with
      accepted := tables.accepted + 1
      closed := insert tables.accepted tables.closed : Tables }.Sound where
  connections_accepted stream member :=
    Nat.lt_succ_of_lt (sound.connections_accepted stream member)
  closing_open stream member := by
    obtain ⟨known, opened⟩ := sound.closing_open stream member
    refine ⟨Nat.lt_succ_of_lt known, fun inside => ?_⟩
    rcases Finset.mem_insert.mp inside with same | before
    · exact Nat.ne_of_lt known same
    · exact opened before
  closed_accepted stream member := by
    rcases Finset.mem_insert.mp member with rfl | before
    · exact Nat.lt_succ_self _
    · exact Nat.lt_succ_of_lt (sound.closed_accepted stream before)
  apart := sound.apart
  owned stream known opened := by
    rw [Finset.mem_insert, not_or] at opened
    exact sound.owned stream (Nat.lt_of_le_of_ne (Nat.lt_succ_iff.mp known) opened.1) opened.2
  bounded := sound.bounded

theorem tables_acceptKept {tables : Tables} (sound : tables.Sound)
    (room : tables.connections.entries.length + tables.closing.entries.length < tables.capacity) :
    { tables with
      accepted := tables.accepted + 1
      closing := tables.closing.set tables.accepted () : Tables }.Sound where
  connections_accepted stream member :=
    Nat.lt_succ_of_lt (sound.connections_accepted stream member)
  closing_open stream member := by
    rcases OrderedDict.mem_set.mp member with rfl | before
    · exact ⟨Nat.lt_succ_self _, fun closed =>
        Nat.lt_irrefl _ (sound.closed_accepted _ closed)⟩
    · obtain ⟨known, opened⟩ := sound.closing_open stream before
      exact ⟨Nat.lt_succ_of_lt known, opened⟩
  closed_accepted stream member := Nat.lt_succ_of_lt (sound.closed_accepted stream member)
  apart stream member inside := by
    rcases OrderedDict.mem_set.mp inside with rfl | before
    · exact Nat.lt_irrefl _ (sound.connections_accepted _ member)
    · exact sound.apart stream member before
  owned stream known opened := by
    rcases Nat.lt_succ_iff_lt_or_eq.mp known with before | rfl
    · exact (sound.owned stream before opened).imp_right fun closing =>
        OrderedDict.mem_set.mpr (.inr closing)
    · exact .inr (OrderedDict.mem_set.mpr (.inl rfl))
  bounded := by
    have grown := OrderedDict.length_set tables.closing tables.accepted ()
    change tables.connections.entries.length +
      (tables.closing.set tables.accepted ()).entries.length ≤ tables.capacity
    split at grown <;> omega

theorem tables_acceptRegistered {tables : Tables} (sound : tables.Sound) (task : TaskId)
    (room : tables.connections.entries.length + tables.closing.entries.length < tables.capacity) :
    { tables with
      accepted := tables.accepted + 1
      connections := tables.connections.set tables.accepted task : Tables }.Sound where
  connections_accepted stream member := by
    rcases OrderedDict.mem_set.mp member with rfl | before
    · exact Nat.lt_succ_self _
    · exact Nat.lt_succ_of_lt (sound.connections_accepted stream before)
  closing_open stream member := by
    obtain ⟨known, opened⟩ := sound.closing_open stream member
    exact ⟨Nat.lt_succ_of_lt known, opened⟩
  closed_accepted stream member := Nat.lt_succ_of_lt (sound.closed_accepted stream member)
  apart stream member inside := by
    rcases OrderedDict.mem_set.mp member with rfl | before
    · exact Nat.lt_irrefl _ (sound.closing_open _ inside).1
    · exact sound.apart stream before inside
  owned stream known opened := by
    rcases Nat.lt_succ_iff_lt_or_eq.mp known with before | rfl
    · exact (sound.owned stream before opened).imp_left fun present =>
        OrderedDict.mem_set.mpr (.inr present)
    · exact .inl (OrderedDict.mem_set.mpr (.inl rfl))
  bounded := by
    have grown := OrderedDict.length_set tables.connections tables.accepted task
    change (tables.connections.set tables.accepted task).entries.length +
      tables.closing.entries.length ≤ tables.capacity
    split at grown <;> omega

theorem Arrives.sound (arrives : Arrives handle after) (accepting : Accepting handle)
    (sound : Sound handle) : Sound after := by
  have unclosed : handle.acceptedStreams ∉ handle.closedStreams := fun closed =>
    Nat.lt_irrefl _ (sound.tables.closed_accepted _ closed)
  have streams : ∀ taskId task stream, handle.live.lookup taskId = some task →
      Routine.stream task.routine = some stream → stream < handle.acceptedStreams + 1 :=
    fun taskId task stream found acts =>
      Nat.lt_succ_of_lt (sound.roster.streams taskId task stream found acts)
  cases arrives with
  | closed =>
      exact {
        tables := tables_acceptClosed sound.tables
        recorded := by
          refine sound.recorded.closes (.connection handle.acceptedStreams) unclosed ?_
          intro resource
          cases resource with
          | connection other => exact Finset.mem_insert.trans (or_congr_left
              ⟨fun same => congrArg _ same, fun same => Resource.connection.inj same⟩)
          | wakeup => exact (or_iff_right Resource.noConfusion).symm
          | listener => exact (or_iff_right Resource.noConfusion).symm
        notified := sound.notified.append (by simp)
        watch := sound.watch
        drive := sound.drive
        roster := { sound.roster with streams } }
  | kept =>
      exact {
        tables := tables_acceptKept sound.tables accepting.room
        recorded := sound.recorded.append fun resource close =>
          ⟨rfl, Call.close.inj close ▸ unclosed⟩
        notified := sound.notified.append (by simp)
        watch := {
          closing_requested := fun _ _ => rfl
          listener := sound.watch.listener
          waiting := sound.watch.waiting
          room := fun _ waits => ListenerPhase.noConfusion (accepting.runs.symm.trans waits)
          heard := fun _ _ _ _ unrequested => Bool.noConfusion unrequested }
        drive := { sound.drive with
          fatal_requested := fun _ => rfl
          attempted_requested := fun _ => rfl }
        roster := { sound.roster with streams } }
  | registered =>
      have adds := Adds.set handle.live handle.nextTask (.connection handle.acceptedStreams)
      have watched := Adds.watch adds Routine.noConfusion sound.watch
      exact {
        tables := tables_acceptRegistered sound.tables handle.nextTask accepting.room
        recorded := sound.recorded
        notified := sound.notified
        watch := {
          closing_requested := sound.watch.closing_requested
          listener := watched.listener
          waiting := fun _ waits => ListenerPhase.noConfusion (accepting.runs.symm.trans waits)
          room := fun _ waits => ListenerPhase.noConfusion (accepting.runs.symm.trans waits)
          heard := fun _ waits => ListenerPhase.noConfusion (accepting.runs.symm.trans waits) }
        drive := sound.drive
        roster := by
          refine Adds.roster adds sound.roster (Nat.le_succ _) ?_ ?_ ?_
          · intro stream taskId entry
            change (handle.connections.set handle.acceptedStreams handle.nextTask).lookup stream =
              some taskId at entry
            rw [OrderedDict.lookup_set_eq] at entry
            split at entry
            · rename_i same
              exact .inl ⟨(Option.some.inj entry).symm, by rw [same]⟩
            · exact .inr entry
          · intro stream acts
            exact lt_of_eq_of_lt (Option.some.inj acts).symm (Nat.lt_succ_self _)
          · intro stream serves
            exact Nat.le_of_eq (Routine.connection.inj serves) }

structure Follows (handle after : ServerHandle) : Prop where
  advances : Advances handle after
  listenerTask : after.listenerTask = handle.listenerTask
  fewer : after.live.entries.length ≤ handle.live.entries.length

theorem Follows.trans {middle : ServerHandle} (first : Follows handle middle)
    (second : Follows middle after) : Follows handle after where
  advances := first.advances.trans second.advances
  listenerTask := second.listenerTask.trans first.listenerTask
  fewer := second.fewer.trans first.fewer

theorem Arrives.advances (arrives : Arrives handle after) : Advances handle after := by
  have unchanged := Advances.refl handle
  cases arrives with
  | closed =>
      exact { unchanged with
        accepted := Nat.le_succ _
        closed := Finset.subset_insert _ _
        log := List.prefix_append _ _ }
  | kept =>
      exact { unchanged with
        accepted := Nat.le_succ _
        log := List.prefix_append _ _ }
  | registered => exact { unchanged with accepted := Nat.le_succ _ }

theorem Arrives.listenerTask (arrives : Arrives handle after) :
    after.listenerTask = handle.listenerTask := by
  cases arrives <;> rfl

theorem Cancels.follows (cancels : Cancels answers handle after) (sound : Sound handle) :
    Sound after ∧ Follows handle after := by
  obtain ⟨larger, fewer, keeps⟩ := cancels
  obtain ⟨afterSound, grown, shorter, starved⟩ :=
    keeps (Unstarved (larger.live.entries.length + 2)) (unstarved_covers _)
      (cancelAt_unstarved (larger.live.entries.length + 1)) sound
  exact ⟨afterSound, Grows.advances grown (starved (by omega)), grown.listenerTask, shorter⟩

theorem ListenerMove.follows (move : ListenerMove answers handle after) (sound : Sound handle) :
    Sound after ∧ Follows handle after := by
  have unchanged := Advances.refl handle
  cases move with
  | operates finishes => exact finishes.cancels.follows sound
  | ends listener =>
      exact ⟨sound_shrink sound (.erase _ listener), { unchanged with }, rfl,
        OrderedDict.length_erase_le _ _⟩
  | unregisters task running live =>
      have gone : task ∉ (ending task handle).live := fun live => (AList.mem_erase.mp live).1 rfl
      have forgotten : Sound (settled task (ending task handle)) :=
        sound_settled (sound_ending sound task) gone _
      have disowned := (Effect.disowned (settled task (ending task handle)) task (.inl gone)).sound
        forgotten
      exact ⟨disowned, { unchanged with log := List.prefix_append _ _ }, rfl,
        OrderedDict.length_erase_le _ _⟩
  | remembers task error live =>
      have known := sound.roster.known task live
      exact ⟨sound_remembered (sound_cancelTried sound task _ false) known _,
        { unchanged with log := List.prefix_append _ _ }, rfl, Nat.le_refl _⟩
  | waitsCapacity full =>
      have watched : (watch { handle with
          capacityWaiting := true
          listenerPhase := .waitsCapacity
          signalled := false }).Sound := {
        closing_requested := sound.watch.closing_requested
        listener := sound.watch.listener
        waiting := fun _ _ => rfl
        room := fun _ waits => ListenerPhase.noConfusion waits
        heard := fun _ _ _ _ _ => full }
      exact ⟨{ sound with watch := watched }, { unchanged with }, rfl, Nat.le_refl _⟩
  | wakes =>
      have watched : (watch { handle with
          capacityWaiting := false
          listenerPhase := .atHead }).Sound := {
        closing_requested := sound.watch.closing_requested
        listener := sound.watch.listener
        waiting := fun _ waits => ListenerPhase.noConfusion waits
        room := fun _ waits => ListenerPhase.noConfusion waits
        heard := fun _ waits => ListenerPhase.noConfusion waits }
      exact ⟨{ sound with watch := watched }, { unchanged with }, rfl, Nat.le_refl _⟩
  | waitsAccept room =>
      have watched : (watch { handle with listenerPhase := .waitsAccept }).Sound := {
        closing_requested := sound.watch.closing_requested
        listener := sound.watch.listener
        waiting := fun _ waits => ListenerPhase.noConfusion waits
        room := fun _ _ => room
        heard := fun _ waits => ListenerPhase.noConfusion waits }
      exact ⟨{ sound with watch := watched }, { unchanged with }, rfl, Nat.le_refl _⟩
  | turns =>
      have watched : (watch { handle with listenerPhase := .atHead }).Sound := {
        closing_requested := sound.watch.closing_requested
        listener := sound.watch.listener
        waiting := fun _ waits => ListenerPhase.noConfusion waits
        room := fun _ waits => ListenerPhase.noConfusion waits
        heard := fun _ waits => ListenerPhase.noConfusion waits }
      exact ⟨{ sound with watch := watched }, { unchanged with }, rfl, Nat.le_refl _⟩

abbrev ListenerMoves (answers : Nat → Bool) : ServerHandle → ServerHandle → Prop :=
  Relation.ReflTransGen (ListenerMove answers)

theorem ListenerMoves.follows (moves : ListenerMoves answers handle after)
    (sound : Sound handle) : Sound after ∧ Follows handle after := by
  induction moves with
  | refl => exact ⟨sound, .refl handle, rfl, Nat.le_refl _⟩
  | tail _ move induction =>
      obtain ⟨middleSound, before⟩ := induction
      obtain ⟨afterSound, last⟩ := move.follows middleSound
      exact ⟨afterSound, before.trans last⟩

end Accepting

section Turns

variable {answers : Nat → Bool} {handle after : ServerHandle} {listener : TaskId}

theorem unregistered (sound : Sound handle) :
    handle.acceptedStreams ∉ handle.closedStreams ∧ handle.acceptedStreams ∉ handle.connections ∧
      handle.acceptedStreams ∉ handle.closingConnections :=
  ⟨fun closed => Nat.lt_irrefl _ (sound.tables.closed_accepted _ closed),
    fun present => Nat.lt_irrefl _ (sound.tables.connections_accepted _ present),
    fun closing => Nat.lt_irrefl _ (sound.tables.closing_open _ closing).1⟩

/-- The stream in hand is remembered before the failure of its close is reported. -/
theorem kept_moves (larger : ServerHandle)
    (fewer : handle.live.entries.length ≤ larger.live.entries.length) (error : Fault)
    (task : Option TaskId) (primary : Option Fault)
    (cleanupErrors : OrderedDict CleanupKey Fault) (closeErrors : OrderedDict StreamId Fault) :
    ∃ base, Arrives handle base ∧ ListenerMoves answers base
      (connectionCloseFailed answers (finishing answers (cancel answers larger)) error task primary
        { handle with
          acceptedStreams := handle.acceptedStreams + 1
          closingConnections := handle.closingConnections.set handle.acceptedStreams ()
          log := handle.log ++ [(.close (.connection handle.acceptedStreams), false)]
          cleanupErrors
          closeErrors }) := by
  refine ⟨_, .kept cleanupErrors closeErrors, .single (.operates ⟨larger, fewer, ?_⟩)⟩
  intro P covers finishes
  exact connectionCloseFailed_keeps covers (.inr finishes) error task primary

/-- The close of the stream in hand is its arrival, and where it fails the failure follows. -/
theorem closeOrRetain_arrives (answers : Nat → Bool) (sound : Sound handle) (larger : ServerHandle)
    (fewer : handle.live.entries.length ≤ larger.live.entries.length)
    (task : Option TaskId) (primary : Option Fault) :
    ∃ base, Arrives handle base ∧ ListenerMoves answers base
      (closeOrRetain answers (finishing answers (cancel answers larger)) handle.acceptedStreams
        task primary { handle with acceptedStreams := handle.acceptedStreams + 1 }).2 := by
  obtain ⟨unclosed, absent, unremembered⟩ := unregistered sound
  unfold closeOrRetain closeSafely
  dsimp only
  rw [if_neg unclosed]
  split
  · rename_i next settled
    split at settled
    · rename_i closes answer
      obtain rfl := of_attempt answer
      obtain ⟨-, rfl⟩ := Prod.mk.inj settled
      refine ⟨_, .closed (handle.cleanupErrors.erase (.connection handle.acceptedStreams))
        (handle.closeErrors.erase handle.acceptedStreams), ?_⟩
      dsimp only
      rw [erase_of_notMem unremembered]
    · cases settled
  · rename_i next failed
    split at failed
    · cases failed
    · rename_i tries answer
      obtain rfl := of_attempt answer
      obtain ⟨-, rfl⟩ := Prod.mk.inj failed
      dsimp only
      rw [if_neg absent]
      exact kept_moves larger fewer _ task primary _ _

theorem listenerFailed_moves (is : handle.listenerTask = some listener)
    (larger : ServerHandle) (fewer : handle.live.entries.length ≤ larger.live.entries.length)
    (error : Fault) :
    ListenerMoves answers handle (listenerFailed answers
      (finishing answers (cancel answers larger)) error (some listener)
        (listenerEnds listener handle)) := by
  refine .tail (.single (.ends handle listener is)) (.operates ⟨larger, ?_, ?_⟩)
  · exact (OrderedDict.length_erase_le handle.live listener).trans fewer
  · exact fun P covers finishes => listenerFailed_keeps covers finishes error (some listener)

theorem acceptRaised_moves (is : handle.listenerTask = some listener) (error : Fault) :
    ListenerMoves answers handle (acceptRaised answers listener error handle) := by
  unfold acceptRaised
  split
  · exact .single (.ends handle listener is)
  · exact listenerFailed_moves is handle (Nat.le_refl _) error

theorem connectionCloseFailed_primary (finish : Option TaskId → ServerHandle → ServerHandle)
    (error primary : Fault) (task : Option TaskId) (handle : ServerHandle) :
    connectionCloseFailed answers finish error task (some primary)
        { handle with failure := handle.failure <|> some primary } =
      connectionCloseFailed answers finish error task (some primary) handle := by
  have same : { handle with failure := handle.failure <|> some primary }.fail
      ⟨some primary, some error⟩ = handle.fail ⟨some primary, some error⟩ := by
    unfold ServerHandle.fail FatalError.identified
    cases handle.failure <;> rfl
  unfold connectionCloseFailed
  rw [same]

theorem acceptedSetupFailed_eq (finish : Option TaskId → ServerHandle → ServerHandle)
    (primary : Fault) (stream : StreamId) (task : Option TaskId) (handle : ServerHandle) :
    acceptedSetupFailed answers finish primary stream task handle =
      connectionCloseFailed answers finish (handle.closeError stream) task (some primary)
        { handle with
          closingConnections := handle.closingConnections.set stream ()
          cleanupErrors :=
            handle.cleanupErrors.set (.connection stream) (handle.closeError stream) } :=
  connectionCloseFailed_primary finish (handle.closeError stream) primary task
    { handle with
      closingConnections := handle.closingConnections.set stream ()
      cleanupErrors := handle.cleanupErrors.set (.connection stream) (handle.closeError stream) }

theorem kept_ends (is : handle.listenerTask = some listener) (larger : ServerHandle)
    (fewer : handle.live.entries.length ≤ larger.live.entries.length) (error : Fault)
    (task : Option TaskId) (primary : Option Fault)
    (cleanupErrors : OrderedDict CleanupKey Fault) (closeErrors : OrderedDict StreamId Fault) :
    ∃ base, Arrives handle base ∧ ListenerMoves answers base
      (connectionCloseFailed answers (finishing answers (cancel answers larger)) error task primary
        { handle with
          acceptedStreams := handle.acceptedStreams + 1
          closingConnections := handle.closingConnections.set handle.acceptedStreams ()
          log := handle.log ++ [(.close (.connection handle.acceptedStreams), false)]
          live := handle.live.erase listener
          cleanupErrors
          closeErrors }) := by
  refine ⟨_, .kept cleanupErrors closeErrors, .tail (.single (.ends _ listener is)) (.operates ?_)⟩
  refine ⟨larger, (OrderedDict.length_erase_le handle.live listener).trans fewer, ?_⟩
  intro P covers finishes
  exact connectionCloseFailed_keeps covers (.inr finishes) error task primary

theorem acceptedSetupFailed_moves (sound : Sound handle)
    (is : handle.listenerTask = some listener) {next : ServerHandle} (error : Fault)
    (closing : closeSafely answers handle.acceptedStreams
      { handle with acceptedStreams := handle.acceptedStreams + 1 } = (false, next)) :
    ∃ base, Arrives handle base ∧ ListenerMoves answers base
      (acceptedSetupFailed answers (finishingFrom answers next) error handle.acceptedStreams
        (some listener) (listenerEnds listener next)) := by
  unfold closeSafely at closing
  rw [if_neg (unregistered sound).1] at closing
  split at closing
  · cases closing
  · rename_i tries answer
    obtain rfl := of_attempt answer
    obtain ⟨-, rfl⟩ := Prod.mk.inj closing
    rw [acceptedSetupFailed_eq]
    exact kept_ends is _ (Nat.le_refl _) _ (some listener) (some error) _ _

def Begins (outcome : AcceptOutcome) (handle base : ServerHandle) : Prop :=
  base = handle ∨ Accepting handle ∧ Arrives handle base ∧
    ∃ setup registration, outcome = .stream setup registration

theorem Begins.sound {outcome : AcceptOutcome} {base : ServerHandle}
    (begins : Begins outcome handle base) (sound : Sound handle) :
    Sound base ∧ Advances handle base := by
  rcases begins with rfl | ⟨accepting, arrives, -⟩
  · exact ⟨sound, .refl _⟩
  · exact ⟨arrives.sound accepting sound, arrives.advances⟩

theorem registrationFailed_moves (sound : Sound handle)
    (is : handle.listenerTask = some listener) (running : handle.listenerPhase = .atHead)
    (error : Fault) {stream : StreamId} (accepted : stream < handle.acceptedStreams) :
    ListenerMoves answers handle
      (registrationFailed answers listener error stream handle) := by
  have elsewhere : handle.listenerPhase ≠ .waitsCapacity := fun waits =>
    ListenerPhase.noConfusion (running.symm.trans waits)
  have released : Finishes answers handle (closeOrRetain answers
      (finishingFrom answers { handle with connections := handle.connections.erase stream }) stream
      (some listener) (some error)
      { handle with connections := handle.connections.erase stream }).2 :=
    ⟨{ handle with connections := handle.connections.erase stream }, Nat.le_refl _,
      fun P covers finishes => closeOrRetain_keeps covers handle true (.inr finishes) accepted
        (some listener) (some error)
        fun _ => .inr (.inr (.inr (.inr (.inr (.inr (.inr elsewhere))))))⟩
  obtain ⟨releasedSound, follows⟩ := released.cancels.follows sound
  unfold registrationFailed
  dsimp only
  refine .trans (.single (.operates released)) ?_
  exact listenerFailed_moves (follows.listenerTask.trans is) _ (Nat.le_refl _) error

theorem registrationFailed_arrives (sound : Sound handle)
    (accepting : Accepting handle) (is : handle.listenerTask = some listener) (error : Fault) :
    ∃ base, Arrives handle base ∧ ListenerMoves answers base
      (registrationFailed answers listener error handle.acceptedStreams
        { handle with acceptedStreams := handle.acceptedStreams + 1 }) := by
  have popped : ({ handle with
      acceptedStreams := handle.acceptedStreams + 1
      connections := handle.connections.erase handle.acceptedStreams } : ServerHandle) =
        { handle with acceptedStreams := handle.acceptedStreams + 1 } := by
    rw [erase_of_notMem (unregistered sound).2.1]
  unfold registrationFailed
  dsimp only
  rw [popped]
  obtain ⟨base, arrives, moves⟩ := closeOrRetain_arrives answers sound
    { handle with acceptedStreams := handle.acceptedStreams + 1 } (Nat.le_refl _) (some listener)
    (some error)
  have follows := (moves.follows (arrives.sound accepting sound)).2
  refine ⟨base, arrives, moves.trans ?_⟩
  exact listenerFailed_moves ((follows.listenerTask.trans arrives.listenerTask).trans is) _
    (Nat.le_refl _) error

theorem admitStream_moves (answers : Nat → Bool) (sound : Sound handle)
    (accepting : Accepting handle)
    (is : handle.listenerTask = some listener) (registration : Registration) :
    ∃ base, Arrives handle base ∧ ListenerMoves answers base
      (admitStream answers listener handle.acceptedStreams registration
        { handle with acceptedStreams := handle.acceptedStreams + 1 }) := by
  unfold admitStream
  split
  · obtain ⟨base, arrives, moves⟩ := closeOrRetain_arrives answers sound
      { handle with acceptedStreams := handle.acceptedStreams + 1 } (Nat.le_refl _)
      (some listener) none
    have follows := (moves.follows (arrives.sound accepting sound)).2
    split
    · rename_i next settled
      unfold finishingFrom at settled
      rw [settled] at moves
      exact ⟨base, arrives, moves⟩
    · rename_i next failed
      unfold finishingFrom at failed
      rw [failed] at moves follows
      exact ⟨base, arrives, moves.tail (.ends next listener
        ((follows.listenerTask.trans arrives.listenerTask).trans is))⟩
  · split
    · exact ⟨_, .registered, .refl⟩
    · exact registrationFailed_arrives sound accepting is _
    · rename_i error
      dsimp only
      let registered := register handle.acceptedStreams
        { handle with acceptedStreams := handle.acceptedStreams + 1 }
      have arrives : Arrives handle registered := .registered
      have registeredSound := arrives.sound accepting sound
      have live : handle.nextTask ∈ registered.live := OrderedDict.mem_set.mpr (.inl rfl)
      refine ⟨registered, arrives, ?_⟩
      split
      · rename_i next cancelled
        have unstarted : next = settled handle.nextTask (ending handle.nextTask registered) := by
          rcases cancelStep_ended cancelled with ⟨same, -⟩ | ⟨running, found, started, -⟩
          · exact same
          · have new : registered.live.lookup handle.nextTask =
                some { routine := .connection handle.acceptedStreams } :=
              OrderedDict.lookup_set _ _ _
            obtain rfl := Option.some.inj (new.symm.trans found)
            cases started
        subst unstarted
        have move : ListenerMove answers registered _ :=
          .unregisters registered handle.nextTask _ (OrderedDict.lookup_set _ _ _) rfl
        obtain ⟨nextSound, -⟩ := move.follows registeredSound
        refine .head move ?_
        exact registrationFailed_moves nextSound is accepting.runs error (Nat.lt_succ_self _)
      · rename_i next failed
        obtain rfl := cancelStep_failed failed
        have present : registered.connections.entries ≠ [] := by
          intro empty
          have member : handle.acceptedStreams ∈ registered.connections :=
            OrderedDict.mem_set.mpr (.inl rfl)
          rw [AList.mem_keys, AList.keys, empty] at member
          cases member
        have move : ListenerMove answers registered _ :=
          .remembers registered handle.nextTask registered.nextFault live present
        obtain ⟨nextSound, -⟩ := move.follows registeredSound
        refine .head move ?_
        exact registrationFailed_moves nextSound is accepting.runs error (Nat.lt_succ_self _)

theorem acceptTurn_moves (answers : Nat → Bool) (sound : Sound handle)
    (accepting : Accepting handle) (is : handle.listenerTask = some listener)
    (outcome : AcceptOutcome) :
    ∃ base, Begins outcome handle base ∧
      ListenerMoves answers base (acceptTurn answers listener outcome handle) := by
  unfold acceptTurn
  split
  · exact ⟨handle, .inl rfl, .single (.waitsAccept handle accepting.room)⟩
  · exact ⟨handle, .inl rfl, acceptRaised_moves is _⟩
  · dsimp only
    rename_i setup registration
    split
    · obtain ⟨base, arrives, moves⟩ := admitStream_moves answers sound accepting is
        registration
      exact ⟨base, .inr ⟨accepting, arrives, _, _, rfl⟩, moves⟩
    · rename_i error
      split
      · rename_i next closed
        unfold closeSafely at closed
        rw [if_neg (unregistered sound).1] at closed
        split at closed
        · rename_i closes answer
          obtain rfl := of_attempt answer
          obtain ⟨-, rfl⟩ := Prod.mk.inj closed
          have arrives : Arrives handle _ :=
            .closed handle.cleanupErrors (handle.closeErrors.erase handle.acceptedStreams)
          exact ⟨_, .inr ⟨accepting, arrives, _, _, rfl⟩,
            acceptRaised_moves (arrives.listenerTask.trans is) error⟩
        · cases closed
      · rename_i next failed
        obtain ⟨base, arrives, moves⟩ := acceptedSetupFailed_moves sound is error failed
        exact ⟨base, .inr ⟨accepting, arrives, _, _, rfl⟩, moves⟩

theorem runListener_moves (sound : Sound handle) (listens : Listening handle.live)
    (is : handle.listenerTask = some listener) (outcome : AcceptOutcome) :
    ∃ phase base, ListenerMoves answers handle { handle with listenerPhase := phase } ∧
      Begins outcome { handle with listenerPhase := phase } base ∧
        ListenerMoves answers base (runListener answers listener outcome handle) := by
  unfold runListener
  split
  · rename_i phase
    split
    · exact ⟨_, handle, .refl, .inl rfl, .single (.ends handle listener is)⟩
    · split
      · rename_i full
        exact ⟨_, handle, .refl, .inl rfl, .single (.waitsCapacity handle full)⟩
      · rename_i room
        obtain ⟨base, begins, moves⟩ := acceptTurn_moves answers sound
          ⟨Nat.lt_of_not_le room, phase⟩ is outcome
        exact ⟨_, base, .refl, begins, moves⟩
  · exact ⟨_, handle, .refl, .inl rfl, .single (.wakes handle)⟩
  · rename_i phase
    have room := sound.watch.room listens phase
    have turn : ListenerMove answers handle { handle with listenerPhase := .atHead } :=
      .turns handle
    obtain ⟨turnedSound, -⟩ := turn.follows sound
    obtain ⟨base, begins, moves⟩ := acceptTurn_moves answers turnedSound
      ⟨room, rfl⟩ is outcome
    exact ⟨.atHead, base, .single turn, begins, moves⟩

end Turns

section Steps

variable {answers : Nat → Bool} {handle after : ServerHandle}

def Marks (handle base : ServerHandle) : Prop :=
  ∃ later cursor, Shrinks handle.live later ∧
    later.entries.length ≤ handle.live.entries.length ∧
      base = { handle with live := later, cursor }

theorem Marks.follows {base : ServerHandle} (marks : Marks handle base) (sound : Sound handle) :
    Sound base ∧ Follows handle base := by
  obtain ⟨later, cursor, shrinks, fewer, rfl⟩ := marks
  have shrunk := sound_shrink sound shrinks
  exact ⟨{ shrunk with }, { Advances.refl handle with }, rfl, fewer⟩

theorem Marks.refl (handle : ServerHandle) : Marks handle handle :=
  ⟨_, handle.cursor, .refl _, Nat.le_refl _, rfl⟩

theorem Marks.fewer {base : ServerHandle} (marks : Marks handle base) :
    base.live.entries.length ≤ handle.live.entries.length := by
  obtain ⟨later, cursor, -, fewer, rfl⟩ := marks
  exact fewer

theorem Marks.keeps {taskId : TaskId} {task : Task} (laterTask : Task)
    (found : handle.live.lookup taskId = some task) (same : task.routine = laterTask.routine)
    (fewer : laterTask.children ⊆ task.children) (cursor : Option TaskId) :
    Marks handle { handle with live := handle.live.set taskId laterTask, cursor } := by
  refine ⟨_, cursor, ?_, ?_, rfl⟩
  · intro other otherLater later
    rw [OrderedDict.lookup_set_eq] at later
    split at later
    · rename_i equal
      obtain rfl := Option.some.inj later
      exact ⟨task, equal ▸ found, same, fewer⟩
    · exact ⟨otherLater, later, rfl, fun _ => id⟩
  · have counted := OrderedDict.length_set handle.live taskId laterTask
    rw [if_pos (OrderedDict.mem_of_lookup found)] at counted
    omega

theorem Marks.ends (handle : ServerHandle) (taskId : TaskId) (cursor : Option TaskId) :
    Marks handle { handle with live := handle.live.erase taskId, cursor } :=
  ⟨_, cursor, .erase _ taskId, OrderedDict.length_erase_le _ _, rfl⟩

theorem runningConnection_eq {taskId : TaskId} {task : Task} {stream : StreamId}
    (running : runningConnection taskId handle = some (task, stream)) :
    handle.live.lookup taskId = some task ∧ task.routine = .connection stream ∧
      task.started = true := by
  unfold runningConnection at running
  split at running
  · cases running
  · rename_i found
    split at running
    · rename_i other serves
      split at running
      · rename_i started
        obtain ⟨rfl, rfl⟩ := Prod.mk.inj (Option.some.inj running)
        exact ⟨found, serves, started⟩
      · cases running
    · cases running

theorem close_finishes : Finishes answers handle (close answers handle) := by
  refine ⟨handle, Nat.le_refl _, fun P covers _ => ?_⟩
  unfold close
  split
  · exact .refl covers
  · dsimp only
    have asked : Keeps P handle { handle with closeRequested := true } :=
      .effect covers (.requested handle)
    split
    · exact asked
    · rename_i unsent
      split
      · rename_i next answer
        obtain rfl := of_attempt answer
        have fresh : handle.notificationSent = false := by simpa using unsent
        exact asked.trans covers
          (.effect covers (.notified { handle with closeRequested := true } fresh))
      · rename_i next answer
        obtain rfl := of_attempt answer
        exact asked.trans covers (.effect covers (.notifyFailed _))

theorem finishClose_cancels {larger : ServerHandle} (ownerThread : Bool) (current : Option TaskId)
    (fewer : handle.live.entries.length ≤ larger.live.entries.length) :
    Cancels answers handle
      (finishClose answers (cancel answers larger) ownerThread current handle) := by
  refine ⟨larger, fewer, fun P covers cancels => .given fun sound => ?_⟩
  exact (Keeps.effect covers (.begun handle)).trans covers
    (finishClose_keeps covers cancels ownerThread current (wasAttempted_of_sound sound))

theorem closeFromTask_cancels (task : TaskId) :
    ∃ cursor, Cancels answers { handle with cursor } (closeFromTask answers task handle) := by
  unfold closeFromTask
  split
  · exact ⟨handle.cursor, .refl handle⟩
  · refine ⟨some task, handle, Nat.le_refl _, fun P covers cancels => ?_⟩
    let marked : ServerHandle := { handle with cursor := some task }
    have kept : Keeps P (begun (begun marked))
        (finishClose answers (cancel answers handle) false (some task) (begun marked)) :=
      finishClose_keeps covers cancels false (some task) fun _ => ⟨rfl, rfl⟩
    exact (Keeps.effect covers (.begun marked)).trans covers kept

theorem forced_cancels (sound : Sound handle) {taskId : TaskId} {task : Task} {stream : StreamId}
    (found : handle.live.lookup taskId = some task) (helps : task.routine = .helper stream)
    (primary : Option Fault) {forced : ServerHandle}
    (result : forced = (forceConnectionClose answers (finishing answers (cancel answers handle))
      stream (some taskId) primary
        { handle with live := handle.live.erase taskId, cursor := some taskId }).2) :
    Cancels answers { handle with live := handle.live.erase taskId, cursor := some taskId }
      { forced with ownedTasks := forced.ownedTasks.erase taskId } := by
  subst result
  refine ⟨handle, OrderedDict.length_erase_le _ _, fun P covers cancels => ?_⟩
  have accepted := sound.roster.streams taskId task stream found (by rw [helps]; rfl)
  refine Keeps.andThen covers (forceConnectionClose_keeps covers
    (finishing_keeps covers cancels) ?_ (some taskId) primary)
    fun _ grown => .effect covers (.disowned _ taskId (.inl ?_))
  · exact accepted
  · exact fun live => (AList.mem_erase.mp (grown.live.mem live)).1 rfl

theorem finallyBlock_cancels (sound : Sound handle) {taskId : TaskId} {task : Task}
    (found : handle.live.lookup taskId = some task) (cursor : Option TaskId) :
    Cancels answers { handle with live := handle.live.erase taskId, cursor }
      (finallyBlock answers (cancel answers handle) taskId task
        { handle with live := handle.live.erase taskId, cursor }) := by
  refine ⟨handle, OrderedDict.length_erase_le _ _, fun P covers cancels => ?_⟩
  have stopped := stopped_erase sound found
  exact finallyBlock_keeps covers cancels { stopped with }

theorem starts_cancels {taskId : TaskId}
    (taken : next answers handle (.starts taskId) = some after) :
    ∃ base, Marks handle base ∧ Cancels answers base after := by
  obtain ⟨task, found, rfl⟩ := Option.map_eq_some_iff.mp taken
  have marks : Marks handle { handle with
      live := handle.live.set taskId { task with started := true } } :=
    Marks.keeps { task with started := true } found rfl (fun _ => id) handle.cursor
  exact ⟨_, marks, .refl _⟩

theorem endsChild_cancels (sound : Sound handle) {taskId : TaskId}
    (taken : next answers handle (.endsChild taskId) = some after) :
    ∃ base, Marks handle base ∧ Cancels answers base after := by
  have ends : ∃ task, handle.live.lookup taskId = some task ∧ some (finallyBlock answers
      (cancel answers handle) taskId task { handle with
        live := handle.live.erase taskId
        cursor := some taskId }) = some after := by
    simp only [next] at taken
    split at taken
    · cases taken
    · rename_i task found
      refine ⟨task, found, ?_⟩
      split at taken
      · cases taken
      · cases taken
      · cases taken
      · exact taken
  obtain ⟨task, found, ⟨⟩⟩ := ends
  exact ⟨_, .ends handle taskId (some taskId), finallyBlock_cancels sound found (some taskId)⟩

theorem cancelsHandler_cancels (sound : Sound handle) {taskId : TaskId} {handler : TaskId}
    (taken : next answers handle (.cancelsHandler taskId handler) = some after) :
    ∃ base, Marks handle base ∧ Cancels answers base after := by
  simp only [next] at taken
  split at taken
  · cases taken
  · rename_i task stream running
    obtain ⟨found, serves, -⟩ := runningConnection_eq running
    split at taken
    · rename_i known
      cases taken
      have fewer : { task with handlers := task.handlers.erase handler : Task }.children ⊆
          task.children := by
        intro child member
        simp only [Task.children, List.mem_append] at member ⊢
        exact member.imp_left (Or.imp_left List.mem_of_mem_erase)
      have marks := Marks.keeps { task with handlers := task.handlers.erase handler } found rfl
        fewer (some taskId)
      have child : handler ∈ task.children := by
        simp only [Task.children, List.mem_append]
        exact .inl (.inl (List.contains_iff_mem.mp known))
      refine ⟨_, marks, handle, marks.fewer, fun P covers cancels => ?_⟩
      exact cancels.keeps handler _
        (sound.roster.children_known taskId task found handler child)
    · cases taken

theorem registersGraceful_cancels {taskId : TaskId}
    (taken : next answers handle (.registersGraceful taskId) = some after) :
    ∃ base, Marks handle base ∧ Cancels answers base after := by
  obtain ⟨⟨task, stream⟩, running, rfl⟩ := Option.map_eq_some_iff.mp taken
  refine ⟨handle, .refl handle, handle, Nat.le_refl _, fun P covers _ => ?_⟩
  exact .effect covers (.quiet _ _ _ _)

theorem tearsDown_cancels (sound : Sound handle) {taskId : TaskId}
    (taken : next answers handle (.tearsDown taskId) = some after) :
    ∃ base, Marks handle base ∧ Cancels answers base after := by
  obtain ⟨⟨task, stream⟩, running, rfl⟩ := Option.map_eq_some_iff.mp taken
  obtain ⟨found, serves, -⟩ := runningConnection_eq running
  let torn : Task := { routine := .connection stream, started := true }
  have marks := Marks.keeps torn found serves (fun child member => nomatch member) (some taskId)
  refine ⟨_, marks, handle, marks.fewer, fun P covers cancels => ?_⟩
  refine Keeps.trans covers (tearDownConnection_keeps covers cancels task ?_)
    (.effect covers (.websocketLeft _ stream))
  exact sound.roster.children_known taskId task found

theorem finishesConnection_cancels (sound : Sound handle) {taskId : TaskId} {primary : Option Fault}
    (taken : next answers handle (.finishesConnection taskId primary) = some after) :
    ∃ base, Marks handle base ∧ Cancels answers base after := by
  obtain ⟨⟨task, stream⟩, running, rfl⟩ := Option.map_eq_some_iff.mp taken
  obtain ⟨found, serves, -⟩ := runningConnection_eq running
  have marks := Marks.ends handle taskId (some taskId)
  refine ⟨_, marks, handle, marks.fewer, fun P covers cancels => ?_⟩
  have stopped : Stopped taskId task
      { handle with live := handle.live.erase taskId, cursor := some taskId } :=
    { stopped_erase sound found with }
  obtain ⟨ended, accepted⟩ := stopped.connection stream serves
  exact endConnection_keeps covers cancels taskId task ended accepted stopped.children primary

theorem forcesClose_cancels (sound : Sound handle) {taskId : TaskId} {primary : Option Fault}
    (taken : next answers handle (.forcesClose taskId primary) = some after) :
    ∃ base, Marks handle base ∧ Cancels answers base after := by
  simp only [next] at taken
  split at taken
  · cases taken
  · rename_i task found
    split at taken
    · rename_i stream helps
      cases taken
      exact ⟨_, .ends handle taskId (some taskId), forced_cancels sound found helps primary rfl⟩
    · cases taken

theorem wakesWatcher_cancels {taskId : TaskId}
    (taken : next answers handle (.wakesWatcher taskId) = some after) :
    ∃ base, Marks handle base ∧ Cancels answers base after := by
  simp only [next] at taken
  split at taken
  · cases taken
  · split at taken
    · cases taken
      have marks := Marks.ends handle taskId (some taskId)
      exact ⟨_, marks, finishClose_cancels false (some taskId) marks.fewer⟩
    · cases taken

theorem closes_cancels (taken : next answers handle .close = some after) :
    ∃ base, Marks handle base ∧ Cancels answers base after := by
  cases taken
  exact ⟨handle, .refl handle, close_finishes.cancels⟩

theorem finalize_cancels (taken : next answers handle .finalize = some after) :
    ∃ base, Marks handle base ∧ Cancels answers base after := by
  cases taken
  have marks : Marks handle { handle with cursor := none } :=
    ⟨_, none, .refl _, Nat.le_refl _, rfl⟩
  exact ⟨_, marks, finishClose_cancels true none marks.fewer⟩

theorem closesFromTask_cancels {task : TaskId}
    (taken : next answers handle (.closesFromTask task) = some after) :
    ∃ base, Marks handle base ∧ Cancels answers base after := by
  cases taken
  obtain ⟨cursor, cancels⟩ : ∃ cursor, Cancels answers { handle with cursor }
      (closeFromTask answers task handle) := closeFromTask_cancels task
  exact ⟨_, ⟨handle.live, cursor, .refl _, Nat.le_refl _, rfl⟩, cancels⟩

/-- The steps of the tasks that serve connections, and the calls from outside. -/
theorem next_cancels (sound : Sound handle) {step : Step}
    (taken : next answers handle step = some after) :
    (∃ outcome, step = .runsListener outcome) ∨ (∃ task kind, step = .spawns task kind) ∨
      (∃ task, step = .registersWebsocket task) ∨
        ∃ base, Marks handle base ∧ Cancels answers base after := by
  cases step with
  | runsListener outcome => exact .inl ⟨outcome, rfl⟩
  | spawns task kind => exact .inr (.inl ⟨task, kind, rfl⟩)
  | registersWebsocket task => exact .inr (.inr (.inl ⟨task, rfl⟩))
  | starts taskId => exact .inr (.inr (.inr (starts_cancels taken)))
  | endsChild taskId => exact .inr (.inr (.inr (endsChild_cancels sound taken)))
  | cancelsHandler taskId handler => exact .inr (.inr (.inr (cancelsHandler_cancels sound taken)))
  | registersGraceful taskId => exact .inr (.inr (.inr (registersGraceful_cancels taken)))
  | tearsDown taskId => exact .inr (.inr (.inr (tearsDown_cancels sound taken)))
  | finishesConnection taskId primary =>
      exact .inr (.inr (.inr (finishesConnection_cancels sound taken)))
  | forcesClose taskId primary => exact .inr (.inr (.inr (forcesClose_cancels sound taken)))
  | wakesWatcher taskId => exact .inr (.inr (.inr (wakesWatcher_cancels taken)))
  | close => exact .inr (.inr (.inr (closes_cancels taken)))
  | finalize => exact .inr (.inr (.inr (finalize_cancels taken)))
  | closesFromTask task => exact .inr (.inr (.inr (closesFromTask_cancels taken)))

theorem runsListener_follows (sound : Sound handle) {outcome : AcceptOutcome}
    (taken : next answers handle (.runsListener outcome) = some after) :
    ∃ listener task phase base start, handle.live.lookup listener = some task ∧
      start = { handle with
        live := handle.live.set listener { task with started := true }
        cursor := some listener } ∧ Marks handle start ∧
      ListenerMoves answers start { start with listenerPhase := phase } ∧
        Begins outcome { start with listenerPhase := phase } base ∧
          ListenerMoves answers base after := by
  simp only [next] at taken
  split at taken
  · cases taken
  · rename_i listener is
    obtain ⟨task, found, rfl⟩ := Option.map_eq_some_iff.mp taken
    have accepts := (sound.roster.listener listener is).2 task found
    have marks := Marks.keeps { task with started := true } found rfl (fun _ => id) (some listener)
    have startSound := (marks.follows sound).1
    have listens : Listening (handle.live.set listener { task with started := true }) :=
      ⟨listener, _, OrderedDict.lookup_set _ _ _, accepts⟩
    obtain ⟨phase, base, before, begins, moves⟩ :=
      runListener_moves startSound listens is outcome
    exact ⟨listener, task, phase, base, _, found, rfl, marks, before, begins, moves⟩

theorem spawn_sound (sound : Sound handle) {parent : TaskId} {task : Task} {stream : StreamId}
    (found : handle.live.lookup parent = some task) (serves : task.routine = .connection stream)
    (kind : ChildKind) : Sound (spawn parent task stream kind handle) := by
  have spawned : ∀ (known : Task) (routine : Routine), Routine.isChild routine = true →
      Routine.stream routine = none ∨ Routine.stream routine = some stream →
      task.routine = known.routine →
      (∀ child ∈ known.children, child ∈ task.children ∨ child = handle.nextTask) →
      Sound { handle with
        ownedTasks := handle.ownedTasks ++ [handle.nextTask]
        live := (handle.live.set parent known).set handle.nextTask { routine }
        nextTask := handle.nextTask + 1 } := by
    intro known routine isChild acts same children
    have adds : Adds handle.live ((handle.live.set parent known).set handle.nextTask { routine })
        handle.nextTask routine := by
      intro taskId laterTask later
      rw [OrderedDict.lookup_set_eq] at later
      split at later
      · rename_i new
        exact .inl ⟨new, (Option.some.inj later).symm⟩
      · rw [OrderedDict.lookup_set_eq] at later
        split at later
        · rename_i isParent
          obtain rfl := Option.some.inj later
          exact .inr ⟨task, isParent ▸ found, same, fun child member =>
            (children child member).imp_right fun new => ⟨new, isChild⟩⟩
        · exact .inr ⟨laterTask, later, rfl, fun child member => .inl member⟩
    have noListener : routine ≠ .acceptLoop := by
      rintro rfl
      cases isChild
    have noConnection : ∀ other, routine ≠ .connection other := by
      rintro other rfl
      cases isChild
    exact { sound with
      watch := Adds.watch adds noListener sound.watch
      roster := by
        refine Adds.roster adds sound.roster (Nat.le_refl _) (fun _ _ => .inr) ?_
          fun other serves => absurd serves (noConnection other)
        intro other actsOn
        rcases acts with none | some
        · rw [none] at actsOn
          cases actsOn
        · rw [some] at actsOn
          cases actsOn
          exact sound.roster.streams parent task stream found (by rw [serves]; rfl) }
  cases kind with
  | handler =>
      refine spawned { task with handlers := task.handlers ++ [handle.nextTask] }
        (.handler parent) rfl (.inl rfl) rfl ?_
      intro child member
      simp only [Task.children, List.mem_append, List.mem_singleton] at member ⊢
      tauto
  | helper =>
      refine spawned { task with helpers := task.helpers ++ [handle.nextTask] }
        (.helper stream) rfl (.inr rfl) rfl ?_
      intro child member
      simp only [Task.children, List.mem_append, List.mem_singleton] at member ⊢
      tauto
  | websocketChild =>
      refine spawned { task with websocketChildren := task.websocketChildren ++ [handle.nextTask] }
        .websocketChild rfl (.inl rfl) rfl ?_
      intro child member
      simp only [Task.children, List.mem_append, List.mem_singleton] at member ⊢
      tauto

theorem next_sound (sound : Sound handle) {step : Step}
    (taken : next answers handle step = some after) : Sound after ∧ Advances handle after := by
  rcases next_cancels sound taken with ⟨outcome, rfl⟩ | ⟨parent, kind, rfl⟩ | ⟨task, rfl⟩ |
    ⟨base, marks, cancels⟩
  · obtain ⟨-, -, phase, base, start, -, -, marks, before, begins, moves⟩ :=
      runsListener_follows sound taken
    obtain ⟨startSound, marked⟩ := marks.follows sound
    obtain ⟨middleSound, moved⟩ := before.follows startSound
    obtain ⟨baseSound, arrived⟩ := begins.sound middleSound
    obtain ⟨afterSound, last⟩ := moves.follows baseSound
    exact ⟨afterSound, ((marked.advances.trans moved.advances).trans arrived).trans last.advances⟩
  · obtain ⟨⟨task, stream⟩, running, rfl⟩ := Option.map_eq_some_iff.mp taken
    obtain ⟨found, serves, -⟩ := runningConnection_eq running
    exact ⟨spawn_sound sound found serves kind, { Advances.refl handle with }⟩
  · obtain ⟨⟨task, stream⟩, running, rfl⟩ := Option.map_eq_some_iff.mp taken
    exact ⟨{ sound with }, { Advances.refl handle with }⟩
  · obtain ⟨baseSound, marked⟩ := marks.follows sound
    obtain ⟨afterSound, last⟩ := cancels.follows baseSound
    exact ⟨afterSound, marked.advances.trans last.advances⟩

end Steps

section Reachable

variable {answers : Nat → Bool}

theorem scheduled_live (maxConnections : Nat) (hasWakeup hasObserver : Bool) {taskId : TaskId}
    {task : Task} (found : (scheduled maxConnections hasWakeup hasObserver).live.lookup taskId =
      some task) :
    task.children = [] ∧ Routine.stream task.routine = none ∧
      (task.routine = .acceptLoop ↔ taskId = 0) ∧
        taskId ∈ (scheduled maxConnections hasWakeup hasObserver).ownedTasks := by
  cases hasWakeup <;> cases hasObserver <;>
    simp only [scheduled, Bool.false_eq_true, if_true, if_false, List.append_nil, List.nil_append,
      List.cons_append, List.mapIdx_cons, List.mapIdx_nil, List.map_cons, List.map_nil,
      List.foldl_cons, List.foldl_nil, OrderedDict.lookup_set_eq, AList.lookup_empty] at found ⊢ <;>
    split_ifs at found <;> cases found <;> simp_all [Task.children, Routine.stream]

theorem scheduled_owned (maxConnections : Nat) (hasWakeup hasObserver : Bool) :
    ∀ taskId ∈ (scheduled maxConnections hasWakeup hasObserver).ownedTasks,
      taskId < (scheduled maxConnections hasWakeup hasObserver).nextTask := by
  cases hasWakeup <;> cases hasObserver <;> simp [scheduled]

theorem scheduled_sound (maxConnections : Nat) (hasWakeup hasObserver : Bool) :
    Sound (scheduled maxConnections hasWakeup hasObserver) := by
  have tasks : ∀ taskId task,
      (scheduled maxConnections hasWakeup hasObserver).live.lookup taskId = some task →
        _ := fun taskId task found => scheduled_live maxConnections hasWakeup hasObserver found
  have owned := scheduled_owned maxConnections hasWakeup hasObserver
  have live : ∀ taskId ∈ (scheduled maxConnections hasWakeup hasObserver).live, ∃ task,
      (scheduled maxConnections hasWakeup hasObserver).live.lookup taskId = some task :=
    fun taskId member => Option.isSome_iff_exists.mp (AList.lookup_isSome.mpr member)
  exact {
    tables := {
      connections_accepted := fun stream member => absurd member (AList.notMem_empty stream)
      closing_open := fun stream member => absurd member (AList.notMem_empty stream)
      closed_accepted := fun stream member => absurd member (Finset.notMem_empty stream)
      apart := fun stream member => absurd member (AList.notMem_empty stream)
      owned := fun stream known => absurd known (Nat.not_lt_zero stream)
      bounded := Nat.zero_le _ }
    recorded := {
      last := List.Pairwise.nil
      done := by
        intro resource
        refine iff_of_false List.not_mem_nil ?_
        cases resource with
        | wakeup => exact Bool.false_ne_true
        | listener => exact Bool.false_ne_true
        | connection stream => exact Finset.notMem_empty stream }
    notified := rfl
    watch := {
      closing_requested := fun stream member => absurd member (AList.notMem_empty stream)
      listener := by
        intro taskId task found accepts
        obtain ⟨-, -, first, -⟩ := tasks taskId task found
        rw [first.mp accepts]
        rfl
      waiting := fun _ waits => ListenerPhase.noConfusion waits
      room := fun _ waits => ListenerPhase.noConfusion waits
      heard := fun _ waits => ListenerPhase.noConfusion waits }
    drive := {
      first := rfl
      identified := fun fatal member => absurd member List.not_mem_nil
      driven := fun some => absurd rfl some
      fatal_requested := fun some => absurd rfl some
      attempted_requested := Bool.noConfusion
      listener_attempted := Bool.noConfusion
      finished_closed := Bool.noConfusion
      finished_told := Bool.noConfusion
      told := rfl }
    roster := {
      kept := by
        intro taskId member
        obtain ⟨task, found⟩ := live taskId member
        exact .inl (tasks taskId task found).2.2.2
      cancelled := fun taskId member => absurd member (Finset.notMem_empty taskId)
      known := by
        intro taskId member
        obtain ⟨task, found⟩ := live taskId member
        exact owned taskId (tasks taskId task found).2.2.2
      owned_known := owned
      pending_known := fun taskId member => absurd member (AList.notMem_empty taskId)
      children_known := by
        intro taskId task found child member
        rw [(tasks taskId task found).1] at member
        cases member
      streams := by
        intro taskId task stream found acts
        rw [(tasks taskId task found).2.1] at acts
        cases acts
      entries := fun stream taskId task entry => nomatch entry
      entries_known := fun stream taskId entry => nomatch entry
      single := by
        intro taskId task other otherTask stream found _ runs
        have none := (tasks taskId task found).2.1
        rw [runs] at none
        cases none
      listener := by
        intro taskId is
        obtain rfl := Option.some.inj is
        refine ⟨owned 0 ?_, fun task found => (tasks 0 task found).2.2.1.mpr rfl⟩
        cases hasWakeup <;> cases hasObserver <;> exact List.mem_cons_self
      children := by
        intro taskId task found child member
        rw [(tasks taskId task found).1] at member
        cases member } }

theorem run_advances {start handle : ServerHandle} {steps : List Step} (sound : Sound start)
    (run : Runs.Run (Steps answers) start steps handle) :
    Sound handle ∧ Advances start handle := by
  induction run with
  | nil => exact ⟨sound, .refl _⟩
  | snoc step run taken induction =>
      obtain ⟨stateSound, advances⟩ := induction
      obtain ⟨nextSound, further⟩ := next_sound stateSound taken
      exact ⟨nextSound, advances.trans further⟩

/-- The invariant holds in every state a server reaches, whatever the kernel answers, and no
chain of cancellations comes to the bound that the model sets. -/
theorem reachable_sound {maxConnections : Nat} {hasWakeup hasObserver : Bool}
    {steps : List Step} {handle : ServerHandle}
    (run : Runs.Run (Steps answers) (scheduled maxConnections hasWakeup hasObserver) steps handle) :
    Sound handle ∧ handle.maxConnections = maxConnections ∧ handle.hasWakeup = hasWakeup ∧
      handle.starved = false := by
  obtain ⟨sound, advances⟩ := run_advances (scheduled_sound _ _ _) run
  exact ⟨sound, advances.capacity, advances.hasWakeup, advances.starved⟩

end Reachable

end SmallServer.ServerSteps
