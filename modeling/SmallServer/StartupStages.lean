import SmallServer.StartupCleanup

/-!
# The stages of a startup

What each part of `_bind_and_schedule` leaves, whether it returns or raises: a record of the
call whose error owns what is left, and an `_active_invocation` that is the call's own as long
as something is.
-/

namespace SmallServer.StartupStages

open SmallServer CleanupTransaction Raising ServerStartup StartupCleanup
open SmallServer.Server hiding closeListener

set_option autoImplicit false

variable {Exc : Type}

section Records

inductive Result (Exc : Type) where
  | returned
  | raised (error : Raised Exc)
  | startupError (primary : Raised Exc)
  | interrupted (primary : Raised Exc)

/-- The exception that was raised, or its `primary_error`. -/
def Result.error : Result Exc → Option (Raised Exc)
  | .returned => none
  | .raised error => some error
  | .startupError primary => some primary
  | .interrupted primary => some primary

/-- A call of `_bind_and_schedule` that has ended, with the `ServerStartupError` that was
raised or is the `__cause__` of what was. -/
structure Record (Exc : Type) where
  startup : Startup Exc
  result : Result Exc
  owner : Option (Owner (Raised Exc))

def Record.of (startup : Startup Exc) : Except (Ending Exc) Unit → Record Exc
  | .ok () => { startup, result := .returned, owner := none }
  | .error (.error error) => { startup, result := .raised error, owner := none }
  | .error (.startupError primary owner) =>
      { startup, result := .startupError primary, owner := some owner }
  | .error (.interrupted primary owner) =>
      { startup, result := .interrupted primary, owner := some owner }

end Records

section Invariant

def firstFailure (log : List (Operation × Option (Raised Exc))) :
    Option (Operation × Raised Exc) :=
  log.findSome? fun entry => entry.2.map fun error => (entry.1, error)

def Shows (failure : Option (Raised Exc)) (log : List (Operation × Option (Raised Exc))) : Prop :=
  match failure with
  | none => firstFailure log = none
  | some error => ∃ operation, firstFailure log = some (operation, error) ∧
      operation.isCleanup = false

/-- A resource that is left is one the returned handle has, or one that an action of the
error closes. -/
def Record.Owns (record : Record Exc) : Acquired → Prop
  | .listener =>
      match record.owner with
      | some owner => Cleanup.listener.number ∈ owner.transaction.pendingActions ∨
          Cleanup.server.number ∈ owner.transaction.pendingActions
      | none => record.result = .returned ∧ record.startup.handle.isSome = true
  | .channel =>
      match record.owner with
      | some owner => Cleanup.channel.number ∈ owner.transaction.pendingActions ∨
          Cleanup.rawChannel.number ∈ owner.transaction.pendingActions ∨
          Cleanup.server.number ∈ owner.transaction.pendingActions
      | none => record.result = .returned ∧ ∃ handle ∈ record.startup.handle,
          handle.hasWakeup = true

def leftActions (startup : Startup Exc) (waker : Cleanup) : List Nat :=
  (if startup.isOpen .channel then [waker.number] else []) ++
    (if startup.isOpen .listener then [Cleanup.listener.number] else [])

/-- A handle whose startup has ended: nothing has been asked of it, or it was finalized. -/
structure Ended (handle : ServerHandle) : Prop where
  idle : Idle handle
  settled : handle.finished = false ∧ handle.listenerClosed = false ∨
    handle.closeRequested = true ∧ handle.finished = handle.complete

def Owning (startup : Startup Exc) (owner : Owner (Raised Exc)) : Prop :=
  match startup.handle with
  | none => ∃ waker : Cleanup, (waker = .channel ∨ waker = .rawChannel) ∧
      owner.transaction.pendingActions = leftActions startup waker ∧
      owner.completionNotified = owner.transaction.complete ∧
      owner.onCleanupComplete = !owner.transaction.complete
  | some handle => handle.closeRequested = true ∧ owner.onCleanupComplete = false ∧
      owner.transaction.pendingActions =
        if handle.finished then [] else [Cleanup.server.number]

def Invocation.number : Invocation → Nat
  | .marker startup => startup
  | .handle startup => startup

structure Consistent (number : Nat) (active : Option Invocation) (record : Record Exc) :
    Prop where
  mine : ∀ invocation, active = some invocation → Invocation.number invocation = number →
    invocation = record.startup.slot
  number : record.startup.number = number
  truthful : Shows record.result.error record.startup.log
  held : record.startup.clear = false ↔ active = some record.startup.slot
  released : record.startup.releases = if record.startup.reserved && record.startup.clear
    then 1 else 0
  acquired : record.startup.reserved = false → record.startup.clear = true
  ended : ∀ handle ∈ record.startup.handle, Ended handle
  tasks : record.startup.handle = none → record.startup.tasks = []
  owning : match record.owner with
    | some owner => Owning record.startup owner ∧ record.result.error.isSome = true
    | none => record.startup.clear = true ∨
        record.result = .returned ∧ record.startup.handle.isSome = true

/-- Of the invocations of other startups, the same is the active one. -/
def Own (number : Nat) (before after : Option Invocation) : Prop :=
  ∀ invocation, Invocation.number invocation ≠ number →
    (before = some invocation ↔ after = some invocation)

end Invariant

section Log

variable {log more : List (Operation × Option (Raised Exc))}

theorem firstFailure_append : firstFailure (log ++ more) =
    (firstFailure log).or (firstFailure more) :=
  List.findSome?_append

theorem Shows.ok {failure : Option (Raised Exc)} (shown : Shows failure log)
    (operation : Operation) : Shows failure (log ++ [(operation, none)]) := by
  have same : firstFailure (log ++ [(operation, none)]) = firstFailure log := by
    rw [firstFailure_append]
    exact Option.or_none
  cases failure with
  | none => exact same.trans shown
  | some error =>
      obtain ⟨first, found, primary⟩ := shown
      exact ⟨first, same.trans found, primary⟩

theorem Shows.later {primary : Raised Exc} (shown : Shows (some primary) log)
    (more : List (Operation × Option (Raised Exc))) : Shows (some primary) (log ++ more) := by
  obtain ⟨first, found, noCleanup⟩ := shown
  refine ⟨first, ?_, noCleanup⟩
  rw [firstFailure_append, found]
  rfl

theorem Shows.first (shown : Shows none log) {operation : Operation}
    (primary : operation.isCleanup = false) (error : Raised Exc) :
    Shows (some error) (log ++ [(operation, some error)]) := by
  refine ⟨operation, ?_, primary⟩
  rw [firstFailure_append, (shown : firstFailure log = none)]
  rfl

end Log

section Handles

variable {startup : Startup Exc} {handle : ServerHandle}

theorem clear_iff : startup.clear = true ↔ startup.isOpen .listener = false ∧
    startup.isOpen .channel = false ∧ startup.cancelling = false := by
  unfold Startup.clear
  rw [Bool.and_eq_true, Bool.and_eq_true, Bool.not_eq_true', Bool.not_eq_true',
    Bool.not_eq_true', and_assoc]

/-- With a handle, nothing is left exactly when it is finished. -/
theorem clear_eq_finished (there : startup.handle = some handle) (ended : Ended handle) :
    startup.clear = handle.finished := by
  rw [Bool.eq_iff_iff, clear_iff]
  unfold Startup.isOpen Startup.cancelling
  rw [there]
  dsimp only
  rcases ended.settled with ⟨unfinished, listening⟩ | ⟨requested, finished⟩
  · rw [unfinished, listening]
    exact ⟨fun absurdly => absurd absurdly.1 nofun, nofun⟩
  · rw [finished, ended.idle.complete_iff requested]
    cases handle.hasWakeup <;> cases handle.wakeupClosed <;> cases handle.listenerClosed <;>
      simp

theorem finalize_finishes (answers : Nat → Bool) (idle : Idle handle)
    (unfinished : handle.finished = false) :
    Finishes handle (Server.finalize answers handle) := by
  have moved : Idle { handle with cursor := none } := { idle with }
  exact { finishClose_finishes answers handle moved unfinished with }

theorem abort_finishes (answers : Nat → Bool) (tasks : List TaskId) (idle : Idle handle)
    (unfinished : handle.finished = false) :
    Finishes handle (abortStartup answers tasks handle) := by
  have moved : Idle { handle with closeRequested := true, ownedTasks := tasks } := { idle with }
  exact { finishClose_finishes answers handle moved unfinished with }

theorem ended_of_finishes {after : ServerHandle} (finishes : Finishes handle after) :
    Ended after where
  idle := finishes.idle
  settled := .inr ⟨finishes.requested, finishes.finished⟩

structure Holding (number : Nat) (failure : Option (Raised Exc)) (handle : ServerHandle)
    (world : World Exc) : Prop where
  active : world.active = some (.handle number)
  number : world.startup.number = number
  handle : world.startup.handle = some handle
  reserved : world.startup.reserved = true
  releases : world.startup.releases = 0
  log : Shows failure world.startup.log

variable {number : Nat} {failure : Option (Raised Exc)} {world : World Exc}
  {call : ServerHandle → ServerHandle}

theorem Holding.callHandle (holding : Holding number failure handle world)
    (finishes : Finishes handle (call handle)) :
    world.callHandle call =
      if (call handle).finished then
        { active := none
          startup := { world.startup with
            handle := some (call handle)
            releases := world.startup.releases + 1 } }
      else world.update fun startup => { startup with handle := some (call handle) } := by
  unfold World.callHandle
  rw [holding.handle]
  dsimp only
  rw [finishes.told]
  cases (call handle).finished with
  | true =>
      have active : world.active = some (.handle world.startup.number) := by
        rw [holding.active, holding.number]
      rw [if_pos rfl, if_pos rfl, if_pos (Nat.lt_succ_self _)]
      exact if_pos active
  | false => exact if_neg (Nat.lt_irrefl _)

theorem Holding.finished_consistent (holding : Holding number failure handle world)
    (finishes : Finishes handle (call handle)) (result : Result Exc)
    (same : result.error = failure) (owner : Option (Owner (Raised Exc)))
    (owning : ∀ own ∈ owner, own.onCleanupComplete = false ∧ own.transaction.pendingActions =
      if (call handle).finished then [] else [Cleanup.server.number])
    (raised : owner.isSome = true → result.error.isSome = true)
    (owned : owner = none → (call handle).finished = false → result = .returned) :
    Consistent number (world.callHandle call).active
      { startup := (world.callHandle call).startup, result, owner } := by
  have ended := ended_of_finishes finishes
  rw [holding.callHandle finishes]
  cases finished : (call handle).finished with
  | true =>
      rw [if_pos rfl]
      have clear : Startup.clear { world.startup with
          handle := some (call handle)
          releases := world.startup.releases + 1 } = true :=
        (clear_eq_finished rfl ended).trans finished
      exact {
        number := holding.number
        truthful := same ▸ holding.log
        held := by
          dsimp only
          rw [clear]
          exact ⟨nofun, nofun⟩
        mine := nofun
        released := by
          dsimp only
          rw [clear, holding.reserved, holding.releases]
          rfl
        acquired := fun _ => clear
        ended := by
          intro other there
          cases there
          exact ended
        tasks := nofun
        owning := by
          cases owner with
          | none => exact .inl clear
          | some own => exact ⟨⟨finishes.requested, owning own rfl⟩, raised rfl⟩ }
  | false =>
      have unclear : Startup.clear { world.startup with handle := some (call handle) } = false :=
        (clear_eq_finished rfl ended).trans finished
      exact {
        number := holding.number
        truthful := same ▸ holding.log
        held := ⟨fun _ => by
          change world.active = some (.handle world.startup.number)
          rw [holding.active, holding.number], fun _ => unclear⟩
        mine := by
          intro invocation active _
          cases holding.active.symm.trans active
          exact congrArg Invocation.handle holding.number.symm
        released := by
          change world.startup.releases = if world.startup.reserved &&
            Startup.clear { world.startup with handle := some (call handle) } then 1 else 0
          rw [unclear, holding.releases, Bool.and_false]
          rfl
        acquired := fun unreserved => by
          exact absurd (holding.reserved.symm.trans unreserved) nofun
        ended := by
          intro other there
          cases there
          exact ended
        tasks := nofun
        owning := by
          cases owner with
          | none => exact .inr ⟨owned rfl finished, rfl⟩
          | some own => exact ⟨⟨finishes.requested, owning own rfl⟩, raised rfl⟩ }

end Handles

section Acquiring

def note (world : World Exc) (operation : Operation) (failure : Option (Raised Exc)) :
    World Exc :=
  world.update fun startup => { startup with log := startup.log ++ [(operation, failure)] }

@[simp] theorem ends_settle {operation : Operation} {failure : Option (Raised Exc)}
    {world : World Exc} {condition : Except (Raised Exc) Unit → World Exc → Prop} :
    Ends (settle operation failure) world condition ↔
      match failure with
      | none => condition (.ok ()) (note world operation none)
      | some error => condition (.error error) (note world operation (some error)) := by
  unfold settle
  rw [ends_bind, ends_modify]
  cases failure <;> exact Iff.rfl

structure Acquiring (number : Nat) (failure : Option (Raised Exc))
    (listener channel : Option Bool) (world : World Exc) : Prop where
  active : world.active = some (.marker number)
  number : world.startup.number = number
  listener : world.startup.listener = listener
  channel : world.startup.channel = channel
  handle : world.startup.handle = none
  tasks : world.startup.tasks = []
  reserved : world.startup.reserved = true
  releases : world.startup.releases = 0
  log : Shows failure world.startup.log

variable {number : Nat} {failure : Option (Raised Exc)} {listener channel : Option Bool}
  {world : World Exc} {kernel : Kernel Exc} {primary : Raised Exc}

theorem Acquiring.noteOk (acquiring : Acquiring number failure listener channel world)
    (operation : Operation) :
    Acquiring number failure listener channel (note world operation none) :=
  { acquiring with log := acquiring.log.ok operation }

theorem Acquiring.noteFirst (acquiring : Acquiring number none listener channel world)
    {operation : Operation} (noCleanup : operation.isCleanup = false) (error : Raised Exc) :
    Acquiring number (some error) listener channel (note world operation (some error)) :=
  { acquiring with log := acquiring.log.first noCleanup error }

theorem Acquiring.noteLater (acquiring : Acquiring number (some primary) listener channel world)
    (operation : Operation) (error : Raised Exc) :
    Acquiring number (some primary) listener channel (note world operation (some error)) :=
  { acquiring with log := acquiring.log.later _ }

/-- Code that changes nothing of a startup and raises what its first failure raises. -/
def Attempts (number : Nat) (listener channel : Option Bool)
    (code : Starting Exc (Raised Exc) Unit) : Prop :=
  ∀ world, Acquiring number none listener channel world → Ends code world fun result next =>
    match result with
    | .ok () => Acquiring number none listener channel next
    | .error error => Acquiring number (some error) listener channel next

theorem attempts_settle {operation : Operation} (noCleanup : operation.isCleanup = false)
    (failure : Option (Raised Exc)) :
    Attempts number listener channel (settle operation failure) := by
  intro world acquiring
  rw [ends_settle]
  cases failure with
  | none => exact acquiring.noteOk operation
  | some error => exact acquiring.noteFirst noCleanup error

theorem Attempts.andThen {first rest : Starting Exc (Raised Exc) Unit}
    (attempts : Attempts number listener channel first)
    (further : Attempts number listener channel rest) :
    Attempts number listener channel (first >>= fun _ => rest) := by
  intro world acquiring
  rw [ends_bind]
  refine (attempts world acquiring).mono fun result next ended => ?_
  cases result with
  | ok => exact further next ended
  | error error => exact ended

theorem closeListener_ends (kernel : Kernel Exc)
    (acquiring : Acquiring number (some primary) (some false) channel world) :
    Ends (closeListener kernel) world fun result next =>
      match result with
      | .ok () => Acquiring number (some primary) (some true) channel next
      | .error _ => Acquiring number (some primary) (some false) channel next ∧
          kernel.answers .closeListener ≠ none := by
  unfold closeListener perform
  rw [ends_bind, ends_get]
  dsimp only
  rw [acquiring.listener, if_neg nofun, ends_bind, ends_settle]
  cases kernel.answers .closeListener with
  | none => exact { acquiring.noteOk .closeListener with listener := rfl }
  | some error => exact ⟨acquiring.noteLater _ _, nofun⟩

theorem closeRaw_ends (kernel : Kernel Exc)
    (acquiring : Acquiring number (some primary) listener (some false) world) :
    Ends (closeRaw kernel) world fun result next =>
      match result with
      | .ok () => Acquiring number (some primary) listener (some true) next
      | .error _ => Acquiring number (some primary) listener (some false) next ∧
          kernel.answers .closeChannel ≠ none := by
  unfold closeRaw perform
  rw [ends_bind, ends_settle]
  cases kernel.answers .closeChannel with
  | none => exact { acquiring.noteOk .closeChannel with channel := rfl }
  | some error => exact ⟨acquiring.noteLater _ _, nofun⟩

theorem closeChannel_ends (kernel : Kernel Exc)
    (acquiring : Acquiring number (some primary) listener (some false) world) :
    Ends (closeChannel kernel) world fun result next =>
      match result with
      | .ok () => Acquiring number (some primary) listener (some true) next
      | .error _ => Acquiring number (some primary) listener (some false) next ∧
          kernel.answers .closeChannel ≠ none := by
  unfold closeChannel
  rw [ends_bind, ends_get]
  dsimp only
  rw [acquiring.channel, if_neg nofun]
  exact closeRaw_ends kernel acquiring

theorem closeIfCallable_ends (kernel : Kernel Exc) (error : Raised Exc)
    (acquiring : Acquiring number (some primary) listener (some false) world) :
    Ends (closeIfCallable kernel error) world fun result next =>
      match result with
      | .ok () => Acquiring number (some primary) listener (some true) next
      | .error _ => Acquiring number (some primary) listener (some false) next ∧
          (kernel.hasClose = true → kernel.answers .closeChannel ≠ none) := by
  unfold closeIfCallable
  split
  · refine (closeRaw_ends kernel acquiring).mono fun result next ended => ?_
    cases result with
    | ok => exact ended
    | error error => exact ⟨ended.1, fun _ => ended.2⟩
  · rename_i uncallable
    rw [ends_settle]
    exact ⟨acquiring.noteLater _ _, fun callable => absurd callable uncallable⟩

end Acquiring

section Stages

structure Fails (number : Nat) (ending : Ending Exc) (world : World Exc) : Prop where
  consistent : Consistent number world.active (Record.of world.startup (.error ending))
  own : ∀ invocation, world.active = some invocation → Invocation.number invocation = number

/-- A part of `_bind_and_schedule`, from a state, returns as `good` says or fails. -/
def Stage {Value : Type} (number : Nat) (good : Value → World Exc → Prop)
    (code : Starting Exc (Ending Exc) Value) (world : World Exc) : Prop :=
  Ends code world fun result next =>
    match result with
    | .ok value => good value next
    | .error ending => Fails number ending next

variable {Value : Type} {number : Nat} {listener channel : Option Bool} {world : World Exc}
  {kernel : Kernel Exc} {primary : Raised Exc} {good : Value → World Exc → Prop}
  {code : Starting Exc (Ending Exc) Value}

def Raises (number : Nat) (code : Starting Exc (Ending Exc) Value) (world : World Exc) :
    Prop :=
  Ends code world fun result next => ∃ ending, result = .error ending ∧ Fails number ending next

theorem Raises.stage (raises : Raises number code world) : Stage number good code world := by
  refine Ends.mono raises fun result next => ?_
  rintro ⟨ending, rfl, fails⟩
  exact fails

theorem Acquiring.isOpen {failure : Option (Raised Exc)}
    (acquiring : Acquiring number failure listener channel world) :
    world.startup.isOpen .listener = (listener == some false) ∧
      world.startup.isOpen .channel = (channel == some false) ∧
        world.startup.cancelling = false := by
  unfold Startup.isOpen Startup.cancelling
  rw [acquiring.handle, acquiring.listener, acquiring.channel]
  exact ⟨rfl, rfl, rfl⟩

theorem complete_eq_clear {startup : Startup Exc} {transaction : Cleanups Exc} {waker : Cleanup}
    (cancelling : startup.cancelling = false)
    (pending : transaction.pendingActions = leftActions startup waker) :
    transaction.complete = startup.clear := by
  rw [Bool.eq_iff_iff, complete_iff, pending, clear_iff, cancelling]
  unfold leftActions
  cases startup.isOpen .channel <;> cases startup.isOpen .listener <;> simp

theorem Acquiring.release_consistent
    (acquiring : Acquiring number (some primary) listener channel world)
    (clear : world.startup.clear = true) (result : Result Exc)
    (same : result.error = some primary) (owner : Option (Owner (Raised Exc)))
    (owning : ∀ own ∈ owner, Owning world.startup own) :
    (world.release (.marker world.startup.number)).active = none ∧
      Consistent number (world.release (.marker world.startup.number)).active {
        startup := (world.release (.marker world.startup.number)).startup
        result := result
        owner := owner } := by
  have active : world.active = some (.marker world.startup.number) := by
    rw [acquiring.active, acquiring.number]
  have released : world.release (.marker world.startup.number) =
      { active := none
        startup := { world.startup with releases := world.startup.releases + 1 } } :=
    if_pos active
  rw [released]
  refine ⟨rfl, ?_⟩
  exact {
    number := acquiring.number
    truthful := same ▸ acquiring.log
    held := by
      refine ⟨fun unclear => ?_, nofun⟩
      exact absurd (clear.symm.trans unclear) nofun
    mine := nofun
    released := by
      change world.startup.releases + 1 =
        if world.startup.reserved && world.startup.clear then 1 else 0
      rw [clear, acquiring.reserved, acquiring.releases]
      rfl
    acquired := fun _ => clear
    ended := by
      intro handle there
      exact absurd (acquiring.handle.symm.trans there) nofun
    tasks := fun _ => acquiring.tasks
    owning := by
      cases owner with
      | none => exact .inl clear
      | some own => exact ⟨owning own rfl, by rw [same]; rfl⟩ }

theorem Acquiring.keep_consistent
    (acquiring : Acquiring number (some primary) listener channel world)
    (unclear : world.startup.clear = false) (result : Result Exc)
    (same : result.error = some primary) {owner : Owner (Raised Exc)}
    (owning : Owning world.startup owner) :
    Consistent number world.active {
      startup := world.startup
      result := result
      owner := some owner } where
  number := acquiring.number
  truthful := same ▸ acquiring.log
  held := by
    refine ⟨fun _ => ?_, fun _ => unclear⟩
    unfold Startup.slot
    rw [acquiring.handle, acquiring.active, acquiring.number]
    rfl
  mine := by
    intro invocation active _
    cases acquiring.active.symm.trans active
    unfold Startup.slot
    rw [acquiring.handle, acquiring.number]
    rfl
  released := by
    dsimp only
    rw [unclear, Bool.and_false, acquiring.releases]
    rfl
  acquired := fun unreserved => absurd (acquiring.reserved.symm.trans unreserved) nofun
  ended := by
    intro handle there
    exact absurd (acquiring.handle.symm.trans there) nofun
  tasks := fun _ => acquiring.tasks
  owning := ⟨owning, by rw [same]; rfl⟩

theorem releaseAndRaise_raises
    (acquiring : Acquiring number (some primary) listener channel world)
    (noListener : listener ≠ some false) (noChannel : channel ≠ some false) :
    Raises number (releaseAndRaise primary : Starting Exc (Ending Exc) Value) world := by
  obtain ⟨listening, waking, cancelling⟩ := acquiring.isOpen
  have clear : world.startup.clear = true :=
    clear_iff.mpr ⟨listening.trans (beq_false_of_ne noListener),
      waking.trans (beq_false_of_ne noChannel), cancelling⟩
  obtain ⟨free, consistent⟩ :=
    acquiring.release_consistent clear (.raised primary) rfl none nofun
  unfold Raises releaseAndRaise releaseMarker
  rw [ends_bind, ends_modify, ends_raise]
  refine ⟨_, rfl, consistent, fun invocation active => ?_⟩
  exact absurd (free.symm.trans active) nofun

theorem raiseAcquisitionCleanup_raises (kernel : Kernel Exc) {transaction : Cleanups Exc}
    {waker : Cleanup} (acquiring : Acquiring number (some primary) listener channel world)
    (kind : waker = .channel ∨ waker = .rawChannel)
    (pending : transaction.pendingActions = leftActions world.startup waker)
    (incomplete : transaction.complete = false) :
    Raises number (raiseAcquisitionCleanup kernel primary transaction :
      Starting Exc (Ending Exc) Value) world := by
  have unclear : world.startup.clear = false :=
    (complete_eq_clear acquiring.isOpen.2.2 pending).symm.trans incomplete
  have owning : Owning world.startup
      { transaction := transaction, onCleanupComplete := true } := by
    unfold Owning
    rw [acquiring.handle]
    exact ⟨waker, kind, pending, incomplete.symm, by rw [incomplete]; rfl⟩
  have own : ∀ invocation, world.active = some invocation →
      Invocation.number invocation = number := by
    intro invocation active
    cases acquiring.active.symm.trans active
    rfl
  unfold Raises raiseAcquisitionCleanup raiseStartupCleanup
  dsimp only
  rw [ends_ite]
  split
  · rw [ends_raise]
    exact ⟨_, rfl, acquiring.keep_consistent unclear (.interrupted primary) rfl owning, own⟩
  · rw [ends_raise]
    exact ⟨_, rfl, acquiring.keep_consistent unclear (.startupError primary) rfl owning, own⟩

theorem addCleanup_pending (transaction : Cleanups Exc) (name : String) (cleanup : Cleanup)
    (error : Raised Exc) : (addCleanup transaction name cleanup error).pendingActions =
      transaction.pendingActions ++ [cleanup.number] :=
  add_pendingActions transaction name.toList cleanup.number (some error)

theorem addCleanup_incomplete (transaction : Cleanups Exc) (name : String) (cleanup : Cleanup)
    (error : Raised Exc) : (addCleanup transaction name cleanup error).complete = false := by
  rw [Bool.eq_false_iff, ne_eq, complete_iff, addCleanup_pending]
  exact List.append_ne_nil_of_right_ne_nil _ nofun

theorem Acquiring.left {failure : Option (Raised Exc)}
    (acquiring : Acquiring number failure listener channel world) (waker : Cleanup) :
    leftActions world.startup waker =
      (if channel == some false then [waker.number] else []) ++
        (if listener == some false then [Cleanup.listener.number] else []) := by
  unfold leftActions
  rw [acquiring.isOpen.1, acquiring.isOpen.2.1]

/-- `open_listener` acquires a listener, or closes what it has acquired, or hands it on. -/
theorem openListener_ends (kernel : Kernel Exc)
    (acquiring : Acquiring number none none channel world) :
    Ends (openListener kernel) world fun result next =>
      match result with
      | .ok () => Acquiring number none (some false) channel next
      | .error (.error primary) => ∃ listener, listener ≠ some false ∧
          Acquiring number (some primary) listener channel next
      | .error (.failure primary transaction) =>
          Acquiring number (some primary) (some false) channel next ∧
            transaction.pendingActions = [Cleanup.listener.number] := by
  have prepares : Attempts number (some false) channel (do
      perform kernel .setReuseAddress
      perform kernel .socketBind
      perform kernel .socketListen
      perform kernel .setBlocking) :=
    (attempts_settle rfl _).andThen ((attempts_settle rfl _).andThen
      ((attempts_settle rfl _).andThen (attempts_settle rfl _)))
  unfold openListener
  rw [ends_bind, ends_tryExcept]
  refine (attempts_settle rfl _ world acquiring).mono fun resolved first ended => ?_
  cases resolved with
  | error error => exact ⟨none, nofun, ended⟩
  | ok =>
      dsimp only at ended ⊢
      rw [ends_bind, ends_tryExcept]
      refine (attempts_settle rfl _ first ended).mono fun opened second ended => ?_
      cases opened with
      | error error => exact ⟨none, nofun, ended⟩
      | ok =>
          dsimp only at ended ⊢
          rw [ends_bind, ends_modify]
          dsimp only
          rw [ends_tryExcept]
          have acquired : Acquiring number none (some false) channel
              (second.update fun startup => { startup with listener := some false }) :=
            { ended with listener := rfl }
          refine (prepares _ acquired).mono fun prepared third ended => ?_
          cases prepared with
          | ok => exact ended
          | error primary =>
              dsimp only at ended ⊢
              rw [ends_bind, ends_tryExcept]
              refine (closeListener_ends kernel ended).mono fun closed last ended => ?_
              cases closed with
              | ok => exact ⟨some true, nofun, ended⟩
              | error error =>
                  exact ⟨ended.1, addCleanup_pending {} "listener" .listener error⟩

theorem acquireListener_stage (kernel : Kernel Exc)
    (acquiring : Acquiring number none none none world) :
    Stage number (fun _ => Acquiring number none (some false) none) (acquireListener kernel)
      world := by
  unfold Stage acquireListener
  rw [ends_tryExcept]
  refine (openListener_ends kernel acquiring).mono fun result next ended => ?_
  cases result with
  | ok => exact ended
  | error raised =>
      cases raised with
      | error primary =>
          obtain ⟨listener, closed, failed⟩ := ended
          exact (releaseAndRaise_raises failed closed nofun).stage
      | failure primary transaction =>
          obtain ⟨failed, pending⟩ := ended
          have left : transaction.pendingActions = leftActions next.startup .rawChannel :=
            pending.trans (failed.left .rawChannel).symm
          refine (raiseAcquisitionCleanup_raises kernel failed (.inr rfl) left ?_).stage
          rw [Bool.eq_false_iff, ne_eq, complete_iff, pending]
          exact nofun

/-- `create_wakeup_channel` acquires a channel if it is supported, or closes what it has
acquired, or hands it on. -/
theorem createWakeupChannel_ends (kernel : Kernel Exc)
    (acquiring : Acquiring number none listener none world) :
    Ends (createWakeupChannel kernel) world fun result next =>
      match result with
      | .ok hasWakeup => hasWakeup = kernel.supportsWakeupChannel ∧
          Acquiring number none listener (if hasWakeup then some false else none) next
      | .error (.error primary) => ∃ channel, channel ≠ some false ∧
          Acquiring number (some primary) listener channel next
      | .error (.failure primary transaction) =>
          Acquiring number (some primary) listener (some false) next ∧
            transaction.pendingActions = [Cleanup.rawChannel.number] := by
  have validates : Attempts number listener (some false) (validateChannel kernel) :=
    (attempts_settle rfl _).andThen ((attempts_settle rfl _).andThen (attempts_settle rfl _))
  unfold createWakeupChannel
  split
  · rename_i supported
    rw [ends_bind, ends_tryExcept]
    refine (attempts_settle rfl _ world acquiring).mono fun created first ended => ?_
    cases created with
    | error error => exact ⟨none, nofun, ended⟩
    | ok =>
        dsimp only at ended ⊢
        rw [ends_bind, ends_modify]
        dsimp only
        rw [ends_bind, ends_tryExcept]
        have acquired : Acquiring number none listener (some false)
            (first.update fun startup => { startup with channel := some false }) :=
          { ended with channel := rfl }
        refine (validates _ acquired).mono fun valid second ended => ?_
        cases valid with
        | ok => exact ⟨supported.symm, ended⟩
        | error primary =>
            dsimp only at ended ⊢
            rw [ends_bind, ends_tryExcept]
            refine (closeIfCallable_ends kernel _ ended).mono fun closed last ended => ?_
            cases closed with
            | ok => exact ⟨some true, nofun, ended⟩
            | error error =>
                exact ⟨ended.1, addCleanup_pending {} "wakeup" .rawChannel error⟩
  · rename_i unsupported
    exact ⟨(Bool.not_eq_true _ ▸ unsupported : _ = false).symm, acquiring⟩

theorem closeOrAdd_ends {close : Starting Exc (Raised Exc) Unit} {closed failed : World Exc → Prop}
    (closes : Ends close world fun result next =>
      match result with
      | .ok () => closed next
      | .error _ => failed next)
    (name : String) (cleanup : Cleanup) (transaction : Cleanups Exc) :
    Ends (closeOrAdd close name cleanup transaction) world fun result next =>
      match result with
      | .ok noted => noted = transaction ∧ closed next ∨
          noted.pendingActions = transaction.pendingActions ++ [cleanup.number] ∧ failed next
      | .error _ => False := by
  unfold closeOrAdd
  rw [ends_tryExcept, ends_bind]
  refine closes.mono fun result next ended => ?_
  cases result with
  | ok => exact .inl ⟨rfl, ended⟩
  | error error => exact .inr ⟨addCleanup_pending transaction name cleanup error, ended⟩

theorem closeOrAdd_listener (kernel : Kernel Exc) (transaction : Cleanups Exc)
    (acquiring : Acquiring number (some primary) (some false) channel world) :
    Ends (closeOrAdd (closeListener kernel) "listener" .listener transaction) world
      fun result next =>
        match result with
        | .ok noted => ∃ listener, Acquiring number (some primary) listener channel next ∧
            noted.pendingActions = transaction.pendingActions ++
              if listener == some false then [Cleanup.listener.number] else []
        | .error _ => False := by
  refine (closeOrAdd_ends (closeListener_ends kernel acquiring) "listener" .listener
    transaction).mono fun result next ended => ?_
  cases result with
  | error raised => exact ended
  | ok noted =>
      rcases ended with ⟨rfl, closed⟩ | ⟨pending, failed, -⟩
      · exact ⟨some true, closed, (List.append_nil _).symm⟩
      · exact ⟨some false, failed, pending⟩

theorem acquireChannel_stage (kernel : Kernel Exc)
    (acquiring : Acquiring number none (some false) none world) :
    Stage number (fun hasWakeup next => hasWakeup = kernel.supportsWakeupChannel ∧
        Acquiring number none (some false) (if hasWakeup then some false else none) next)
      (acquireChannel kernel) world := by
  unfold Stage acquireChannel
  rw [ends_tryExcept]
  refine (createWakeupChannel_ends kernel acquiring).mono fun result next ended => ?_
  cases result with
  | ok => exact ended
  | error raised =>
      cases raised with
      | error primary =>
          obtain ⟨channel, closed, failed⟩ := ended
          dsimp only
          rw [ends_bind, ends_tryExcept]
          refine (closeListener_ends kernel failed).mono fun result last ended => ?_
          cases result with
          | ok => exact (releaseAndRaise_raises ended nofun closed).stage
          | error error =>
              have left : (addCleanup {} "listener" .listener error).pendingActions =
                  leftActions last.startup .channel := by
                rw [addCleanup_pending, ended.1.left, beq_false_of_ne closed]
                rfl
              have raises : Raises number (_ : Starting Exc (Ending Exc) Unit) last :=
                raiseAcquisitionCleanup_raises kernel ended.1 (.inl rfl) left
                  (addCleanup_incomplete _ _ _ _)
              refine Ends.mono raises ?_
              rintro _ next ⟨ending, rfl, fails⟩
              exact fails
      | failure primary transaction =>
          obtain ⟨failed, pending⟩ := ended
          dsimp only
          rw [ends_bind]
          refine (closeOrAdd_listener kernel transaction failed).mono fun result last ended => ?_
          cases result with
          | error raised => exact ended.elim
          | ok noted =>
              obtain ⟨listener, failed, added⟩ := ended
              have left : noted.pendingActions = leftActions last.startup .rawChannel := by
                rw [added, pending, failed.left]
                rfl
              refine (raiseAcquisitionCleanup_raises kernel failed (.inr rfl) left ?_).stage
              rw [Bool.eq_false_iff, ne_eq, complete_iff, added, pending]
              exact nofun

theorem closeOrAdd_channel (kernel : Kernel Exc)
    (acquiring : Acquiring number (some primary) listener (some false) world) :
    Ends (closeOrAdd (closeChannel kernel) "wakeup" .channel {}) world
      fun result next =>
        match result with
        | .ok noted => ∃ channel, Acquiring number (some primary) listener channel next ∧
            noted.pendingActions =
              if channel == some false then [Cleanup.channel.number] else []
        | .error _ => False := by
  refine (closeOrAdd_ends (closeChannel_ends kernel acquiring) "wakeup" .channel
    {}).mono fun result next ended => ?_
  cases result with
  | error raised => exact ended
  | ok noted =>
      rcases ended with ⟨rfl, closed⟩ | ⟨pending, failed, -⟩
      · exact ⟨some true, closed, rfl⟩
      · exact ⟨some false, failed, pending⟩

structure Transferring (number : Nat) (handle : ServerHandle) (world : World Exc) : Prop where
  active : world.active = some (.marker number)
  number : world.startup.number = number
  handle : world.startup.handle = some handle
  tasks : world.startup.tasks = []
  reserved : world.startup.reserved = true
  releases : world.startup.releases = 0
  log : Shows none world.startup.log

theorem constructHandle_ends (kernel : Kernel Exc) (arguments : Arguments) (hasWakeup : Bool)
    (acquiring : Acquiring number none listener channel world) :
    Ends (constructHandle kernel arguments hasWakeup) world fun result next =>
      match result with
      | .ok () => Transferring number
          { maxConnections := arguments.maxConnections, hasWakeup } next
      | .error error => Acquiring number (some error) listener channel next := by
  have addresses : ∀ world, Acquiring number none listener channel world →
      Ends (do
        settle .localAddress
          (((kernel.answers .localAddress).map .external).or (addressError kernel.localAddress))
        modify fun world => world.update fun startup => { startup with
          handle := some { maxConnections := arguments.maxConnections, hasWakeup } }) world
      fun result next =>
        match result with
        | .ok () => Transferring number
            { maxConnections := arguments.maxConnections, hasWakeup } next
        | .error error => Acquiring number (some error) listener channel next := by
    intro world acquiring
    rw [ends_bind]
    refine (attempts_settle rfl _ world acquiring).mono fun result next ended => ?_
    cases result with
    | error error => exact ended
    | ok => exact { ended with handle := rfl }
  unfold constructHandle
  split
  · rw [ends_bind]
    refine (attempts_settle rfl _ world acquiring).mono fun result next ended => ?_
    cases result with
    | error error => exact ended
    | ok => exact addresses next ended
  · exact addresses world acquiring

theorem rollback_raises (kernel : Kernel Exc) {hasWakeup : Bool}
    (acquiring : Acquiring number (some primary) (some false)
      (if hasWakeup then some false else none) world) :
    Raises number (rollback kernel hasWakeup primary) world := by
  -- the channel goes first, as far as there is one
  have first : Ends (closeWakeupOrAdd kernel hasWakeup) world fun result next =>
      match result with
      | .ok noted => ∃ channel, Acquiring number (some primary) (some false) channel next ∧
          noted.pendingActions = if channel == some false then [Cleanup.channel.number] else []
      | .error _ => False := by
    cases hasWakeup with
    | true => exact closeOrAdd_channel kernel acquiring
    | false => exact ⟨none, acquiring, rfl⟩
  unfold Raises rollback
  rw [ends_bind]
  refine Ends.mono first fun result next ended => ?_
  cases result with
  | error raised => exact ended.elim
  | ok noted =>
      obtain ⟨channel, failed, pending⟩ := ended
      dsimp only
      rw [ends_bind]
      refine (closeOrAdd_listener kernel noted failed).mono fun result last ended => ?_
      cases result with
      | error raised => exact ended.elim
      | ok noted =>
          obtain ⟨listener, failed, added⟩ := ended
          have left : noted.pendingActions = leftActions last.startup .channel := by
            rw [added, pending, failed.left]
          dsimp only
          rw [ends_ite]
          split
          · rename_i complete
            rw [complete_eq_clear failed.isOpen.2.2 left, clear_iff, failed.isOpen.1,
              failed.isOpen.2.1] at complete
            exact releaseAndRaise_raises failed (ne_of_beq_false complete.1)
              (ne_of_beq_false complete.2.1)
          · rename_i incomplete
            exact raiseAcquisitionCleanup_raises kernel failed (.inl rfl) left
              (Bool.eq_false_iff.mpr incomplete)

theorem transferToHandle_stage (kernel : Kernel Exc) (arguments : Arguments) {hasWakeup : Bool}
    (acquiring : Acquiring number none (some false) (if hasWakeup then some false else none)
      world) :
    Stage number
      (fun _ => Transferring number { maxConnections := arguments.maxConnections, hasWakeup })
      (transferToHandle kernel arguments hasWakeup) world := by
  unfold Stage transferToHandle
  rw [ends_tryExcept]
  refine (constructHandle_ends kernel arguments hasWakeup acquiring).mono
    fun result next ended => ?_
  cases result with
  | ok => exact ended
  | error primary => exact (rollback_raises kernel ended).stage

end Stages

section Scheduling

variable {number : Nat} {failure : Option (Raised Exc)} {handle : ServerHandle}
  {tasks : List (TaskId × Routine)} {world : World Exc} {kernel : Kernel Exc}

structure Fresh (handle : ServerHandle) : Prop where
  idle : Idle handle
  unfinished : handle.finished = false
  listening : handle.listenerClosed = false

theorem fresh_new (maxConnections : Nat) (hasWakeup : Bool) :
    Fresh { maxConnections, hasWakeup } where
  idle := {
    unstarted := fun _ _ found => nomatch found
    connections := rfl
    closing := rfl
    sockets := rfl
    untold := rfl }
  unfinished := rfl
  listening := rfl

theorem Fresh.ownTask (fresh : Fresh handle) (routine : Routine) :
    Fresh (ownTask routine handle) :=
  { fresh with idle := { fresh.idle with } }

theorem Fresh.registerTasks (fresh : Fresh handle) (tasks : List (TaskId × Routine)) :
    Fresh (registerTasks tasks handle) := by
  have unstarted : ∀ live : OrderedDict TaskId Task,
      (∀ taskId task, live.lookup taskId = some task → task.started = false) →
        ∀ taskId task, (tasks.foldl (fun live entry =>
          live.set entry.1 { routine := entry.2 }) live).lookup taskId = some task →
            task.started = false := by
    induction tasks with
    | nil => exact fun _ kept => kept
    | cons entry tasks induction =>
        intro live kept
        refine induction _ fun taskId task found => ?_
        rw [OrderedDict.lookup_set_eq] at found
        split at found
        · cases found
          rfl
        · exact kept taskId task found
  exact { fresh with idle := { fresh.idle with
    unstarted := unstarted handle.live fresh.idle.unstarted } }

theorem Fresh.ended (fresh : Fresh handle) : Ended handle :=
  ⟨fresh.idle, .inl ⟨fresh.unfinished, fresh.listening⟩⟩

structure Scheduling (number : Nat) (failure : Option (Raised Exc)) (handle : ServerHandle)
    (tasks : List (TaskId × Routine)) (world : World Exc) : Prop where
  holding : Holding number failure handle world
  tasks : world.startup.tasks = tasks

theorem replaceInvocation_ends (transferring : Transferring number handle world) :
    Ends replaceInvocation world fun result next =>
      match result with
      | .ok () => Scheduling number none handle [] next
      | .error _ => False := by
  have active : world.active = some (.marker world.startup.number) := by
    rw [transferring.active, transferring.number]
  unfold replaceInvocation
  rw [ends_bind, ends_get]
  dsimp only
  rw [if_neg (not_not.mpr active), ends_bind, ends_settle]
  exact {
    holding := {
      active := congrArg (fun number => some (Invocation.handle number)) transferring.number
      number := transferring.number
      handle := transferring.handle
      reserved := transferring.reserved
      releases := transferring.releases
      log := transferring.log.ok .replaceInvocation }
    tasks := transferring.tasks }

theorem Scheduling.perform {operation : Operation} (noCleanup : operation.isCleanup = false)
    (scheduling : Scheduling number none handle tasks world) :
    Ends (perform kernel operation) world fun result next =>
      match result with
      | .ok () => Scheduling number none handle tasks next
      | .error error => Scheduling number (some error) handle tasks next := by
  unfold ServerStartup.perform
  rw [ends_settle]
  cases (kernel.answers operation).map Raised.external with
  | none => exact ⟨{ scheduling.holding with log := scheduling.holding.log.ok operation },
      scheduling.tasks⟩
  | some error =>
      exact ⟨{ scheduling.holding with log := scheduling.holding.log.first noCleanup error },
        scheduling.tasks⟩

theorem constructTask_ends (routine : Routine)
    (scheduling : Scheduling number none handle tasks world) :
    Ends (constructTask kernel routine) world fun result next =>
      match result with
      | .ok () => Scheduling number none (ownTask routine handle)
          (tasks ++ [(handle.nextTask, routine)]) next
      | .error error => Scheduling number (some error) handle tasks next := by
  unfold constructTask
  rw [ends_bind]
  refine (scheduling.perform rfl).mono fun result next ended => ?_
  cases result with
  | error error => exact ended
  | ok =>
      dsimp only
      rw [ends_modify]
      have there := ended.holding.handle
      unfold World.update
      dsimp only
      rw [there]
      exact ⟨{ ended.holding with handle := rfl }, congrArg (· ++ _) ended.tasks⟩

def withTask (present : Bool) (routine : Routine) (handle : ServerHandle)
    (tasks : List (TaskId × Routine)) : ServerHandle × List (TaskId × Routine) :=
  if present then (ownTask routine handle, tasks ++ [(handle.nextTask, routine)])
  else (handle, tasks)

theorem constructTaskIf_ends (present : Bool) (routine : Routine)
    (scheduling : Scheduling number none handle tasks world) :
    Ends (constructTaskIf kernel present routine) world fun result next =>
      match result with
      | .ok () => Scheduling number none (withTask present routine handle tasks).1
          (withTask present routine handle tasks).2 next
      | .error error => Scheduling number (some error) handle tasks next := by
  cases present with
  | true => exact constructTask_ends routine scheduling
  | false => exact scheduling

theorem Fresh.withTask (fresh : Fresh handle) (present : Bool) (routine : Routine)
    (tasks : List (TaskId × Routine)) : Fresh (withTask present routine handle tasks).1 := by
  cases present with
  | true => exact fresh.ownTask routine
  | false => exact fresh

theorem forkTasks_ends (scheduling : Scheduling number none handle tasks world) :
    Ends (forkTasks kernel) world fun result next =>
      match result with
      | .ok () => Holding number none (registerTasks tasks handle) next
      | .error error => ∃ registered,
          Holding number (some error) (registerTasks registered handle) next := by
  unfold forkTasks ServerStartup.perform
  rw [ends_bind, ends_modify]
  dsimp only
  rw [ends_settle]
  have there := scheduling.holding.handle
  cases kernel.answers .fork with
  | none =>
      refine { scheduling.holding with handle := ?_, log := scheduling.holding.log.ok .fork }
      change world.startup.handle.map (registerTasks world.startup.tasks) = _
      rw [there, scheduling.tasks]
      rfl
  | some error =>
      refine ⟨tasks.take kernel.registered, { scheduling.holding with
        handle := ?_
        log := scheduling.holding.log.first rfl (.external error) }⟩
      change world.startup.handle.map
        (registerTasks (world.startup.tasks.take kernel.registered)) = _
      rw [there, scheduling.tasks]
      rfl

def withTasks (hasWakeup hasObserver : Bool) (handle : ServerHandle) :
    ServerHandle × List (TaskId × Routine) :=
  let first := withTask true .acceptLoop handle []
  let second := withTask hasWakeup .closeWatcher first.1 first.2
  withTask hasObserver .routeObserver second.1 second.2

theorem scheduleTasks_ends (arguments : Arguments) (hasWakeup : Bool) (fresh : Fresh handle)
    (scheduling : Scheduling number none handle [] world) :
    Ends (scheduleTasks kernel arguments hasWakeup) world fun result next =>
      match result with
      | .ok () => Holding number none
          (registerTasks (withTasks hasWakeup arguments.hasObserver handle).2
            (withTasks hasWakeup arguments.hasObserver handle).1) next
      | .error error => ∃ handle, Fresh handle ∧ Holding number (some error) handle next := by
  unfold scheduleTasks
  rw [ends_bind]
  refine (constructTask_ends .acceptLoop scheduling).mono fun result first ended => ?_
  have firstFresh := fresh.withTask true .acceptLoop []
  cases result with
  | error error => exact ⟨handle, fresh, ended.holding⟩
  | ok =>
      dsimp only
      rw [ends_bind]
      refine (constructTaskIf_ends hasWakeup .closeWatcher ended).mono
        fun result second ended => ?_
      have secondFresh := firstFresh.withTask hasWakeup .closeWatcher
        (withTask true .acceptLoop handle []).2
      cases result with
      | error error => exact ⟨_, firstFresh, ended.holding⟩
      | ok =>
          dsimp only
          rw [ends_bind]
          refine (constructTaskIf_ends arguments.hasObserver .routeObserver ended).mono
            fun result third ended => ?_
          cases result with
          | error error => exact ⟨_, secondFresh, ended.holding⟩
          | ok =>
              refine (forkTasks_ends ended).mono fun result last ended => ?_
              cases result with
              | ok => exact ended
              | error error =>
                  obtain ⟨registered, holding⟩ := ended
                  have thirdFresh := secondFresh.withTask arguments.hasObserver .routeObserver
                    (withTask hasWakeup .closeWatcher (ownTask .acceptLoop handle)
                      [(handle.nextTask, .acceptLoop)]).2
                  exact ⟨_, thirdFresh.registerTasks registered, holding⟩

/-- What a startup that is aborted has left goes to the error that is raised. -/
theorem abort_raises (kernel : Kernel Exc) {primary : Raised Exc} (fresh : Fresh handle)
    (holding : Holding number (some primary) handle world) :
    Raises number (abort kernel primary) world := by
  let call := abortStartup kernel.server (world.startup.tasks.map Prod.fst)
  have finishes : Finishes handle (call handle) :=
    abort_finishes kernel.server _ fresh.idle fresh.unfinished
  have there : (world.callHandle call).startup.handle = some (call handle) := by
    rw [holding.callHandle finishes]
    split <;> rfl
  have own : ∀ invocation, (world.callHandle call).active = some invocation →
      Invocation.number invocation = number := by
    intro invocation active
    rw [holding.callHandle finishes] at active
    split at active
    · cases active
    · cases holding.active.symm.trans active
      rfl
  have consistent := fun result same owner => holding.finished_consistent finishes result same owner
  unfold Raises abort
  rw [ends_bind, ends_modify]
  dsimp only
  rw [ends_bind, ends_get]
  dsimp only
  rw [there]
  dsimp only
  rw [ends_ite]
  split
  · rename_i finished
    rw [ends_raise]
    refine ⟨_, rfl, consistent (.raised primary) rfl none nofun nofun fun _ unfinished => ?_, own⟩
    exact absurd (finished.symm.trans unfinished) nofun
  · rename_i unfinished
    have owning : ∀ owner : Owner (Raised Exc),
        owner = { transaction := handleCleanupTransaction (call handle)
                  onCleanupComplete := false } →
          owner.onCleanupComplete = false ∧ owner.transaction.pendingActions =
            if (call handle).finished then [] else [Cleanup.server.number] := by
      rintro _ rfl
      rw [if_neg unfinished]
      exact ⟨rfl, addCleanup_pending {} "server" .server _⟩
    unfold raiseStartupCleanup
    dsimp only
    rw [ends_ite]
    split
    · rw [ends_raise]
      exact ⟨_, rfl, consistent (.interrupted primary) rfl (some _)
        (fun owner same => owning owner (Option.some.inj same).symm) (fun _ => rfl) nofun, own⟩
    · rw [ends_raise]
      exact ⟨_, rfl, consistent (.startupError primary) rfl (some _)
        (fun owner same => owning owner (Option.some.inj same).symm) (fun _ => rfl) nofun, own⟩

theorem schedule_stage (kernel : Kernel Exc) (arguments : Arguments) (hasWakeup : Bool)
    (fresh : Fresh handle) (scheduling : Scheduling number none handle [] world) :
    Stage number (fun _ => Holding number none
        (registerTasks (withTasks hasWakeup arguments.hasObserver handle).2
          (withTasks hasWakeup arguments.hasObserver handle).1))
      (schedule kernel arguments hasWakeup) world := by
  unfold Stage schedule
  rw [ends_tryExcept]
  refine (scheduleTasks_ends arguments hasWakeup fresh scheduling).mono
    fun result next ended => ?_
  cases result with
  | ok => exact ended
  | error primary =>
      obtain ⟨handle, fresh, holding⟩ := ended
      exact (abort_raises kernel fresh holding).stage

theorem fresh_scheduled (maxConnections : Nat) (hasWakeup hasObserver : Bool) :
    Fresh (registerTasks (withTasks hasWakeup hasObserver { maxConnections, hasWakeup }).2
      (withTasks hasWakeup hasObserver { maxConnections, hasWakeup }).1) :=
  ((((fresh_new maxConnections hasWakeup).withTask true .acceptLoop _).withTask _ _ _).withTask
    _ _ _).registerTasks _

/-- The handle that is returned is the one whose runs are those of a server. -/
theorem withTasks_scheduled (maxConnections : Nat) (hasWakeup hasObserver : Bool) :
    registerTasks (withTasks hasWakeup hasObserver { maxConnections, hasWakeup }).2
        (withTasks hasWakeup hasObserver { maxConnections, hasWakeup }).1 =
      scheduled maxConnections hasWakeup hasObserver := by
  cases hasWakeup <;> cases hasObserver <;> rfl

end Scheduling

section Binding

variable {number : Nat} {before : Option Invocation} {world : World Exc} {kernel : Kernel Exc}
  {arguments : Arguments}

structure Bound (number : Nat) (before : Option Invocation)
    (result : Except (Ending Exc) Unit) (world : World Exc) : Prop where
  consistent : Consistent number world.active (Record.of world.startup result)
  own : Own number before world.active

theorem Fails.bound {ending : Ending Exc} (fails : Fails number ending world) :
    Bound number none (.error ending) world where
  consistent := fails.consistent
  own := fun invocation other =>
    ⟨nofun, fun active => absurd (fails.own invocation active) other⟩

structure Checking (number : Nat) (before : Option Invocation) (failure : Option (Raised Exc))
    (world : World Exc) : Prop where
  active : world.active = before
  startup : ∃ log, world.startup = { number, log } ∧ Shows failure log

theorem Checking.note {operation : Operation} (noCleanup : operation.isCleanup = false)
    (checking : Checking number before none world) (failure : Option (Raised Exc)) :
    Checking number before failure (note world operation failure) := by
  obtain ⟨log, startup, shown⟩ := checking.startup
  refine ⟨checking.active, log ++ [(operation, failure)], ?_, ?_⟩
  · unfold StartupStages.note World.update
    rw [startup]
  · cases failure with
    | none => exact shown.ok operation
    | some error => exact shown.first noCleanup error

theorem Checking.settle {operation : Operation} {failure : Option (Raised Exc)}
    (noCleanup : operation.isCleanup = false) (checking : Checking number before none world) :
    Ends (settle operation failure) world fun result next =>
      match result with
      | .ok () => Checking number before none next
      | .error error => Checking number before (some error) next := by
  rw [ends_settle]
  cases failure with
  | none => exact checking.note noCleanup none
  | some error => exact checking.note noCleanup (some error)

theorem Checking.bound {error : Raised Exc}
    (apart : ∀ invocation, before = some invocation → Invocation.number invocation ≠ number)
    (checking : Checking number before (some error) world) :
    Bound number before (.error (.error error)) world := by
  obtain ⟨log, startup, shown⟩ := checking.startup
  have clear : world.startup.clear = true := by
    rw [startup]
    rfl
  refine ⟨?_, fun _ _ => by rw [checking.active]⟩
  exact {
    number := by
      change world.startup.number = number
      rw [startup]
    truthful := by
      change Shows (some error) world.startup.log
      rw [startup]
      exact shown
    held := by
      refine ⟨fun unclear => absurd (clear.symm.trans unclear) nofun, fun active => ?_⟩
      change world.active = some world.startup.slot at active
      rw [checking.active] at active
      refine absurd ?_ (apart _ active)
      rw [startup]
      rfl
    mine := by
      intro invocation active same
      rw [checking.active] at active
      exact absurd same (apart invocation active)
    released := by
      change world.startup.releases = if world.startup.reserved && world.startup.clear then 1 else 0
      rw [startup]
      rfl
    acquired := fun _ => clear
    ended := by
      intro handle there
      change handle ∈ world.startup.handle at there
      rw [startup] at there
      cases there
    tasks := by
      intro _
      change world.startup.tasks = []
      rw [startup]
    owning := .inl clear }

theorem reserveInvocation_ends (checking : Checking number before none world) :
    Ends reserveInvocation world fun result next =>
      match result with
      | .ok () => before = none ∧ Acquiring number none none none next
      | .error error => Checking number before (some error) next := by
  unfold reserveInvocation
  rw [ends_bind, ends_get]
  dsimp only
  rw [checking.active, ends_ite]
  split
  · rw [ends_settle]
    exact checking.note rfl _
  · rename_i free
    rw [Option.not_isSome_iff_eq_none] at free
    rw [ends_bind, ends_settle]
    have noted : Checking number before none (note world .reserveInvocation none) :=
      checking.note rfl none
    obtain ⟨log, startup, shown⟩ := noted.startup
    dsimp only
    rw [ends_modify]
    refine ⟨free, ?_⟩
    unfold World.update
    dsimp only
    rw [startup]
    exact {
      active := rfl
      number := rfl
      listener := rfl
      channel := rfl
      handle := rfl
      tasks := rfl
      reserved := rfl
      releases := rfl
      log := shown }

theorem reserve_ends
    (apart : ∀ invocation, before = some invocation → Invocation.number invocation ≠ number)
    (checking : Checking number before none world) :
    Ends (reserve kernel arguments) world fun result next =>
      match result with
      | .ok () => before = none ∧ Acquiring number none none none next
      | .error ending => Bound number before (.error ending) next := by
  have requires : ∀ world, Checking number before none world →
      Ends (requireHttp2 kernel arguments) world fun result next =>
        match result with
        | .ok () => Checking number before none next
        | .error error => Checking number before (some error) next := by
    intro world checking
    unfold requireHttp2
    rw [ends_ite]
    split
    · exact checking.settle rfl
    · exact checking
  unfold reserve
  rw [ends_bind, ends_tryExcept, ends_bind]
  refine (checking.settle rfl).mono fun result first ended => ?_
  cases result with
  | error error => exact ended.bound apart
  | ok =>
      dsimp only
      rw [ends_bind]
      refine (requires first ended).mono fun result second ended => ?_
      cases result with
      | error error => exact ended.bound apart
      | ok =>
          refine (reserveInvocation_ends ended).mono fun result third ended => ?_
          cases result with
          | error error => exact ended.bound apart
          | ok =>
              obtain ⟨free, acquiring⟩ := ended
              dsimp only
              rw [ends_tryExcept]
              refine (attempts_settle rfl _ third acquiring).mono fun result last ended => ?_
              cases result with
              | ok => exact ⟨free, ended⟩
              | error error =>
                  rw [free]
                  refine Ends.mono (releaseAndRaise_raises ended nofun nofun) ?_
                  rintro _ next ⟨ending, rfl, fails⟩
                  exact fails.bound

theorem Holding.returned {handle : ServerHandle} (holding : Holding number none handle world)
    (fresh : Fresh handle) : Bound number none (.ok ()) world := by
  have unclear : world.startup.clear = false :=
    (clear_eq_finished holding.handle fresh.ended).trans fresh.unfinished
  have slot : world.active = some world.startup.slot := by
    unfold Startup.slot
    rw [holding.active, holding.handle, holding.number]
    rfl
  refine ⟨{
    number := holding.number
    truthful := holding.log
    held := ⟨fun _ => slot, fun _ => unclear⟩
    mine := fun invocation active _ => Option.some.inj (active.symm.trans slot)
    released := by
      change world.startup.releases = if world.startup.reserved && world.startup.clear then 1 else 0
      rw [unclear, Bool.and_false, holding.releases]
      rfl
    acquired := fun unreserved => absurd (holding.reserved.symm.trans unreserved) nofun
    ended := by
      intro other there
      cases holding.handle.symm.trans there
      exact fresh.ended
    tasks := fun none => absurd (holding.handle.symm.trans none) nofun
    owning := .inr ⟨rfl, congrArg Option.isSome holding.handle⟩ }, ?_⟩
  intro invocation other
  refine ⟨nofun, fun active => ?_⟩
  cases holding.active.symm.trans active
  exact absurd rfl other

theorem bindAndSchedule_ends
    (apart : ∀ invocation, before = some invocation → Invocation.number invocation ≠ number) :
    Ends (bindAndSchedule kernel arguments) { active := before, startup := { number } }
      fun result next => Bound number before result next ∧ (result = .ok () →
        next.startup.handle = some (scheduled arguments.maxConnections
          kernel.supportsWakeupChannel arguments.hasObserver)) := by
  have checking : Checking number before none
      ({ active := before, startup := { number } } : World Exc) := ⟨rfl, [], rfl, rfl⟩
  unfold bindAndSchedule
  rw [ends_bind]
  refine (reserve_ends apart checking).mono fun result next ended => ?_
  cases result with
  | error ending => exact ⟨ended, nofun⟩
  | ok =>
      obtain ⟨rfl, acquiring⟩ := ended
      dsimp only
      rw [ends_bind]
      refine Ends.mono (acquireListener_stage kernel acquiring) fun result next ended => ?_
      cases result with
      | error ending => exact ⟨ended.bound, nofun⟩
      | ok =>
          dsimp only
          rw [ends_bind]
          refine Ends.mono (acquireChannel_stage kernel ended) fun result next ended => ?_
          cases result with
          | error ending => exact ⟨ended.bound, nofun⟩
          | ok hasWakeup =>
              obtain ⟨supported, acquired⟩ := ended
              dsimp only
              rw [ends_bind]
              refine Ends.mono (transferToHandle_stage kernel arguments acquired)
                fun result next ended => ?_
              cases result with
              | error ending => exact ⟨ended.bound, nofun⟩
              | ok =>
                  dsimp only
                  rw [ends_bind, ends_tryExcept]
                  refine (replaceInvocation_ends ended).mono fun result next ended => ?_
                  cases result with
                  | error error => exact ended.elim
                  | ok =>
                      refine Ends.mono (schedule_stage kernel arguments hasWakeup (fresh_new _ _)
                        ended) fun result last ended => ?_
                      cases result with
                      | error ending => exact ⟨ended.bound, nofun⟩
                      | ok =>
                          refine ⟨ended.returned (fresh_scheduled _ _ _), fun _ => ?_⟩
                          rw [ended.handle, withTasks_scheduled, supported]

end Binding

section Left

variable {number : Nat} {active : Option Invocation} {record : Record Exc}
  {primary : Raised Exc} {handle : ServerHandle} {world : World Exc}

/-- An error whose acquisitions are left holds the invocation with its marker. -/
theorem Consistent.acquiring (consistent : Consistent number active record)
    (failed : record.result.error = some primary) (noHandle : record.startup.handle = none)
    (unclear : record.startup.clear = false) :
    Acquiring number (some primary) record.startup.listener record.startup.channel
      { active, startup := record.startup } where
  active := by
    rw [consistent.held.mp unclear]
    unfold Startup.slot
    rw [noHandle, consistent.number]
    rfl
  number := consistent.number
  listener := rfl
  channel := rfl
  handle := noHandle
  tasks := consistent.tasks noHandle
  reserved := by
    by_contra unreserved
    rw [Bool.not_eq_true] at unreserved
    exact absurd (unclear.symm.trans (consistent.acquired unreserved)) nofun
  releases := by
    rw [consistent.released, unclear, Bool.and_false]
    rfl
  log := by
    have truthful := consistent.truthful
    rw [failed] at truthful
    exact truthful

/-- A startup that has something left and a handle holds the invocation with its handle. -/
theorem Consistent.holding (consistent : Consistent number active record)
    (there : record.startup.handle = some handle)
    (unclear : record.startup.clear = false) :
    Holding number record.result.error handle { active, startup := record.startup } where
  active := by
    rw [consistent.held.mp unclear]
    unfold Startup.slot
    rw [there, consistent.number]
    rfl
  number := consistent.number
  handle := there
  reserved := by
    by_contra unreserved
    rw [Bool.not_eq_true] at unreserved
    exact absurd (unclear.symm.trans (consistent.acquired unreserved)) nofun
  releases := by
    rw [consistent.released, unclear, Bool.and_false]
    rfl
  log := consistent.truthful

theorem Holding.called {failure : Option (Raised Exc)}
    (holding : Holding number failure handle world) (call : ServerHandle → ServerHandle)
    (finishes : Finishes handle (call handle)) :
    (world.callHandle call).startup.handle = some (call handle) ∧
      Own number world.active (world.callHandle call).active := by
  rw [holding.callHandle finishes]
  split
  · refine ⟨rfl, fun invocation other => ?_⟩
    rw [holding.active]
    refine ⟨fun given => ?_, nofun⟩
    cases given
    exact absurd rfl other
  · exact ⟨rfl, fun _ _ => Iff.rfl⟩

theorem Consistent.other {other : Nat} {before after : Option Invocation}
    (consistent : Consistent other before record) (different : other ≠ number)
    (own : Own number before after) : Consistent other after record := by
  have same : before = some record.startup.slot ↔ after = some record.startup.slot := by
    refine own _ ?_
    have slot : Invocation.number record.startup.slot = record.startup.number := by
      unfold Startup.slot
      split <;> rfl
    rw [slot, consistent.number]
    exact different
  exact { consistent with
    held := consistent.held.trans same
    mine := fun invocation active known =>
      consistent.mine invocation ((own invocation (known ▸ different)).mpr active) known }

theorem Consistent.owns (consistent : Consistent number active record) {resource : Acquired}
    (left : record.startup.isOpen resource = true) : record.Owns resource := by
  have unclear : record.startup.clear = false := by
    rw [Bool.eq_false_iff, ne_eq, clear_iff]
    rintro ⟨listening, waking, -⟩
    cases resource with
    | listener => exact absurd (left.symm.trans listening) nofun
    | channel => exact absurd (left.symm.trans waking) nofun
  have owning := consistent.owning
  unfold Record.Owns
  cases raised : record.owner with
  | none =>
      rw [raised] at owning
      obtain ⟨returned, there⟩ := owning.resolve_left (by rw [unclear]; exact nofun)
      cases resource with
      | listener => exact ⟨returned, there⟩
      | channel =>
          refine ⟨returned, ?_⟩
          obtain ⟨handle, there⟩ := Option.isSome_iff_exists.mp there
          unfold Startup.isOpen at left
          rw [there] at left ⊢
          exact ⟨handle, rfl, (Bool.and_eq_true _ _ ▸ left).1⟩
  | some owner =>
      rw [raised] at owning
      have before := owning.1
      unfold Owning at before
      cases there : record.startup.handle with
      | none =>
          rw [there] at before
          obtain ⟨waker, kind, pending, -, -⟩ := before
          dsimp only
          rw [pending]
          unfold leftActions
          cases resource with
          | listener =>
              rw [left]
              exact .inl (List.mem_append_right _ List.mem_cons_self)
          | channel =>
              rw [left]
              rcases kind with rfl | rfl
              · exact .inl (List.mem_append_left _ List.mem_cons_self)
              · exact .inr (.inl (List.mem_append_left _ List.mem_cons_self))
      | some handle =>
          rw [there] at before
          have unfinished : handle.finished = false :=
            (clear_eq_finished there (consistent.ended handle there)).symm.trans unclear
          have pending := before.2.2
          rw [unfinished, if_neg Bool.false_ne_true] at pending
          dsimp only
          rw [pending]
          cases resource with
          | listener => exact .inr List.mem_cons_self
          | channel => exact .inr (.inr List.mem_cons_self)

end Left

end SmallServer.StartupStages
