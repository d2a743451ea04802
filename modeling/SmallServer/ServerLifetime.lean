import SmallServer.ServerCapacity
import SmallServer.StartupAtomicity

/-!
# The lives of servers

`serve` and `listen` on one application, the runs of the runtimes that they schedule on or
start, and what `listen` makes of the end of a runtime. A server that is not finished holds
`_active_invocation`; it gives it back once, and never that of another server.
-/

namespace SmallServer.ServerLifetime

open SmallServer HttpValues CleanupTransaction Raising ServerStartup StartupCleanup StartupStages
open ServerEffects ServerOperations ServerSteps ServerFinalization StartupAtomicity ServerCapacity
open SmallServer.Server hiding closeListener

set_option autoImplicit false

variable {Exc : Type}

section Telling

variable {answers : Nat → Bool} {handle after : ServerHandle}

/-- What `on_finalized` was told is not taken back. -/
def Tells (handle after : ServerHandle) : Prop := handle.finalizedCalls ≤ after.finalizedCalls

theorem tells_covers : Covers Tells where
  refl _ := Nat.le_refl _
  trans _ _ _ first second := Nat.le_trans first second
  effect handle after _ effect := by
    cases effect with
    | closed stream popped signal => cases signal <;> exact Nat.le_refl _
    | left stream popped signal => cases signal <;> exact Nat.le_refl _
    | signalled ok => exact Nat.le_refl _
    | updated =>
        unfold Tells ServerHandle.updateFinished
        split
        · dsimp only
          split
          · exact Nat.le_succ _
          · exact Nat.le_refl _
        · exact Nat.le_refl _
    | _ => exact Nat.le_refl _

theorem tells_allows : Allows Tells Tells where
  remembered _ _ _ _ := Nat.le_refl _
  already _ _ _ _ := Nat.le_refl _
  ended _ _ _ _ _ _ _ kept := kept

theorem cancel_tells (answers : Nat → Bool) (larger : ServerHandle) :
    CancelKeeps Tells (cancel answers larger) :=
  cancelAt_keeps (fun _ => Tells) (fun _ => tells_covers) (fun _ _ _ => Nat.le_refl _)
    (fun _ => tells_allows) _

theorem Cancels.tells (cancels : Cancels answers handle after) (sound : Sound handle) :
    Tells handle after := by
  obtain ⟨larger, -, keeps⟩ := cancels
  exact (keeps Tells tells_covers (cancel_tells answers larger) sound).2.2

theorem ListenerMoves.tells (moves : ListenerMoves answers handle after) (sound : Sound handle) :
    Tells handle after := by
  induction moves with
  | refl => exact Nat.le_refl _
  | tail before move induction =>
      refine Nat.le_trans induction ?_
      cases move with
      | operates finishes =>
          exact Cancels.tells finishes.cancels (ListenerMoves.follows before sound).1
      | _ => exact Nat.le_refl _

theorem next_tells (sound : Sound handle) {step : Step}
    (taken : next answers handle step = some after) : Tells handle after := by
  rcases next_cancels sound taken with ⟨outcome, rfl⟩ | ⟨parent, kind, rfl⟩ | ⟨task, rfl⟩ |
    ⟨base, marks, cancels⟩
  · obtain ⟨-, -, phase, base, start, -, -, marks, before, begins, moves⟩ :=
      runsListener_follows sound taken
    have middleSound := (ListenerMoves.follows before (marks.follows sound).1).1
    have baseSound := (begins.sound middleSound).1
    obtain ⟨later, cursor, -, -, rfl⟩ := marks
    refine Nat.le_trans ?_ (ListenerMoves.tells moves baseSound)
    rcases begins with rfl | ⟨-, arrives, -⟩
    · exact Nat.le_refl _
    · cases arrives <;> exact Nat.le_refl _
  · obtain ⟨⟨task, stream⟩, running, rfl⟩ := Option.map_eq_some_iff.mp taken
    exact Nat.le_refl _
  · obtain ⟨⟨task, stream⟩, running, rfl⟩ := Option.map_eq_some_iff.mp taken
    exact Nat.le_refl _
  · refine Nat.le_trans ?_ (Cancels.tells cancels (marks.follows sound).1)
    obtain ⟨later, cursor, -, -, rfl⟩ := marks
    exact Nat.le_refl _

def Fits (maxConnections controls : Nat) (handle : ServerHandle) : Prop :=
  Housed maxConnections controls handle ∧ handle.maxConnections = maxConnections

structure Keeps (handle after : ServerHandle) : Prop where
  reached : Reached after
  tells : Tells handle after
  fits : ∀ maxConnections controls, Fits maxConnections controls handle →
    Fits maxConnections controls after

theorem fairSteps_keeps (reached : Reached handle) {step : Step}
    (taken : FairSteps answers handle step after) : Keeps handle after := by
  obtain ⟨sound, advances⟩ := next_sound reached.sound taken.1
  refine ⟨⟨sound, fairSteps_settled reached.sound reached.settled taken,
    fairSteps_covered reached.sound reached.settled reached.covered taken⟩,
    next_tells reached.sound taken.1, fun maxConnections controls fits => ?_⟩
  exact ⟨next_housed reached.sound fits.1 fits.2 taken.1, advances.capacity.trans fits.2⟩

theorem finalize_keeps (answers : Nat → Bool) (reached : Reached handle) :
    Keeps handle (Server.finalize answers handle) := by
  have taken : FairSteps answers handle .finalize (Server.finalize answers handle) :=
    ⟨rfl, fun _ _ _ => nofun⟩
  exact fairSteps_keeps reached taken

/-- The callback was made, or the handle has never been finished. -/
theorem told (sound : Sound handle) : handle.finalizedCalls = 0 ∨ handle.finalizedCalls = 1 := by
  have told : handle.finalizedCalls = if handle.onFinalized then 0 else 1 := sound.drive.told
  rw [told]
  cases handle.onFinalized
  · exact .inr rfl
  · exact .inl rfl

end Telling

section Arguments

/-- What `_validate_runtime` finds of a runtime: which of its operations can be called, and
what `KernelTransport` raises on its kernel. -/
structure RuntimeLike (Exc : Type) where
  hasFork : Bool := true
  hasResumeTask : Bool := true
  hasCancelTask : Bool := true
  hasStart : Bool := true
  transportError : Option Exc := none

inductive StartArgument where
  | absent
  | given (start : Bool)
  | other
deriving DecidableEq

/-- The arguments of `listen`; without a runtime the factory makes one. -/
structure ListenArguments (Exc : Type) where
  host : Option Text
  port : Option Int
  config : ConfigArgument
  protocol : Text
  http2Config : Option Bool
  runtime : Option (RuntimeLike Exc)
  start : StartArgument
  factory : ManagedRuntimeConfig → Except Exc (RuntimeLike Exc)

structure Prepared where
  config : ServerConfig
  managed : Bool
  shouldStart : Bool

def missingOperations (runtime : RuntimeLike Exc) (requireStart : Bool) : List String :=
  let required := [("fork", runtime.hasFork), ("resume_task", runtime.hasResumeTask),
    ("cancel_task", runtime.hasCancelTask)] ++
      (if requireStart then [("start", runtime.hasStart)] else [])
  (required.filter fun operation => !operation.2).map Prod.fst

def validateRuntime (runtime : RuntimeLike Exc) (requireStart : Bool) : Option (Raised Exc) :=
  match missingOperations runtime requireStart with
  | [] => runtime.transportError.map .external
  | missing => some (.typeError
      ("runtime is missing required operations: " ++ String.intercalate ", " missing))

def shouldStart (start : StartArgument) (managed : Bool) : Bool :=
  match start with
  | .given start => start
  | _ => managed

/-- `listen` before `_bind_and_schedule`. -/
def prepare (hasObserver : Bool) (arguments : ListenArguments Exc) :
    Except (Raised Exc) Prepared := do
  if arguments.start = .other then
    throw (.typeError "start must be a boolean or None")
  let managed := arguments.runtime.isNone
  if managed && arguments.start = .given false then
    throw (.valueError "start=False requires a caller-supplied runtime")
  let config ← resolveServerConfig hasObserver arguments.config managed
  let starts := shouldStart arguments.start managed
  let runtime ← match arguments.runtime with
    | some runtime => .ok runtime
    | none => (arguments.factory config.runtimeConfig).mapError .external
  match validateRuntime runtime starts with
  | some error => throw error
  | none => pure { config, managed, shouldStart := starts }

/-- What `_bind_and_schedule` is called with. -/
def ListenArguments.bound (arguments : ListenArguments Exc) (hasObserver : Bool)
    (config : ServerConfig) : Arguments where
  host := arguments.host
  port := arguments.port
  protocol := arguments.protocol
  http2Config := arguments.http2Config
  maxConnections := config.maxConnections
  hasObserver := hasObserver

/-- `serve` before `_bind_and_schedule`. -/
def prepareServe (hasObserver : Bool) (config : ConfigArgument) (runtime : RuntimeLike Exc) :
    Except (Raised Exc) Prepared := do
  let config ← resolveServerConfig hasObserver config false
  match validateRuntime runtime false with
  | some error => throw error
  | none => pure { config, managed := false, shouldStart := false }

/-- `serve` is `listen` on a runtime that is not to be started. -/
theorem prepare_supplied {arguments : ListenArguments Exc} {runtime : RuntimeLike Exc}
    (hasObserver : Bool) (supplied : arguments.runtime = some runtime)
    (start : arguments.start = .absent) :
    prepare hasObserver arguments = prepareServe hasObserver arguments.config runtime := by
  unfold prepare prepareServe
  rw [supplied, start]
  rfl

end Arguments

section Application

/-- How the runtime that `listen` started came to its end: the exception that left it, and
whether that is a `KeyboardInterrupt`. -/
structure RuntimeExit (Exc : Type) where
  error : Option Exc
  isKeyboardInterrupt : Bool

inductive Outcome (Exc : Type) where
  | returned
  | raised (primary : Raised Exc)
  | startupError (primary : Raised Exc)
  | interrupted (primary : Raised Exc)
  | finalizationError

structure Ending (Exc : Type) where
  outcome : Outcome Exc
  owner : Option (Owner (Raised Exc))

/-- The `ServerStartupError` or `ServerFinalizationError` of a handle that is not finished. -/
def handleOwner (handle : ServerHandle) : Owner (Raised Exc) where
  transaction := handleCleanupTransaction handle
  onCleanupComplete := false

/-- `listen` after `runtime.start()` and the finalization of the handle. -/
def endingOf (kernel : Kernel Exc) (managed : Bool) (exit : RuntimeExit Exc)
    (handle : ServerHandle) : Ending Exc :=
  let owner := some (handleOwner handle)
  match exit.error with
  | some error =>
      if !handle.finished then
        if kernel.interrupts error then
          { outcome := .interrupted (.external error), owner }
        else { outcome := .startupError (.external error), owner }
      else if managed && exit.isKeyboardInterrupt then { outcome := .returned, owner := none }
      else { outcome := .raised (.external error), owner := none }
  | none =>
      if !handle.finished then { outcome := .finalizationError, owner }
      else { outcome := .returned, owner := none }

structure Served (Exc : Type) where
  startup : Startup Exc
  call : Prepared
  ending : Option (Ending Exc) := none

inductive Entry (Exc : Type) where
  | failed (record : Record Exc)
  | serving (served : Served Exc)

structure Application (Exc : Type) where
  active : Option Invocation := none
  entries : List (Entry Exc) := []

namespace Application

variable (application : Application Exc)

def world (startup : Startup Exc) : World Exc := { active := application.active, startup }

def set (number : Nat) (world : World Exc) (entry : Entry Exc) : Application Exc where
  active := world.active
  entries := application.entries.set number entry

def bind (kernel : Kernel Exc) (arguments : Arguments) (call : Prepared) : Application Exc :=
  let ended := outcome (bindAndSchedule kernel arguments)
    (application.world { number := application.entries.length })
  { active := ended.2.active
    entries := application.entries ++ [match ended.1 with
      | .ok () => .serving { startup := ended.2.startup, call }
      | .error ending => .failed (Record.of ended.2.startup (.error ending))] }

def called (number : Nat) (served : Served Exc) (call : ServerHandle → ServerHandle) :
    Application Exc :=
  let world := (application.world served.startup).callHandle call
  application.set number world (.serving { served with startup := world.startup })

def exited (kernel : Kernel Exc) (number : Nat) (served : Served Exc)
    (exit : RuntimeExit Exc) (handle : ServerHandle) : Application Exc :=
  let world := (application.world served.startup).callHandle (Server.finalize kernel.server)
  application.set number world (.serving { served with
    startup := world.startup
    ending := some (endingOf kernel served.call.managed exit
      (Server.finalize kernel.server handle)) })

/-- `retry_cleanup` of the error of a startup. -/
def retryStartup (kernel : Kernel Exc) (number : Nat) (record : Record Exc)
    (owner : Owner (Raised Exc)) : Application Exc :=
  let retried := retryCleanup kernel owner (application.world record.startup)
  application.set number retried.2.2 (.failed { record with
    startup := retried.2.2.startup
    owner := some retried.2.1 })

/-- `retry_cleanup` of the error that `listen` raised after its runtime had ended. -/
def retryServer (kernel : Kernel Exc) (number : Nat) (served : Served Exc)
    (outcome : Outcome Exc) (owner : Owner (Raised Exc)) : Application Exc :=
  let retried := retryCleanup kernel owner (application.world served.startup)
  application.set number retried.2.2 (.serving { served with
    startup := retried.2.2.startup
    ending := some { outcome, owner := some retried.2.1 } })

end Application

inductive Event (Exc : Type) where
  | listens (kernel : Kernel Exc) (hasObserver : Bool) (arguments : ListenArguments Exc)
  | runs (number : Nat) (answers : Nat → Bool) (step : Step)
  | exits (kernel : Kernel Exc) (number : Nat) (exit : RuntimeExit Exc)
  | retries (kernel : Kernel Exc) (number : Nat)

variable {application after : Application Exc} {number : Nat}

inductive Happens : Application Exc → Event Exc → Application Exc → Prop
  | refused {application : Application Exc} (kernel : Kernel Exc) {hasObserver : Bool}
      {arguments : ListenArguments Exc} {error : Raised Exc}
      (refused : prepare hasObserver arguments = .error error) :
      Happens application (.listens kernel hasObserver arguments) application
  | bound {application : Application Exc} (kernel : Kernel Exc) {hasObserver : Bool}
      {arguments : ListenArguments Exc} {call : Prepared}
      (prepared : prepare hasObserver arguments = .ok call) :
      Happens application (.listens kernel hasObserver arguments)
        (application.bind kernel (arguments.bound hasObserver call.config) call)
  | ran {application : Application Exc} {number : Nat} {served : Served Exc}
      {handle after : ServerHandle} {answers : Nat → Bool} {step : Step}
      (found : application.entries[number]? = some (.serving served))
      (there : served.startup.handle = some handle)
      (taken : FairSteps answers handle step after) :
      Happens application (.runs number answers step)
        (application.called number served fun _ => after)
  | exited {application : Application Exc} {number : Nat} {served : Served Exc}
      {handle : ServerHandle} (kernel : Kernel Exc) (exit : RuntimeExit Exc)
      (found : application.entries[number]? = some (.serving served))
      (there : served.startup.handle = some handle)
      (started : served.call.shouldStart = true) (running : served.ending = none) :
      Happens application (.exits kernel number exit)
        (application.exited kernel number served exit handle)
  | startupRetried {application : Application Exc} {number : Nat} {record : Record Exc}
      {owner : Owner (Raised Exc)} (kernel : Kernel Exc)
      (found : application.entries[number]? = some (.failed record))
      (raised : record.owner = some owner) :
      Happens application (.retries kernel number)
        (application.retryStartup kernel number record owner)
  | serverRetried {application : Application Exc} {number : Nat} {served : Served Exc}
      {outcome : Outcome Exc} {owner : Owner (Raised Exc)} (kernel : Kernel Exc)
      (found : application.entries[number]? = some (.serving served))
      (ended : served.ending = some { outcome, owner := some owner }) :
      Happens application (.retries kernel number)
        (application.retryServer kernel number served outcome owner)

def Entry.Released : Entry Exc → Prop
  | .failed record => record.startup.clear = true
  | .serving served => ∃ handle ∈ served.startup.handle, handle.finalizedCalls = 1

end Application

section Serving

variable {number : Nat} {active : Option Invocation} {served : Served Exc}
  {handle : ServerHandle}

/-- The error that `listen` raised owns the finalization of its handle, or nothing more. -/
def OwnsServer (ending : Option (Ending Exc)) : Prop :=
  ∀ ended ∈ ending, ∀ owner ∈ ended.owner, owner.onCleanupComplete = false ∧
    (owner.transaction.pendingActions = [] ∨
      owner.transaction.pendingActions = [Cleanup.server.number])

theorem ownsServer_some {outcome : Outcome Exc} {owner : Owner (Raised Exc)}
    (callback : owner.onCleanupComplete = false)
    (pending : owner.transaction.pendingActions = [] ∨
      owner.transaction.pendingActions = [Cleanup.server.number]) :
    OwnsServer (some { outcome, owner := some owner }) := by
  intro ended given other raised
  cases given
  cases raised
  exact ⟨callback, pending⟩

structure Serving (number : Nat) (active : Option Invocation) (served : Served Exc)
    (handle : ServerHandle) : Prop where
  numbered : served.startup.number = number
  there : served.startup.handle = some handle
  reached : Reached handle
  mine : ∀ invocation, active = some invocation → Invocation.number invocation = number →
    invocation = .handle number
  held : active = some (.handle number) ↔ handle.finalizedCalls = 0
  releases : served.startup.releases = handle.finalizedCalls
  owning : OwnsServer served.ending
  fits : ∃ controls, Fits served.call.config.maxConnections controls handle ∧
    (served.call.managed = true → served.call.config.maxConnections + controls ≤
      served.call.config.runtimeConfig.taskCapacity)

structure Called (number : Nat) (active : Option Invocation) (served : Served Exc)
    (after : ServerHandle) (world : World Exc) : Prop where
  serving : ∀ ending, OwnsServer ending →
    Serving number world.active { served with startup := world.startup, ending } after
  own : Own number active world.active

/-- The handle releases the invocation that is its own, when it is finished first. -/
theorem Serving.called (serving : Serving number active served handle)
    (call : ServerHandle → ServerHandle) (keeps : Keeps handle (call handle)) :
    Called number active served (call handle)
      (World.callHandle { active, startup := served.startup } call) := by
  have before := told serving.reached.sound
  have later := told keeps.reached.sound
  have tells : handle.finalizedCalls ≤ (call handle).finalizedCalls := keeps.tells
  obtain ⟨controls, fits, enough⟩ := serving.fits
  have laterFits := keeps.fits _ _ fits
  unfold World.callHandle
  dsimp only
  rw [serving.there]
  dsimp only
  split
  · rename_i more
    have untold : handle.finalizedCalls = 0 := by omega
    have once : (call handle).finalizedCalls = 1 := by omega
    have holds : active = some (.handle served.startup.number) := by
      rw [serving.numbered]
      exact serving.held.mpr untold
    have released : World.release
        ({ active, startup := { served.startup with handle := some (call handle) } } : World Exc)
        (.handle served.startup.number) =
          { active := none
            startup := { served.startup with
              handle := some (call handle)
              releases := served.startup.releases + 1 } } := if_pos holds
    unfold World.update
    rw [released]
    refine ⟨fun ending owning => ?_, fun invocation other => ⟨fun given => ?_, nofun⟩⟩
    · exact {
        numbered := serving.numbered
        there := rfl
        reached := keeps.reached
        fits := ⟨controls, laterFits, enough⟩
        mine := nofun
        held := ⟨nofun, fun none => absurd (once.symm.trans none) Nat.one_ne_zero⟩
        releases := by
          dsimp only
          rw [serving.releases, untold, once]
        owning := owning }
    · cases holds.symm.trans given
      exact absurd serving.numbered other
  · rename_i same
    have equal : (call handle).finalizedCalls = handle.finalizedCalls := by omega
    refine ⟨fun ending owning => ?_, fun _ _ => Iff.rfl⟩
    exact {
      numbered := serving.numbered
      there := rfl
      reached := keeps.reached
      fits := ⟨controls, laterFits, enough⟩
      mine := serving.mine
      held := serving.held.trans (by rw [equal])
      releases := serving.releases.trans equal.symm
      owning := owning }

theorem Serving.other {other : Nat} {after : Option Invocation}
    (serving : Serving other active served handle) (different : other ≠ number)
    (own : Own number active after) : Serving other after served handle :=
  { serving with
    held := (own (.handle other) different).symm.trans serving.held
    mine := fun invocation active known =>
      serving.mine invocation ((own invocation (known ▸ different)).mpr active) known }

end Serving

section Retrying

variable {kernel : Kernel Exc} {owner : Owner (Raised Exc)} {world : World Exc}
  {handle : ServerHandle} {number : Nat} {active : Option Invocation} {served : Served Exc}

theorem callHandle_handle (there : world.startup.handle = some handle)
    (call : ServerHandle → ServerHandle) :
    (world.callHandle call).startup.handle = some (call handle) := by
  unfold World.callHandle
  rw [there]
  dsimp only
  split
  · unfold World.release
    split <;> rfl
  · rfl

theorem retryCleanup_server (kernel : Kernel Exc) (world : World Exc)
    (callback : owner.onCleanupComplete = false)
    (pending : owner.transaction.pendingActions = [Cleanup.server.number])
    (there : world.startup.handle = some handle) :
    ∃ later, retryCleanup kernel owner world =
        ((Server.finalize kernel.server handle).finished, later,
          world.callHandle (Server.finalize kernel.server)) ∧
      later.onCleanupComplete = false ∧ later.transaction.pendingActions =
        if (Server.finalize kernel.server handle).finished then []
        else [Cleanup.server.number] := by
  have laterThere := callHandle_handle there (Server.finalize kernel.server)
  obtain ⟨raised, ran, raises⟩ : ∃ raised, runAction kernel world .server =
      (raised, world.callHandle (Server.finalize kernel.server)) ∧
        raised.isSome = !(Server.finalize kernel.server handle).finished := by
    unfold runAction retryHandleCleanup
    dsimp only
    rw [laterThere]
    refine ⟨_, rfl, ?_⟩
    cases (Server.finalize kernel.server handle).finished <;> rfl
  have runs : runActions kernel [Cleanup.server.number] world =
      (Function.update (fun _ => none) Cleanup.server.number raised,
        world.callHandle (Server.finalize kernel.server)) := by
    rw [runActions_cons, Cleanup.ofNumber_number, ran]
    rfl
  obtain ⟨left, complete, -, laterCallback⟩ := retryCleanup_owner owner
    (Function.update (fun _ => none) Cleanup.server.number raised)
  rw [pending, filter_update _ _ _ [] List.not_mem_nil, List.filter_nil, List.append_nil,
    raises] at left
  rw [callback, Bool.false_and] at laterCallback
  have done : (owner.retryCleanup (Function.update (fun _ => none) Cleanup.server.number
      raised)).1 = (Server.finalize kernel.server handle).finished := by
    rw [complete, Bool.eq_iff_iff, complete_iff, left]
    cases (Server.finalize kernel.server handle).finished <;> simp
  refine ⟨_, ?_, laterCallback, left.trans ?_⟩
  · unfold retryCleanup
    rw [pending, runs]
    dsimp only
    rw [callback, done]
    rfl
  · cases (Server.finalize kernel.server handle).finished <;> rfl

/-- What a retry of the error of a server does: either the error owned nothing any more, or it
finalizes the handle and returns whether that is finished. -/
structure Retries (kernel : Kernel Exc) (number : Nat) (active : Option Invocation)
    (served : Served Exc) (handle : ServerHandle) (outcome : Outcome Exc)
    (retried : Bool × Owner (Raised Exc) × World Exc) : Prop where
  serving : ∃ after, Serving number retried.2.2.active { served with
    startup := retried.2.2.startup
    ending := some { outcome, owner := some retried.2.1 } } after ∧
      (retried.1 = true ∧ after = handle ∨ after = Server.finalize kernel.server handle ∧
        retried.1 = after.finished)
  own : Own number active retried.2.2.active

theorem Serving.retries (kernel : Kernel Exc) (serving : Serving number active served handle)
    {outcome : Outcome Exc} (ended : served.ending = some { outcome, owner := some owner }) :
    Retries kernel number active served handle outcome
      (retryCleanup kernel owner { active, startup := served.startup }) := by
  obtain ⟨callback, pending⟩ := serving.owning _ ended owner rfl
  rcases pending with none | pending
  · obtain ⟨later, same, left, laterCallback, -⟩ :=
      retryCleanup_settled kernel { active, startup := served.startup } none callback
    rw [same]
    exact ⟨⟨handle, { serving with owning := ownsServer_some laterCallback (.inl left) },
      .inl ⟨rfl, rfl⟩⟩, fun _ _ => Iff.rfl⟩
  · obtain ⟨later, same, laterCallback, left⟩ := retryCleanup_server kernel
      { active, startup := served.startup } callback pending serving.there
    obtain ⟨called, own⟩ := serving.called (Server.finalize kernel.server)
      (finalize_keeps kernel.server serving.reached)
    rw [same]
    refine ⟨⟨_, called _ (ownsServer_some laterCallback ?_), .inr ⟨rfl, rfl⟩⟩, own⟩
    rw [left]
    cases (Server.finalize kernel.server handle).finished
    · exact .inr rfl
    · exact .inl rfl

end Retrying

section Safety

variable {application after : Application Exc} {event : Event Exc} {events : List (Event Exc)}
  {number : Nat} {active : Option Invocation}

def Sane (number : Nat) (active : Option Invocation) : Entry Exc → Prop
  | .failed record => Consistent number active record
  | .serving served => ∃ handle, Serving number active served handle

theorem Sane.other {other : Nat} {later : Option Invocation} {entry : Entry Exc}
    (sane : Sane other active entry) (different : other ≠ number)
    (own : Own number active later) : Sane other later entry := by
  cases entry with
  | failed record => exact Consistent.other sane different own
  | serving served =>
      obtain ⟨handle, serving⟩ := sane
      exact ⟨handle, serving.other different own⟩

structure Safe (application : Application Exc) : Prop where
  entries : ∀ number entry, application.entries[number]? = some entry →
    Sane number application.active entry
  known : ∀ invocation, application.active = some invocation →
    Invocation.number invocation < application.entries.length

theorem Safe.set {entry later : Entry Exc} {world : World Exc} (safe : Safe application)
    (found : application.entries[number]? = some entry) (sane : Sane number world.active later)
    (own : Own number application.active world.active) :
    Safe (application.set number world later) := by
  obtain ⟨bound, -⟩ := List.getElem?_eq_some_iff.mp found
  constructor
  · intro other theirs there
    change (application.entries.set number later)[other]? = some theirs at there
    by_cases same : number = other
    · subst same
      rw [List.getElem?_set_self bound] at there
      cases there
      exact sane
    · rw [List.getElem?_set_ne same] at there
      exact (safe.entries other theirs there).other (Ne.symm same) own
  · intro invocation active
    change Invocation.number invocation < (application.entries.set number later).length
    rw [List.length_set]
    by_cases same : Invocation.number invocation = number
    · rw [same]
      exact bound
    · exact safe.known invocation ((own invocation same).mpr active)

theorem Safe.append {later : Entry Exc} {active : Option Invocation} (safe : Safe application)
    (sane : Sane application.entries.length active later)
    (own : Own application.entries.length application.active active) :
    Safe { active, entries := application.entries ++ [later] } := by
  constructor
  · intro other theirs there
    dsimp only at there
    rcases Nat.lt_trichotomy other application.entries.length with earlier | same | past
    · rw [List.getElem?_append_left earlier] at there
      exact (safe.entries other theirs there).other (Nat.ne_of_lt earlier) own
    · subst same
      rw [List.getElem?_append_right (Nat.le_refl _), Nat.sub_self] at there
      cases there
      exact sane
    · have none : (application.entries ++ [later])[other]? = none := by
        rw [List.getElem?_eq_none_iff, List.length_append, List.length_singleton]
        omega
      exact absurd (none.symm.trans there) nofun
  · intro invocation holds
    dsimp only at holds ⊢
    rw [List.length_append, List.length_singleton]
    by_cases same : Invocation.number invocation = application.entries.length
    · omega
    · exact Nat.lt_succ_of_lt (safe.known invocation ((own invocation same).mpr holds))

end Safety

section Releasing

variable {application after : Application Exc} {event : Event Exc} {events : List (Event Exc)}
  {number : Nat} {active : Option Invocation} {handle : ServerHandle}

theorem Serving.finished {served : Served Exc} (serving : Serving number active served handle)
    (finished : handle.finished = true) :
    Complete handle ∧ active ≠ some (.handle number) ∧ served.startup.releases = 1 := by
  have complete := serving.reached.complete finished
  refine ⟨complete, fun holds => ?_, serving.releases.trans complete.told⟩
  exact absurd ((serving.held.mp holds).symm.trans complete.told) Nat.zero_ne_one

theorem Serving.released_iff {served : Served Exc}
    (serving : Serving number active served handle) :
    (Entry.serving served).Released ↔ active ≠ some (.handle number) := by
  have once := told serving.reached.sound
  constructor
  · rintro ⟨other, there, called⟩ holds
    cases serving.there.symm.trans there
    exact absurd ((serving.held.mp holds).symm.trans called) Nat.zero_ne_one
  · intro free
    exact ⟨handle, serving.there, once.resolve_left fun none => free (serving.held.mpr none)⟩

/-- The invocation is free exactly when no call has anything left to release. -/
theorem Safe.free_iff (safe : Safe application) :
    application.active = none ↔ ∀ entry ∈ application.entries, entry.Released := by
  constructor
  · intro free entry member
    obtain ⟨number, found⟩ := List.mem_iff_getElem?.mp member
    have sane := safe.entries number entry found
    cases entry with
    | failed record =>
        by_contra unclear
        change ¬record.startup.clear = true at unclear
        rw [Bool.not_eq_true, Consistent.held sane, free] at unclear
        exact absurd unclear nofun
    | serving served =>
        obtain ⟨handle, serving⟩ := sane
        refine serving.released_iff.mpr ?_
        rw [free]
        exact nofun
  · intro released
    cases active : application.active with
    | none => rfl
    | some invocation =>
        have bound := safe.known invocation active
        have found := List.getElem?_eq_getElem bound
        have sane := safe.entries _ _ found
        have given := released _ (List.getElem_mem bound)
        generalize application.entries[Invocation.number invocation] = entry at sane given
        cases entry with
        | failed record =>
            have slot := Consistent.mine sane invocation active rfl
            have unclear := (Consistent.held sane).mpr (active.trans (congrArg some slot))
            exact absurd ((show record.startup.clear = true from given).symm.trans unclear) nofun
        | serving served =>
            obtain ⟨handle, serving⟩ := sane
            have own := serving.mine invocation active rfl
            exact absurd (active.trans (congrArg some own)) (serving.released_iff.mp given)

end Releasing

section Samples

def happening (application : Application Exc) : Event Exc → Option (Application Exc)
  | .listens kernel hasObserver arguments =>
      match prepare hasObserver arguments with
      | .error _ => some application
      | .ok call =>
          some (application.bind kernel (arguments.bound hasObserver call.config) call)
  | .runs number answers step =>
      application.entries[number]?.bind fun entry =>
        match entry with
        | .failed _ => none
        | .serving served =>
            served.startup.handle.bind fun handle =>
              (fairNext answers handle step).map fun after =>
                application.called number served fun _ => after
  | .exits kernel number exit =>
      application.entries[number]?.bind fun entry =>
        match entry with
        | .failed _ => none
        | .serving served =>
            if served.call.shouldStart && served.ending.isNone then
              served.startup.handle.map (application.exited kernel number served exit)
            else none
  | .retries kernel number =>
      application.entries[number]?.bind fun entry =>
        match entry with
        | .failed record =>
            record.owner.map (application.retryStartup kernel number record)
        | .serving served =>
            served.ending.bind fun ending =>
              ending.owner.map (application.retryServer kernel number served ending.outcome)

def managedArguments : ListenArguments Nat where
  host := some "127.0.0.1".toList
  port := some 0
  config := .absent
  protocol := "http1".toList
  http2Config := none
  runtime := none
  start := .absent
  factory := fun _ => .ok {}

/-- A server accepts a connection and is interrupted; its listener cannot be closed at first, and
is closed in the retry. -/
def sampleEvents : List (Event Nat) :=
  [.listens (failing [] fun _ => true) false managedArguments,
    .runs 0 (fun _ => true) (.runsListener (.stream none .forked)),
    .exits (failing [] (· != 5)) 0 { error := some 0, isKeyboardInterrupt := true },
    .retries (failing [] fun _ => true) 0]

def sampleAfter (count : Nat) : Application Nat :=
  Runs.endOf happening {} (sampleEvents.take count)

end Samples

end SmallServer.ServerLifetime
