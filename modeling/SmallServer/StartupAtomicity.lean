import SmallServer.Runs
import SmallServer.StartupStages

/-!
# Startups are atomic

The calls of `_bind_and_schedule` on one application, with the retries of the errors they raise
and the finalizations of handles whose runtime has not run. At any time at most one startup has
something left, it owns what is left, and `_active_invocation` is its own.
-/

namespace SmallServer.StartupAtomicity

open SmallServer CleanupTransaction Raising ServerStartup StartupCleanup StartupStages Runs
open SmallServer.Server hiding closeListener

set_option autoImplicit false

variable {Exc : Type}

section Application

structure Application (Exc : Type) where
  active : Option Invocation := none
  records : List (Record Exc) := []

namespace Application

variable (kernel : Kernel Exc) (application : Application Exc)

def world (startup : Startup Exc) : World Exc := { active := application.active, startup }

def serve (arguments : Arguments) : Application Exc :=
  let ended := outcome (bindAndSchedule kernel arguments)
    (application.world { number := application.records.length })
  { active := ended.2.active
    records := application.records ++ [Record.of ended.2.startup ended.1] }

def retry (number : Nat) (record : Record Exc) (owner : Owner (Raised Exc)) : Application Exc :=
  let retried := retryCleanup kernel owner (application.world record.startup)
  { active := retried.2.2.active
    records := application.records.set number { record with
      startup := retried.2.2.startup
      owner := some retried.2.1 } }

def finalize (number : Nat) (record : Record Exc) : Application Exc :=
  let finalized := (application.world record.startup).callHandle (Server.finalize kernel.server)
  { active := finalized.active
    records := application.records.set number { record with startup := finalized.startup } }

end Application

inductive Label (Exc : Type) where
  | serve (kernel : Kernel Exc) (arguments : Arguments)
  | retry (kernel : Kernel Exc) (number : Nat)
  | finalize (kernel : Kernel Exc) (number : Nat)

inductive Step : Application Exc → Label Exc → Application Exc → Prop
  | serve {application : Application Exc} (kernel : Kernel Exc) (arguments : Arguments) :
      Step application (.serve kernel arguments) (application.serve kernel arguments)
  | retry {application : Application Exc} {number : Nat} {record : Record Exc}
      {owner : Owner (Raised Exc)} (kernel : Kernel Exc)
      (found : application.records[number]? = some record) (raised : record.owner = some owner) :
      Step application (.retry kernel number) (application.retry kernel number record owner)
  | finalize {application : Application Exc} {number : Nat} {record : Record Exc}
      (kernel : Kernel Exc) (found : application.records[number]? = some record)
      (returned : record.result = .returned) :
      Step application (.finalize kernel number) (application.finalize kernel number record)

structure Sound (application : Application Exc) : Prop where
  records : ∀ number record, application.records[number]? = some record →
    Consistent number application.active record
  known : ∀ invocation, application.active = some invocation →
    Invocation.number invocation < application.records.length

end Application

section Retries

variable {number : Nat} {listener channel : Option Bool} {world : World Exc}
  {kernel : Kernel Exc} {primary : Raised Exc} {owner : Owner (Raised Exc)}

def Refuses (kernel : Kernel Exc) : Acquired → Prop
  | .listener => kernel.answers .closeListener ≠ none
  | .channel => kernel.hasClose = true → kernel.answers .closeChannel ≠ none

theorem retryCleanup_owner (owner : Owner (Raised Exc)) (outcomes : Outcomes (Raised Exc)) :
    (owner.retryCleanup outcomes).2.transaction.pendingActions =
        owner.transaction.pendingActions.filter (fails outcomes) ∧
      (owner.retryCleanup outcomes).1 = (owner.retryCleanup outcomes).2.transaction.complete ∧
      (owner.retryCleanup outcomes).2.completionNotified =
        (owner.completionNotified || (owner.retryCleanup outcomes).1) ∧
      (owner.retryCleanup outcomes).2.onCleanupComplete =
        (owner.onCleanupComplete &&
          !((owner.retryCleanup outcomes).1 && !owner.completionNotified)) := by
  have left := (retry_spec owner.transaction outcomes).2
  unfold Owner.retryCleanup Owner.notifyCleanupComplete
  dsimp only
  cases complete : (owner.transaction.retry outcomes).1.complete with
  | false => exact ⟨left, complete.symm, (Bool.or_false _).symm, (Bool.and_true _).symm⟩
  | true =>
      cases notified : owner.completionNotified with
      | false => exact ⟨left, complete.symm, rfl, (Bool.and_false _).symm⟩
      | true => exact ⟨left, complete.symm, rfl, (Bool.and_true _).symm⟩

theorem raisedBy_cases {action : Starting Exc (Raised Exc) Unit}
    {condition : Except (Raised Exc) Unit → World Exc → Prop}
    (ends : Ends action world condition) :
    (∃ next, raisedBy action world = (none, next) ∧ condition (.ok ()) next) ∨
      ∃ error next, raisedBy action world = (some error, next) ∧
        condition (.error error) next := by
  unfold Ends at ends
  unfold raisedBy
  generalize outcome action world = ended at ends
  obtain ⟨result, next⟩ := ended
  cases result with
  | ok => exact .inl ⟨next, rfl, ends⟩
  | error error => exact .inr ⟨error, next, rfl, ends⟩

theorem runActions_cons (action : Nat) (actions : List Nat) :
    runActions kernel (action :: actions) world =
      let ran := runAction kernel world (Cleanup.ofNumber action)
      (Function.update (runActions kernel actions ran.2).1 action ran.1,
        (runActions kernel actions ran.2).2) :=
  rfl

theorem filter_update (action : Nat) (raised : Option (Raised Exc))
    (outcomes : Outcomes (Raised Exc)) (actions : List Nat) (other : action ∉ actions) :
    (action :: actions).filter (fails (Function.update outcomes action raised)) =
      (if raised.isSome then [action] else []) ++ actions.filter (fails outcomes) := by
  have rest : actions.filter (fails (Function.update outcomes action raised)) =
      actions.filter (fails outcomes) := by
    refine List.filter_congr fun later member => ?_
    unfold fails
    have different : later ≠ action := fun same => other (same ▸ member)
    rw [Function.update_of_ne different]
  have here : fails (Function.update outcomes action raised) action = raised.isSome := by
    unfold fails
    rw [Function.update_self]
  rw [List.filter_cons, here, rest]
  cases raised <;> rfl

theorem release_clear (world : World Exc) (expected : Invocation) :
    (world.release expected).startup.clear = world.startup.clear := by
  unfold World.release
  split <;> rfl

theorem runListener_left (kernel : Kernel Exc)
    (acquiring : Acquiring number (some primary) listener channel world) :
    ∃ outcomes next later, runActions kernel
        (if listener == some false then [Cleanup.listener.number] else []) world =
          (outcomes, next) ∧
      Acquiring number (some primary) later channel next ∧
      (if listener == some false then [Cleanup.listener.number] else []).filter
          (fails outcomes) =
        (if later == some false then [Cleanup.listener.number] else []) ∧
      (later = some false → Refuses kernel .listener) := by
  by_cases left : listener = some false
  · subst left
    rcases raisedBy_cases (closeListener_ends kernel acquiring) with
      ⟨next, ran, closed⟩ | ⟨error, next, ran, failed, refused⟩
    · have whole : runActions kernel [Cleanup.listener.number] world =
          (Function.update (fun _ => none) Cleanup.listener.number none, next) := by
        rw [runActions_cons, Cleanup.ofNumber_number, runAction, ran]
        rfl
      exact ⟨_, next, some true, whole, closed,
        filter_update _ none _ [] List.not_mem_nil, nofun⟩
    · have whole : runActions kernel [Cleanup.listener.number] world =
          (Function.update (fun _ => none) Cleanup.listener.number (some error), next) := by
        rw [runActions_cons, Cleanup.ofNumber_number, runAction, ran]
        rfl
      exact ⟨_, next, some false, whole, failed,
        filter_update _ (some error) _ [] List.not_mem_nil, fun _ => refused⟩
  · rw [beq_false_of_ne left]
    exact ⟨_, world, listener, rfl, acquiring, by rw [beq_false_of_ne left]; rfl,
      fun still => absurd still left⟩

theorem runWaker_left (kernel : Kernel Exc) {waker : Cleanup}
    (kind : waker = .channel ∨ waker = .rawChannel)
    (acquiring : Acquiring number (some primary) listener (some false) world) :
    (∃ next, runAction kernel world waker = (none, next) ∧
        Acquiring number (some primary) listener (some true) next) ∨
      ∃ error next, runAction kernel world waker = (some error, next) ∧
        Acquiring number (some primary) listener (some false) next ∧
          Refuses kernel .channel := by
  rcases kind with rfl | rfl
  · rcases raisedBy_cases (closeChannel_ends kernel acquiring) with
      ended | ⟨error, next, ran, failed, refused⟩
    · exact .inl ended
    · exact .inr ⟨error, next, ran, failed, fun _ => refused⟩
  · exact raisedBy_cases (closeIfCallable_ends kernel _ acquiring)

theorem runActions_left (kernel : Kernel Exc) {waker : Cleanup}
    (kind : waker = .channel ∨ waker = .rawChannel)
    (acquiring : Acquiring number (some primary) listener channel world) :
    ∃ outcomes next laterListener laterChannel,
      runActions kernel (leftActions world.startup waker) world = (outcomes, next) ∧
      Acquiring number (some primary) laterListener laterChannel next ∧
      (leftActions world.startup waker).filter (fails outcomes) =
        leftActions next.startup waker ∧
      (laterListener = some false → Refuses kernel .listener) ∧
      (laterChannel = some false → Refuses kernel .channel) := by
  have other : waker.number ∉
      if listener == some false then [Cleanup.listener.number] else [] := by
    intro member
    split at member
    · rcases kind with rfl | rfl <;> cases List.mem_singleton.mp member
    · cases member
  rw [acquiring.left]
  by_cases left : channel = some false
  · subst left
    rcases runWaker_left kernel kind acquiring with
      ⟨next, ran, closed⟩ | ⟨error, next, ran, failed, refused⟩
    · obtain ⟨outcomes, last, later, runs, ended, kept, refuses⟩ :=
        runListener_left kernel closed
      refine ⟨Function.update outcomes waker.number none, last, later, some true, ?_, ended, ?_,
        refuses, nofun⟩
      · change runActions kernel (waker.number ::
          if listener == some false then [Cleanup.listener.number] else []) world = _
        rw [runActions_cons, Cleanup.ofNumber_number, ran]
        dsimp only
        rw [runs]
      · rw [ended.left]
        refine (filter_update _ none _ _ other).trans ?_
        rw [kept]
        rfl
    · obtain ⟨outcomes, last, later, runs, ended, kept, refuses⟩ :=
        runListener_left kernel failed
      refine ⟨Function.update outcomes waker.number (some error), last, later, some false, ?_,
        ended, ?_, refuses, fun _ => refused⟩
      · change runActions kernel (waker.number ::
          if listener == some false then [Cleanup.listener.number] else []) world = _
        rw [runActions_cons, Cleanup.ofNumber_number, ran]
        dsimp only
        rw [runs]
      · rw [ended.left]
        refine (filter_update _ (some error) _ _ other).trans ?_
        rw [kept]
        rfl
  · obtain ⟨outcomes, next, later, runs, ended, kept, refuses⟩ :=
      runListener_left kernel acquiring
    have none : (if channel == some false then [waker.number] else []) = [] := by
      rw [beq_false_of_ne left]
      rfl
    rw [none, List.nil_append]
    refine ⟨outcomes, next, later, channel, runs, ended, ?_, refuses,
      fun still => absurd still left⟩
    rw [kept, ended.left, none, List.nil_append]

def Acquired.resource : Acquired → Resource
  | .listener => .listener
  | .channel => .wakeup

def CloseFailed (kernel : Kernel Exc) (before after : Startup Exc) (resource : Acquired) :
    Prop :=
  match before.handle with
  | none => Refuses kernel resource
  | some handle => ∃ later ∈ after.handle,
      (.close (Acquired.resource resource), false) ∈ ServerFinalization.added handle later

def CancelFails (before after : Startup Exc) : Prop :=
  ∃ handle ∈ before.handle, ∃ later ∈ after.handle, ∃ task,
    ServerFinalization.CancelFailed task (ServerFinalization.added handle later)

/-- What a call of `retry_cleanup` does: what is left afterwards it has tried in vain, and
it returns whether nothing is. -/
structure Retried (kernel : Kernel Exc) (before after : Startup Exc) (complete : Bool) :
    Prop where
  complete : complete = after.clear
  closes : ∀ resource, after.isOpen resource = true → CloseFailed kernel before after resource
  cancels : after.cancelling = true → CancelFails before after

variable {active : Option Invocation} {record : Record Exc} {startup : Startup Exc}

theorem retried_clear (before : Startup Exc) (clear : startup.clear = true) :
    Retried kernel before startup true := by
  obtain ⟨listening, waking, cancelling⟩ := clear_iff.mp clear
  refine ⟨clear.symm, fun resource left => ?_, fun pending => ?_⟩
  · cases resource with
    | listener => exact absurd (left.symm.trans listening) nofun
    | channel => exact absurd (left.symm.trans waking) nofun
  · exact absurd (pending.symm.trans cancelling) nofun

theorem retryCleanup_settled (kernel : Kernel Exc) (world : World Exc)
    (settled : owner.transaction.pendingActions = [])
    (untold : owner.onCleanupComplete = false) :
    ∃ later, retryCleanup kernel owner world = (true, later, world) ∧
      later.transaction.pendingActions = [] ∧ later.onCleanupComplete = false ∧
        later.completionNotified = true := by
  obtain ⟨pending, complete, notified, callback⟩ :=
    retryCleanup_owner owner (fun _ => none : Outcomes (Raised Exc))
  have left : (owner.retryCleanup fun _ => none).2.transaction.pendingActions = [] := by
    rw [pending, settled]
    rfl
  have done : (owner.retryCleanup fun _ => none).1 = true := by
    rw [complete, complete_iff, left]
  rw [untold, Bool.false_and] at callback
  rw [done, Bool.or_true] at notified
  refine ⟨(owner.retryCleanup fun _ => none).2, ?_, left, callback, notified⟩
  unfold retryCleanup
  rw [settled]
  unfold runActions
  dsimp only
  rw [untold, Bool.false_and, if_neg Bool.false_ne_true, done]

/-- What a retry of an error keeps, and what it does. -/
structure Keeps (kernel : Kernel Exc) (number : Nat) (active : Option Invocation)
    (record : Record Exc) (retried : Bool × Owner (Raised Exc) × World Exc) : Prop where
  consistent : Consistent number retried.2.2.active { record with
    startup := retried.2.2.startup
    owner := some retried.2.1 }
  own : Own number active retried.2.2.active
  retried : Retried kernel record.startup retried.2.2.startup retried.1

theorem keeps_settled (consistent : Consistent number active record)
    (raised : record.owner = some owner) (clear : record.startup.clear = true)
    (settled : owner.transaction.pendingActions = []) (untold : owner.onCleanupComplete = false) :
    Keeps kernel number active record
      (retryCleanup kernel owner { active, startup := record.startup }) := by
  obtain ⟨later, retried, left, callback, notified⟩ :=
    retryCleanup_settled kernel { active, startup := record.startup } settled untold
  have complete : later.transaction.complete = true := by
    rw [complete_iff, left]
  have owning := consistent.owning
  rw [raised] at owning
  rw [retried]
  refine ⟨{ consistent with owning := ⟨?_, owning.2⟩ }, fun _ _ => Iff.rfl,
    retried_clear record.startup clear⟩
  have before := owning.1
  unfold Owning at before ⊢
  dsimp only
  cases there : record.startup.handle with
  | none =>
      rw [there] at before
      obtain ⟨waker, kind, pending, -, -⟩ := before
      exact ⟨waker, kind, left.trans (settled.symm.trans pending),
        notified.trans complete.symm, by rw [callback, complete]; rfl⟩
  | some handle =>
      rw [there] at before
      exact ⟨before.1, callback, left.trans (settled.symm.trans before.2.2)⟩

theorem keeps_left (consistent : Consistent number active record)
    (raised : record.owner = some owner) (noHandle : record.startup.handle = none)
    (unclear : record.startup.clear = false) :
    Keeps kernel number active record
      (retryCleanup kernel owner { active, startup := record.startup }) := by
  have owning := consistent.owning
  rw [raised] at owning
  obtain ⟨primary, failed⟩ := Option.isSome_iff_exists.mp owning.2
  have acquiring := consistent.acquiring failed noHandle unclear
  have before := owning.1
  unfold Owning at before
  rw [noHandle] at before
  obtain ⟨waker, kind, pending, notified, callback⟩ := before
  have incomplete : owner.transaction.complete = false :=
    (complete_eq_clear acquiring.isOpen.2.2 pending).trans unclear
  rw [incomplete] at notified callback
  obtain ⟨outcomes, next, laterListener, laterChannel, runs, ended, kept, noListener, noChannel⟩ :=
    runActions_left kernel kind acquiring
  obtain ⟨left, complete, laterNotified, laterCallback⟩ := retryCleanup_owner owner outcomes
  rw [pending, kept] at left
  have done : (owner.retryCleanup outcomes).1 = next.startup.clear :=
    complete.trans (complete_eq_clear ended.isOpen.2.2 left)
  have held : active = some (.marker number) := acquiring.active
  have same : retryCleanup kernel owner { active, startup := record.startup } =
      (next.startup.clear, (owner.retryCleanup outcomes).2,
        if next.startup.clear then next.release (.marker next.startup.number) else next) := by
    unfold retryCleanup
    rw [pending, runs]
    dsimp only
    rw [callback, laterCallback, callback, notified, done]
    cases next.startup.clear <;> rfl
  have nextOwning : Owning next.startup (owner.retryCleanup outcomes).2 := by
    unfold Owning
    rw [ended.handle]
    refine ⟨waker, kind, left, ?_, ?_⟩
    · rw [laterNotified, notified, Bool.false_or, complete]
    · rw [laterCallback, callback, notified, ← complete]
      cases (owner.retryCleanup outcomes).1 <;> rfl
  have closes : ∀ resource, next.startup.isOpen resource = true →
      CloseFailed kernel record.startup next.startup resource := by
    intro resource still
    unfold CloseFailed
    rw [noHandle]
    cases resource with
    | listener => exact noListener (beq_iff_eq.mp (ended.isOpen.1.symm.trans still))
    | channel => exact noChannel (beq_iff_eq.mp (ended.isOpen.2.1.symm.trans still))
  rw [same]
  cases clear : next.startup.clear with
  | true =>
      obtain ⟨free, consistently⟩ := ended.release_consistent clear record.result failed
        (some (owner.retryCleanup outcomes).2) fun own given => by
          cases given
          exact nextOwning
      refine ⟨consistently, ?_, ?_⟩
      · intro invocation other
        dsimp only
        rw [if_pos rfl, free, held]
        refine ⟨fun given => ?_, nofun⟩
        cases given
        exact absurd rfl other
      · refine retried_clear record.startup ?_
        dsimp only
        rw [if_pos rfl, release_clear]
        exact clear
  | false =>
      refine ⟨ended.keep_consistent clear record.result failed nextOwning, ?_, ?_⟩
      · intro invocation other
        change active = some invocation ↔ next.active = some invocation
        rw [ended.active, held]
      · refine ⟨clear.symm, closes, fun cancelling => ?_⟩
        exact absurd (cancelling.symm.trans ended.isOpen.2.2) nofun

variable {handle : ServerHandle}

theorem retried_finishes {before after : Startup Exc} {later : ServerHandle}
    (there : before.handle = some handle) (laterThere : after.handle = some later)
    (finishes : Finishes handle later) : Retried kernel before after later.finished where
  complete := (clear_eq_finished laterThere (ended_of_finishes finishes)).symm
  closes := by
    intro resource still
    unfold CloseFailed
    unfold Startup.isOpen at still
    rw [there]
    rw [laterThere] at still
    cases resource with
    | listener =>
        rw [Bool.not_eq_true'] at still
        refine ⟨later, laterThere, finishes.listener.resolve_left ?_⟩
        rw [still]
        exact nofun
    | channel =>
        rw [Bool.and_eq_true, Bool.not_eq_true'] at still
        have present : handle.hasWakeup = true := finishes.hasWakeup.symm.trans still.1
        refine ⟨later, laterThere, (finishes.wakeup present).resolve_left ?_⟩
        rw [still.2]
        exact nofun
  cancels := by
    intro cancelling
    unfold Startup.cancelling at cancelling
    rw [laterThere] at cancelling
    dsimp only at cancelling
    cases entries : later.pendingTaskCancellations.entries with
    | nil =>
        rw [entries] at cancelling
        cases cancelling
    | cons entry rest =>
        have found : later.pendingTaskCancellations.lookup entry.1 = some entry.2 :=
          AList.mem_lookup_iff.mpr (by rw [entries]; exact List.mem_cons_self)
        have member : entry.1 ∈ later.pendingTaskCancellations := OrderedDict.mem_of_lookup found
        exact ⟨handle, there, later, laterThere, entry.1, finishes.pending entry.1 member⟩

theorem keeps_handle (consistent : Consistent number active record)
    (raised : record.owner = some owner) (there : record.startup.handle = some handle)
    (unclear : record.startup.clear = false) :
    Keeps kernel number active record
      (retryCleanup kernel owner { active, startup := record.startup }) := by
  have ended := consistent.ended handle there
  have unfinished : handle.finished = false :=
    (clear_eq_finished there ended).symm.trans unclear
  have finishes := finalize_finishes kernel.server ended.idle unfinished
  have holding := consistent.holding there unclear
  obtain ⟨laterThere, own⟩ := holding.called (Server.finalize kernel.server) finishes
  have owning := consistent.owning
  rw [raised] at owning
  obtain ⟨before, failed⟩ := owning
  unfold Owning at before
  rw [there] at before
  obtain ⟨requested, callback, pending⟩ := before
  rw [unfinished, if_neg Bool.false_ne_true] at pending
  have ran : ∃ raised, runAction kernel { active, startup := record.startup } .server =
      (raised, World.callHandle { active, startup := record.startup }
        (Server.finalize kernel.server)) ∧
      raised.isSome = !(Server.finalize kernel.server handle).finished := by
    unfold runAction retryHandleCleanup
    dsimp only
    rw [laterThere]
    refine ⟨_, rfl, ?_⟩
    cases (Server.finalize kernel.server handle).finished <;> rfl
  have consistently := fun owner owning => holding.finished_consistent finishes record.result rfl
    (some owner) owning (fun _ => failed) nofun
  generalize Server.finalize kernel.server handle = after at *
  generalize World.callHandle { active, startup := record.startup }
    (Server.finalize kernel.server) = next at *
  obtain ⟨outcome, ran, raises⟩ := ran
  have runs : runActions kernel [Cleanup.server.number] { active, startup := record.startup } =
      (Function.update (fun _ => none) Cleanup.server.number outcome, next) := by
    rw [runActions_cons, Cleanup.ofNumber_number, ran]
    rfl
  obtain ⟨left, complete, -, laterCallback⟩ := retryCleanup_owner owner
    (Function.update (fun _ => none) Cleanup.server.number outcome)
  rw [pending, filter_update _ _ _ [] List.not_mem_nil, List.filter_nil, List.append_nil,
    raises] at left
  rw [callback, Bool.false_and] at laterCallback
  have done : (owner.retryCleanup
      (Function.update (fun _ => none) Cleanup.server.number outcome)).1 = after.finished := by
    rw [complete, Bool.eq_iff_iff, complete_iff, left]
    cases after.finished <;> simp
  have same : retryCleanup kernel owner { active, startup := record.startup } =
      (after.finished, (owner.retryCleanup
        (Function.update (fun _ => none) Cleanup.server.number outcome)).2, next) := by
    unfold retryCleanup
    rw [pending, runs]
    dsimp only
    rw [callback, done]
    rfl
  rw [same]
  refine ⟨consistently _ fun own given => ?_, own, retried_finishes there laterThere finishes⟩
  cases given
  refine ⟨laterCallback, left.trans ?_⟩
  cases after.finished <;> rfl

theorem retryCleanup_keeps (kernel : Kernel Exc) (consistent : Consistent number active record)
    (raised : record.owner = some owner) :
    Keeps kernel number active record
      (retryCleanup kernel owner { active, startup := record.startup }) := by
  have owning := consistent.owning
  rw [raised] at owning
  have before := owning.1
  unfold Owning at before
  cases clear : record.startup.clear with
  | true =>
      cases there : record.startup.handle with
      | none =>
          rw [there] at before
          obtain ⟨waker, -, pending, -, callback⟩ := before
          have complete : owner.transaction.complete = true := by
            have cancelling := (clear_iff.mp clear).2.2
            exact (complete_eq_clear cancelling pending).trans clear
          rw [complete] at callback
          exact keeps_settled consistent raised clear ((complete_iff _).mp complete) callback
      | some handle =>
          rw [there] at before
          obtain ⟨-, callback, pending⟩ := before
          have finished : handle.finished = true :=
            (clear_eq_finished there (consistent.ended handle there)).symm.trans clear
          rw [if_pos finished] at pending
          exact keeps_settled consistent raised clear pending callback
  | false =>
      cases there : record.startup.handle with
      | none => exact keeps_left consistent raised there clear
      | some handle => exact keeps_handle consistent raised there clear

/-- A finalization of a handle that was returned keeps what holds of its startup. -/
theorem finalize_keeps (kernel : Kernel Exc) (consistent : Consistent number active record)
    (returned : record.result = .returned) :
    Consistent number
        (World.callHandle { active, startup := record.startup }
          (Server.finalize kernel.server)).active
        { record with startup := (World.callHandle { active, startup := record.startup }
          (Server.finalize kernel.server)).startup } ∧
      Own number active (World.callHandle { active, startup := record.startup }
        (Server.finalize kernel.server)).active := by
  have owning := consistent.owning
  have noOwner : record.owner = none := by
    cases owner : record.owner with
    | none => rfl
    | some owner =>
        rw [owner, returned] at owning
        exact absurd owning.2 nofun
  cases there : record.startup.handle with
  | none =>
      have same : World.callHandle { active, startup := record.startup }
          (Server.finalize kernel.server) = { active, startup := record.startup } := by
        unfold World.callHandle
        dsimp only
        rw [there]
      rw [same]
      exact ⟨consistent, fun _ _ => Iff.rfl⟩
  | some handle =>
      have ended := consistent.ended handle there
      cases finished : handle.finished with
      | false =>
          have unclear : record.startup.clear = false :=
            (clear_eq_finished there ended).trans finished
          have finishes := finalize_finishes kernel.server ended.idle finished
          have holding := consistent.holding there unclear
          have consistently := holding.finished_consistent finishes record.result rfl none
            nofun nofun fun _ _ => returned
          rw [noOwner]
          exact ⟨consistently, (holding.called (Server.finalize kernel.server) finishes).2⟩
      | true =>
          -- a handle that is finished stays as it is, but for the cursor
          have same : World.callHandle { active, startup := record.startup }
              (Server.finalize kernel.server) =
                { active, startup := { record.startup with
                  handle := some { handle with cursor := none } } } := by
            unfold World.callHandle
            dsimp only
            rw [there]
            dsimp only
            rw [ServerFinalization.finalize_finished finished, if_neg (Nat.lt_irrefl _)]
            rfl
          have clear : Startup.clear { record.startup with
              handle := some { handle with cursor := none } } = record.startup.clear := by
            unfold Startup.clear Startup.isOpen Startup.cancelling
            rw [there]
          have slot : Startup.slot { record.startup with
              handle := some { handle with cursor := none } } = record.startup.slot := by
            unfold Startup.slot
            rw [there]
            rfl
          rw [same]
          refine ⟨?_, fun _ _ => Iff.rfl⟩
          exact {
            mine := by
              dsimp only
              rw [slot]
              exact consistent.mine
            number := consistent.number
            truthful := consistent.truthful
            held := by
              dsimp only
              rw [slot, clear]
              exact consistent.held
            released := by
              dsimp only
              rw [clear]
              exact consistent.released
            acquired := by
              dsimp only
              rw [clear]
              exact consistent.acquired
            ended := by
              intro later given
              cases given
              exact { ended with idle := { ended.idle with } }
            tasks := nofun
            owning := by
              rw [noOwner]
              exact .inr ⟨returned, rfl⟩ }

end Retries

section Applications

variable {application next : Application Exc} {labels : List (Label Exc)}

theorem Sound.set {number : Nat} {record later : Record Exc} {after : Option Invocation}
    (sound : Sound application) (found : application.records[number]? = some record)
    (consistent : Consistent number after later) (own : Own number application.active after) :
    Sound { active := after, records := application.records.set number later } := by
  obtain ⟨bound, -⟩ := List.getElem?_eq_some_iff.mp found
  constructor
  · intro other theirs there
    by_cases same : number = other
    · subst same
      rw [List.getElem?_set_self bound] at there
      cases there
      exact consistent
    · rw [List.getElem?_set_ne same] at there
      exact (sound.records other theirs there).other (Ne.symm same) own
  · intro invocation active
    rw [List.length_set]
    by_cases same : Invocation.number invocation = number
    · rw [same]
      exact bound
    · exact sound.known invocation ((own invocation same).mpr active)

theorem Sound.append {later : Record Exc} {after : Option Invocation}
    (sound : Sound application) (consistent : Consistent application.records.length after later)
    (own : Own application.records.length application.active after) :
    Sound { active := after, records := application.records ++ [later] } := by
  constructor
  · intro other theirs there
    dsimp only at there
    rcases Nat.lt_trichotomy other application.records.length with earlier | same | past
    · rw [List.getElem?_append_left earlier] at there
      exact (sound.records other theirs there).other (Nat.ne_of_lt earlier) own
    · subst same
      rw [List.getElem?_append_right (Nat.le_refl _), Nat.sub_self] at there
      cases there
      exact consistent
    · have none : (application.records ++ [later])[other]? = none := by
        rw [List.getElem?_eq_none_iff, List.length_append, List.length_singleton]
        omega
      exact absurd (none.symm.trans there) nofun
  · intro invocation active
    dsimp only
    rw [List.length_append, List.length_singleton]
    by_cases same : Invocation.number invocation = application.records.length
    · omega
    · exact Nat.lt_succ_of_lt (sound.known invocation ((own invocation same).mpr active))

theorem sound_new : Sound ({} : Application Exc) where
  records := fun _ _ found => nomatch found
  known := nofun

theorem sound_step (sound : Sound application) {label : Label Exc}
    (step : Step application label next) : Sound next := by
  cases step with
  | @serve kernel arguments =>
      have apart : ∀ invocation, application.active = some invocation →
          Invocation.number invocation ≠ application.records.length :=
        fun invocation active => Nat.ne_of_lt (sound.known invocation active)
      have bound : Bound application.records.length application.active
          (outcome (bindAndSchedule kernel arguments)
            (application.world { number := application.records.length })).1
          (outcome (bindAndSchedule kernel arguments)
            (application.world { number := application.records.length })).2 :=
        (bindAndSchedule_ends apart).1
      exact sound.append bound.consistent bound.own
  | @retry number record owner kernel found raised =>
      have keeps := retryCleanup_keeps kernel (sound.records number record found) raised
      exact sound.set found keeps.consistent keeps.own
  | @finalize number record kernel found returned =>
      obtain ⟨consistent, own⟩ :=
        finalize_keeps kernel (sound.records number record found) returned
      exact sound.set found consistent own

theorem sound_of_run (run : Run Step ({} : Application Exc) labels application) :
    Sound application :=
  run.stateInvariant sound_new fun _ _ _ sound step => sound_step sound step

theorem Sound.free_iff (sound : Sound application) :
    application.active = none ↔ ∀ record ∈ application.records, record.startup.clear = true := by
  constructor
  · intro free record member
    obtain ⟨number, found⟩ := List.mem_iff_getElem?.mp member
    by_contra unclear
    rw [Bool.not_eq_true, (sound.records number record found).held, free] at unclear
    exact absurd unclear nofun
  · intro clear
    cases active : application.active with
    | none => rfl
    | some invocation =>
        have bound := sound.known invocation active
        have found := List.getElem?_eq_getElem bound
        have consistent := sound.records _ _ found
        have slot := consistent.mine invocation active rfl
        have unclear := consistent.held.mpr (active.trans (congrArg some slot))
        exact absurd ((clear _ (List.getElem_mem bound)).symm.trans unclear) nofun

/-- After any calls of `_bind_and_schedule`, retries of their errors and finalizations of the
handles they returned, whatever the kernel and the runtime answer: what a call acquired and is
not closed is that of the handle it returned or of the error it raised, and a retry of the error
leaves only what it asked for in vain; the exception of a call is the first failure in it, and
none of a cleanup; `_active_invocation` is free exactly when nothing is left and no cancellation
pending, and a call that reserved it releases it once, when nothing of it is left. A call that
returns returns the scheduled handle. -/
theorem startup_atomic (run : Run Step ({} : Application Exc) labels application) :
    (∀ record ∈ application.records,
      (∀ resource, record.startup.isOpen resource = true → record.Owns resource) ∧
      Shows record.result.error record.startup.log ∧
      (record.startup.clear = false ↔ application.active = some record.startup.slot) ∧
      record.startup.releases =
        if record.startup.reserved && record.startup.clear then 1 else 0) ∧
    (application.active = none ↔
      ∀ record ∈ application.records, record.startup.clear = true) ∧
    (∀ record ∈ application.records, ∀ owner ∈ record.owner, ∀ kernel : Kernel Exc,
      let retried := retryCleanup kernel owner (application.world record.startup)
      Retried kernel record.startup retried.2.2.startup retried.1) ∧
    ∀ (kernel : Kernel Exc) (arguments : Arguments),
      let ended := outcome (bindAndSchedule kernel arguments)
        (application.world { number := application.records.length })
      ended.1 = .ok () → ended.2.startup.handle = some
        (scheduled arguments.maxConnections kernel.supportsWakeupChannel
          arguments.hasObserver) := by
  have sound := sound_of_run run
  have consistently : ∀ record ∈ application.records,
      ∃ number, Consistent number application.active record := by
    intro record member
    obtain ⟨number, found⟩ := List.mem_iff_getElem?.mp member
    exact ⟨number, sound.records number record found⟩
  refine ⟨fun record member => ?_, sound.free_iff, fun record member owner raised kernel => ?_,
    fun kernel arguments => ?_⟩
  · obtain ⟨number, consistent⟩ := consistently record member
    exact ⟨fun _ left => consistent.owns left, consistent.truthful, consistent.held,
      consistent.released⟩
  · obtain ⟨number, consistent⟩ := consistently record member
    exact (retryCleanup_keeps kernel consistent raised).retried
  · have apart : ∀ invocation, application.active = some invocation →
        Invocation.number invocation ≠ application.records.length :=
      fun invocation active => Nat.ne_of_lt (sound.known invocation active)
    exact (bindAndSchedule_ends apart).2

end Applications

section Samples

def next (application : Application Exc) : Label Exc → Option (Application Exc)
  | .serve kernel arguments => some (application.serve kernel arguments)
  | .retry kernel number =>
      application.records[number]?.bind fun record =>
        record.owner.map fun owner => application.retry kernel number record owner
  | .finalize kernel number =>
      application.records[number]?.bind fun record =>
        match record.result with
        | .returned => some (application.finalize kernel number record)
        | _ => none

theorem step_of_next {application after : Application Exc} {label : Label Exc}
    (taken : next application label = some after) : Step application label after := by
  cases label with
  | serve kernel arguments =>
      cases taken
      exact .serve kernel arguments
  | retry kernel number =>
      obtain ⟨record, found, rest⟩ := Option.bind_eq_some_iff.mp taken
      obtain ⟨owner, raised, rfl⟩ := Option.map_eq_some_iff.mp rest
      exact .retry kernel found raised
  | finalize kernel number =>
      obtain ⟨record, found, rest⟩ := Option.bind_eq_some_iff.mp taken
      split at rest
      · rename_i returned
        cases rest
        exact .finalize kernel found returned
      · cases rest

/-- A kernel on which the operations that are listed fail, each with its place in the list;
the first is interrupted. -/
def failing (operations : List Operation) (server : Nat → Bool) : Kernel Nat where
  answers := fun operation => operations.idxOf? operation
  interrupts := fun error => error == 0
  supportsWakeupChannel := true
  hasNotify := true
  hasDrain := true
  hasClose := true
  waitObjectValid := true
  validationError := none
  localAddress := .sequence [] (some 80)
  registered := 1
  server := server

def sampleArguments : Arguments where
  host := some "127.0.0.1".toList
  port := some 0
  protocol := "http1".toList
  http2Config := none
  maxConnections := 1
  hasObserver := false

/-- `fork` is interrupted and the listener not closed, nor at the first retry; the second does
it. Then the handle of another startup cannot be constructed, nor its listener closed. -/
def sampleLabels : List (Label Nat) :=
  [.serve (failing [.fork] (· != 3)) sampleArguments,
    .retry (failing [] (· != 4)) 0,
    .retry (failing [] fun _ => true) 0,
    .serve (failing [.closeListener, .localAddress] fun _ => true) sampleArguments]

def sampleAfter (count : Nat) : Application Nat :=
  endOf next {} (sampleLabels.take count)

theorem startup_atomic_sample :
    ((sampleAfter 1).active = some (.handle 0) ∧ (sampleAfter 2).active = some (.handle 0) ∧
      (sampleAfter 3).active = none ∧ (sampleAfter 4).active = some (.marker 1) ∧
      (sampleAfter 4).records.map (fun record => record.startup.releases) = [1, 0] ∧
      (sampleAfter 4).records.map (fun record => record.result.error) =
        [some (.external 0), some (.external 1)]) ∧
    ((sampleAfter 4).active = none ↔
      ∀ record ∈ (sampleAfter 4).records, record.startup.clear = true) := by
  have computed : ∀ (application : Application Nat) label after,
      next application label = some after → Step application label after :=
    fun _ _ _ taken => step_of_next taken
  have taken : (takeAll next ({} : Application Nat) (sampleLabels.take 4)).isSome = true := by
    decide +kernel
  have run : Run Step ({} : Application Nat) (sampleLabels.take 4) (sampleAfter 4) :=
    run_endOf computed taken
  exact ⟨by decide +kernel, (startup_atomic run).2.1⟩

end Samples

end SmallServer.StartupAtomicity
