import SmallServer.ServerOwnership

/-!
# The handlers of a connection

Whether a handler that has ended is still listed in `_owned_tasks`. The handler takes itself
off the list in its `finally` block, which runs only if the handler has begun; while it is
live, it is in the table of its connection or its cancellation is pending. Both facts are
followed through every operation for one handler and its connection.
-/

namespace SmallServer.ServerTasks

open SmallServer Server ServerEffects ServerOperations ServerSteps

set_option autoImplicit false

section Tending

/-- What is known of a handler. If `strict` it has begun where it is listed; it is live only if
`present`; and its connection knows it unless it is `spared` or its cancellation pends. -/
structure Tended (handler connection : TaskId) (strict present spared : Prop)
    (handle : ServerHandle) : Prop where
  known : handler < handle.nextTask
  runs : ∀ task, handle.live.lookup handler = some task → task.routine = .handler connection
  once : handle.ownedTasks.count handler ≤ 1
  begun : strict → handler ∈ handle.ownedTasks →
    ∃ task, handle.live.lookup handler = some task ∧ task.started = true
  lives : handler ∈ handle.live → present
  housed : handler ∈ handle.live → spared ∨ handler ∈ handle.pendingTaskCancellations ∨
    ∃ parent stream, handle.live.lookup connection = some parent ∧
      parent.routine = .connection stream ∧ parent.started = true ∧ handler ∈ parent.handlers

namespace Tended

variable {handler connection : TaskId} {strict present spared more : Prop}
  {handle after : ServerHandle}

theorem same (tended : Tended handler connection strict present spared handle)
    (live : after.live = handle.live) (owned : after.ownedTasks = handle.ownedTasks)
    (pending : after.pendingTaskCancellations = handle.pendingTaskCancellations)
    (nextTask : after.nextTask = handle.nextTask) :
    Tended handler connection strict present spared after where
  known := nextTask ▸ tended.known
  runs := live ▸ tended.runs
  once := owned ▸ tended.once
  begun := by
    rw [live, owned]
    exact tended.begun
  lives := live ▸ tended.lives
  housed := by
    rw [live, pending]
    exact tended.housed

theorem weaken (tended : Tended handler connection strict present spared handle)
    (weaker : spared → more) : Tended handler connection strict present more handle :=
  { tended with housed := fun live => (tended.housed live).imp_left weaker }

/-- A handler that is not live, or whose cancellation pends, needs no connection. -/
theorem cancelled (tended : Tended handler connection strict present spared handle)
    (ended : handler ∉ handle.live ∨ handler ∈ handle.pendingTaskCancellations) :
    Tended handler connection strict present more handle :=
  { tended with
    housed := fun live => .inr (.inl (ended.resolve_left fun gone => gone live)) }

theorem disowned (tended : Tended handler connection strict present spared handle)
    (task : TaskId) : Tended handler connection strict present spared
      { handle with ownedTasks := handle.ownedTasks.erase task } :=
  { tended with
    once := List.Sublist.count_le handler List.erase_sublist |>.trans tended.once
    begun := fun begins listed => tended.begun begins (List.mem_of_mem_erase listed) }

theorem left (tended : Tended handler connection strict present spared handle) {task : TaskId}
    (other : task ≠ handler)
    (released : ∀ parent stream, handle.live.lookup task = some parent →
      parent.routine = .connection stream → parent.started = true →
        handler ∈ parent.handlers → spared) :
    Tended handler connection strict present spared
      { handle with live := handle.live.erase task } := by
  have stays : (handle.live.erase task).lookup handler = handle.live.lookup handler :=
    AList.lookup_erase_ne other.symm
  refine ⟨tended.known, ?_, tended.once, ?_, ?_, ?_⟩
  · exact fun running found => tended.runs running (stays.symm.trans found)
  · intro begins listed
    obtain ⟨running, found, started⟩ := tended.begun begins listed
    exact ⟨running, stays.trans found, started⟩
  · exact fun live => tended.lives (AList.mem_erase.mp live).2
  · intro live
    rcases tended.housed (AList.mem_erase.mp live).2 with spare | pends |
      ⟨parent, stream, found, serves, started, child⟩
    · exact .inl spare
    · exact .inr (.inl pends)
    · by_cases same : connection = task
      · subst same
        exact .inl (released parent stream found serves started child)
      · exact .inr (.inr ⟨parent, stream, (AList.lookup_erase_ne same).trans found, serves,
          started, child⟩)

theorem ended (tended : Tended handler connection strict present spared handle)
    (unlisted : strict → handler ∉ handle.ownedTasks) :
    Tended handler connection strict present spared
      { handle with live := handle.live.erase handler } := by
  have gone : handler ∉ handle.live.erase handler := fun live => (AList.mem_erase.mp live).1 rfl
  exact {
    known := tended.known
    runs := fun _ found => absurd (OrderedDict.mem_of_lookup found) gone
    once := tended.once
    begun := fun begins listed => absurd listed (unlisted begins)
    lives := fun live => absurd live gone
    housed := fun live => absurd live gone }

theorem marked (tended : Tended handler connection strict present spared handle)
    {taskId : TaskId} {task : Task} (later : Task)
    (found : handle.live.lookup taskId = some task) (routine : later.routine = task.routine)
    (started : task.started = true → later.started = true)
    (child : handler ∈ handle.live → handler ∈ task.handlers →
      spared ∨ handler ∈ later.handlers) :
    Tended handler connection strict present spared
      { handle with live := handle.live.set taskId later } := by
  have lookup := OrderedDict.lookup_set_eq handle.live taskId
  have live : ∀ other, other ∈ handle.live.set taskId later → other ∈ handle.live := by
    intro other inside
    rcases OrderedDict.mem_set.mp inside with rfl | before
    · exact OrderedDict.mem_of_lookup found
    · exact before
  refine ⟨tended.known, ?_, tended.once, ?_, ?_, ?_⟩
  · intro running foundLater
    rw [lookup] at foundLater
    split at foundLater
    · rename_i same
      obtain rfl := Option.some.inj foundLater
      exact routine.trans (tended.runs task (same ▸ found))
    · exact tended.runs running foundLater
  · intro begins listed
    obtain ⟨running, before, began⟩ := tended.begun begins listed
    rw [lookup]
    split
    · rename_i same
      obtain rfl := Option.some.inj ((same ▸ found).symm.trans before)
      exact ⟨later, rfl, started began⟩
    · exact ⟨running, before, began⟩
  · exact fun inside => tended.lives (live handler inside)
  · intro inside
    rcases tended.housed (live handler inside) with spare | pends |
      ⟨parent, stream, before, serves, began, inHandlers⟩
    · exact .inl spare
    · exact .inr (.inl pends)
    · rw [lookup]
      by_cases same : connection = taskId
      · obtain rfl := Option.some.inj ((same ▸ found).symm.trans before)
        rcases child (live handler inside) inHandlers with spare | kept
        · exact .inl spare
        · exact .inr (.inr ⟨later, stream, if_pos same, routine.trans serves, started began, kept⟩)
      · exact .inr (.inr ⟨parent, stream, (if_neg same).trans before, serves, began, inHandlers⟩)

theorem added (tended : Tended handler connection strict present spared handle)
    (fresh : handle.nextTask ∉ handle.live) (routine : Routine) :
    Tended handler connection strict present spared { handle with
      live := handle.live.set handle.nextTask { routine }
      nextTask := handle.nextTask + 1
      ownedTasks := handle.ownedTasks ++ [handle.nextTask] } := by
  have other : handler ≠ handle.nextTask := Nat.ne_of_lt tended.known
  have stays : (handle.live.set handle.nextTask { routine }).lookup handler =
      handle.live.lookup handler := OrderedDict.lookup_set_ne _ _ other
  have live : handler ∈ handle.live.set handle.nextTask { routine } → handler ∈ handle.live :=
    fun inside => (OrderedDict.mem_set.mp inside).resolve_left other
  refine ⟨Nat.lt_succ_of_lt tended.known, ?_, ?_, ?_, ?_, ?_⟩
  · exact fun running found => tended.runs running (stays.symm.trans found)
  · have none : [handle.nextTask].count handler = 0 :=
      List.count_eq_zero.mpr fun inside => other (List.mem_singleton.mp inside)
    rw [List.count_append, none]
    exact tended.once
  · intro begins listed
    have before : handler ∈ handle.ownedTasks :=
      (List.mem_append.mp listed).resolve_right fun inside => other (List.mem_singleton.mp inside)
    obtain ⟨running, found, started⟩ := tended.begun begins before
    exact ⟨running, stays.trans found, started⟩
  · exact fun inside => tended.lives (live inside)
  · intro inside
    rcases tended.housed (live inside) with spare | pends |
      ⟨parent, stream, found, serves, started, child⟩
    · exact .inl spare
    · exact .inr (.inl pends)
    · have known : connection ≠ handle.nextTask := by
        rintro rfl
        exact fresh (OrderedDict.mem_of_lookup found)
      exact .inr (.inr ⟨parent, stream, (OrderedDict.lookup_set_ne _ _ known).trans found, serves,
        started, child⟩)

theorem remembers (tended : Tended handler connection strict present spared handle)
    (task : TaskId) (ended : Bool) (error : Fault) :
    Tended handler connection strict present spared (remembered task ended error handle) :=
  { tended with
    housed := fun live => (tended.housed live).imp_right
      (Or.imp_left fun pends => OrderedDict.mem_set.mpr (.inr pends)) }

theorem settles (tended : Tended handler connection strict present spared handle)
    {task : TaskId} (gone : task ∉ handle.live) :
    Tended handler connection strict present spared (settled task handle) :=
  { tended with
    housed := by
      intro live
      refine (tended.housed live).imp_right (Or.imp_left fun pends => ?_)
      refine AList.mem_erase.mpr ⟨?_, pends⟩
      rintro rfl
      exact gone live }

theorem unregisters (tended : Tended handler connection strict present spared handle)
    {task : TaskId}
    (unstarted : ∀ running, handle.live.lookup task = some running → running.started = false) :
    Tended handler connection strict present spared (settled task (ending task handle)) := by
  refine settles ?_ fun live => (AList.mem_erase.mp live).1 rfl
  by_cases itself : task = handler
  · subst itself
    refine (tended.ended ?_).same rfl rfl rfl rfl
    intro begins listed
    obtain ⟨running, found, started⟩ := tended.begun begins listed
    rw [unstarted running found] at started
    cases started
  · refine (tended.left itself ?_).same rfl rfl rfl rfl
    intro parent _ found _ started _
    rw [unstarted parent found] at started
    cases started

theorem dropped (tended : Tended handler connection strict present spared handle)
    (parent : TaskId) {other : TaskId} (gone : other ∉ handle.live) :
    Tended handler connection strict present spared
      { handle with live := dropHandler parent other handle.live } := by
  cases found : handle.live.lookup parent with
  | none =>
      refine tended.same ?_ rfl rfl rfl
      show dropHandler parent other handle.live = handle.live
      unfold dropHandler
      rw [found]
  | some task =>
      let later : Task := { task with handlers := task.handlers.erase other }
      have drops : dropHandler parent other handle.live = handle.live.set parent later := by
        unfold dropHandler
        rw [found]
      have marks : Tended handler connection strict present spared
          { handle with live := handle.live.set parent later } := by
        refine tended.marked later found rfl id fun present child => .inr ?_
        refine (List.mem_erase_of_ne ?_).mpr child
        rintro rfl
        exact gone present
      exact marks.same drops rfl rfl rfl

end Tended

end Tending

section Cancelling

variable (handler connection : TaskId)

def Tends (bound : Nat) (handle after : ServerHandle) : Prop :=
  after.live.entries.length ≤ handle.live.entries.length ∧
    (handle.live.entries.length < bound → ∀ strict present spared : Prop,
      Tended handler connection strict present spared handle →
        Tended handler connection strict present spared after)

variable {handler connection}

theorem effect_tends {handle after : ServerHandle} (effect : Effect handle after)
    {strict present spared : Prop}
    (tended : Tended handler connection strict present spared handle) :
    Tended handler connection strict present spared after := by
  cases effect with
  | closed stream popped signal =>
      cases signal with
      | none => exact { tended with }
      | some ok => exact { tended with }
  | left stream popped signal =>
      cases signal with
      | none => exact { tended with }
      | some ok => exact { tended with }
  | updated =>
      unfold ServerHandle.updateFinished
      split
      · exact { tended with }
      · exact { tended with }
  | disowned task => exact tended.disowned task
  | handlerLeft parent other gone => exact tended.dropped parent gone
  | _ => exact { tended with }

theorem tends_covers (bound : Nat) : Covers (Tends handler connection bound) where
  refl _ := ⟨Nat.le_refl _, fun _ _ _ _ => id⟩
  trans _ _ _ first second :=
    ⟨second.1.trans first.1, fun few strict present spared tended =>
      second.2 (Nat.lt_of_le_of_lt first.1 few) strict present spared
        (first.2 few strict present spared tended)⟩
  effect handle after sound effect :=
    ⟨((unstarved_covers bound).effect handle after sound effect).1,
      fun _ _ _ _ => effect_tends effect⟩

variable {answers : Nat → Bool} {inner : TaskId → ServerHandle → Bool × ServerHandle}
  {bound : Nat} {handle after : ServerHandle} {strict present spared : Prop}

/-- The connection cancels its handlers one after the other: then each of them has ended, or
its cancellation pends. -/
theorem handlersCancelled_tended (cancels : CancelKeeps (Tends handler connection bound) inner)
    (handlers : List TaskId) (sound : Sound handle)
    (known : ∀ child ∈ handlers, child < handle.nextTask)
    (few : handle.live.entries.length < bound)
    (tended : Tended handler connection strict present (spared ∨ handler ∈ handlers) handle) :
    Tended handler connection strict present spared
      (handlers.foldl (fun next child => (cancelOrRetainTask inner child next).2) handle) := by
  induction handlers generalizing handle with
  | nil => exact tended.weaken fun either => either.resolve_right List.not_mem_nil
  | cons child rest induction =>
      obtain ⟨afterSound, grown, shorter, kept⟩ :=
        cancels.keeps child handle (known child List.mem_cons_self) sound
      have still := kept few strict present _ tended
      refine induction afterSound ?_ (Nat.lt_of_le_of_lt shorter few) ?_
      · intro other member
        rw [grown.nextTask]
        exact known other (List.mem_cons_of_mem child member)
      · by_cases same : handler = child
        · refine still.cancelled ?_
          rcases result : cancelOrRetainTask inner child handle with ⟨ok, next⟩
          cases ok with
          | true =>
              exact .inl (same ▸ cancels.gone child handle next (known child List.mem_cons_self)
                sound result)
          | false => exact .inr (same ▸ cancels.pending child handle next result)
        · exact still.weaken
            (Or.imp_right fun member => (List.mem_cons.mp member).resolve_left same)

/-- The `finally` blocks of a connection: it is the one that had to know its handlers. -/
theorem tearDown_tended (cancels : CancelKeeps (Tends handler connection bound) inner)
    (task : Task) (sound : Sound handle) (known : ∀ child ∈ task.children, child < handle.nextTask)
    (few : handle.live.entries.length < bound)
    (tended : Tended handler connection strict present (spared ∨ handler ∈ task.handlers)
      handle) :
    Tended handler connection strict present spared (tearDownConnection inner task handle) := by
  have covers : Covers (Tends handler connection bound) := tends_covers bound
  have knownHandlers : ∀ child ∈ task.handlers, child < handle.nextTask := fun child member =>
    known child (List.mem_append_left _ (List.mem_append_left _ member))
  let folded := task.handlers.foldl (fun next child => (cancelOrRetainTask inner child next).2)
    handle
  have foldedTended : Tended handler connection strict present spared folded :=
    handlersCancelled_tended cancels task.handlers sound knownHandlers few tended
  obtain ⟨foldedSound, grown, shorter, -⟩ : Sound folded ∧ Grows handle folded ∧
      Tends handler connection bound handle folded :=
    Keeps.foldl covers id (fun next child => (cancelOrRetainTask inner child next).2)
      task.handlers handle (fun child member current grown =>
        cancels.keeps child current (grown.nextTask ▸ knownHandlers child member)) sound
  -- What remains is a connection without handlers.
  let bare : Task := { task with handlers := [] }
  have bareKnown : ∀ child ∈ bare.children, child < folded.nextTask := by
    intro child member
    rw [grown.nextTask]
    refine known child ?_
    simp only [bare, Task.children, List.nil_append, List.mem_append] at member ⊢
    exact member.imp_left Or.inr
  obtain ⟨-, -, -, kept⟩ := tearDownConnection_keeps covers cancels bare bareKnown foldedSound
  exact kept (Nat.lt_of_le_of_lt shorter few) strict present spared foldedTended

theorem endConnection_tended (cancels : CancelKeeps (Tends handler connection bound) inner)
    (taskId : TaskId) (task : Task) {stream : StreamId} (primary : Option Fault)
    (sound : Sound handle) (ended : Ended stream taskId handle)
    (accepted : stream < handle.acceptedStreams)
    (known : ∀ child ∈ task.children, child < handle.nextTask)
    (few : handle.live.entries.length < bound)
    (tended : Tended handler connection strict present (spared ∨ handler ∈ task.handlers)
      handle) :
    Tended handler connection strict present spared
      (endConnection answers inner taskId task stream primary handle) := by
  have covers : Covers (Tends handler connection bound) := tends_covers bound
  let torn := tearDownConnection inner task handle
  obtain ⟨tornSound, grown, shorter, -⟩ : Sound torn ∧ Grows handle torn ∧
      Tends handler connection bound handle torn :=
    tearDownConnection_keeps covers cancels task known sound
  have tornTended : Tended handler connection strict present spared torn :=
    tearDown_tended cancels task sound known few tended
  let left : ServerHandle := { torn with websocketStates := torn.websocketStates.erase stream }
  have leftSound : Sound left := (Effect.websocketLeft torn stream).sound tornSound
  have stillEnded : Ended stream taskId torn := ended.grows grown
  have leftEnded : Ended stream taskId left := stillEnded
  have finishes : Keeps (Tends handler connection bound) left
      (connectionFinished answers (finishing answers inner) taskId stream primary left) :=
    connectionFinished_keeps covers (finishing_keeps covers cancels) taskId leftEnded
      (lt_of_lt_of_eq accepted grown.accepted.symm) primary
  obtain ⟨-, -, -, kept⟩ := finishes leftSound
  exact kept (Nat.lt_of_le_of_lt shorter few) strict present spared { tornTended with }

theorem finallyBlock_tended (cancels : CancelKeeps (Tends handler connection bound) inner)
    {taskId : TaskId} {running : Task} (sound : Sound after)
    (stopped : Stopped taskId running after) (few : after.live.entries.length < bound)
    (found : handle.live.lookup taskId = some running)
    (live : after.live = handle.live.erase taskId)
    (owned : after.ownedTasks = handle.ownedTasks)
    (pending : after.pendingTaskCancellations = handle.pendingTaskCancellations)
    (nextTask : after.nextTask = handle.nextTask)
    (tended : Tended handler connection strict present spared handle) :
    Tended handler connection strict present spared
      (finallyBlock answers inner taskId running after) := by
  by_cases itself : taskId = handler
  · subst itself
    have routine := tended.runs running found
    have unlisted : taskId ∉ handle.ownedTasks.erase taskId := by
      have once := tended.once
      refine List.count_eq_zero.mp ?_
      rw [List.count_erase_self]
      omega
    have disowned := (tended.disowned taskId).ended fun _ => unlisted
    have ends : Tended taskId connection strict present spared
        { after with ownedTasks := after.ownedTasks.erase taskId } :=
      disowned.same live (congrArg (List.erase · taskId) owned) pending nextTask
    have gone := (ends.dropped connection stopped.gone)
    unfold finallyBlock
    rw [routine]
    exact gone
  · have other : Tended handler connection strict present
        (spared ∨ handler ∈ running.handlers) after := by
      refine ((tended.weaken Or.inl).left itself ?_).same live owned pending nextTask
      intro parent stream same _ _ child
      obtain rfl := Option.some.inj (found.symm.trans same)
      exact .inr child
    by_cases serves : ∃ stream, running.routine = .connection stream
    · obtain ⟨stream, serves⟩ := serves
      obtain ⟨ended, accepted⟩ := stopped.connection stream serves
      unfold finallyBlock
      rw [serves]
      exact endConnection_tended cancels taskId running _ sound ended accepted stopped.children few
        other
    · have base : Tended handler connection strict present spared after := by
        refine (tended.left itself ?_).same live owned pending nextTask
        intro parent stream same routine
        obtain rfl := Option.some.inj (found.symm.trans same)
        exact absurd ⟨stream, routine⟩ serves
      obtain ⟨-, -, -, kept⟩ := finallyBlock_keeps (tends_covers bound) cancels stopped sound
      exact kept few strict present spared base

theorem cancelStep_tended (cancels : CancelKeeps (Tends handler connection bound) inner)
    (sound : Sound handle) (few : handle.live.entries.length < bound + 1) (task : TaskId)
    (tended : Tended handler connection strict present spared handle) :
    Tended handler connection strict present spared
      (cancelOrRetainTask (cancelStep answers inner) task handle).2 := by
  rcases result : cancelOrRetainTask (cancelStep answers inner) task handle with ⟨ok, next⟩
  cases ok with
  | false =>
      obtain rfl := cancelStep_failed result
      exact tended.remembers task _ _
  | true =>
      have gone : task ∉ (ending task handle).live := fun live => (AList.mem_erase.mp live).1 rfl
      rcases cancelStep_ended result with ⟨rfl, unstarted⟩ | ⟨running, found, -, rfl⟩
      · exact tended.unregisters unstarted
      · have stopped : Stopped task running (ending task handle) :=
          stopped_erase (sound_cancelTried sound task _ true) found
        have fewer : (ending task handle).live.entries.length < bound := by
          have less : (handle.live.erase task).entries.length + 1 = handle.live.entries.length :=
            length_erase_add (OrderedDict.mem_of_lookup found)
          show (handle.live.erase task).entries.length < bound
          omega
        have ran : Tended handler connection strict present spared
            (finallyBlock answers inner task running (ending task handle)) :=
          finallyBlock_tended cancels (sound_ending sound task) stopped fewer found rfl rfl rfl rfl
            tended
        refine ran.settles fun live => gone ?_
        obtain ⟨-, grown, -⟩ :=
          finallyBlock_keeps (tends_covers bound) cancels stopped (sound_ending sound task)
        exact grown.live.mem live

theorem cancelAt_tends (bound : Nat) :
    CancelKeeps (Tends handler connection (bound + 1)) (cancelAt answers bound) := by
  have keeps : ∀ (bound : Nat) (inner : TaskId → ServerHandle → Bool × ServerHandle),
      CancelKeeps (Tends handler connection bound) inner →
      CancelKeeps (Unstarved (bound + 1)) (cancelStep answers inner) →
        CancelKeeps (Tends handler connection (bound + 1)) (cancelStep answers inner) := by
    intro bound inner cancels plain
    refine { plain with keeps := ?_ }
    intro task handle known sound
    obtain ⟨afterSound, grown, shorter, -⟩ := plain.keeps task handle known sound
    exact ⟨afterSound, grown, shorter, fun few strict present spared tended =>
      cancelStep_tended cancels sound few task tended⟩
  induction bound with
  | zero =>
      refine keeps 0 _ (cancelAt_zero_inner fun handle task _ => ?_) (cancelAt_unstarved 0)
      exact ⟨OrderedDict.length_erase_le handle.live task,
        fun few => absurd few (Nat.not_lt_zero _)⟩
  | succ bound induction =>
      exact keeps (bound + 1) _ induction (cancelAt_unstarved (bound + 1))

theorem cancel_tends (answers : Nat → Bool) (handle : ServerHandle) :
    CancelKeeps (Tends handler connection (handle.live.entries.length + 2))
      (cancel answers handle) :=
  cancelAt_tends (handle.live.entries.length + 1)

end Cancelling

section Steps

variable {handler connection : TaskId} {answers : Nat → Bool} {handle after : ServerHandle}
  {strict present spared : Prop}

theorem cancels_tended (cancels : Cancels answers handle after) (sound : Sound handle)
    (tended : Tended handler connection strict present spared handle) :
    Tended handler connection strict present spared after := by
  obtain ⟨larger, fewer, keeps⟩ := cancels
  obtain ⟨-, -, -, kept⟩ := keeps (Tends handler connection (larger.live.entries.length + 2))
    (tends_covers _) (cancel_tends answers larger) sound
  exact kept (by omega) strict present spared tended

theorem stranger_left (tended : Tended handler connection strict present spared handle)
    {taskId : TaskId} {task : Task} (found : handle.live.lookup taskId = some task)
    (strange : task.routine ≠ .handler connection)
    (serves : ∀ stream, task.routine ≠ .connection stream) :
    Tended handler connection strict present spared
      { handle with live := handle.live.erase taskId } := by
  refine tended.left ?_ ?_
  · rintro rfl
    exact strange (tended.runs task found)
  · intro parent stream same routine
    obtain rfl := Option.some.inj (found.symm.trans same)
    exact absurd routine (serves stream)

theorem listenerMove_tended (move : ListenerMove answers handle after) (sound : Sound handle)
    (tended : Tended handler connection strict present spared handle) :
    Tended handler connection strict present spared after := by
  cases move with
  | operates finishes => exact cancels_tended finishes.cancels sound tended
  | ends listener is =>
      cases found : handle.live.lookup listener with
      | none =>
          exact tended.same (AList.ext (List.kerase_of_notMem_keys (AList.lookup_eq_none.mp found)))
            rfl rfl rfl
      | some task =>
          have accepts := (sound.roster.listener listener is).2 task found
          refine (stranger_left tended found ?_ ?_).same rfl rfl rfl rfl
          · exact fun handles => Routine.noConfusion (accepts.symm.trans handles)
          · exact fun stream serves => Routine.noConfusion (accepts.symm.trans serves)
  | unregisters task running live unstarted =>
      refine Tended.disowned (tended.unregisters ?_) task
      intro other found
      obtain rfl := Option.some.inj (live.symm.trans found)
      exact unstarted
  | remembers task error live registered => exact tended.remembers task _ error
  | waitsCapacity full => exact { tended with }
  | wakes => exact { tended with }
  | waitsAccept room => exact { tended with }
  | turns => exact { tended with }

theorem listenerMoves_tended (moves : ListenerMoves answers handle after) (sound : Sound handle)
    (tended : Tended handler connection strict present spared handle) :
    Tended handler connection strict present spared after := by
  induction moves with
  | refl => exact tended
  | tail before move induction =>
      exact listenerMove_tended move (ListenerMoves.follows before sound).1 induction

theorem fresh_task (sound : Sound handle) : handle.nextTask ∉ handle.live := fun live =>
  absurd (sound.roster.known _ live) (Nat.lt_irrefl _)

theorem begins_tended {outcome : AcceptOutcome} (begins : Begins outcome handle after)
    (sound : Sound handle) (tended : Tended handler connection strict present spared handle) :
    Tended handler connection strict present spared after := by
  rcases begins with rfl | ⟨-, arrives, -⟩
  · exact tended
  · cases arrives with
    | closed => exact { tended with }
    | kept => exact { tended with }
    | registered =>
        exact (tended.added (fresh_task sound) (.connection handle.acceptedStreams)).same
          rfl rfl rfl rfl

theorem runsListener_tended {outcome : AcceptOutcome} (sound : Sound handle)
    (taken : next answers handle (.runsListener outcome) = some after)
    (tended : Tended handler connection strict present spared handle) :
    Tended handler connection strict present spared after := by
  obtain ⟨listener, task, phase, base, start, found, started, marks, before, begins, moves⟩ :=
    runsListener_follows sound taken
  have begun : Tended handler connection strict present spared start := by
    subst started
    exact (tended.marked { task with started := true } found rfl (fun _ => rfl)
      fun _ child => .inr child).same rfl rfl rfl rfl
  obtain ⟨startSound, -⟩ := marks.follows sound
  obtain ⟨middleSound, -⟩ := ListenerMoves.follows before startSound
  obtain ⟨baseSound, -⟩ := begins.sound middleSound
  exact listenerMoves_tended moves baseSound
    (begins_tended begins middleSound (listenerMoves_tended before startSound begun))

theorem spawn_tended (sound : Sound handle) {parent : TaskId} {task : Task} {stream : StreamId}
    (found : handle.live.lookup parent = some task) (kind : ChildKind)
    (tended : Tended handler connection strict present spared handle) :
    Tended handler connection strict present spared (spawn parent task stream kind handle) := by
  have fresh : ∀ later : Task, handle.nextTask ∉ handle.live.set parent later := by
    intro later inside
    rcases OrderedDict.mem_set.mp inside with rfl | live
    · exact fresh_task sound (OrderedDict.mem_of_lookup found)
    · exact fresh_task sound live
  cases kind with
  | handler =>
      have marks := tended.marked { task with handlers := task.handlers ++ [handle.nextTask] }
        found rfl id fun _ child => .inr (List.mem_append_left _ child)
      exact (marks.added (fresh _) (.handler parent)).same rfl rfl rfl rfl
  | helper =>
      have marks := tended.marked { task with helpers := task.helpers ++ [handle.nextTask] }
        found rfl id fun _ child => .inr child
      exact (marks.added (fresh _) (.helper stream)).same rfl rfl rfl rfl
  | websocketChild =>
      have marks := tended.marked
        { task with websocketChildren := task.websocketChildren ++ [handle.nextTask] }
        found rfl id fun _ child => .inr child
      exact (marks.added (fresh _) .websocketChild).same rfl rfl rfl rfl

theorem endsChild_tended (sound : Sound handle) {taskId : TaskId}
    (taken : next answers handle (.endsChild taskId) = some after)
    (tended : Tended handler connection strict present spared handle) :
    Tended handler connection strict present spared after := by
  have ends : ∃ task, handle.live.lookup taskId = some task ∧ some (finallyBlock answers
      (cancel answers handle) taskId task { handle with
        live := handle.live.erase taskId
        cursor := some taskId }) = some after := by
    simp only [next] at taken
    split at taken
    · cases taken
    · rename_i task found
      refine ⟨task, found, ?_⟩
      split at taken
      · cases taken
      · cases taken
      · cases taken
      · exact taken
  obtain ⟨task, found, ⟨⟩⟩ := ends
  obtain ⟨endedSound, -⟩ := (Marks.ends handle taskId (some taskId)).follows sound
  have fewer := OrderedDict.length_erase_le handle.live taskId
  have few : (handle.live.erase taskId).entries.length < handle.live.entries.length + 2 := by omega
  exact finallyBlock_tended (cancel_tends answers handle) endedSound
    { stopped_erase sound found with } few found rfl rfl rfl rfl tended

/-- The connection forgets a handler whose stream the peer reset, before it cancels it. -/
def forgets (taskId : TaskId) (task : Task) (child : TaskId) (handle : ServerHandle) :
    ServerHandle :=
  { handle with
    live := handle.live.set taskId { task with handlers := task.handlers.erase child }
    cursor := some taskId }

theorem forgets_marks {taskId : TaskId} {task : Task}
    (found : handle.live.lookup taskId = some task) (child : TaskId) :
    Marks handle (forgets taskId task child handle) := by
  let later : Task := { task with handlers := task.handlers.erase child }
  have fewer : later.children ⊆ task.children := by
    intro other member
    simp only [later, Task.children, List.mem_append] at member ⊢
    exact member.imp_left (Or.imp_left List.mem_of_mem_erase)
  exact Marks.keeps later found rfl fewer (some taskId)

theorem cancelsHandler_eq {taskId child : TaskId}
    (taken : next answers handle (.cancelsHandler taskId child) = some after) :
    ∃ task, handle.live.lookup taskId = some task ∧ child ∈ task.handlers ∧
      after = (cancelOrRetainTask (cancel answers handle) child
        (forgets taskId task child handle)).2 := by
  simp only [next] at taken
  split at taken
  · cases taken
  · rename_i task stream running
    split at taken
    · rename_i known
      cases taken
      exact ⟨task, (runningConnection_eq running).1, List.contains_iff_mem.mp known, rfl⟩
    · cases taken

theorem cancelsHandler_tended (sound : Sound handle) {taskId child : TaskId}
    (taken : next answers handle (.cancelsHandler taskId child) = some after)
    (tended : Tended handler connection strict present spared handle) :
    Tended handler connection strict present spared after := by
  obtain ⟨task, found, known, rfl⟩ := cancelsHandler_eq taken
  have marks := forgets_marks found child
  obtain ⟨baseSound, -⟩ := marks.follows sound
  have dropped : Tended handler connection strict present (spared ∨ handler ∈ [child])
      (forgets taskId task child handle) := by
    let later : Task := { task with handlers := task.handlers.erase child }
    refine ((tended.weaken Or.inl).marked later found rfl id fun _ member => ?_).same
      rfl rfl rfl rfl
    by_cases same : handler = child
    · exact .inl (.inr (List.mem_singleton.mpr same))
    · exact .inr ((List.mem_erase_of_ne same).mpr member)
  have childKnown : ∀ other ∈ [child], other < handle.nextTask := by
    intro other member
    obtain rfl := List.mem_singleton.mp member
    refine sound.roster.children_known taskId task found other ?_
    simp only [Task.children, List.mem_append]
    exact .inl (.inl known)
  have few := marks.fewer
  exact handlersCancelled_tended (cancel_tends answers handle) [child] baseSound childKnown
    (Nat.lt_of_le_of_lt few (by omega : _ < handle.live.entries.length + 2)) dropped

theorem tearsDown_tended (sound : Sound handle) {taskId : TaskId}
    (taken : next answers handle (.tearsDown taskId) = some after)
    (tended : Tended handler connection strict present spared handle) :
    Tended handler connection strict present spared after := by
  obtain ⟨⟨task, stream⟩, running, rfl⟩ := Option.map_eq_some_iff.mp taken
  obtain ⟨found, serves, -⟩ := runningConnection_eq running
  let torn : Task := { routine := .connection stream, started := true }
  have marks := Marks.keeps torn found serves (fun child member => nomatch member) (some taskId)
  obtain ⟨baseSound, -⟩ := marks.follows sound
  have emptied : Tended handler connection strict present (spared ∨ handler ∈ task.handlers)
      { handle with live := handle.live.set taskId torn } :=
    (tended.weaken Or.inl).marked torn found serves.symm (fun _ => rfl)
      fun _ member => .inl (.inr member)
  have few := marks.fewer
  have ends := tearDown_tended (cancel_tends answers handle) task baseSound
    (sound.roster.children_known taskId task found)
    (Nat.lt_of_le_of_lt few (by omega : _ < handle.live.entries.length + 2)) { emptied with }
  exact { ends with }

theorem finishesConnection_tended (sound : Sound handle) {taskId : TaskId}
    {primary : Option Fault}
    (taken : next answers handle (.finishesConnection taskId primary) = some after)
    (tended : Tended handler connection strict present spared handle) :
    Tended handler connection strict present spared after := by
  obtain ⟨⟨task, stream⟩, running, rfl⟩ := Option.map_eq_some_iff.mp taken
  obtain ⟨found, serves, -⟩ := runningConnection_eq running
  have marks := Marks.ends handle taskId (some taskId)
  obtain ⟨baseSound, -⟩ := marks.follows sound
  have stopped : Stopped taskId task
      { handle with live := handle.live.erase taskId, cursor := some taskId } :=
    { stopped_erase sound found with }
  obtain ⟨ended, accepted⟩ := stopped.connection stream serves
  have left : Tended handler connection strict present (spared ∨ handler ∈ task.handlers)
      { handle with live := handle.live.erase taskId } := by
    refine (tended.weaken Or.inl).left ?_ ?_
    · rintro rfl
      exact Routine.noConfusion (serves.symm.trans (tended.runs task found))
    · intro parent _ same _ _ child
      obtain rfl := Option.some.inj (found.symm.trans same)
      exact .inr child
  have few := marks.fewer
  exact endConnection_tended (cancel_tends answers handle) taskId task primary baseSound ended
    accepted stopped.children
    (Nat.lt_of_le_of_lt few (by omega : _ < handle.live.entries.length + 2)) { left with }

theorem next_tended (sound : Sound handle) {step : Step}
    (taken : next answers handle step = some after)
    (tended : Tended handler connection strict present spared handle) :
    Tended handler connection strict present spared after := by
  cases step with
  | runsListener outcome => exact runsListener_tended sound taken tended
  | starts taskId =>
      obtain ⟨task, found, rfl⟩ := Option.map_eq_some_iff.mp taken
      exact tended.marked { task with started := true } found rfl (fun _ => rfl)
        fun _ child => .inr child
  | spawns taskId kind =>
      obtain ⟨⟨task, stream⟩, running, rfl⟩ := Option.map_eq_some_iff.mp taken
      exact spawn_tended sound (runningConnection_eq running).1 kind tended
  | endsChild taskId => exact endsChild_tended sound taken tended
  | cancelsHandler taskId child => exact cancelsHandler_tended sound taken tended
  | registersGraceful taskId =>
      obtain ⟨⟨task, stream⟩, running, rfl⟩ := Option.map_eq_some_iff.mp taken
      exact { tended with }
  | registersWebsocket taskId =>
      obtain ⟨⟨task, stream⟩, running, rfl⟩ := Option.map_eq_some_iff.mp taken
      exact { tended with }
  | tearsDown taskId => exact tearsDown_tended sound taken tended
  | finishesConnection taskId primary => exact finishesConnection_tended sound taken tended
  | forcesClose taskId primary =>
      simp only [next] at taken
      split at taken
      · cases taken
      · rename_i task found
        split at taken
        · rename_i stream helps
          cases taken
          obtain ⟨baseSound, -⟩ := (Marks.ends handle taskId (some taskId)).follows sound
          have left := stranger_left tended found (by rw [helps]; exact Routine.noConfusion)
            (fun _ => by rw [helps]; exact Routine.noConfusion)
          exact cancels_tended (forced_cancels sound found helps primary rfl) baseSound
            { left with }
        · cases taken
  | wakesWatcher taskId =>
      simp only [next] at taken
      split at taken
      · cases taken
      · rename_i task found
        split at taken
        · rename_i watches
          cases taken
          have marks := Marks.ends handle taskId (some taskId)
          obtain ⟨baseSound, -⟩ := marks.follows sound
          have left := stranger_left tended found (by rw [watches]; exact Routine.noConfusion)
            (fun _ => by rw [watches]; exact Routine.noConfusion)
          exact cancels_tended (finishClose_cancels false (some taskId) marks.fewer) baseSound
            { left with }
        · cases taken
  | close =>
      cases taken
      exact cancels_tended close_finishes.cancels sound tended
  | finalize =>
      cases taken
      have marks : Marks handle { handle with cursor := none } :=
        ⟨_, none, .refl _, Nat.le_refl _, rfl⟩
      obtain ⟨baseSound, -⟩ := marks.follows sound
      exact cancels_tended (finishClose_cancels true none marks.fewer) baseSound { tended with }
  | closesFromTask task =>
      cases taken
      obtain ⟨cursor, cancels⟩ : ∃ cursor, Cancels answers { handle with cursor }
          (closeFromTask answers task handle) := closeFromTask_cancels task
      have marks : Marks handle { handle with cursor } := ⟨_, cursor, .refl _, Nat.le_refl _, rfl⟩
      obtain ⟨baseSound, -⟩ := marks.follows sound
      exact cancels_tended cancels baseSound { tended with }

end Steps

section Runs

variable {answers : Nat → Bool} {handle after : ServerHandle} {handler connection : TaskId}

/-- In this step no handler ends that has not begun, unless it runs to its end: `cancel_task`
does not succeed on it. -/
def Spares (handle : ServerHandle) (step : Step) (after : ServerHandle) : Prop :=
  ∀ task running parent, handle.live.lookup task = some running →
    running.routine = .handler parent → running.started = false →
      task ∈ after.live ∨ step = .endsChild task

def SparingSteps (answers : Nat → Bool) (handle : ServerHandle) (step : Step)
    (after : ServerHandle) : Prop :=
  Steps answers handle step after ∧ Spares handle step after

def CancelledIn (task : TaskId) (handle after : ServerHandle) : Prop :=
  ∃ ended, (Call.cancelTask task ended, true) ∈ after.log.drop handle.log.length

/-- A handler is known to its connection, and is listed only while it is live. -/
structure Reared (handler connection : TaskId) (handle : ServerHandle) : Prop where
  tended : Tended handler connection False True False handle
  listed : handler ∈ handle.ownedTasks → handler ∈ handle.live

theorem endsChild_unlisted (tended : Tended handler connection False True False handle)
    (live : handler ∈ handle.live)
    (taken : next answers handle (.endsChild handler) = some after) :
    handler ∉ after.ownedTasks := by
  obtain ⟨task, found⟩ := Option.isSome_iff_exists.mp (AList.lookup_isSome.mpr live)
  have routine := tended.runs task found
  simp only [next, found, routine, finallyBlock] at taken
  cases taken
  have once := tended.once
  refine List.count_eq_zero.mp ?_
  show (handle.ownedTasks.erase handler).count handler = 0
  rw [List.count_erase_self]
  omega

theorem next_reared (sound : Sound handle) {step : Step}
    (taken : SparingSteps answers handle step after) (reared : Reared handler connection handle) :
    Reared handler connection after := by
  obtain ⟨taken, spares⟩ := taken
  have kept := next_tended sound taken reared.tended
  by_cases begun : handler ∈ handle.ownedTasks →
      ∃ task, handle.live.lookup handler = some task ∧ task.started = true
  · have strict : Tended handler connection True True False handle :=
      { reared.tended with begun := fun _ => begun }
    refine ⟨kept, fun listed => ?_⟩
    obtain ⟨task, found, -⟩ := (next_tended sound taken strict).begun trivial listed
    exact OrderedDict.mem_of_lookup found
  · -- The handler is listed and has not begun: the step spares it.
    obtain ⟨listed, unbegun⟩ := Classical.not_imp.mp begun
    have live := reared.listed listed
    obtain ⟨task, found⟩ := Option.isSome_iff_exists.mp (AList.lookup_isSome.mpr live)
    have unstarted : task.started = false := by
      cases started : task.started with
      | false => rfl
      | true => exact absurd ⟨task, found, started⟩ unbegun
    rcases spares handler task connection found (reared.tended.runs task found) unstarted with
      still | rfl
    · exact ⟨kept, fun _ => still⟩
    · exact ⟨kept, fun listedAfter =>
        absurd listedAfter (endsChild_unlisted reared.tended live taken)⟩

theorem spawned_reared (sound : Sound handle)
    (taken : next answers handle (.spawns connection .handler) = some after) :
    Reared handle.nextTask connection after := by
  obtain ⟨⟨task, stream⟩, running, rfl⟩ := Option.map_eq_some_iff.mp taken
  obtain ⟨found, serves, started⟩ := runningConnection_eq running
  have unowned : handle.nextTask ∉ handle.ownedTasks := fun owned =>
    absurd (sound.roster.owned_known _ owned) (Nat.lt_irrefl _)
  have different : connection ≠ handle.nextTask := by
    rintro rfl
    exact fresh_task sound (OrderedDict.mem_of_lookup found)
  let known : Task := { task with handlers := task.handlers ++ [handle.nextTask] }
  let live : OrderedDict TaskId Task :=
    (handle.live.set connection known).set handle.nextTask { routine := .handler connection }
  have itself : live.lookup handle.nextTask = some { routine := .handler connection } :=
    OrderedDict.lookup_set _ _ _
  have parent : live.lookup connection = some known :=
    (OrderedDict.lookup_set_ne _ _ different).trans (OrderedDict.lookup_set _ _ _)
  refine ⟨⟨Nat.lt_succ_self _, ?_, ?_, False.elim, fun _ => trivial, fun _ => ?_⟩, fun _ => ?_⟩
  · intro running foundLater
    obtain rfl := Option.some.inj (itself.symm.trans foundLater)
    rfl
  · show (handle.ownedTasks ++ [handle.nextTask]).count handle.nextTask ≤ 1
    rw [List.count_append, List.count_eq_zero.mpr unowned, List.count_singleton_self]
  · exact .inr (.inr ⟨known, stream, parent, serves, started,
      List.mem_append_right _ (List.mem_singleton.mpr rfl)⟩)
  · exact OrderedDict.mem_of_lookup itself

theorem run_sound {start : ServerHandle} {steps : List Step} (sound : Sound start)
    (run : Runs.Run (SparingSteps answers) start steps handle) : Sound handle :=
  run.stateInvariant sound fun _ _ _ held taken => (next_sound held taken.1).1

theorem run_tended {strict present : Prop} {start : ServerHandle} {steps : List Step}
    (sound : Sound start) (tended : Tended handler connection strict present False start)
    (run : Runs.Run (SparingSteps answers) start steps handle) :
    Tended handler connection strict present False handle := by
  induction run with
  | nil => exact tended
  | snoc step before taken induction => exact next_tended (run_sound sound before) taken.1 induction

theorem run_reared {start : ServerHandle} {steps : List Step} (sound : Sound start)
    (reared : Reared handler connection start)
    (run : Runs.Run (SparingSteps answers) start steps handle) :
    Reared handler connection handle := by
  induction run with
  | nil => exact reared
  | snoc step before taken induction => exact next_reared (run_sound sound before) taken induction

/-- A reset whose cancellation succeeded leaves the handler neither live nor listed. -/
theorem reset_gone (sound : Sound handle) (reared : Reared handler connection handle)
    (taken : SparingSteps answers handle (.cancelsHandler connection handler) after)
    (cancelled : CancelledIn handler handle after) :
    Tended handler connection True False False after := by
  have rearedAfter := next_reared sound taken reared
  have gone : handler ∉ after.live := by
    obtain ⟨task, found, -, rfl⟩ := cancelsHandler_eq taken.1
    obtain ⟨baseSound, -⟩ := (forgets_marks found handler).follows sound
    have cancels : CancelKeeps (Tends handler connection (handle.live.entries.length + 2))
        (cancel answers handle) := cancel_tends answers handle
    rcases result : cancelOrRetainTask (cancel answers handle) handler
      (forgets connection task handler handle) with ⟨ok, next⟩
    rw [result] at cancelled
    cases ok with
    | true =>
        exact cancels.gone handler (forgets connection task handler handle) next
          reared.tended.known baseSound result
    | false =>
        -- A failed cancellation is all that the step adds to the log.
        obtain ⟨ended, inside⟩ := cancelled
        obtain rfl := cancelStep_failed result
        have added : (remembered handler (decide (handler ∉ (forgets connection task handler
            handle).live)) (forgets connection task handler handle).nextFault
              (forgets connection task handler handle)).log =
            handle.log ++ [(.cancelTask handler _, false)] := rfl
        rw [added, List.drop_left] at inside
        cases List.mem_singleton.mp inside
  exact { rearedAfter.tended with
    begun := fun _ listed => absurd (rearedAfter.listed listed) gone
    lives := gone }

variable {maxConnections : Nat} {hasWakeup hasObserver : Bool} {steps later : List Step}
  {before spawned : ServerHandle}

/-- In a run that cancels no handler before its first step: a handler of a connection that has
ended is listed only if its cancellation is pending, and a handler whose stream was reset and
whose cancellation succeeded is listed no more. -/
theorem handlers_unlisted
    (run : Runs.Run (SparingSteps answers) (scheduled maxConnections hasWakeup hasObserver) steps
      before)
    (spawns : SparingSteps answers before (.spawns connection .handler) spawned)
    (rest : Runs.Run (SparingSteps answers) spawned later handle) :
    (connection ∉ handle.live → before.nextTask ∈ handle.ownedTasks →
      before.nextTask ∈ handle.pendingTaskCancellations) ∧
    ∀ reset more final,
      SparingSteps answers handle (.cancelsHandler connection before.nextTask) reset →
        CancelledIn before.nextTask handle reset →
          Runs.Run (SparingSteps answers) reset more final →
            before.nextTask ∉ final.ownedTasks := by
  have beforeSound : Sound before := run_sound (scheduled_sound _ _ _) run
  have spawnedSound : Sound spawned := (next_sound beforeSound spawns.1).1
  have sound : Sound handle := run_sound spawnedSound rest
  have reared : Reared before.nextTask connection handle :=
    run_reared spawnedSound (spawned_reared beforeSound spawns.1) rest
  constructor
  · intro finished listed
    rcases (reared.tended.housed (reared.listed listed)).resolve_left id with pends |
      ⟨parent, stream, found, -⟩
    · exact pends
    · exact absurd (OrderedDict.mem_of_lookup found) finished
  · intro reset more final taken cancelled after listed
    have gone : Tended before.nextTask connection True False False final :=
      run_tended (next_sound sound taken.1).1 (reset_gone sound reared taken cancelled) after
    obtain ⟨task, found, -⟩ := gone.begun trivial listed
    exact gone.lives (OrderedDict.mem_of_lookup found)

end Runs

section Samples

open ServerOwnership

def serves : List Step := accepts ++ [.starts 2, .spawns 2 .handler]

def serving : ServerHandle := Runs.endOf (next willing) single serves

def leaking : ServerHandle := Runs.endOf (next willing) serving [.cancelsHandler 2 3]

def leaked : ServerHandle := Runs.endOf (next willing) leaking [.finishesConnection 2 none]

/-- The handler was cancelled and stays on the list, also when its connection has ended. -/
theorem handler_leaks :
    Runs.Run (Steps willing) single serves serving ∧
    Runs.Run (Steps willing) serving [.cancelsHandler 2 3] leaking ∧
    CancelledIn 3 serving leaking ∧ 3 ∈ leaking.ownedTasks ∧
    Runs.Run (Steps willing) leaking [.finishesConnection 2 none] leaked ∧ 2 ∉ leaked.live ∧
    3 ∈ leaked.ownedTasks ∧ 3 ∉ leaked.pendingTaskCancellations :=
  ⟨Runs.run_endOf (fun _ _ _ => id) (by decide +kernel),
    Runs.run_endOf (fun _ _ _ => id) (by decide +kernel), ⟨false, by decide +kernel⟩,
    by decide +kernel, Runs.run_endOf (fun _ _ _ => id) (by decide +kernel), by decide +kernel,
    by decide +kernel, by decide +kernel⟩

def sparesAll (handle after : ServerHandle) : Bool :=
  handle.live.entries.all fun entry => entry.2.started || decide (entry.1 ∈ after.live)

def sparingNext (handle : ServerHandle) (step : Step) : Option ServerHandle :=
  (next willing handle step).filter (sparesAll handle)

theorem sparingNext_steps (handle : ServerHandle) (step : Step) (after : ServerHandle)
    (taken : sparingNext handle step = some after) : SparingSteps willing handle step after := by
  obtain ⟨taken, spares⟩ := Option.filter_eq_some_iff.mp taken
  refine ⟨taken, fun task running parent found _ unstarted => .inl ?_⟩
  have entry : (⟨task, running⟩ : Sigma fun _ : TaskId => Task) ∈ handle.live.entries :=
    AList.mem_lookup_iff.mp found
  have spared := List.all_eq_true.mp spares ⟨task, running⟩ entry
  rw [unstarted, Bool.false_or] at spared
  exact of_decide_eq_true spared

def opened : ServerHandle := Runs.endOf sparingNext single (accepts ++ [.starts 2])

def spawned : ServerHandle := Runs.endOf sparingNext opened [.spawns 2 .handler]

def begun : ServerHandle := Runs.endOf sparingNext spawned [.starts 3]

def closedWhileRunning : ServerHandle :=
  Runs.endOf sparingNext begun [.finishesConnection 2 none]

def resetWhileRunning : ServerHandle := Runs.endOf sparingNext begun [.cancelsHandler 2 3]

/-- The same, where the handler has begun before its stream is reset. -/
theorem handlers_unlisted_sample :
    (3 ∈ closedWhileRunning.ownedTasks → 3 ∈ closedWhileRunning.pendingTaskCancellations) ∧
      3 ∉ resetWhileRunning.ownedTasks := by
  have opens : Runs.Run (SparingSteps willing) single (accepts ++ [.starts 2]) opened :=
    Runs.run_endOf sparingNext_steps (by decide +kernel)
  have spawns : SparingSteps willing opened (.spawns 2 .handler) spawned :=
    sparingNext_steps _ _ _ (Runs.next_endOf (by decide +kernel))
  have begins : Runs.Run (SparingSteps willing) spawned [.starts 3] begun :=
    Runs.run_endOf sparingNext_steps (by decide +kernel)
  have closes : Runs.Run (SparingSteps willing) begun [.finishesConnection 2 none]
      closedWhileRunning := Runs.run_endOf sparingNext_steps (by decide +kernel)
  have resets : SparingSteps willing begun (.cancelsHandler 2 3) resetWhileRunning :=
    sparingNext_steps _ _ _ (Runs.next_endOf (by decide +kernel))
  exact ⟨(handlers_unlisted opens spawns (begins.append closes)).1 (by decide +kernel),
    (handlers_unlisted opens spawns begins).2 _ [] _ resets ⟨false, by decide +kernel⟩ .nil⟩

end Samples

end SmallServer.ServerTasks
