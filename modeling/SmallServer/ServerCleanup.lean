import SmallServer.ServerOwnership

/-!
# What the server still owes

`_cleanup_errors` against the three tables of what is retained. An entry is kept for each
resource whose release failed; it goes when the resource is released, and when there is
nothing left to release. Every operation touches the entry of one resource at a time, so that
the entries of all others are carried over.
-/

namespace SmallServer.ServerCleanup

open SmallServer Server ServerEffects ServerOperations ServerSteps

set_option autoImplicit false

section Reports

def about : CleanupKey → Call → Bool
  | .wakeup, call => decide (call = .close .wakeup)
  | .listener, call => decide (call = .close .listener)
  | .connection stream, call => decide (call = .close (.connection stream))
  | .task task, .cancelTask cancelled _ => decide (cancelled = task)
  | .task _, _ => false

/-- The exception of the latest call about a key that failed. -/
def latest (key : CleanupKey) (log : List (Call × Bool)) : Option Fault :=
  (log.zipIdx.reverse.find? fun entry => about key entry.1.1 && !entry.1.2).map
    fun entry => .raised entry.2

/-- A resource that one of the tables of failed releases holds. -/
def Retained (handle : ServerHandle) : CleanupKey → Prop
  | .wakeup => False
  | .listener => False
  | .connection stream => stream ∈ handle.closingConnections
  | .task task => task ∈ handle.pendingTaskCancellations

def Owed (handle : ServerHandle) : CleanupKey → Prop
  | .wakeup => handle.hasWakeup = true ∧ handle.wakeupClosed = false
  | .listener => handle.listenerClosed = false
  | .connection stream => stream ∉ handle.closedStreams ∧
      (stream ∈ handle.connections ∨ stream ∈ handle.closingConnections)
  | .task task => task ∈ handle.pendingTaskCancellations

/-- What is retained is reported, and what is reported is owed, with its latest failure. -/
def Balanced (handle : ServerHandle) (key : CleanupKey) : Prop :=
  (Retained handle key → key ∈ handle.cleanupErrors) ∧
    ∀ error, handle.cleanupErrors.lookup key = some error →
      Owed handle key ∧ latest key handle.log = some error

def BalancedBut (key : CleanupKey) (handle : ServerHandle) : Prop :=
  ∀ other, other ≠ key → Balanced handle other

def Accounted (handle : ServerHandle) : Prop := ∀ key, Balanced handle key

theorem about_unique {key other : CleanupKey} {call : Call} (here : about key call = true)
    (there : about other call = true) : other = key := by
  cases call <;> cases key <;> cases other <;>
    simp_all [about, decide_eq_true_eq]

theorem latest_snoc (key : CleanupKey) (log : List (Call × Bool)) (entry : Call × Bool) :
    latest key (log ++ [entry]) =
      if about key entry.1 && !entry.2 then some (.raised log.length) else latest key log := by
  unfold latest
  rw [List.zipIdx_append, List.reverse_append, List.find?_append, Nat.zero_add]
  cases relevant : about key entry.1 && !entry.2 with
  | true =>
      simp [relevant]
  | false =>
      simp [relevant]

/-- A call that succeeds, or that no entry of this key reports, changes no report. -/
theorem latest_same {key : CleanupKey} {call : Call} {ok : Bool} (log : List (Call × Bool))
    (unreported : about key call = true → ok = true) :
    latest key (log ++ [(call, ok)]) = latest key log := by
  rw [latest_snoc]
  refine if_neg fun failed => ?_
  obtain ⟨relevant, refused⟩ := Bool.and_eq_true_iff.mp failed
  rw [unreported relevant] at refused
  cases refused

theorem latest_failed {key : CleanupKey} {call : Call} (log : List (Call × Bool))
    (relevant : about key call = true) :
    latest key (log ++ [(call, false)]) = some (.raised log.length) := by
  rw [latest_snoc]
  exact if_pos (by rw [relevant]; rfl)

end Reports

section Entries

variable {handle after : ServerHandle} {key : CleanupKey}

structure Carries (handle after : ServerHandle) (key : CleanupKey) : Prop where
  retained : Retained after key → Retained handle key
  owed : Owed handle key → Owed after key
  entry : after.cleanupErrors.lookup key = handle.cleanupErrors.lookup key
  same : latest key after.log = latest key handle.log

theorem Balanced.carry (balanced : Balanced handle key) (carries : Carries handle after key) :
    Balanced after key := by
  obtain ⟨reported, truthful⟩ := balanced
  constructor
  · intro retained
    rw [← AList.lookup_isSome, carries.entry, AList.lookup_isSome]
    exact reported (carries.retained retained)
  · intro error found
    obtain ⟨owed, failure⟩ := truthful error (carries.entry ▸ found)
    exact ⟨carries.owed owed, carries.same.trans failure⟩

theorem BalancedBut.carry (balanced : BalancedBut key handle)
    (carries : ∀ other, other ≠ key → Carries handle after other) : BalancedBut key after :=
  fun other different => (balanced other different).carry (carries other different)

theorem Accounted.but (accounted : Accounted handle) (key : CleanupKey) :
    BalancedBut key handle := fun other _ => accounted other

theorem BalancedBut.settle (balanced : BalancedBut key handle) (here : Balanced handle key) :
    Accounted handle := by
  intro other
  by_cases same : other = key
  · exact same ▸ here
  · exact balanced other same

theorem Balanced.settled (released : ¬Retained handle key) (gone : key ∉ handle.cleanupErrors) :
    Balanced handle key :=
  ⟨fun retained => absurd retained released,
    fun _ found => absurd (OrderedDict.mem_of_lookup found) gone⟩

theorem Balanced.noted {error : Fault} (owed : Owed handle key)
    (entry : handle.cleanupErrors.lookup key = some error)
    (failure : latest key handle.log = some error) : Balanced handle key := by
  refine ⟨fun _ => OrderedDict.mem_of_lookup entry, fun other found => ?_⟩
  obtain rfl := Option.some.inj (entry.symm.trans found)
  exact ⟨owed, failure⟩

theorem BalancedBut.logged (balanced : BalancedBut key handle) {call : Call} {ok : Bool}
    (unreported : ∀ other, other ≠ key → about other call = true → ok = true) :
    BalancedBut key { handle with log := handle.log ++ [(call, ok)] } :=
  balanced.carry fun other different =>
    ⟨id, id, rfl, latest_same handle.log (unreported other different)⟩

theorem BalancedBut.tried (balanced : BalancedBut key handle) (call : Call)
    (relevant : about key call = true) (ok : Bool) :
    BalancedBut key { handle with log := handle.log ++ [(call, ok)] } :=
  balanced.logged fun _ different there => absurd (about_unique relevant there) different

theorem Accounted.logged (accounted : Accounted handle) {call : Call}
    (unreported : ∀ key, about key call = false) (ok : Bool) :
    Accounted { handle with log := handle.log ++ [(call, ok)] } := fun key =>
  (accounted key).carry ⟨id, id, rfl, latest_same handle.log fun relevant =>
    absurd (relevant.symm.trans (unreported key)) (by decide)⟩

theorem BalancedBut.erased (balanced : BalancedBut key handle) :
    BalancedBut key { handle with cleanupErrors := handle.cleanupErrors.erase key } :=
  balanced.carry fun _ different => ⟨id, id, AList.lookup_erase_ne different, rfl⟩

theorem BalancedBut.entered (balanced : BalancedBut key handle) (error : Fault) :
    BalancedBut key { handle with cleanupErrors := handle.cleanupErrors.set key error } :=
  balanced.carry fun _ different => ⟨id, id, OrderedDict.lookup_set_ne _ _ different, rfl⟩

/-- The place of one stream in the tables is of no concern to the entries of the others. -/
theorem BalancedBut.placed {stream : StreamId}
    (balanced : BalancedBut (.connection stream) handle)
    (connections : OrderedDict StreamId TaskId) (closing : OrderedDict StreamId Unit)
    (closed : Finset StreamId)
    (stays : ∀ other, other ≠ stream → other ∈ handle.connections → other ∈ connections)
    (same : ∀ other, other ≠ stream → (other ∈ closing ↔ other ∈ handle.closingConnections))
    (unclosed : ∀ other, other ≠ stream → other ∈ closed → other ∈ handle.closedStreams) :
    BalancedBut (.connection stream) { handle with
      connections
      closingConnections := closing
      closedStreams := closed } := by
  refine balanced.carry fun other different => ?_
  cases other with
  | connection another =>
      have elsewhere : another ≠ stream := fun equal => different (equal ▸ rfl)
      refine ⟨(same another elsewhere).mp, fun owed => ?_, rfl, rfl⟩
      exact ⟨fun inside => owed.1 (unclosed another elsewhere inside),
        owed.2.imp (stays another elsewhere) (same another elsewhere).mpr⟩
  | wakeup => exact ⟨id, id, rfl, rfl⟩
  | listener => exact ⟨id, id, rfl, rfl⟩
  | task task => exact ⟨id, id, rfl, rfl⟩

/-- Whether one task is remembered is of no concern to the entries of the others. -/
theorem BalancedBut.pending {task : TaskId} (balanced : BalancedBut (.task task) handle)
    (pending : OrderedDict TaskId Unit)
    (same : ∀ other, other ≠ task → (other ∈ pending ↔ other ∈ handle.pendingTaskCancellations)) :
    BalancedBut (.task task) { handle with pendingTaskCancellations := pending } := by
  refine balanced.carry fun other different => ?_
  cases other with
  | task another =>
      have elsewhere : another ≠ task := fun equal => different (equal ▸ rfl)
      exact ⟨(same another elsewhere).mp, (same another elsewhere).mpr, rfl, rfl⟩
  | wakeup => exact ⟨id, id, rfl, rfl⟩
  | listener => exact ⟨id, id, rfl, rfl⟩
  | connection stream => exact ⟨id, id, rfl, rfl⟩

/-- The other entries do not depend on whether the wakeup channel is closed. -/
theorem BalancedBut.wakeup (balanced : BalancedBut .wakeup handle) (closed : Bool) :
    BalancedBut .wakeup { handle with wakeupClosed := closed } := by
  refine balanced.carry fun other different => ?_
  cases other with
  | wakeup => exact absurd rfl different
  | listener => exact ⟨id, id, rfl, rfl⟩
  | connection stream => exact ⟨id, id, rfl, rfl⟩
  | task task => exact ⟨id, id, rfl, rfl⟩

theorem BalancedBut.listener (balanced : BalancedBut .listener handle) (closed : Bool) :
    BalancedBut .listener { handle with listenerClosed := closed } := by
  refine balanced.carry fun other different => ?_
  cases other with
  | listener => exact absurd rfl different
  | wakeup => exact ⟨id, id, rfl, rfl⟩
  | connection stream => exact ⟨id, id, rfl, rfl⟩
  | task task => exact ⟨id, id, rfl, rfl⟩

end Entries

section Closes

variable {answers : Nat → Bool} {handle after : ServerHandle} {stream : StreamId}

/-- Whichever way a close goes, the entries of the other resources stay right. -/
theorem closeSafely_but (answers : Nat → Bool)
    (balanced : BalancedBut (.connection stream) handle) :
    BalancedBut (.connection stream) (closeSafely answers stream handle).2 := by
  unfold closeSafely
  split
  · exact balanced
  · rcases tried : attempt answers (.close (.connection stream)) handle with ⟨ok, next⟩
    obtain rfl := of_attempt tried
    have logged := balanced.tried (.close (.connection stream)) (decide_eq_true rfl) ok
    cases ok with
    | false => exact logged
    | true =>
        exact logged.placed handle.connections handle.closingConnections
          (insert stream handle.closedStreams) (fun _ _ => id) (fun _ _ => Iff.rfl)
          fun _ different inside => (Finset.mem_insert.mp inside).resolve_left different

/-- `close_safely` is no method of the handle; it leaves the tables of the handle alone. -/
theorem closeSafely_tables (answers : Nat → Bool) (stream : StreamId) (handle : ServerHandle) :
    (closeSafely answers stream handle).2.closingConnections = handle.closingConnections ∧
      (closeSafely answers stream handle).2.cleanupErrors = handle.cleanupErrors := by
  unfold closeSafely attempt
  split
  · exact ⟨rfl, rfl⟩
  · cases answers handle.log.length <;> exact ⟨rfl, rfl⟩

/-- What a close that failed leaves: the stream is open, and its error is the latest failure. -/
theorem closeSafely_failed (failed : closeSafely answers stream handle = (false, after)) :
    stream ∉ after.closedStreams ∧
      latest (.connection stream) after.log = some (after.closeError stream) := by
  unfold closeSafely at failed
  split at failed
  · cases (Prod.mk.inj failed).1
  · rename_i unclosed
    rcases tried : attempt answers (.close (.connection stream)) handle with ⟨ok, next⟩
    rw [tried] at failed
    cases ok with
    | true => cases (Prod.mk.inj failed).1
    | false =>
        obtain rfl := (Prod.mk.inj failed).2
        rw [of_attempt tried]
        refine ⟨unclosed, ?_⟩
        have known : latest (.connection stream)
            (handle.log ++ [(.close (.connection stream), false)]) = some handle.nextFault :=
          latest_failed handle.log (decide_eq_true rfl)
        rw [ServerHandle.closeError, OrderedDict.lookup_set]
        exact known

theorem forgotten (balanced : BalancedBut (.connection stream) handle) :
    Accounted { handle with
      closingConnections := handle.closingConnections.erase stream
      cleanupErrors := handle.cleanupErrors.erase (.connection stream) } := by
  have left := balanced.placed handle.connections (handle.closingConnections.erase stream)
    handle.closedStreams (fun _ _ => id)
    (fun _ different => AList.mem_erase.trans (and_iff_right different)) (fun _ _ => id)
  refine left.erased.settle (.settled ?_ ?_)
  · exact fun retained => (AList.mem_erase.mp retained).1 rfl
  · exact fun kept => (AList.mem_erase.mp kept).1 rfl

/-- A stream whose close failed stays in a table, and its entry has the failure. -/
theorem kept (balanced : BalancedBut (.connection stream) handle)
    (unclosed : stream ∉ handle.closedStreams)
    (owned : stream ∈ handle.connections ∨ stream ∈ handle.closingConnections)
    (failure : latest (.connection stream) handle.log = some (handle.closeError stream)) :
    Accounted { handle with
      cleanupErrors :=
        handle.cleanupErrors.set (.connection stream) (handle.closeError stream) } :=
  (balanced.entered (handle.closeError stream)).settle
    (.noted ⟨unclosed, owned⟩ (OrderedDict.lookup_set _ _ _) failure)

theorem moved (balanced : BalancedBut (.connection stream) handle)
    (unclosed : stream ∉ handle.closedStreams)
    (failure : latest (.connection stream) handle.log = some (handle.closeError stream)) :
    Accounted { handle with
      closingConnections := handle.closingConnections.set stream ()
      cleanupErrors :=
        handle.cleanupErrors.set (.connection stream) (handle.closeError stream) } := by
  have entered := balanced.placed handle.connections (handle.closingConnections.set stream ())
    handle.closedStreams (fun _ _ => id)
    (fun _ different => OrderedDict.mem_set.trans (or_iff_right different)) (fun _ _ => id)
  exact kept entered unclosed (.inr (OrderedDict.mem_set.mpr (.inl rfl))) failure

/-- A stream leaves the table of connections; only its own entry may be out of date then. -/
theorem popped_but (accounted : Accounted handle) (stream : StreamId) :
    BalancedBut (.connection stream)
      { handle with connections := handle.connections.erase stream } :=
  (accounted.but (.connection stream)).placed (handle.connections.erase stream)
    handle.closingConnections handle.closedStreams
    (fun _ different present => AList.mem_erase.mpr ⟨different, present⟩)
    (fun _ _ => Iff.rfl) (fun _ _ => id)

end Closes

section Failures

variable {answers : Nat → Bool} {finish : Option TaskId → ServerHandle → ServerHandle}
  {handle after : ServerHandle} {stream : StreamId}

/-- What is needed of the finalization an operation falls back on. -/
def FinishAccounts (finish : Option TaskId → ServerHandle → ServerHandle) : Prop :=
  ∀ task handle, Accounted handle → Accounted (finish task handle)

theorem attempt_accounts (accounted : Accounted handle) {call : Call}
    (unreported : ∀ key, about key call = false) :
    Accounted (attempt answers call handle).2 :=
  accounted.logged unreported (answers handle.log.length)

theorem notify_unreported (key : CleanupKey) : about key .notify = false := by
  cases key <;> rfl

theorem capacitySignal_unreported (key : CleanupKey) : about key .capacitySignal = false := by
  cases key <;> rfl

theorem gracefulClose_unreported (key : CleanupKey) :
    about key (.gracefulClose stream) = false := by
  cases key <;> rfl

theorem notifying_accounts (finishes : FinishAccounts finish) (task : Option TaskId)
    (accounted : Accounted handle) :
    Accounted (match attempt answers .notify handle with
      | (true, next) => { next with notificationSent := true }
      | (false, next) => finish task next) := by
  have tried : Accounted (attempt answers .notify handle).2 :=
    attempt_accounts accounted notify_unreported
  split
  · rename_i next attempted
    rw [attempted] at tried
    exact tried
  · rename_i next attempted
    rw [attempted] at tried
    exact finishes task next tried

theorem listenerFailed_accounts (finishes : FinishAccounts finish) (error : Fault)
    (task : Option TaskId) (accounted : Accounted handle) :
    Accounted (listenerFailed answers finish error task handle) := by
  have known : Accounted { handle.fail ⟨some error, none⟩ with closeRequested := true } := accounted
  unfold listenerFailed
  dsimp only
  split
  · exact notifying_accounts finishes task known
  · split
    · exact known
    · exact finishes task _ known

theorem connectionCloseFailed_accounts (finishes : FinishAccounts finish) (error : Fault)
    (task : Option TaskId) (primary : Option Fault) (accounted : Accounted handle) :
    Accounted (connectionCloseFailed answers finish error task primary handle) := by
  have known : Accounted { handle.fail ⟨primary, some error⟩ with closeRequested := true } :=
    accounted
  unfold connectionCloseFailed
  dsimp only
  split
  · exact known
  · split
    · exact notifying_accounts finishes task known
    · split
      · exact finishes task _ known
      · exact known

theorem closeOrRetain_accounts (finishes : FinishAccounts finish) (task : Option TaskId)
    (primary : Option Fault) (balanced : BalancedBut (.connection stream) handle) :
    Accounted (closeOrRetain answers finish stream task primary handle).2 := by
  unfold closeOrRetain
  have closed : BalancedBut (.connection stream) (closeSafely answers stream handle).2 :=
    closeSafely_but answers balanced
  rcases tried : closeSafely answers stream handle with ⟨ok, next⟩
  rw [tried] at closed
  cases ok with
  | true => exact forgotten closed
  | false =>
      obtain ⟨unclosed, failure⟩ := closeSafely_failed tried
      refine connectionCloseFailed_accounts finishes _ task primary ?_
      by_cases present : stream ∈ next.connections
      · rw [if_pos present]
        exact kept closed unclosed (.inl present) failure
      · rw [if_neg present]
        exact moved closed unclosed failure

theorem forceConnectionClose_accounts (finishes : FinishAccounts finish) (stream : StreamId)
    (task : Option TaskId) (primary : Option Fault) (accounted : Accounted handle) :
    Accounted (forceConnectionClose answers finish stream task primary handle).2 := by
  have discarded : Accounted { handle with
      gracefulClosers := handle.gracefulClosers.erase stream } := accounted
  exact closeOrRetain_accounts finishes task primary (discarded.but (.connection stream))

theorem notifyCapacityReleased_accounts (finishes : FinishAccounts finish) (previous : Nat)
    (accounted : Accounted handle) :
    Accounted (notifyCapacityReleased answers finish previous handle) := by
  unfold notifyCapacityReleased
  split
  · exact accounted
  · have tried : Accounted (attempt answers .capacitySignal handle).2 :=
      attempt_accounts accounted capacitySignal_unreported
    split
    · rename_i next attempted
      rw [attempted] at tried
      exact tried
    · rename_i next attempted
      rw [attempted] at tried
      exact listenerFailed_accounts finishes _ _ tried

theorem updateFinished_accounts (accounted : Accounted handle) :
    Accounted handle.updateFinished := by
  unfold ServerHandle.updateFinished
  split
  · rename_i complete
    simp only [ServerHandle.complete, Bool.and_eq_true, List.isEmpty_iff] at complete
    obtain ⟨⟨⟨-, closing⟩, pending⟩, -⟩ := complete
    intro key
    refine .settled ?_ (AList.notMem_empty key)
    cases key with
    | wakeup => exact id
    | listener => exact id
    | connection stream =>
        intro inside
        have absent : handle.closingConnections = ∅ := AList.ext closing
        exact AList.notMem_empty stream (absent ▸ inside)
    | task task =>
        intro inside
        have absent : handle.pendingTaskCancellations = ∅ := AList.ext pending
        exact AList.notMem_empty task (absent ▸ inside)
  · exact accounted

theorem connectionFinished_accounts (finishes : FinishAccounts finish) (task : TaskId)
    (stream : StreamId) (primary : Option Fault) (accounted : Accounted handle) :
    Accounted (connectionFinished answers finish task stream primary handle) := by
  unfold connectionFinished
  extract_lets ownedTask left settled
  have left_but : BalancedBut (.connection stream) left := popped_but accounted stream
  have known : Accounted settled := closeOrRetain_accounts finishes (some task) primary left_but
  exact updateFinished_accounts
    (notifyCapacityReleased_accounts finishes handle.ownedConnectionCount known)

end Failures

section Finalization

variable {answers : Nat → Bool} {inner : TaskId → ServerHandle → Bool × ServerHandle}
  {handle : ServerHandle}

def CancelAccounts (inner : TaskId → ServerHandle → Bool × ServerHandle) : Prop :=
  ∀ task handle, Accounted handle → Accounted (cancelOrRetainTask inner task handle).2

theorem cancelAndNote_accounts (cancels : CancelAccounts inner) (task : TaskId)
    (accounted : Accounted handle) : Accounted (cancelAndNote inner task handle) := by
  have cancelled := cancels task handle accounted
  unfold cancelAndNote
  rcases result : cancelOrRetainTask inner task handle with ⟨ok, next⟩
  rw [result] at cancelled
  cases ok with
  | true => exact cancelled
  | false => exact cancelled

theorem closeWakeup_accounts (accounted : Accounted handle) :
    Accounted (closeWakeup answers handle) := by
  unfold closeWakeup
  split
  · rename_i present
    have unclosed : Owed handle .wakeup := by
      rw [Bool.and_eq_true, Bool.not_eq_true'] at present
      exact present
    have tried := (accounted.but .wakeup).tried (.close .wakeup) rfl
    split
    · rename_i next answer
      obtain rfl := of_attempt answer
      exact ((tried true).wakeup true).erased.settle
        (.settled id fun inside => (AList.mem_erase.mp inside).1 rfl)
    · rename_i next answer
      obtain rfl := of_attempt answer
      exact ((tried false).entered handle.nextFault).settle
        (.noted unclosed (OrderedDict.lookup_set _ _ _) (latest_failed handle.log rfl))
  · exact accounted

theorem closeListener_accounts (accounted : Accounted handle) :
    Accounted (closeListener answers handle) := by
  unfold closeListener
  split
  · rename_i present
    have unclosed : Owed handle .listener := by
      rw [Bool.not_eq_true'] at present
      exact present
    have tried := (accounted.but .listener).tried (.close .listener) rfl
    split
    · rename_i next answer
      obtain rfl := of_attempt answer
      exact ((tried true).listener true).erased.settle
        (.settled id fun inside => (AList.mem_erase.mp inside).1 rfl)
    · rename_i next answer
      obtain rfl := of_attempt answer
      exact ((tried false).entered handle.nextFault).settle
        (.noted unclosed (OrderedDict.lookup_set _ _ _) (latest_failed handle.log rfl))
  · exact accounted

/-- A stream whose close failed before, with the others that are still to be tried again. -/
theorem retryConnection_accounts (answers : Nat → Bool) {stream : StreamId}
    (accounted : Accounted handle)
    (closing : stream ∈ handle.closingConnections) :
    Accounted (retryConnection answers handle stream) ∧
      ∀ other, other ≠ stream → other ∈ handle.closingConnections →
        other ∈ (retryConnection answers handle stream).closingConnections := by
  have closed := closeSafely_but answers (accounted.but (.connection stream))
  have tables := (closeSafely_tables answers stream handle).1
  unfold retryConnection
  rcases tried : closeSafely answers stream handle with ⟨ok, next⟩
  rw [tried] at closed tables
  cases ok with
  | true =>
      refine ⟨forgotten closed, fun other different inside => ?_⟩
      exact AList.mem_erase.mpr ⟨different, tables ▸ inside⟩
  | false =>
      obtain ⟨unclosed, failure⟩ := closeSafely_failed tried
      exact ⟨kept closed unclosed (.inr (tables ▸ closing)) failure, fun other _ inside =>
        tables ▸ inside⟩

theorem retries_account (accounted : Accounted handle) :
    Accounted (handle.closingConnections.keys.foldl (retryConnection answers) handle) := by
  have general : ∀ (streams : List StreamId) (current : ServerHandle), streams.Nodup →
      Accounted current → (∀ stream ∈ streams, stream ∈ current.closingConnections) →
        Accounted (streams.foldl (retryConnection answers) current) := by
    intro streams
    induction streams with
    | nil => exact fun current _ known _ => known
    | cons stream streams induction =>
        intro current distinct known closing
        obtain ⟨absent, distinct⟩ := List.nodup_cons.mp distinct
        obtain ⟨retried, others⟩ :=
          retryConnection_accounts answers known (closing stream List.mem_cons_self)
        refine induction _ distinct retried fun other member => ?_
        exact others other (fun same => absent (same ▸ member))
          (closing other (List.mem_cons_of_mem stream member))
  exact general _ handle handle.closingConnections.nodupKeys accounted fun _ => AList.mem_keys.mpr

theorem cancelOnce_accounts (cancels : CancelAccounts inner) (current : Option TaskId)
    (state : Attempted) (task : TaskId) (accounted : Accounted state.2) :
    Accounted (cancelOnce inner current state task).2 := by
  unfold cancelOnce
  split
  · exact accounted
  · exact cancelAndNote_accounts cancels task accounted

theorem requestGracefulClose_accounts (current : Option TaskId) (stream : StreamId)
    (task : TaskId) (accounted : Accounted handle) :
    Accounted (requestGracefulClose answers current stream task handle).2 := by
  unfold requestGracefulClose
  split
  · exact accounted
  · dsimp only
    split
    · exact attempt_accounts accounted gracefulClose_unreported
    · exact accounted

theorem releaseConnection_accounts (current : Option TaskId) (stream : StreamId)
    (accounted : Accounted handle) :
    Accounted (releaseConnection answers current stream handle) :=
  closeOrRetain_accounts (fun _ _ => id) current none (popped_but accounted stream)

theorem finishConnection_accounts (cancels : CancelAccounts inner) (current : Option TaskId)
    (ownerThread : Bool) (state : Attempted) (entry : Sigma fun _ : StreamId => TaskId)
    (accounted : Accounted state.2) :
    Accounted (finishConnection answers inner current ownerThread state entry).2 := by
  unfold finishConnection
  split
  · have stopped := cancelOnce_accounts cancels current state entry.2 accounted
    dsimp only
    split
    · exact stopped
    · exact releaseConnection_accounts current entry.1 stopped
  · have asked : Accounted (requestGracefulClose answers current entry.1 entry.2 state.2).2 :=
      requestGracefulClose_accounts current entry.1 entry.2 accounted
    dsimp only
    split
    · exact asked
    · exact releaseConnection_accounts current entry.1 asked

theorem foldl_accounts {State Item : Type} (view : State → ServerHandle)
    (turn : State → Item → State)
    (turns : ∀ current item, Accounted (view current) → Accounted (view (turn current item)))
    (items : List Item) (state : State) (accounted : Accounted (view state)) :
    Accounted (view (items.foldl turn state)) := by
  induction items generalizing state with
  | nil => exact accounted
  | cons item items induction => exact induction _ (turns state item accounted)

theorem finishClose_accounts (cancels : CancelAccounts inner) (ownerThread : Bool)
    (current : Option TaskId) (accounted : Accounted handle) :
    Accounted (finishClose answers inner ownerThread current handle) := by
  unfold finishClose
  split
  · exact accounted
  · extract_lets opened retried pending cancelled released stopped
    have openedKnown : Accounted opened := closeWakeup_accounts accounted
    have retriedKnown : Accounted retried := retries_account openedKnown
    have cancelledKnown : Accounted cancelled :=
      foldl_accounts id (fun next task => cancelAndNote inner task next)
        (fun _ task known => cancelAndNote_accounts cancels task known) pending retried retriedKnown
    have releasedKnown : Accounted released.2 :=
      foldl_accounts Prod.snd (finishConnection answers inner current ownerThread)
        (fun state entry known =>
          finishConnection_accounts cancels current ownerThread state entry known) _
        (pending, cancelled) cancelledKnown
    have stoppedKnown : Accounted stopped.2 := by
      show Accounted (if ownerThread then
        released.2.ownedTasks.foldl (cancelOnce inner current) released else released).2
      split
      · exact foldl_accounts Prod.snd (cancelOnce inner current)
          (fun state task known => cancelOnce_accounts cancels current state task known) _ released
          releasedKnown
      · exact releasedKnown
    exact updateFinished_accounts (closeListener_accounts stoppedKnown)

end Finalization

section Cancellation

variable {answers : Nat → Bool} {inner : TaskId → ServerHandle → Bool × ServerHandle}
  {handle : ServerHandle} (cancels : CancelAccounts inner)

include cancels

theorem finishing_accounts : FinishAccounts (finishing answers inner) :=
  fun current _ accounted => finishClose_accounts cancels false current accounted

theorem tearDownConnection_accounts (task : Task) (accounted : Accounted handle) :
    Accounted (tearDownConnection inner task handle) := by
  unfold tearDownConnection
  extract_lets handlers helpers
  have handlersKnown : Accounted handlers :=
    foldl_accounts id (fun next child => (cancelOrRetainTask inner child next).2)
      (fun current child known => cancels child current known) task.handlers handle accounted
  have helpersKnown : Accounted helpers :=
    foldl_accounts id (fun next child =>
        let cancelled := (cancelOrRetainTask inner child next).2
        { cancelled with ownedTasks := cancelled.ownedTasks.erase child })
      (fun current child known => cancels child current known) task.helpers handlers handlersKnown
  refine foldl_accounts id _ (fun current child known => ?_) task.websocketChildren helpers
    helpersKnown
  have cancelled := cancels child current known
  dsimp only [id]
  rcases result : cancelOrRetainTask inner child current with ⟨ok, next⟩
  rw [result] at cancelled
  cases ok with
  | true => exact cancelled
  | false => exact cancelled

theorem endConnection_accounts (taskId : TaskId) (task : Task) (stream : StreamId)
    (primary : Option Fault) (accounted : Accounted handle) :
    Accounted (endConnection answers inner taskId task stream primary handle) := by
  have torn := tearDownConnection_accounts cancels task accounted
  exact connectionFinished_accounts (finishing_accounts cancels) taskId stream primary torn

theorem finallyBlock_accounts (taskId : TaskId) (task : Task) (accounted : Accounted handle) :
    Accounted (finallyBlock answers inner taskId task handle) := by
  unfold finallyBlock
  split
  · split
    · exact accounted
    · exact accounted
    · split
      · exact accounted
      · exact listenerFailed_accounts (finishing_accounts cancels) _ _ accounted
  · exact finishing_accounts cancels (some taskId) handle accounted
  · exact accounted
  · exact endConnection_accounts cancels taskId task _ _ accounted
  · exact accounted
  · exact accounted
  · exact accounted

omit cancels

theorem remembered_accounts (task : TaskId) (ended : Bool) (accounted : Accounted handle) :
    Accounted (remembered task ended handle.nextFault handle) := by
  have relevant : about (.task task) (.cancelTask task ended) = true := decide_eq_true rfl
  have tried := (accounted.but (.task task)).tried (.cancelTask task ended) relevant false
  have entered := (tried.pending (handle.pendingTaskCancellations.set task ())
    fun _ different => OrderedDict.mem_set.trans (or_iff_right different)).entered handle.nextFault
  exact entered.settle (.noted (OrderedDict.mem_set.mpr (.inl rfl)) (OrderedDict.lookup_set _ _ _)
    (latest_failed handle.log relevant))

theorem settled_accounts (task : TaskId) (accounted : Accounted handle) :
    Accounted (settled task handle) := by
  have left := ((accounted.but (.task task)).pending (handle.pendingTaskCancellations.erase task)
    fun _ different => AList.mem_erase.trans (and_iff_right different)).erased
  refine left.settle (.settled ?_ ?_)
  · exact fun retained => (AList.mem_erase.mp retained).1 rfl
  · exact fun kept => (AList.mem_erase.mp kept).1 rfl

theorem ending_accounts (task : TaskId) (accounted : Accounted handle) :
    Accounted (ending task handle) := fun key =>
  (accounted key).carry ⟨id, id, rfl, latest_same handle.log fun _ => rfl⟩

theorem cancelStep_accounts (cancels : CancelAccounts inner) :
    CancelAccounts (cancelStep answers inner) := by
  intro task handle accounted
  rcases result : cancelOrRetainTask (cancelStep answers inner) task handle with ⟨ok, next⟩
  cases ok with
  | false =>
      obtain rfl := cancelStep_failed result
      exact remembered_accounts task _ accounted
  | true =>
      have ends := ending_accounts task accounted
      rcases cancelStep_ended result with ⟨rfl, -⟩ | ⟨running, -, -, rfl⟩
      · exact settled_accounts task ends
      · exact settled_accounts task (finallyBlock_accounts cancels task running ends)

theorem cancelAt_accounts (bound : Nat) : CancelAccounts (cancelAt answers bound) := by
  induction bound with
  | zero => exact cancelStep_accounts fun task _ accounted => settled_accounts task accounted
  | succ bound induction => exact cancelStep_accounts induction

theorem cancel_accounts (handle : ServerHandle) : CancelAccounts (cancel answers handle) :=
  cancelAt_accounts _

end Cancellation

section Listener

variable {answers : Nat → Bool} {handle : ServerHandle} (listener : TaskId)

theorem finishingFrom_accounts (origin : ServerHandle) :
    FinishAccounts (finishingFrom answers origin) :=
  finishing_accounts (cancel_accounts origin)

theorem acceptRaised_accounts (error : Fault) (accounted : Accounted handle) :
    Accounted (acceptRaised answers listener error handle) := by
  unfold acceptRaised
  split
  · exact accounted
  · have known : Accounted (listenerEnds listener handle) := accounted
    exact listenerFailed_accounts (finishingFrom_accounts handle) error (some listener) known

theorem registrationFailed_accounts (error : Fault) (stream : StreamId)
    (accounted : Accounted handle) :
    Accounted (registrationFailed answers listener error stream handle) := by
  unfold registrationFailed
  extract_lets popped released
  have known : Accounted released := closeOrRetain_accounts (finishingFrom_accounts popped)
    (some listener) (some error) (popped_but accounted stream)
  have ended : Accounted (listenerEnds listener released) := known
  exact listenerFailed_accounts (finishingFrom_accounts released) error (some listener) ended

theorem register_accounts (stream : StreamId) (accounted : Accounted handle) :
    Accounted (register stream handle) := by
  have present : ∀ other, other ∈ handle.connections →
      other ∈ handle.connections.set stream handle.nextTask :=
    fun _ inside => OrderedDict.mem_set.mpr (.inr inside)
  intro key
  refine (accounted key).carry ?_
  cases key with
  | connection another =>
      exact ⟨id, fun owed => ⟨owed.1, owed.2.imp_left (present another)⟩, rfl, rfl⟩
  | wakeup => exact ⟨id, id, rfl, rfl⟩
  | listener => exact ⟨id, id, rfl, rfl⟩
  | task task => exact ⟨id, id, rfl, rfl⟩

theorem admitStream_accounts (stream : StreamId) (registration : Registration)
    (accounted : Accounted handle) :
    Accounted (admitStream answers listener stream registration handle) := by
  unfold admitStream
  split
  · have closed : Accounted (closeOrRetain answers (finishingFrom answers handle) stream
        (some listener) none handle).2 :=
      closeOrRetain_accounts (finishingFrom_accounts handle) (some listener) none
        (accounted.but (.connection stream))
    split
    · rename_i next result
      rw [result] at closed
      exact closed
    · rename_i next result
      rw [result] at closed
      exact closed
  · split
    · exact register_accounts stream accounted
    · exact registrationFailed_accounts listener _ stream accounted
    · extract_lets registered
      have cancelled : Accounted
          (cancelOrRetainTask (cancel answers registered) handle.nextTask registered).2 :=
        cancel_accounts registered handle.nextTask registered (register_accounts stream accounted)
      split
      · rename_i next result
        rw [result] at cancelled
        have disowned : Accounted
            { next with ownedTasks := next.ownedTasks.erase handle.nextTask } := cancelled
        exact registrationFailed_accounts listener _ stream disowned
      · rename_i next result
        rw [result] at cancelled
        exact registrationFailed_accounts listener _ stream cancelled

theorem unknown_stream (sound : (tables handle).Sound) (accounted : Accounted handle) :
    handle.acceptedStreams ∉ handle.closingConnections ∧
      CleanupKey.connection handle.acceptedStreams ∉ handle.cleanupErrors := by
  have closing : handle.acceptedStreams ∉ handle.closingConnections := fun inside =>
    absurd (sound.closing_open _ inside).1 (Nat.lt_irrefl _)
  refine ⟨closing, fun entered => ?_⟩
  obtain ⟨error, found⟩ := Option.isSome_iff_exists.mp (AList.lookup_isSome.mpr entered)
  obtain ⟨⟨-, present | inside⟩, -⟩ := (accounted _).2 error found
  · exact absurd (sound.connections_accepted _ present) (Nat.lt_irrefl _)
  · exact closing inside

theorem acceptTurn_accounts (sound : (tables handle).Sound) (outcome : AcceptOutcome)
    (accounted : Accounted handle) :
    Accounted (acceptTurn answers listener outcome handle) := by
  unfold acceptTurn
  split
  · exact accounted
  · exact acceptRaised_accounts listener _ accounted
  · extract_lets stream accepted
    have known : Accounted accepted := accounted
    split
    · exact admitStream_accounts listener stream _ known
    · obtain ⟨absent, unreported⟩ := unknown_stream sound accounted
      have closed := closeSafely_but answers (known.but (.connection stream))
      obtain ⟨closing, errors⟩ := closeSafely_tables answers stream accepted
      split
      · rename_i next result
        rw [result] at closed closing errors
        refine acceptRaised_accounts listener _ (closed.settle (.settled ?_ ?_))
        · exact fun retained => absent (closing ▸ retained)
        · exact fun entered => unreported (errors ▸ entered)
      · rename_i next result
        rw [result] at closed
        obtain ⟨unclosed, failure⟩ := closeSafely_failed result
        exact connectionCloseFailed_accounts (finishingFrom_accounts next) _ (some listener) _
          (moved closed unclosed failure)

end Listener

section Steps

variable {answers : Nat → Bool} {handle after : ServerHandle}

theorem runListener_accounts (sound : (tables handle).Sound) (listener : TaskId)
    (outcome : AcceptOutcome) (accounted : Accounted handle) :
    Accounted (runListener answers listener outcome handle) := by
  unfold runListener
  split
  · split
    · exact accounted
    · split
      · exact accounted
      · exact acceptTurn_accounts listener sound outcome accounted
  · exact accounted
  · have turned : Accounted { handle with listenerPhase := .atHead } := accounted
    have turnedSound : (tables { handle with listenerPhase := .atHead }).Sound := sound
    exact acceptTurn_accounts listener turnedSound outcome turned

/-- Every step keeps the entries right: what it does to the tasks first is of no concern. -/
theorem next_accounts (sound : (tables handle).Sound) (accounted : Accounted handle) {step : Step}
    (taken : next answers handle step = some after) : Accounted after := by
  have cancels : CancelAccounts (cancel answers handle) := cancel_accounts handle
  have base : ∀ live cursor, Accounted { handle with live, cursor } := fun _ _ => accounted
  cases step with
  | runsListener outcome =>
      simp only [next] at taken
      split at taken
      · cases taken
      · obtain ⟨task, -, rfl⟩ := Option.map_eq_some_iff.mp taken
        have started : ∀ live cursor, (tables { handle with live, cursor }).Sound :=
          fun _ _ => sound
        exact runListener_accounts (started _ _) _ outcome (base _ _)
  | starts taskId =>
      obtain ⟨task, -, rfl⟩ := Option.map_eq_some_iff.mp taken
      exact accounted
  | spawns taskId kind =>
      obtain ⟨⟨task, stream⟩, -, rfl⟩ := Option.map_eq_some_iff.mp taken
      exact accounted
  | endsChild taskId =>
      simp only [next] at taken
      split at taken
      · cases taken
      · split at taken
        · cases taken
        · cases taken
        · cases taken
        · cases taken
          exact finallyBlock_accounts cancels taskId _ (base _ _)
  | cancelsHandler taskId handler =>
      simp only [next] at taken
      split at taken
      · cases taken
      · split at taken
        · cases taken
          exact cancels handler _ (base _ _)
        · cases taken
  | registersGraceful taskId =>
      obtain ⟨⟨task, stream⟩, -, rfl⟩ := Option.map_eq_some_iff.mp taken
      exact accounted
  | registersWebsocket taskId =>
      obtain ⟨⟨task, stream⟩, -, rfl⟩ := Option.map_eq_some_iff.mp taken
      exact accounted
  | tearsDown taskId =>
      obtain ⟨⟨task, stream⟩, -, rfl⟩ := Option.map_eq_some_iff.mp taken
      exact tearDownConnection_accounts cancels task (base _ _)
  | finishesConnection taskId primary =>
      obtain ⟨⟨task, stream⟩, -, rfl⟩ := Option.map_eq_some_iff.mp taken
      exact endConnection_accounts cancels taskId task stream primary (base _ _)
  | forcesClose taskId primary =>
      simp only [next] at taken
      split at taken
      · cases taken
      · split at taken
        · rename_i stream helps
          cases taken
          exact forceConnectionClose_accounts (finishing_accounts cancels) stream (some taskId)
            primary (base _ _)
        · cases taken
  | wakesWatcher taskId =>
      simp only [next] at taken
      split at taken
      · cases taken
      · split at taken
        · cases taken
          exact finishing_accounts cancels (some taskId) _ (base _ _)
        · cases taken
  | close =>
      cases taken
      unfold close
      split
      · exact accounted
      · dsimp only
        split
        · exact accounted
        · have requested : Accounted { handle with closeRequested := true } := accounted
          have tried : Accounted
              (attempt answers .notify { handle with closeRequested := true }).2 :=
            attempt_accounts requested notify_unreported
          split
          · rename_i next answer
            rw [answer] at tried
            exact tried
          · rename_i next answer
            rw [answer] at tried
            exact tried
  | finalize =>
      cases taken
      exact finishClose_accounts cancels true none (base _ _)
  | closesFromTask task =>
      cases taken
      unfold closeFromTask
      split
      · exact accounted
      · have begun : Accounted { handle with
            closeRequested := true
            finalizationAttempted := true
            cursor := some task } := accounted
        exact finishClose_accounts cancels false (some task) begun

end Steps

section Runs

variable {answers : Nat → Bool} {maxConnections : Nat} {hasWakeup hasObserver : Bool}
  {steps : List Step} {handle : ServerHandle}

theorem scheduled_accounts (maxConnections : Nat) (hasWakeup hasObserver : Bool) :
    Accounted (scheduled maxConnections hasWakeup hasObserver) := by
  intro key
  refine .settled ?_ (AList.notMem_empty key)
  cases key with
  | wakeup => exact id
  | listener => exact id
  | connection stream => exact AList.notMem_empty stream
  | task task => exact AList.notMem_empty task

theorem reachable_accounts
    (run : Runs.Run (Steps answers) (scheduled maxConnections hasWakeup hasObserver) steps handle) :
    Accounted handle := by
  induction run with
  | nil => exact scheduled_accounts maxConnections hasWakeup hasObserver
  | snoc step run taken induction =>
      exact next_accounts (reachable_sound run).1.tables induction taken

/-- Whatever runs and whichever releases fail, `_cleanup_errors` has an entry with the latest
failure for each retained connection and each task whose cancellation failed, and every entry
is about a resource that is still to be released. A startup that is aborted because `fork`
raised is a run that begins with `finalize`. -/
theorem cleanup_errors_exact
    (run : Runs.Run (Steps answers) (scheduled maxConnections hasWakeup hasObserver) steps handle) :
    (∀ stream ∈ handle.closingConnections, ∃ error,
      handle.cleanupErrors.lookup (.connection stream) = some error ∧
        latest (.connection stream) handle.log = some error) ∧
    (∀ task ∈ handle.pendingTaskCancellations, ∃ error,
      handle.cleanupErrors.lookup (.task task) = some error ∧
        latest (.task task) handle.log = some error) ∧
    ∀ key ∈ handle.cleanupErrors, Owed handle key := by
  have accounted := reachable_accounts run
  have entry : ∀ key, Retained handle key → ∃ error,
      handle.cleanupErrors.lookup key = some error ∧ latest key handle.log = some error := by
    intro key retained
    obtain ⟨reported, truthful⟩ := accounted key
    obtain ⟨error, found⟩ :=
      Option.isSome_iff_exists.mp (AList.lookup_isSome.mpr (reported retained))
    exact ⟨error, found, (truthful error found).2⟩
  refine ⟨fun stream => entry (.connection stream), fun task => entry (.task task), ?_⟩
  intro key entered
  obtain ⟨error, found⟩ := Option.isSome_iff_exists.mp (AList.lookup_isSome.mpr entered)
  exact ((accounted key).2 error found).1

end Runs

section Samples

def reluctant : Nat → Bool := fun call => decide (call ≠ 0)

def owing : ServerHandle := Runs.endOf (next reluctant) ServerOwnership.single
  (ServerOwnership.accepts ++ ServerOwnership.completes)

theorem reaches_owing : Runs.Run (Steps reluctant) ServerOwnership.single
    (ServerOwnership.accepts ++ ServerOwnership.completes) owing :=
  Runs.run_endOf (fun _ _ _ => id) (by decide +kernel)

theorem cleanup_errors_exact_sample :
    (∃ error, owing.cleanupErrors.lookup (.connection 0) = some error ∧
      latest (.connection 0) owing.log = some error) ∧ Owed owing (.connection 0) := by
  obtain ⟨closing, -, owed⟩ := cleanup_errors_exact reaches_owing
  exact ⟨closing 0 (by decide +kernel), owed _ (by decide +kernel)⟩

end Samples

end SmallServer.ServerCleanup
