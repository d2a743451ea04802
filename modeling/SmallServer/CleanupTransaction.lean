import SmallServer.OrderedDict
import SmallServer.HttpValues
import SmallServer.ResponseFraming
import SmallServer.Runs

/-!
# Cleanup transactions

`_CleanupTransaction` and the error that owns one. Actions are known by the number of the `add`
call that brought them; what an action does when it is run is decided outside, anew at every
run. A call of `retry_cleanup` takes three locked regions, and other calls may come between
them.
-/

namespace SmallServer.CleanupTransaction

open SmallServer HttpValues Runs

set_option autoImplicit false

variable {Error : Type}

section Transaction

/-- `_CleanupTransaction`. -/
structure Transaction (Error : Type) where
  actions : OrderedDict Text Nat := ∅
  errors : OrderedDict Text Error := ∅

abbrev Outcomes (Error : Type) := Nat → Option Error

/-- The name a suffix makes, and the name itself before any suffix. -/
def candidate (name : Text) : Nat → Text
  | 0 => name
  | count + 1 => name ++ ':' :: decimalText (count + 2)

/-- `while key in self._actions`. As many rounds as there are keys are enough. -/
def keyLoop (actions : OrderedDict Text Nat) (name : Text) : Nat → Nat → Text
  | 0, count => candidate name count
  | fuel + 1, count =>
      if candidate name count ∈ actions then keyLoop actions name fuel (count + 1)
      else candidate name count

namespace Transaction

def freshKey (transaction : Transaction Error) (name : Text) : Text :=
  keyLoop transaction.actions name transaction.actions.keys.length 0

def add (transaction : Transaction Error) (name : Text) (action : Nat) (error : Option Error) :
    Transaction Error :=
  let key := transaction.freshKey name
  { actions := transaction.actions.set key action
    errors := match error with
      | some error => transaction.errors.set key error
      | none => transaction.errors }

def record (transaction : Transaction Error) (name : Text) : Option Error → Transaction Error
  | some error => { transaction with errors := transaction.errors.set name error }
  | none => {
      actions := transaction.actions.erase name
      errors := transaction.errors.erase name }

def retryLoop (outcomes : Outcomes Error) : List (Sigma fun _ : Text => Nat) →
    Transaction Error → Transaction Error × List (Nat × Option Error)
  | [], transaction => (transaction, [])
  | entry :: snapshot, transaction =>
      let (last, runs) :=
        retryLoop outcomes snapshot (transaction.record entry.1 (outcomes entry.2))
      (last, (entry.2, outcomes entry.2) :: runs)

def retry (transaction : Transaction Error) (outcomes : Outcomes Error) :
    Transaction Error × List (Nat × Option Error) :=
  retryLoop outcomes transaction.actions.entries transaction

def errorList (transaction : Transaction Error) : List Error :=
  transaction.errors.entries.map Sigma.snd

def complete (transaction : Transaction Error) : Bool := transaction.actions.entries.isEmpty

def pendingActions (transaction : Transaction Error) : List Nat :=
  transaction.actions.entries.map Sigma.snd

end Transaction

theorem candidate_injective (name : Text) : Function.Injective (candidate name) := by
  intro first second same
  have longer : ∀ count, candidate name 0 ≠ candidate name (count + 1) := by
    intro count equal
    have lengths := congrArg List.length equal
    simp [candidate] at lengths
  cases first with
  | zero =>
      cases second with
      | zero => rfl
      | succ second => exact absurd same (longer second)
  | succ first =>
      cases second with
      | zero => exact absurd same.symm (longer first)
      | succ second =>
          have digits := List.tail_eq_of_cons_eq (List.append_cancel_left same)
          have numbers := ResponseFraming.decimalText_injective digits
          omega

theorem keyLoop_free (actions : OrderedDict Text Nat) (name : Text) (fuel count : Nat)
    (enough : actions.keys.length ≤ fuel + count)
    (taken : ∀ earlier, earlier < count → candidate name earlier ∈ actions) :
    keyLoop actions name fuel count ∉ actions := by
  induction fuel generalizing count with
  | zero =>
      intro present
      -- one name more than there are keys cannot all be taken
      have all : ∀ key ∈ (List.range (count + 1)).map (candidate name), key ∈ actions.keys := by
        intro key member
        obtain ⟨earlier, below, rfl⟩ := List.mem_map.mp member
        rw [List.mem_range] at below
        by_cases last : earlier = count
        · rw [last]
          exact present
        · exact taken earlier (by omega)
      have distinct : ((List.range (count + 1)).map (candidate name)).Nodup :=
        List.nodup_range.map (candidate_injective name)
      have few := (distinct.subperm all).length_le
      rw [List.length_map, List.length_range] at few
      omega
  | succ fuel induction =>
      unfold keyLoop
      split
      · rename_i present
        refine induction (count + 1) (by omega) fun earlier below => ?_
        by_cases last : earlier = count
        · rw [last]
          exact present
        · exact taken earlier (by omega)
      · assumption

theorem Transaction.freshKey_free (transaction : Transaction Error) (name : Text) :
    transaction.freshKey name ∉ transaction.actions :=
  keyLoop_free _ _ _ _ le_rfl fun _ below => absurd below (Nat.not_lt_zero _)

end Transaction

section Retry

variable {outcomes : Outcomes Error} {transaction : Transaction Error}

/-- No error is kept for a name without an action. -/
def Owned (transaction : Transaction Error) : Prop :=
  ∀ key, key ∈ transaction.errors → key ∈ transaction.actions

def fails (outcomes : Outcomes Error) (action : Nat) : Bool := (outcomes action).isSome

theorem retryLoop_runs (snapshot : List (Sigma fun _ : Text => Nat)) :
    (Transaction.retryLoop outcomes snapshot transaction).2 =
      (snapshot.map Sigma.snd).map fun action => (action, outcomes action) := by
  induction snapshot generalizing transaction with
  | nil => rfl
  | cons entry snapshot induction =>
      unfold Transaction.retryLoop
      rw [List.map_cons, List.map_cons, ← induction]

/-- The loop leaves the actions that fail in their places: what it has passed stands before
what is still to come. -/
theorem retryLoop_actions (kept snapshot : List (Sigma fun _ : Text => Nat))
    (entries : transaction.actions.entries = kept ++ snapshot) :
    (Transaction.retryLoop outcomes snapshot transaction).1.actions.entries =
      kept ++ snapshot.filter fun entry => fails outcomes entry.2 := by
  induction snapshot generalizing transaction kept with
  | nil => exact entries
  | cons entry snapshot induction =>
      change (Transaction.retryLoop outcomes snapshot
        (transaction.record entry.1 (outcomes entry.2))).1.actions.entries = _
      rw [List.filter_cons]
      cases raised : outcomes entry.2 with
      | some error =>
          have failing : fails outcomes entry.2 = true := by rw [fails, raised]; rfl
          have moved : (transaction.record entry.1 (some error)).actions.entries =
              (kept ++ [entry]) ++ snapshot := by
            rw [List.append_assoc]
            exact entries
          rw [if_pos failing, induction _ moved, List.append_assoc]
          rfl
      | none =>
          have succeeding : ¬ fails outcomes entry.2 = true := by rw [fails, raised]; exact nofun
          have distinct := transaction.actions.nodupKeys
          rw [entries, List.NodupKeys, List.keys_append, List.keys_cons] at distinct
          have before : entry.1 ∉ kept.keys := fun member =>
            (List.nodup_append.mp distinct).2.2 _ member _ List.mem_cons_self rfl
          have removed : (transaction.record entry.1 none).actions.entries = kept ++ snapshot := by
            change transaction.actions.entries.kerase entry.1 = _
            rw [entries, List.kerase_append_right before, List.kerase_cons_eq rfl]
          rw [if_neg succeeding, induction _ removed]

theorem record_errors (name key : Text) (raised : Option Error) :
    (transaction.record name raised).errors.lookup key =
      if key = name then raised else transaction.errors.lookup key := by
  cases raised with
  | some error => exact OrderedDict.lookup_set_eq _ _ _ _
  | none => exact OrderedDict.lookup_erase_eq _ _ _

/-- After the loop, a name of the snapshot has the error its action raised in it. -/
theorem retryLoop_errors (snapshot : List (Sigma fun _ : Text => Nat))
    (distinct : snapshot.NodupKeys) (key : Text) :
    (Transaction.retryLoop outcomes snapshot transaction).1.errors.lookup key =
      match snapshot.dlookup key with
      | some action => outcomes action
      | none => transaction.errors.lookup key := by
  induction snapshot generalizing transaction with
  | nil => rfl
  | cons entry snapshot induction =>
      change (Transaction.retryLoop outcomes snapshot
        (transaction.record entry.1 (outcomes entry.2))).1.errors.lookup key = _
      rw [induction (List.nodupKeys_cons.mp distinct).2, record_errors]
      by_cases same : key = entry.1
      · subst same
        have once : snapshot.dlookup entry.1 = none :=
          List.dlookup_eq_none.mpr (List.nodupKeys_cons.mp distinct).1
        rw [once, if_pos rfl, List.dlookup_cons_eq]
      · rw [if_neg same, List.dlookup_cons_ne _ _ same]

/-- `retry` runs every action once, in order, and those that fail are left. -/
theorem retry_spec (transaction : Transaction Error) (outcomes : Outcomes Error) :
    (transaction.retry outcomes).2 =
        transaction.pendingActions.map (fun action => (action, outcomes action)) ∧
      (transaction.retry outcomes).1.pendingActions =
        transaction.pendingActions.filter (fails outcomes) := by
  refine ⟨retryLoop_runs _, ?_⟩
  have left : (transaction.retry outcomes).1.actions.entries = [] ++
      transaction.actions.entries.filter fun entry => fails outcomes entry.2 :=
    retryLoop_actions [] transaction.actions.entries rfl
  unfold Transaction.pendingActions
  rw [left, List.nil_append, List.filter_map]
  rfl

/-- After `retry`, the errors are those of the actions left, the latest of each. -/
theorem retry_errors (owned : Owned transaction) (key : Text) :
    (transaction.retry outcomes).1.errors.lookup key =
      ((transaction.retry outcomes).1.actions.lookup key).bind outcomes := by
  have distinct := transaction.actions.nodupKeys
  have left : (transaction.retry outcomes).1.actions.entries = [] ++
      transaction.actions.entries.filter fun entry => fails outcomes entry.2 :=
    retryLoop_actions [] transaction.actions.entries rfl
  change (Transaction.retryLoop outcomes transaction.actions.entries transaction).1.errors.lookup
    key = (List.dlookup key (transaction.retry outcomes).1.actions.entries).bind outcomes
  rw [retryLoop_errors _ distinct, left, List.nil_append,
    OrderedDict.dlookup_filter (fails outcomes) _ distinct]
  cases found : transaction.actions.entries.dlookup key with
  | some action =>
      rw [Option.filter_some]
      cases raised : outcomes action with
      | some error =>
          rw [if_pos (by rw [fails, raised]; rfl), Option.bind_some, raised]
          exact raised
      | none =>
          rw [if_neg (by rw [fails, raised]; exact nofun), Option.bind_none]
          exact raised
  | none =>
      have absent : key ∉ transaction.errors := fun member =>
        AList.lookup_eq_none.mp found (owned key member)
      exact AList.lookup_eq_none.mpr absent

theorem retry_owned (owned : Owned transaction) : Owned (transaction.retry outcomes).1 := by
  intro key member
  rw [← AList.lookup_isSome, retry_errors owned] at member
  obtain ⟨error, raised⟩ := Option.isSome_iff_exists.mp member
  obtain ⟨action, found, _⟩ := Option.bind_eq_some_iff.mp raised
  exact OrderedDict.mem_of_lookup found

theorem retry_errorList (owned : Owned transaction) :
    (transaction.retry outcomes).1.errorList.Perm
      ((transaction.retry outcomes).1.pendingActions.filterMap outcomes) :=
  OrderedDict.values_perm _ _ outcomes fun key => retry_errors owned key

theorem add_pendingActions (transaction : Transaction Error) (name : Text) (action : Nat)
    (error : Option Error) :
    (transaction.add name action error).pendingActions =
      transaction.pendingActions ++ [action] := by
  have free := transaction.freshKey_free name
  unfold Transaction.pendingActions Transaction.add OrderedDict.set
  dsimp only
  rw [dif_neg free, List.map_append]
  rfl

theorem add_owned (owned : Owned transaction) (name : Text) (action : Nat)
    (error : Option Error) : Owned (transaction.add name action error) := by
  intro key member
  refine OrderedDict.mem_set.mpr ?_
  cases error with
  | none => exact Or.inr (owned key member)
  | some error => exact (OrderedDict.mem_set.mp member).imp_right (owned key)

theorem complete_iff (transaction : Transaction Error) :
    transaction.complete = true ↔ transaction.pendingActions = [] := by
  unfold Transaction.complete Transaction.pendingActions
  rw [List.isEmpty_iff, List.map_eq_nil_iff]

end Retry

section Calls

/-- Where a call of `retry_cleanup` stands: about to enter `retry`, past it, past a `complete`
that was true, or done. -/
inductive Stage
  | entered
  | retried
  | completed
  | returned
deriving DecidableEq

/-- `_ServerCleanupError`, whether its callback is still set, and the calls of
`retry_cleanup` on it. `added` counts the `add` calls. -/
structure Owner (Error : Type) where
  transaction : Transaction Error := {}
  completionNotified : Bool := false
  onCleanupComplete : Bool
  stage : Nat → Stage := fun _ => .entered
  added : Nat := 0

/-- `_notify_cleanup_complete`, and whether it invokes the callback. The callback is invoked
after the last change, so that one that raises changes nothing more. -/
def Owner.notifyCleanupComplete (owner : Owner Error) : Bool × Owner Error :=
  if owner.completionNotified then (false, owner)
  else
    (owner.onCleanupComplete, { owner with
      completionNotified := true
      onCleanupComplete := false })

/-- `retry_cleanup`, and `finalize`, by one caller at a time. -/
def Owner.retryCleanup (owner : Owner Error) (outcomes : Outcomes Error) : Bool × Owner Error :=
  let owner := { owner with transaction := (owner.transaction.retry outcomes).1 }
  let complete := owner.transaction.complete
  if complete then (complete, owner.notifyCleanupComplete.2) else (complete, owner)

def Owner.reach (owner : Owner Error) (call : Nat) (stage : Stage) : Owner Error :=
  { owner with stage := Function.update owner.stage call stage }

/-- What happens, with what it was seen to do: the runs that a `retry` makes, what `complete`
says, whether the callback is invoked. -/
inductive Label (Error : Type)
  | add (name : Text) (error : Option Error)
  | retry (call : Nat) (outcomes : Outcomes Error) (runs : List (Nat × Option Error))
  | read (call : Nat) (complete : Bool)
  | notify (call : Nat) (invoked : Bool)

/-- One locked region of one call. -/
inductive Step : Owner Error → Label Error → Owner Error → Prop
  | add {owner : Owner Error} (name : Text) (error : Option Error) :
      Step owner (.add name error) { owner with
        transaction := owner.transaction.add name owner.added error
        added := owner.added + 1 }
  | retry {owner : Owner Error} {call : Nat} (outcomes : Outcomes Error)
      (entered : owner.stage call = .entered) :
      Step owner (.retry call outcomes (owner.transaction.retry outcomes).2)
        (Owner.reach { owner with transaction := (owner.transaction.retry outcomes).1 }
          call .retried)
  | read {owner : Owner Error} {call : Nat} (retried : owner.stage call = .retried) :
      Step owner (.read call owner.transaction.complete)
        (owner.reach call (if owner.transaction.complete then .completed else .returned))
  | notify {owner : Owner Error} {call : Nat} (completed : owner.stage call = .completed) :
      Step owner (.notify call owner.notifyCleanupComplete.1)
        (owner.notifyCleanupComplete.2.reach call .returned)

def start (hasCallback : Bool) : Owner Error := { onCleanupComplete := hasCallback }

end Calls

section History

def Label.isAdd : Label Error → Bool
  | .add _ _ => true
  | _ => false

def Label.invokes : Label Error → Bool
  | .notify _ invoked => invoked
  | _ => false

def Label.offers (action : Nat) : Label Error → List (Option Error)
  | .retry _ outcomes _ => [outcomes action]
  | _ => []

def Label.runsOf (action : Nat) : Label Error → List (Option Error)
  | .retry _ _ runs => (runs.filter fun run => run.1 = action).map Prod.snd
  | _ => []

def adds (labels : List (Label Error)) : Nat := labels.countP Label.isAdd

def sinceAdd : Nat → List (Label Error) → List (Label Error)
  | _, [] => []
  | 0, label :: labels => if label.isAdd then labels else sinceAdd 0 labels
  | action + 1, label :: labels =>
      if label.isAdd then sinceAdd action labels else sinceAdd (action + 1) labels

def offered (action : Nat) (labels : List (Label Error)) : List (Option Error) :=
  (sinceAdd action labels).flatMap (Label.offers action)

def runsOf (action : Nat) (labels : List (Label Error)) : List (Option Error) :=
  labels.flatMap (Label.runsOf action)

def untilSuccess : List (Option Error) → List (Option Error)
  | [] => []
  | none :: _ => [none]
  | some error :: rest => some error :: untilSuccess rest

/-- The actions that were offered no success yet, in the order of their `add` calls. -/
def pending (labels : List (Label Error)) : List Nat :=
  (List.range (adds labels)).filter fun action => (offered action labels).all Option.isSome

structure Accounted (hasCallback : Bool) (labels : List (Label Error)) (owner : Owner Error) :
    Prop where
  added : owner.added = adds labels
  actions : owner.transaction.pendingActions = pending labels
  owned : Owned owner.transaction
  runs : ∀ action, runsOf action labels = untilSuccess (offered action labels)
  invoked : labels.countP Label.invokes =
    if owner.completionNotified && hasCallback then 1 else 0
  callback : owner.completionNotified = false → owner.onCleanupComplete = hasCallback
  completed : ∀ call, owner.stage call = .completed →
    ∃ before after, labels = before ++ .read call true :: after ∧ pending before = []

end History

section Snoc

variable (labels : List (Label Error)) (label : Label Error)

theorem adds_snoc : adds (labels ++ [label]) = adds labels + if label.isAdd then 1 else 0 := by
  rw [adds, List.countP_append, List.countP_singleton]
  rfl

theorem sinceAdd_snoc (action : Nat) :
    sinceAdd action (labels ++ [label]) =
      if action < adds labels then sinceAdd action labels ++ [label] else [] := by
  induction labels generalizing action with
  | nil =>
      rw [if_neg (show ¬ action < adds ([] : List (Label Error)) from Nat.not_lt_zero _)]
      cases action <;> simp [sinceAdd]
  | cons first labels induction =>
      have counted : adds (first :: labels) = adds labels + if first.isAdd then 1 else 0 := by
        rw [adds, List.countP_cons]
        rfl
      rw [List.cons_append, counted]
      cases action with
      | zero =>
          unfold sinceAdd
          by_cases isAdd : first.isAdd = true
          · rw [if_pos isAdd, if_pos isAdd, if_pos isAdd, if_pos (Nat.succ_pos _)]
          · rw [if_neg isAdd, if_neg isAdd, if_neg isAdd]
            exact induction 0
      | succ action =>
          unfold sinceAdd
          by_cases isAdd : first.isAdd = true
          · rw [if_pos isAdd, if_pos isAdd, if_pos isAdd, induction action]
            exact if_congr Nat.succ_lt_succ_iff.symm rfl rfl
          · rw [if_neg isAdd, if_neg isAdd, if_neg isAdd]
            exact induction (action + 1)

theorem offered_snoc (action : Nat) :
    offered action (labels ++ [label]) =
      if action < adds labels then offered action labels ++ label.offers action else [] := by
  unfold offered
  rw [sinceAdd_snoc]
  split
  · rw [List.flatMap_append, List.flatMap_singleton]
  · rfl

theorem offered_later {action : Nat} (later : adds labels ≤ action) :
    offered action labels = [] := by
  rcases List.eq_nil_or_concat labels with rfl | ⟨front, last, rfl⟩
  · cases action <;> rfl
  · rw [List.concat_eq_append] at later ⊢
    rw [offered_snoc, if_neg]
    rw [adds_snoc] at later
    omega

theorem runsOf_snoc (action : Nat) :
    runsOf action (labels ++ [label]) = runsOf action labels ++ label.runsOf action := by
  unfold runsOf
  rw [List.flatMap_append, List.flatMap_singleton]

theorem mem_pending {action : Nat} :
    action ∈ pending labels ↔
      action < adds labels ∧ (offered action labels).all Option.isSome = true := by
  unfold pending
  rw [List.mem_filter, List.mem_range]

theorem pending_nodup : (pending labels).Nodup := List.nodup_range.filter _

theorem pending_add (isAdd : label.isAdd = true) :
    pending (labels ++ [label]) = pending labels ++ [adds labels] := by
  have offersNothing : ∀ action, label.offers action = [] := by
    intro action
    cases label with
    | add name error => rfl
    | retry | read | notify => cases isAdd
  unfold pending
  rw [adds_snoc, if_pos isAdd, List.range_succ, List.filter_append]
  congr 1
  · refine List.filter_congr fun action member => ?_
    rw [offered_snoc, if_pos (List.mem_range.mp member), offersNothing, List.append_nil]
  · rw [List.filter_singleton, offered_snoc, if_neg (Nat.lt_irrefl _)]
    rfl

theorem pending_other (notAdd : label.isAdd = false) :
    pending (labels ++ [label]) =
      (pending labels).filter fun action => (label.offers action).all Option.isSome := by
  unfold pending
  rw [adds_snoc, if_neg (by rw [notAdd]; exact nofun), Nat.add_zero, List.filter_filter]
  refine List.filter_congr fun action member => ?_
  rw [offered_snoc, if_pos (List.mem_range.mp member), List.all_append, Bool.and_comm]

end Snoc

section Success

theorem untilSuccess_snoc (offers : List (Option Error)) (last : Option Error) :
    untilSuccess (offers ++ [last]) =
      if offers.all Option.isSome then untilSuccess offers ++ [last] else untilSuccess offers := by
  induction offers with
  | nil => cases last <;> rfl
  | cons offer offers induction =>
      cases offer with
      | none => rfl
      | some error =>
          change some error :: untilSuccess (offers ++ [last]) = if offers.all Option.isSome then
            some error :: (untilSuccess offers ++ [last]) else some error :: untilSuccess offers
          rw [induction, apply_ite (List.cons (some error))]

theorem untilSuccess_of_failing {offers : List (Option Error)}
    (failing : offers.all Option.isSome = true) : untilSuccess offers = offers := by
  induction offers with
  | nil => rfl
  | cons offer offers induction =>
      cases offer with
      | none => cases failing
      | some error => exact congrArg (List.cons (some error)) (induction failing)

/-- What a `retry` runs of one action: the action itself once if it is pending. -/
theorem runsOf_retry (call : Nat) (outcomes : Outcomes Error) (actions : List Nat)
    (distinct : actions.Nodup) (action : Nat) :
    (Label.retry call outcomes (actions.map fun action => (action, outcomes action))).runsOf
        action = if action ∈ actions then [outcomes action] else [] := by
  unfold Label.runsOf
  induction actions with
  | nil => rfl
  | cons first actions induction =>
      have once := List.nodup_cons.mp distinct
      have rest := induction once.2
      dsimp only at rest ⊢
      rw [List.map_cons, List.filter_cons]
      by_cases same : first = action
      · subst same
        rw [if_neg once.1] at rest
        rw [if_pos (decide_eq_true rfl), List.map_cons, rest, if_pos List.mem_cons_self]
      · have elsewhere : action ∈ first :: actions ↔ action ∈ actions := by
          rw [List.mem_cons]
          exact or_iff_right fun equal => same equal.symm
        rw [if_neg (by simpa using same), rest]
        by_cases member : action ∈ actions
        · rw [if_pos member, if_pos (elsewhere.mpr member)]
        · rw [if_neg member, if_neg (mt elsewhere.mp member)]

end Success

section Accounting

variable {hasCallback : Bool} {labels : List (Label Error)} {owner next : Owner Error}

theorem accounted_start : Accounted hasCallback [] (start hasCallback : Owner Error) where
  added := rfl
  actions := rfl
  owned key member := absurd member (AList.notMem_empty key)
  runs action := by cases action <;> rfl
  invoked := rfl
  callback _ := rfl
  completed call stage := by cases stage

theorem offered_silent {label : Label Error} {action : Nat} (silent : label.offers action = []) :
    offered action (labels ++ [label]) = offered action labels := by
  rw [offered_snoc, silent, List.append_nil]
  split
  · rfl
  · rename_i later
    exact (offered_later labels (not_lt.mp later)).symm

theorem runs_silent {label : Label Error} {action : Nat} (silent : label.offers action = [])
    (runs : runsOf action labels = untilSuccess (offered action labels)) :
    runsOf action (labels ++ [label]) = untilSuccess (offered action (labels ++ [label])) := by
  have none : label.runsOf action = [] := by
    cases label with
    | add | read | notify => rfl
    | retry => cases silent
  rw [runsOf_snoc, none, List.append_nil, offered_silent silent]
  exact runs

theorem pending_silent {label : Label Error} (notAdd : label.isAdd = false)
    (silent : ∀ action, label.offers action = []) :
    pending (labels ++ [label]) = pending labels := by
  rw [pending_other labels label notAdd]
  refine List.filter_eq_self.mpr fun action _ => ?_
  rw [silent]
  rfl

theorem invokes_silent {label : Label Error} (silent : label.invokes = false) :
    (labels ++ [label]).countP Label.invokes = labels.countP Label.invokes := by
  rw [List.countP_append, List.countP_singleton, silent]
  rfl

theorem Accounted.completed_snoc (accounted : Accounted hasCallback labels owner)
    (label : Label Error) {call : Nat} (completed : owner.stage call = .completed) :
    ∃ before after, labels ++ [label] = before ++ .read call true :: after ∧
      pending before = [] := by
  obtain ⟨before, after, rfl, empty⟩ := accounted.completed call completed
  exact ⟨before, after ++ [label], List.append_assoc _ _ _, empty⟩

/-- Of the calls, those other than the one that moved stand where they stood. -/
theorem stage_of_reach {call other : Nat} {stage : Stage} (moved : stage ≠ .completed)
    (completed : (owner.reach call stage).stage other = .completed) :
    owner.stage other = .completed := by
  by_cases same : other = call
  · subst same
    have here : (owner.reach other stage).stage other = stage := Function.update_self _ _ _
    exact absurd (here.symm.trans completed) moved
  · rw [← completed]
    exact (Function.update_of_ne same stage owner.stage).symm

theorem accounted_retry {call : Nat} (outcomes : Outcomes Error)
    (accounted : Accounted hasCallback labels owner) :
    Accounted hasCallback (labels ++ [.retry call outcomes (owner.transaction.retry outcomes).2])
      (Owner.reach { owner with transaction := (owner.transaction.retry outcomes).1 }
        call .retried) := by
  obtain ⟨runs, left⟩ := retry_spec owner.transaction outcomes
  rw [accounted.actions] at runs left
  refine {
    added := ?_
    actions := ?_
    owned := retry_owned accounted.owned
    runs := fun action => ?_
    invoked := ?_
    callback := accounted.callback
    completed := fun other completed => ?_ }
  · rw [adds_snoc]
    exact accounted.added
  · rw [pending_other _ _ rfl]
    refine left.trans (List.filter_congr fun action _ => ?_)
    exact (Bool.and_true _).symm
  · rw [runs, runsOf_snoc, runsOf_retry call outcomes _ (pending_nodup labels), offered_snoc,
      accounted.runs]
    by_cases known : action < adds labels
    · rw [if_pos known]
      change _ = untilSuccess (offered action labels ++ [outcomes action])
      rw [untilSuccess_snoc]
      by_cases failing : (offered action labels).all Option.isSome = true
      · rw [if_pos failing, if_pos ((mem_pending labels).mpr ⟨known, failing⟩)]
      · rw [if_neg failing, if_neg fun member => failing ((mem_pending labels).mp member).2,
          List.append_nil]
    · rw [if_neg known, if_neg fun member => known ((mem_pending labels).mp member).1,
        offered_later labels (not_lt.mp known)]
      rfl
  · rw [invokes_silent rfl]
    exact accounted.invoked
  · exact accounted.completed_snoc _ (stage_of_reach (by decide) completed)

theorem accounted_step {label : Label Error} (accounted : Accounted hasCallback labels owner)
    (step : Step owner label next) : Accounted hasCallback (labels ++ [label]) next := by
  cases step with
  | add name error =>
      refine {
        added := ?_
        actions := ?_
        owned := add_owned accounted.owned _ _ _
        runs := fun action => runs_silent rfl (accounted.runs action)
        invoked := ?_
        callback := accounted.callback
        completed := fun call completed => accounted.completed_snoc _ completed }
      · rw [adds_snoc, accounted.added]
        rfl
      · rw [pending_add _ _ rfl, add_pendingActions, accounted.actions, accounted.added]
      · rw [invokes_silent rfl]
        exact accounted.invoked
  | retry outcomes entered => exact accounted_retry outcomes accounted
  | @read call retried =>
      refine {
        added := ?_
        actions := ?_
        owned := accounted.owned
        runs := fun action => runs_silent rfl (accounted.runs action)
        invoked := ?_
        callback := accounted.callback
        completed := fun other completed => ?_ }
      · rw [adds_snoc]
        exact accounted.added
      · rw [pending_silent rfl fun _ => rfl]
        exact accounted.actions
      · rw [invokes_silent rfl]
        exact accounted.invoked
      · cases complete : owner.transaction.complete with
        | false =>
            rw [complete] at completed
            exact accounted.completed_snoc _ (stage_of_reach (by decide) completed)
        | true =>
            by_cases same : other = call
            · subst same
              have empty := (complete_iff _).mp complete
              exact ⟨labels, [], rfl, accounted.actions.symm.trans empty⟩
            · refine accounted.completed_snoc _ ?_
              rw [← completed]
              exact (Function.update_of_ne same _ owner.stage).symm
  | @notify call completed =>
      have kept : owner.notifyCleanupComplete.2.transaction = owner.transaction ∧
          owner.notifyCleanupComplete.2.stage = owner.stage ∧
          owner.notifyCleanupComplete.2.added = owner.added ∧
          owner.notifyCleanupComplete.2.completionNotified = true := by
        unfold Owner.notifyCleanupComplete
        split
        · rename_i notified
          exact ⟨rfl, rfl, rfl, notified⟩
        · exact ⟨rfl, rfl, rfl, rfl⟩
      obtain ⟨sameTransaction, sameStage, sameAdded, notified⟩ := kept
      refine {
        added := ?_
        actions := ?_
        owned := ?_
        runs := fun action => runs_silent rfl (accounted.runs action)
        invoked := ?_
        callback := fun fresh => ?_
        completed := fun other still => ?_ }
      · rw [adds_snoc]
        exact sameAdded.trans accounted.added
      · rw [pending_silent rfl fun _ => rfl, ← accounted.actions, ← sameTransaction]
        rfl
      · change Owned owner.notifyCleanupComplete.2.transaction
        rw [sameTransaction]
        exact accounted.owned
      · rw [List.countP_append, List.countP_singleton, accounted.invoked]
        change _ + (if owner.notifyCleanupComplete.1 = true then 1 else 0) =
          if owner.notifyCleanupComplete.2.completionNotified && hasCallback then 1 else 0
        rw [notified]
        unfold Owner.notifyCleanupComplete
        cases before : owner.completionNotified with
        | true => rfl
        | false =>
            rw [if_neg nofun, accounted.callback before]
            exact Nat.zero_add _
      · change owner.notifyCleanupComplete.2.completionNotified = false at fresh
        rw [notified] at fresh
        cases fresh
      · have before := stage_of_reach (by decide) still
        rw [sameStage] at before
        exact accounted.completed_snoc _ before

theorem accounted_of_run (run : Run Step (start hasCallback) labels owner) :
    Accounted hasCallback labels owner :=
  run.invariant accounted_start fun _ _ _ _ _ accounted step => accounted_step accounted step

theorem reach_reach (call : Nat) (first second : Stage) :
    (owner.reach call first).reach call second = owner.reach call second := by
  unfold Owner.reach
  rw [Function.update_idem]

theorem notify_reach (call : Nat) (stage : Stage) :
    (owner.reach call stage).notifyCleanupComplete =
      (owner.notifyCleanupComplete.1, owner.notifyCleanupComplete.2.reach call stage) := by
  unfold Owner.notifyCleanupComplete Owner.reach
  dsimp only
  split <;> rfl

def Owner.retried (owner : Owner Error) (outcomes : Outcomes Error) : Owner Error :=
  { owner with transaction := (owner.transaction.retry outcomes).1 }

def Owner.callLabels (owner : Owner Error) (call : Nat) (outcomes : Outcomes Error) :
    List (Label Error) :=
  .retry call outcomes (owner.transaction.retry outcomes).2 ::
    .read call (owner.retried outcomes).transaction.complete ::
      if (owner.retried outcomes).transaction.complete then
        [.notify call (owner.retried outcomes).notifyCleanupComplete.1] else []

/-- A call of `retry_cleanup` by one caller at a time is its regions in a row. -/
theorem retryCleanup_run {call : Nat} (outcomes : Outcomes Error)
    (entered : owner.stage call = .entered) :
    Run Step owner (owner.callLabels call outcomes)
      ((owner.retryCleanup outcomes).2.reach call .returned) := by
  have first : Step owner (.retry call outcomes (owner.transaction.retry outcomes).2)
      ((owner.retried outcomes).reach call .retried) := .retry outcomes entered
  have second : Step ((owner.retried outcomes).reach call .retried)
      (.read call (owner.retried outcomes).transaction.complete) _ :=
    .read (Function.update_self _ _ _)
  rw [reach_reach] at second
  refine Run.cons first (Run.cons second ?_)
  change Run Step ((owner.retried outcomes).reach call
    (if (owner.retried outcomes).transaction.complete then .completed else .returned)) _
    (Owner.reach (if (owner.retried outcomes).transaction.complete then
        ((owner.retried outcomes).transaction.complete,
          (owner.retried outcomes).notifyCleanupComplete.2)
      else ((owner.retried outcomes).transaction.complete, owner.retried outcomes)).2
      call .returned)
  cases (owner.retried outcomes).transaction.complete with
  | false => exact .nil
  | true =>
      have third : Step ((owner.retried outcomes).reach call .completed) _ _ :=
        .notify (Function.update_self call _ _)
      rw [notify_reach, reach_reach] at third
      exact Run.single third

/-- `retry_cleanup` returns what `complete` says, and changes the transaction by `retry`. -/
theorem retryCleanup_complete (owner : Owner Error) (outcomes : Outcomes Error) :
    (owner.retryCleanup outcomes).1 = (owner.retryCleanup outcomes).2.transaction.complete := by
  unfold Owner.retryCleanup Owner.notifyCleanupComplete
  dsimp only
  repeat' split
  all_goals rfl

/-- An action that is still pending has failed at every `retry` since its `add`. -/
theorem pending_failed {action : Nat} (accounted : Accounted hasCallback labels owner)
    (member : action ∈ pending labels) : runsOf action labels = offered action labels := by
  rw [accounted.runs]
  exact untilSuccess_of_failing ((mem_pending labels).mp member).2

/-- For any sequence of `add` and of `retry_cleanup` calls, also such that overlap: every
action is run at every `retry` after its `add` until it succeeds and never again, in the order
of the `add` calls; one that fails finitely often does succeed; after a `retry` there is one
error for each action left, the one it raised just then; `complete` is true exactly when no
action is left, which is what a call of its own returns; and the callback is invoked at most
once, after a call that saw that. -/
theorem cleanup_runs_once (reached : Run Step (start hasCallback) labels owner) :
    (∀ action, runsOf action labels = untilSuccess (offered action labels)) ∧
      (∀ before call outcomes runs after, labels = before ++ .retry call outcomes runs :: after →
        runs = (pending before).map fun action => (action, outcomes action)) ∧
      (∀ action limit, (runsOf action labels).countP Option.isSome ≤ limit →
        limit < (offered action labels).length → action ∉ pending labels) ∧
      (∀ before call outcomes runs, labels = before ++ [.retry call outcomes runs] →
        owner.transaction.errorList.Perm ((pending labels).filterMap outcomes) ∧
          ∀ action ∈ pending labels, (outcomes action).isSome = true) ∧
      (∀ before call complete after, labels = before ++ .read call complete :: after →
        (complete = true ↔ pending before = [])) ∧
      (∀ call outcomes, owner.stage call = .entered →
        Run Step owner (owner.callLabels call outcomes)
            ((owner.retryCleanup outcomes).2.reach call .returned) ∧
          ((owner.retryCleanup outcomes).1 = true ↔
            pending (labels ++ owner.callLabels call outcomes) = [])) ∧
      labels.countP Label.invokes ≤ 1 ∧
      ∀ before call after, labels = before ++ .notify call true :: after →
        ∃ earlier later, before = earlier ++ .read call true :: later ∧ pending earlier = [] := by
  have accounted := accounted_of_run reached
  refine ⟨accounted.runs, ?_, ?_, ?_, ?_, ?_, ?_, ?_⟩
  · rintro before call outcomes runs after rfl
    obtain ⟨middle, later, front, step, _⟩ := reached.stepAt
    cases step with
    | retry _ entered =>
        rw [(retry_spec middle.transaction outcomes).1, (accounted_of_run front).actions]
  · intro action limit failures retries member
    rw [pending_failed accounted member] at failures
    have all := List.countP_eq_length.mpr
      (List.all_eq_true.mp ((mem_pending labels).mp member).2)
    omega
  · rintro before call outcomes runs rfl
    obtain ⟨middle, later, front, step, rest⟩ := reached.stepAt
    have same := rest.eq_of_nil
    cases step with
    | retry _ entered =>
        obtain rfl := same
        have accountedBefore := accounted_of_run front
        have left := (retry_spec middle.transaction outcomes).2
        have perm : (middle.transaction.retry outcomes).1.errorList.Perm _ :=
          retry_errorList accountedBefore.owned
        rw [← accounted.actions]
        refine ⟨perm, fun action member => ?_⟩
        change action ∈ (middle.transaction.retry outcomes).1.pendingActions at member
        rw [left] at member
        exact (List.mem_filter.mp member).2
  · rintro before call complete after rfl
    obtain ⟨middle, later, front, step, _⟩ := reached.stepAt
    cases step with
    | read retried => rw [complete_iff, (accounted_of_run front).actions]
  · intro call outcomes entered
    have alone := retryCleanup_run outcomes entered
    refine ⟨alone, ?_⟩
    rw [retryCleanup_complete, complete_iff, ← (accounted_of_run (reached.append alone)).actions]
    rfl
  · rw [accounted.invoked]
    split <;> decide
  · rintro before call after rfl
    obtain ⟨middle, later, front, step, _⟩ := reached.stepAt
    have completed : middle.stage call = .completed := by
      generalize isNotify : Label.notify call true = label at step
      cases step with
      | notify completed =>
          obtain ⟨rfl, _⟩ := Label.notify.inj isNotify
          exact completed
      | add | retry | read => cases isNotify
    exact (accounted_of_run front).completed call completed

end Accounting

section Samples

def firstOutcomes : Outcomes Nat := fun action => if action = 0 then some 11 else none

def sampleLabels : List (Label Nat) :=
  [.add "listener".toList (some 90), .add "listener".toList none,
    .retry 0 firstOutcomes [(0, some 11), (1, none)], .read 0 false,
    .retry 1 (fun _ => none) [(0, none)], .retry 2 (fun _ => none) [], .read 1 true,
    .read 2 true, .notify 2 true, .notify 1 false]

theorem first_then {owner next : Owner Nat} {label : Label Nat} {labels : List (Label Nat)}
    (first : Step owner label next) (rest : ∃ last, Run Step next labels last) :
    ∃ last, Run Step owner (label :: labels) last :=
  rest.imp fun _ run => Run.cons first run

/-- Two calls of `retry_cleanup` that overlap, after one that left an action. -/
theorem run_sample : ∃ owner, Run Step (start true) sampleLabels owner := by
  refine first_then (.add _ _) (first_then (.add _ _) ?_)
  refine first_then (.retry _ rfl) (first_then (.read rfl) ?_)
  refine first_then (.retry _ rfl) (first_then (.retry _ rfl) ?_)
  refine first_then (.read rfl) (first_then (.read rfl) ?_)
  exact first_then (.notify rfl) ⟨_, Run.single (.notify rfl)⟩

theorem cleanup_runs_once_sample :
    (runsOf 0 sampleLabels = [some 11, none] ∧ runsOf 1 sampleLabels = [none] ∧
      offered 1 sampleLabels = [none, none, none] ∧
      sampleLabels.countP Label.invokes = 1) ∧
    (∀ action, runsOf action sampleLabels = untilSuccess (offered action sampleLabels)) ∧
      (true = true ↔ pending (sampleLabels.take 6) = []) := by
  obtain ⟨owner, run⟩ := run_sample
  obtain ⟨runs, _, _, _, complete, _, _, _⟩ := cleanup_runs_once run
  exact ⟨by decide, runs, complete (sampleLabels.take 6) 1 true (sampleLabels.drop 7) rfl⟩

end Samples

end SmallServer.CleanupTransaction
