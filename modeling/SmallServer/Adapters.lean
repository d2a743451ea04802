import SmallServer.OrderedDict
import SmallServer.HttpValues
import SmallServer.Runs

/-!
# Adapters

`AdapterRegistry`. The adapters are objects of the application, told apart by identity; every
method that the registry calls or looks up on one of them is recorded. Which names are
identifiers is left open, as nothing else depends on it.
-/

namespace SmallServer.Adapters

open SmallServer HttpValues Runs

set_option autoImplicit false

variable {Adapter Error : Type}

section Registry

structure Registry (Adapter : Type) where
  adapters : OrderedDict Text Adapter := ∅
  closed : Bool := false

inductive Touch (Adapter : Type)
  | inspected (adapter : Adapter) (method : String)
  | called (adapter : Adapter)
  | shutDown (adapter : Adapter) (wait cancelPending : Bool)
deriving DecidableEq

/-- A `name` argument: a string or anything else. -/
inductive Argument
  | text (name : Text)
  | other

/-- What `getattr(adapter, method, None)` gives: something callable, something else or nothing,
or an exception. -/
inductive Attribute
  | callable
  | other
  | raises (message : String)

/-- What an adapter's `shutdown` does: it returns, raises an `Exception`, or raises an
exception that is none, such as `KeyboardInterrupt`. -/
inductive Outcome (Error : Type)
  | returned
  | failed (error : Error)
  | interrupted (error : Error)

inductive Ending (Error : Type)
  | returned
  | interrupt (error : Error)
  | shutdownError (failures : List (Text × Error))
deriving DecidableEq

namespace Registry

def items (registry : Registry Adapter) : List (Text × Adapter) :=
  registry.adapters.entries.map fun entry => (entry.1, entry.2)

/-- The last check of `register`, for one method after the other. -/
def checkMethods (adapter : Adapter) (attributes : String → Attribute) :
    List String → Except String Unit × List (Touch Adapter)
  | [] => (.ok (), [])
  | method :: methods =>
      match attributes method with
      | .callable =>
          let (result, touches) := checkMethods adapter attributes methods
          (result, .inspected adapter method :: touches)
      | .other =>
          (.error ("adapter must provide " ++ method ++ "()"), [.inspected adapter method])
      | .raises message => (.error message, [.inspected adapter method])

def register [DecidableEq Adapter] (isIdentifier : Text → Bool) (registry : Registry Adapter)
    (name : Argument) (adapter : Adapter) (attributes : String → Attribute) :
    Except String Adapter × Registry Adapter × List (Touch Adapter) :=
  if registry.closed then (.error "adapter registry is closed", registry, [])
  else
    match name with
    | .other => (.error "adapter name must be a non-empty identifier", registry, [])
    | .text name =>
        if name = [] ∨ isIdentifier name = false then
          (.error "adapter name must be a non-empty identifier", registry, [])
        else if name ∈ registry.adapters then
          (.error ("adapter is already registered: " ++ String.ofList name), registry, [])
        else
          match registry.items.find? fun item => decide (item.2 = adapter) with
          | some item =>
              (.error ("adapter is already registered as: " ++ String.ofList item.1),
                registry, [])
          | none =>
              match checkMethods adapter attributes ["call", "shutdown"] with
              | (.error message, touches) => (.error message, registry, touches)
              | (.ok (), touches) =>
                  (.ok adapter,
                    { registry with adapters := registry.adapters.set name adapter }, touches)

def get (registry : Registry Adapter) (name : Text) : Except String Adapter :=
  match registry.adapters.lookup name with
  | some adapter => .ok adapter
  | none => .error ("unknown adapter: " ++ String.ofList name)

/-- `call`, up to the adapter whose own `call` answers it. -/
def call (registry : Registry Adapter) (name : Text) :
    Except String Adapter × List (Touch Adapter) :=
  if registry.closed then (.error "adapter registry is closed", [])
  else
    match registry.get name with
    | .error message => (.error message, [])
    | .ok adapter => (.ok adapter, [.called adapter])

/-- What the loop of `shutdown` keeps of one outcome: every failure, and the first interrupt. -/
def keep (name : Text) (failures : List (Text × Error)) (interrupt : Option Error) :
    Outcome Error → List (Text × Error) × Option Error
  | .returned => (failures, interrupt)
  | .failed error => (failures ++ [(name, error)], interrupt)
  | .interrupted error => (failures, if interrupt.isNone then some error else interrupt)

def shutdownLoop (wait cancelPending : Bool) (outcomes : Adapter → Outcome Error) :
    List (Text × Adapter) → List (Text × Error) → Option Error →
      List (Text × Error) × Option Error × List (Touch Adapter)
  | [], failures, interrupt => (failures, interrupt, [])
  | item :: items, failures, interrupt =>
      let kept := keep item.1 failures interrupt (outcomes item.2)
      let (failures, interrupt, touches) :=
        shutdownLoop wait cancelPending outcomes items kept.1 kept.2
      (failures, interrupt, .shutDown item.2 wait cancelPending :: touches)

def shutdown (registry : Registry Adapter) (wait cancelPending : Bool)
    (outcomes : Adapter → Outcome Error) :
    Ending Error × Registry Adapter × List (Touch Adapter) :=
  if registry.closed then (.returned, registry, [])
  else
    let registry := { registry with closed := true }
    match shutdownLoop wait cancelPending outcomes registry.items.reverse [] none with
    | (_, some error, touches) => (.interrupt error, registry, touches)
    | (failure :: failures, none, touches) =>
        (.shutdownError (failure :: failures), registry, touches)
    | ([], none, touches) => (.returned, registry, touches)

end Registry

end Registry

section Runs

inductive Label (Adapter Error : Type)
  | register (name : Argument) (adapter : Adapter) (result : Except String Adapter)
      (touches : List (Touch Adapter))
  | call (name : Text) (result : Except String Adapter) (touches : List (Touch Adapter))
  | shutdown (wait cancelPending : Bool) (outcomes : Adapter → Outcome Error)
      (ending : Ending Error) (touches : List (Touch Adapter))

inductive Step [DecidableEq Adapter] (isIdentifier : Text → Bool) :
    Registry Adapter → Label Adapter Error → Registry Adapter → Prop
  | register {registry next : Registry Adapter} {name : Argument} {adapter : Adapter}
      {result : Except String Adapter} {touches : List (Touch Adapter)}
      (attributes : String → Attribute)
      (made : registry.register isIdentifier name adapter attributes = (result, next, touches)) :
      Step isIdentifier registry (.register name adapter result touches) next
  | call {registry : Registry Adapter} {name : Text} {result : Except String Adapter}
      {touches : List (Touch Adapter)} (made : registry.call name = (result, touches)) :
      Step isIdentifier registry (.call name result touches) registry
  | shutdown {registry next : Registry Adapter} {wait cancelPending : Bool}
      {outcomes : Adapter → Outcome Error} {ending : Ending Error}
      {touches : List (Touch Adapter)}
      (made : registry.shutdown wait cancelPending outcomes = (ending, next, touches)) :
      Step isIdentifier registry (.shutdown wait cancelPending outcomes ending touches) next

end Runs

section Specification

def Label.touches : Label Adapter Error → List (Touch Adapter)
  | .register _ _ _ touches => touches
  | .call _ _ touches => touches
  | .shutdown _ _ _ _ touches => touches

def Label.isShutdown : Label Adapter Error → Bool
  | .shutdown _ _ _ _ _ => true
  | _ => false

def Label.registration : Label Adapter Error → Option (Text × Adapter)
  | .register (.text name) adapter (.ok _) _ => some (name, adapter)
  | _ => none

def registered (labels : List (Label Adapter Error)) : List (Text × Adapter) :=
  labels.filterMap Label.registration

def Outcome.interrupt : Outcome Error → Option Error
  | .interrupted error => some error
  | _ => none

def Outcome.failure : Outcome Error → Option Error
  | .failed error => some error
  | _ => none

def failuresOf (outcomes : Adapter → Outcome Error) (items : List (Text × Adapter)) :
    List (Text × Error) :=
  items.filterMap fun item => (outcomes item.2).failure.map fun error => (item.1, error)

/-- How `shutdown` is to end when the adapters are called in the given order. -/
def specifiedEnding (outcomes : Adapter → Outcome Error) (items : List (Text × Adapter)) :
    Ending Error :=
  match items.findSome? fun item => (outcomes item.2).interrupt with
  | some error => .interrupt error
  | none =>
      match failuresOf outcomes items with
      | [] => .returned
      | failures => .shutdownError failures

end Specification

section Shutdown

variable {wait cancelPending : Bool} {outcomes : Adapter → Outcome Error}

theorem shutdownLoop_spec (items : List (Text × Adapter)) (failures : List (Text × Error))
    (interrupt : Option Error) :
    Registry.shutdownLoop wait cancelPending outcomes items failures interrupt =
      (failures ++ failuresOf outcomes items,
        interrupt.or (items.findSome? fun item => (outcomes item.2).interrupt),
        items.map fun item => .shutDown item.2 wait cancelPending) := by
  induction items generalizing failures interrupt with
  | nil =>
      unfold Registry.shutdownLoop failuresOf
      rw [List.filterMap_nil, List.append_nil, List.findSome?_nil, Option.or_none, List.map_nil]
  | cons item items induction =>
      unfold Registry.shutdownLoop failuresOf
      dsimp only
      rw [induction, List.filterMap_cons, List.findSome?_cons, List.map_cons]
      cases outcomes item.2 with
      | returned => rfl
      | failed error =>
          refine Prod.ext ?_ rfl
          exact List.append_assoc _ _ _
      | interrupted error =>
          refine Prod.ext rfl (Prod.ext ?_ rfl)
          cases interrupt <;> rfl

/-- `shutdown` calls every adapter, the last registered first, and ends as specified. -/
theorem shutdown_open {registry : Registry Adapter} (isOpen : registry.closed = false) :
    registry.shutdown wait cancelPending outcomes =
      (specifiedEnding outcomes registry.items.reverse, { registry with closed := true },
        registry.items.reverse.map fun item => .shutDown item.2 wait cancelPending) := by
  unfold Registry.shutdown specifiedEnding
  rw [if_neg (by rw [isOpen]; exact nofun)]
  dsimp only
  rw [shutdownLoop_spec, List.nil_append, Option.none_or]
  have same : ({ registry with closed := true } : Registry Adapter).items = registry.items := rfl
  rw [same]
  cases registry.items.reverse.findSome? fun item => (outcomes item.2).interrupt with
  | some error => rfl
  | none => cases failuresOf outcomes registry.items.reverse <;> rfl

end Shutdown

section Table

variable {registry next : Registry Adapter}

theorem items_set {name : Text} {adapter : Adapter} (free : name ∉ registry.adapters) :
    ({ registry with adapters := registry.adapters.set name adapter } : Registry Adapter).items =
      registry.items ++ [(name, adapter)] := by
  unfold Registry.items OrderedDict.set
  dsimp only
  rw [dif_neg free, List.map_append]
  rfl

/-- The table holds what was registered, no adapter twice, and knows whether it was closed. -/
structure Kept (labels : List (Label Adapter Error)) (registry : Registry Adapter) : Prop where
  items : registry.items = registered labels
  distinct : ((registered labels).map Prod.snd).Nodup
  closed : registry.closed = labels.any Label.isShutdown

variable {labels : List (Label Adapter Error)} {label : Label Adapter Error}

theorem kept_new : Kept ([] : List (Label Adapter Error)) {} where
  items := rfl
  distinct := List.nodup_nil
  closed := rfl

theorem registered_snoc : registered (labels ++ [label]) =
    registered labels ++ label.registration.toList := by
  unfold registered
  rw [List.filterMap_append]
  cases registration : label.registration <;> simp [registration]

theorem kept_silent (kept : Kept labels registry) (silent : label.registration = none)
    (same : next.adapters = registry.adapters)
    (closed : next.closed = (registry.closed || label.isShutdown)) :
    Kept (labels ++ [label]) next := by
  have unchanged : registered (labels ++ [label]) = registered labels := by
    rw [registered_snoc, silent, Option.toList_none, List.append_nil]
  refine ⟨?_, ?_, ?_⟩
  · rw [unchanged, ← kept.items]
    unfold Registry.items
    rw [same]
  · rw [unchanged]
    exact kept.distinct
  · rw [closed, kept.closed, List.any_append, List.any_cons, List.any_nil, Bool.or_false]

end Table

section Registration

variable [DecidableEq Adapter] {isIdentifier : Text → Bool} {registry next : Registry Adapter}
variable {labels : List (Label Adapter Error)} {label : Label Adapter Error}

/-- The two ways `register` ends: refused with nothing stored, or stored under a free name and
not stored before under any. -/
theorem register_cases {name : Argument} {adapter : Adapter} {result : Except String Adapter}
    {touches : List (Touch Adapter)} {attributes : String → Attribute}
    (made : registry.register isIdentifier name adapter attributes = (result, next, touches)) :
    (∃ message, result = .error message ∧ next = registry) ∨
    ∃ text, name = .text text ∧ result = .ok adapter ∧ text ∉ registry.adapters ∧
      adapter ∉ registry.items.map Prod.snd ∧
      next = { registry with adapters := registry.adapters.set text adapter } := by
  unfold Registry.register at made
  split at made
  · cases made
    exact Or.inl ⟨_, rfl, rfl⟩
  · cases name with
    | other =>
        cases made
        exact Or.inl ⟨_, rfl, rfl⟩
    | text text =>
        dsimp only at made
        split at made
        · cases made
          exact Or.inl ⟨_, rfl, rfl⟩
        · split at made
          · cases made
            exact Or.inl ⟨_, rfl, rfl⟩
          · rename_i free
            split at made
            · cases made
              exact Or.inl ⟨_, rfl, rfl⟩
            · rename_i unknown
              split at made
              · cases made
                exact Or.inl ⟨_, rfl, rfl⟩
              · cases made
                refine Or.inr ⟨text, rfl, rfl, free, fun member => ?_, rfl⟩
                obtain ⟨item, isItem, same⟩ := List.mem_map.mp member
                exact List.find?_eq_none.mp unknown item isItem (decide_eq_true same)

theorem kept_step (kept : Kept labels registry) (step : Step isIdentifier registry label next) :
    Kept (labels ++ [label]) next := by
  cases step with
  | @register _ name adapter result touches attributes made =>
      obtain ⟨message, rfl, rfl⟩ | ⟨text, rfl, rfl, free, unknown, rfl⟩ := register_cases made
      · have silent : (Label.register name adapter (.error message) touches :
            Label Adapter Error).registration = none := by
          cases name <;> rfl
        exact kept_silent kept silent rfl (Bool.or_false _).symm
      · refine ⟨?_, ?_, ?_⟩
        · rw [items_set free, kept.items, registered_snoc]
          rfl
        · rw [registered_snoc, List.map_append]
          rw [kept.items] at unknown
          refine List.nodup_append.mpr ⟨kept.distinct, List.nodup_singleton _, ?_⟩
          rintro other member _ last rfl
          rw [List.mem_singleton.mp last] at member
          exact unknown member
        · rw [List.any_append]
          exact kept.closed.trans (Bool.or_false _).symm
  | call made => exact kept_silent kept rfl rfl (Bool.or_false _).symm
  | @shutdown _ wait cancelPending outcomes ending touches made =>
      have after : next = { registry with closed := true } := by
        cases closed : registry.closed with
        | true =>
            unfold Registry.shutdown at made
            rw [if_pos closed] at made
            cases made
            rw [← closed]
        | false =>
            rw [shutdown_open closed] at made
            cases made
            rfl
      obtain rfl := after
      exact kept_silent kept rfl rfl (Bool.or_true _).symm

theorem kept_of_run (run : Run (Step isIdentifier) {} labels registry) : Kept labels registry :=
  run.invariant kept_new fun _ _ _ _ _ kept step => kept_step kept step

theorem step_closed (step : Step isIdentifier registry label next)
    (closed : registry.closed = true) : label.touches = [] ∧ next = registry := by
  cases step with
  | register attributes made =>
      unfold Registry.register at made
      rw [if_pos closed] at made
      cases made
      exact ⟨rfl, rfl⟩
  | call made =>
      unfold Registry.call at made
      rw [if_pos closed] at made
      cases made
      exact ⟨rfl, rfl⟩
  | shutdown made =>
      unfold Registry.shutdown at made
      rw [if_pos closed] at made
      cases made
      exact ⟨rfl, rfl⟩

theorem run_closed (run : Run (Step isIdentifier) registry labels next)
    (closed : registry.closed = true) :
    (∀ label ∈ labels, label.touches = []) ∧ next = registry := by
  induction run with
  | nil => exact ⟨List.forall_mem_nil _, rfl⟩
  | snoc label _ step induction =>
      obtain ⟨untouched, rfl⟩ := induction
      obtain ⟨silent, rfl⟩ := step_closed step closed
      refine ⟨fun other member => ?_, rfl⟩
      rcases List.mem_append.mp member with earlier | last
      · exact untouched other earlier
      · rw [List.mem_singleton.mp last]
        exact silent

/-- After any calls of `register`, `call` and `shutdown`: the first `shutdown` shuts down every
registered adapter once, the last registered first; it ends with the first interrupt, or else
with the failures in the order of the calls, or else it returns; and no later method does
anything to an adapter. -/
theorem shutdown_reaches_everyone (reached : Run (Step isIdentifier) {} labels registry) :
    registry.items = registered labels ∧ ((registered labels).map Prod.fst).Nodup ∧
      ((registered labels).map Prod.snd).Nodup ∧
      registry.closed = labels.any Label.isShutdown ∧
      (∀ wait cancelPending (outcomes : Adapter → Outcome Error), registry.closed = false →
        registry.shutdown wait cancelPending outcomes =
          (specifiedEnding outcomes (registered labels).reverse,
            { registry with closed := true },
            (registered labels).reverse.map fun item =>
              .shutDown item.2 wait cancelPending)) ∧
      ∀ before wait cancelPending outcomes ending touches after,
        labels = before ++ .shutdown wait cancelPending outcomes ending touches :: after →
          ∀ label ∈ after, label.touches = [] := by
  have kept := kept_of_run reached
  refine ⟨kept.items, ?_, kept.distinct, kept.closed, ?_, ?_⟩
  · have names : registry.items.map Prod.fst = registry.adapters.keys := by
      unfold Registry.items
      rw [List.map_map]
      rfl
    rw [← kept.items, names]
    exact registry.adapters.keys_nodup
  · intro wait cancelPending outcomes isOpen
    rw [shutdown_open isOpen, kept.items]
  · rintro before wait cancelPending outcomes ending touches after rfl
    rw [List.append_cons] at reached
    obtain ⟨middle, front, rest⟩ := reached.split
    have closed : middle.closed = true := by
      rw [(kept_of_run front).closed, List.any_append]
      exact Bool.or_true _
    exact (run_closed rest closed).1

end Registration

section Samples

def sampleIdentifier (name : Text) : Bool := name.all Char.isAlpha

def complete : String → Attribute := fun _ => .callable

def onlyCall : String → Attribute := fun method => if method = "call" then .callable else .other

def sampleOutcomes : Nat → Outcome Nat
  | 1 => .interrupted 72
  | 2 => .failed 71
  | _ => .interrupted 70

def inspections (adapter : Nat) : List (Touch Nat) :=
  [.inspected adapter "call", .inspected adapter "shutdown"]

def sampleLabels : List (Label Nat Nat) :=
  [.register (.text "db".toList) 1 (.ok 1) (inspections 1),
    .register (.text "db".toList) 2 (.error "adapter is already registered: db") [],
    .register (.text "pool".toList) 1 (.error "adapter is already registered as: db") [],
    .register (.text "pool".toList) 2 (.ok 2) (inspections 2),
    .register (.text "loop".toList) 3 (.error "adapter must provide shutdown()") (inspections 3),
    .register (.text "loop".toList) 4 (.ok 4) (inspections 4),
    .call "db".toList (.ok 1) [.called 1]]

def sampleRegistry : Registry Nat where
  adapters := ((OrderedDict.set ∅ "db".toList 1).set "pool".toList 2).set "loop".toList 4

theorem run_sample : Run (Step sampleIdentifier) {} sampleLabels sampleRegistry := by
  refine Run.cons (.register complete rfl) (Run.cons (.register complete rfl) ?_)
  refine Run.cons (.register complete rfl) (Run.cons (.register complete rfl) ?_)
  refine Run.cons (.register onlyCall rfl) (Run.cons (.register complete rfl) ?_)
  exact Run.single (.call rfl)

/-- Shut down: the failure of the second adapter stops nothing and is not reported, as the
interrupt of the last one was first. -/
theorem shutdown_reaches_everyone_sample :
    sampleRegistry.closed = false ∧
      sampleRegistry.shutdown true false sampleOutcomes =
        (.interrupt 70, { sampleRegistry with closed := true },
          [.shutDown 4 true false, .shutDown 2 true false, .shutDown 1 true false]) := by
  obtain ⟨_, _, _, _, shutdown, _⟩ := shutdown_reaches_everyone run_sample
  exact ⟨rfl, shutdown true false sampleOutcomes rfl⟩

end Samples

end SmallServer.Adapters
