import Mathlib.Init

/-!
# Code that raises

Code that reads and changes a state and may raise. What it stored before it raises stays
stored. `Ends` says of the code how it ends from a state, whether it returns or raises; its
rules follow the construction of the code.
-/

namespace SmallServer.Raising

set_option autoImplicit false

variable {Error Other State Result Next : Type}

abbrev Code (Error State Result : Type) := ExceptT Error (StateM State) Result

def outcome (code : Code Error State Result) (state : State) : Except Error Result × State :=
  (code.run.run state).run

def raise (error : Error) : Code Error State Result := throw error

/-- `try: body except: handler`. What the handler raises may be of another kind. -/
def tryExcept (body : Code Error State Result) (handler : Error → Code Other State Result) :
    Code Other State Result :=
  ExceptT.mk fun state =>
    match outcome body state with
    | (.ok result, next) => (.ok result, next)
    | (.error error, next) => outcome (handler error) next

/-- The code, run from the state, ends as the condition says. -/
def Ends (code : Code Error State Result) (state : State)
    (condition : Except Error Result → State → Prop) : Prop :=
  condition (outcome code state).1 (outcome code state).2

variable {state : State} {condition weaker : Except Error Result → State → Prop}

theorem Ends.mono {code : Code Error State Result} (ends : Ends code state condition)
    (weakens : ∀ result next, condition result next → weaker result next) :
    Ends code state weaker :=
  weakens _ _ ends

@[simp] theorem ends_pure (result : Result) :
    Ends (pure result) state condition ↔ condition (.ok result) state :=
  Iff.rfl

@[simp] theorem ends_raise (error : Error) :
    Ends (raise error) state condition ↔ condition (.error error) state :=
  Iff.rfl

@[simp] theorem ends_get {condition : Except Error State → State → Prop} :
    Ends get state condition ↔ condition (.ok state) state :=
  Iff.rfl

@[simp] theorem ends_modify {condition : Except Error Unit → State → Prop}
    (change : State → State) :
    Ends (modify change) state condition ↔ condition (.ok ()) (change state) :=
  Iff.rfl

theorem outcome_bind (first : Code Error State Next) (rest : Next → Code Error State Result) :
    outcome (first >>= rest) state =
      match outcome first state with
      | (.ok result, next) => outcome (rest result) next
      | (.error error, next) => (.error error, next) := by
  unfold outcome ExceptT.run StateT.run Id.run
  simp only [bind, ExceptT.bind, ExceptT.mk, StateT.bind, ExceptT.bindCont]
  cases first state with
  | mk result next => cases result <;> rfl

@[simp] theorem ends_bind (first : Code Error State Next)
    (rest : Next → Code Error State Result) :
    Ends (first >>= rest) state condition ↔
      Ends first state fun result next =>
        match result with
        | .ok result => Ends (rest result) next condition
        | .error error => condition (.error error) next := by
  unfold Ends
  rw [outcome_bind]
  cases outcome first state with
  | mk result next => cases result <;> exact Iff.rfl

/-- The handler runs only if the body raises, from the state the body left. -/
@[simp] theorem ends_tryExcept (body : Code Other State Result)
    (handler : Other → Code Error State Result) :
    Ends (tryExcept body handler) state condition ↔
      Ends body state fun result next =>
        match result with
        | .ok result => condition (.ok result) next
        | .error error => Ends (handler error) next condition := by
  have unfolded : outcome (tryExcept body handler) state =
      match outcome body state with
      | (.ok result, next) => (.ok result, next)
      | (.error error, next) => outcome (handler error) next := rfl
  unfold Ends
  rw [unfolded]
  cases outcome body state with
  | mk result next => cases result <;> exact Iff.rfl

theorem ends_ite {test : Prop} [Decidable test] (first second : Code Error State Result) :
    Ends (if test then first else second) state condition ↔
      if test then Ends first state condition else Ends second state condition := by
  split <;> exact Iff.rfl

end SmallServer.Raising
