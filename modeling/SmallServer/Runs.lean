import Mathlib.Data.List.Basic

/-!
# Runs of a labelled step relation

A run lists the labels of its steps in order. An invariant may mention the labels
seen so far, so that history is available without being part of the state.
-/

namespace SmallServer.Runs

set_option autoImplicit false

variable {State Label : Type} {step : State → Label → State → Prop}

/-- `Run step start labels last`: the steps from `start` to `last` had these labels. -/
inductive Run (step : State → Label → State → Prop) (start : State) :
    List Label → State → Prop
  | nil : Run step start [] start
  | snoc {labels : List Label} {state next : State} (label : Label)
      (run : Run step start labels state) (last : step state label next) :
      Run step start (labels ++ [label]) next

namespace Run

variable {start state next : State} {labels more : List Label}

theorem single {label : Label} (last : step start label next) : Run step start [label] next :=
  .snoc label .nil last

theorem append (run : Run step start labels state) (rest : Run step state more next) :
    Run step start (labels ++ more) next := by
  induction rest with
  | nil =>
      rw [List.append_nil]
      exact run
  | snoc label _ last induction =>
      rw [← List.append_assoc]
      exact .snoc label induction last

theorem cons {label : Label} (first : step start label state) (rest : Run step state more next) :
    Run step start (label :: more) next :=
  (single first).append rest

theorem split (run : Run step start (labels ++ more) next) :
    ∃ middle, Run step start labels middle ∧ Run step middle more next := by
  generalize joined : labels ++ more = whole at run
  induction run generalizing more with
  | nil =>
      obtain ⟨rfl, rfl⟩ := List.append_eq_nil_iff.mp joined
      exact ⟨_, .nil, .nil⟩
  | snoc label run last induction =>
      rcases List.eq_nil_or_concat more with rfl | ⟨front, final, rfl⟩
      · rw [List.append_nil] at joined
        rw [joined]
        exact ⟨_, .snoc label run last, .nil⟩
      · rw [List.concat_eq_append, ← List.append_assoc] at joined
        obtain ⟨sameLabels, sameLabel⟩ := List.append_inj' joined rfl
        cases sameLabel
        obtain ⟨middle, before, after⟩ := induction sameLabels
        rw [List.concat_eq_append]
        exact ⟨middle, before, .snoc _ after last⟩

theorem eq_of_nil (run : Run step start [] next) : next = start := by
  generalize none : ([] : List Label) = labels at run
  cases run with
  | nil => rfl
  | snoc label run last => exact absurd none.symm (List.append_ne_nil_of_right_ne_nil _ nofun)

theorem uncons {label : Label} (run : Run step start (label :: labels) next) :
    ∃ middle, step start label middle ∧ Run step middle labels next := by
  have joined : Run step start ([label] ++ labels) next := run
  obtain ⟨middle, first, rest⟩ := joined.split
  refine ⟨middle, ?_, rest⟩
  generalize single : [label] = labels at first
  cases first with
  | nil => cases single
  | @snoc earlier state _ last run taken =>
      have split : [] ++ [label] = earlier ++ [last] := single
      obtain ⟨none, same⟩ := List.append_inj' split rfl
      cases same
      rw [← none] at run
      exact run.eq_of_nil ▸ taken

theorem stepAt {label : Label} (run : Run step start (labels ++ label :: more) next) :
    ∃ middle later, Run step start labels middle ∧ step middle label later ∧
      Run step later more next := by
  obtain ⟨middle, front, rest⟩ := run.split
  obtain ⟨later, taken, back⟩ := rest.uncons
  exact ⟨middle, later, front, taken, back⟩

/-- A property of the history and the state that holds at the start and that every
step keeps holds after every run. -/
theorem invariant {property : List Label → State → Prop} (initially : property [] start)
    (preserved : ∀ labels state label next, Run step start labels state →
      property labels state → step state label next → property (labels ++ [label]) next)
    (run : Run step start labels state) : property labels state := by
  induction run with
  | nil => exact initially
  | snoc label run last induction => exact preserved _ _ label _ run induction last

theorem stateInvariant {property : State → Prop} (initially : property start)
    (preserved : ∀ state label next, property state → step state label next → property next)
    (run : Run step start labels state) : property state := by
  induction run with
  | nil => exact initially
  | snoc label _ last induction => exact preserved _ label _ induction last

end Run

section Execution

variable (next : State → Label → Option State)

/-- Executes labels one after the other; stops where a step cannot be taken. -/
def takeAll (state : State) : List Label → Option State
  | [] => some state
  | label :: labels => (next state label).bind fun after => takeAll after labels

def endOf (state : State) (labels : List Label) : State :=
  (takeAll next state labels).getD state

variable {next}

theorem run_of_takeAll (sound : ∀ state label after, next state label = some after →
    step state label after) {labels : List Label} {state after : State}
    (taken : takeAll next state labels = some after) : Run step state labels after := by
  induction labels generalizing state with
  | nil =>
      cases taken
      exact .nil
  | cons label labels induction =>
      obtain ⟨middle, first, rest⟩ := Option.bind_eq_some_iff.mp taken
      exact Run.cons (sound state label middle first) (induction rest)

theorem next_endOf {label : Label} {state : State} (taken : (next state label).isSome = true) :
    next state label = some (endOf next state [label]) := by
  obtain ⟨after, reached⟩ := Option.isSome_iff_exists.mp taken
  rw [endOf, takeAll, reached]
  rfl

theorem run_endOf (sound : ∀ state label after, next state label = some after →
    step state label after) {labels : List Label} {state : State}
    (taken : (takeAll next state labels).isSome = true) :
    Run step state labels (endOf next state labels) := by
  obtain ⟨after, reached⟩ := Option.isSome_iff_exists.mp taken
  rw [endOf, reached]
  exact run_of_takeAll sound reached

end Execution

end SmallServer.Runs
