import Mathlib.Data.List.Basic

/-!
# Feeding a parser in pieces

A parser that takes its input in pieces is compared with a machine on single symbols. A step
may raise and leaves a state either way; a run stops at the first step that raises.
-/

namespace SmallServer.Feeding

set_option autoImplicit false

variable {State Symbol Error : Type}

def andThen (first : Except Error Unit × State) (next : State → Except Error Unit × State) :
    Except Error Unit × State :=
  match first with
  | (.ok (), state) => next state
  | (.error error, state) => (.error error, state)

def run (step : State → Symbol → Except Error Unit × State) :
    State → List Symbol → Except Error Unit × State
  | state, [] => (.ok (), state)
  | state, symbol :: rest => andThen (step state symbol) fun next => run step next rest

section Laws

variable {step : State → Symbol → Except Error Unit × State} {state next : State}
  {error : Error} {symbol : Symbol} {symbols rest : List Symbol}

@[simp] theorem andThen_ok (next : State → Except Error Unit × State) :
    andThen (.ok (), state) next = next state := rfl

@[simp] theorem andThen_error (next : State → Except Error Unit × State) :
    andThen (.error error, state) next = (.error error, state) := rfl

theorem andThen_assoc (first : Except Error Unit × State)
    (second third : State → Except Error Unit × State) :
    andThen (andThen first second) third =
      andThen first fun state => andThen (second state) third := by
  rcases first with ⟨_ | _, state⟩
  · rfl
  · rfl

@[simp] theorem run_nil (step : State → Symbol → Except Error Unit × State) (state : State) :
    run step state [] = (.ok (), state) := rfl

theorem run_cons (step : State → Symbol → Except Error Unit × State) (state : State)
    (symbol : Symbol) (rest : List Symbol) :
    run step state (symbol :: rest) =
      andThen (step state symbol) fun next => run step next rest := rfl

@[simp] theorem run_singleton (step : State → Symbol → Except Error Unit × State)
    (state : State) (symbol : Symbol) : run step state [symbol] = step state symbol := by
  rw [run_cons]
  rcases step state symbol with ⟨_ | _, next⟩
  · rfl
  · rfl

theorem run_append (step : State → Symbol → Except Error Unit × State) (state : State)
    (symbols rest : List Symbol) :
    run step state (symbols ++ rest) =
      andThen (run step state symbols) fun next => run step next rest := by
  induction symbols generalizing state with
  | nil => rfl
  | cons symbol symbols induction =>
      rw [List.cons_append, run_cons, run_cons, andThen_assoc]
      congr 1
      funext next
      exact induction next

theorem run_append_ok (reached : run step state symbols = (.ok (), next)) :
    run step state (symbols ++ rest) = run step next rest := by
  rw [run_append, reached, andThen_ok]

theorem run_append_error (raised : run step state symbols = (.error error, next)) :
    run step state (symbols ++ rest) = (.error error, next) := by
  rw [run_append, raised, andThen_error]

/-- A run that raises does so at one symbol, behind a part that does not. -/
theorem run_eq_error (raised : run step state symbols = (.error error, next)) :
    ∃ front symbol back middle, symbols = front ++ symbol :: back ∧
      run step state front = (.ok (), middle) ∧ step middle symbol = (.error error, next) := by
  induction symbols generalizing state with
  | nil => cases raised
  | cons symbol symbols induction =>
      rw [run_cons] at raised
      rcases first : step state symbol with ⟨_ | _, after⟩
      · rw [first, andThen_error] at raised
        refine ⟨[], symbol, symbols, state, rfl, rfl, ?_⟩
        rw [first]
        exact raised
      · rw [first, andThen_ok] at raised
        obtain ⟨front, bad, back, middle, rfl, before, here⟩ := induction raised
        refine ⟨symbol :: front, bad, back, middle, rfl, ?_, here⟩
        rw [run_cons, first, andThen_ok]
        exact before

/-- A property of the input so far and the state, kept by every step that does not raise. -/
theorem run_invariant {property : List Symbol → State → Prop}
    (preserved : ∀ fed state symbol next, property fed state →
      step state symbol = (.ok (), next) → property (fed ++ [symbol]) next)
    {fed : List Symbol} (initially : property fed state)
    (reached : run step state symbols = (.ok (), next)) : property (fed ++ symbols) next := by
  induction symbols generalizing state fed with
  | nil =>
      cases reached
      rw [List.append_nil]
      exact initially
  | cons symbol symbols induction =>
      rw [run_cons] at reached
      rcases first : step state symbol with ⟨_ | _, after⟩
      · rw [first, andThen_error] at reached
        cases reached
      · rw [first, andThen_ok] at reached
        have joined := induction (preserved fed state symbol after initially first) reached
        rw [List.append_assoc] at joined
        exact joined

theorem run_map {view : State → State}
    (respects : ∀ state symbol,
      step (view state) symbol = ((step state symbol).1, view (step state symbol).2))
    (state : State) (symbols : List Symbol) :
    run step (view state) symbols =
      ((run step state symbols).1, view (run step state symbols).2) := by
  induction symbols generalizing state with
  | nil => rfl
  | cons symbol symbols induction =>
      rw [run_cons, run_cons, respects]
      rcases step state symbol with ⟨_ | _, next⟩
      · rfl
      · exact induction next

end Laws

section Pieces

variable {Piece Whole : Type}

/-- Two outcomes that raise alike, in related states: by one relation when neither raises,
by the other when both do. -/
structure Agree (related failed : Whole → State → Prop) (whole : Except Error Unit × Whole)
    (part : Except Error Unit × State) : Prop where
  sameOutcome : whole.1 = part.1
  reached : part.1 = .ok () → related whole.2 part.2
  raised : ∀ error, part.1 = .error error → failed whole.2 part.2

variable {related failed : Whole → State → Prop}

theorem Agree.ok {whole : Whole} {part : State} (here : related whole part) :
    Agree related failed ((.ok (), whole) : Except Error Unit × Whole) (.ok (), part) :=
  ⟨rfl, fun _ => here, fun _ raised => absurd raised nofun⟩

theorem Agree.error {error : Error} {whole : Whole} {part : State} (here : failed whole part) :
    Agree related failed (.error error, whole) (.error error, part) :=
  ⟨rfl, fun reached => absurd reached nofun, fun _ _ => here⟩

theorem Agree.andThen {whole : Except Error Unit × Whole} {part : Except Error Unit × State}
    {wholeNext : Whole → Except Error Unit × Whole}
    {partNext : State → Except Error Unit × State} (agree : Agree related failed whole part)
    (continues : ∀ whole part, related whole part →
      Agree related failed (wholeNext whole) (partNext part)) :
    Agree related failed (andThen whole wholeNext) (andThen part partNext) := by
  obtain ⟨wholeOutcome, whole⟩ := whole
  obtain ⟨partOutcome, part⟩ := part
  obtain ⟨sameOutcome, reached, raised⟩ := agree
  dsimp only at sameOutcome
  subst sameOutcome
  cases wholeOutcome with
  | error error => exact Agree.error (raised error rfl)
  | ok value =>
      cases value
      exact continues whole part (reached rfl)

/-- **A parser fed in pieces.** If each piece does what its symbols do one by one, so does any
sequence of pieces, however the input is cut into them. -/
theorem run_pieces {feed : Whole → Piece → Except Error Unit × Whole}
    {step : State → Symbol → Except Error Unit × State} {symbols : Piece → List Symbol}
    (onePiece : ∀ whole part piece, related whole part →
      Agree related failed (feed whole piece) (run step part (symbols piece)))
    {whole : Whole} {part : State} (initially : related whole part) (pieces : List Piece) :
    Agree related failed (run feed whole pieces) (run step part (pieces.flatMap symbols)) := by
  induction pieces generalizing whole part with
  | nil => exact Agree.ok initially
  | cons piece pieces induction =>
      rw [run_cons, List.flatMap_cons, run_append]
      exact (onePiece whole part piece initially).andThen fun _ _ here => induction here

end Pieces

end SmallServer.Feeding
