import SmallServer.RoutingDispatch
import Mathlib.Algebra.Order.Group.Defs
import Mathlib.Tactic.Abel

/-!
# Route matching under deadlines

`Router.resolve` with its clock: every match of a pattern reads the time, is refused once the
deadline of the lookup has passed and is otherwise started with a timeout of its own. What the
clock reads and which matches the engine gives up are fixed in advance, so that every course of
events is some sequence. Times are elements of an ordered group, without rounding.
-/

namespace SmallServer.RoutingDeadlines

open SmallServer HttpValues Routing RoutingTables RoutingDispatch

set_option autoImplicit false

section Lookup

variable {Handler Time : Type} [AddCommGroup Time] [LinearOrder Time]

structure Timeouts (Time : Type) [AddCommGroup Time] [LinearOrder Time] where
  matchTimeout : Time
  totalMatchTimeout : Time
  positive : 0 < matchTimeout ∧ 0 < totalMatchTimeout

/-- The answers of `time.monotonic`, and whether `fullmatch` raises `TimeoutError`, each by
the number of the call. -/
structure Timing (Time : Type) where
  reading : Nat → Time
  givesUp : Nat → Bool

/-- A call of `fullmatch`: the route's index, the time it was begun and its timeout. -/
structure Attempt (Time : Type) where
  index : Nat
  begun : Time
  timeout : Time
deriving DecidableEq

structure Course (Time : Type) where
  readings : Nat := 0
  attempts : List (Attempt Time) := []
deriving DecidableEq

inductive LookupError
  | route (error : RouteError)
  | routeMatchTimeout (routeId : Text)

variable (timing : Timing Time) (timeouts : Timeouts Time)

def matchRoute (route : RegexRoute Handler) (index : Nat) (path : Text) (deadline : Time)
    (course : Course Time) : Except Text (Option Groups) × Course Time :=
  let now := timing.reading course.readings
  let remaining := deadline - now
  if remaining ≤ 0 then (.error route.routeId, { course with readings := course.readings + 1 })
  else
    let attempt := { index, begun := now, timeout := min timeouts.matchTimeout remaining }
    let attempted := {
      readings := course.readings + 1
      attempts := course.attempts ++ [attempt] }
    if timing.givesUp course.attempts.length then (.error route.routeId, attempted)
    else (.ok (route.compiled path), attempted)

/-- The first loop of `resolve`. -/
def searchMethod (method path : Text) (deadline : Time) :
    List (RegexRoute Handler) → Nat → OrderedDict Nat (Option Groups) → Course Time →
      Except Text (Option (RouteMatch Handler) × OrderedDict Nat (Option Groups)) × Course Time
  | [], _, cached, course => (.ok (none, cached), course)
  | route :: routes, index, cached, course =>
      match route.handlers.lookup method with
      | none => searchMethod method path deadline routes (index + 1) cached course
      | some handler =>
          match matchRoute timing timeouts route index path deadline course with
          | (.error routeId, after) => (.error routeId, after)
          | (.ok (some groups), after) =>
              (.ok (some {
                handler := some handler
                pathParams := Router.captures groups
                routePattern := some route.pattern }, cached.set index (some groups)), after)
          | (.ok none, after) =>
              searchMethod method path deadline routes (index + 1) (cached.set index none) after

/-- The second loop of `resolve`: only routes the first loop passed over are matched. -/
def collectAllowed (path : Text) (deadline : Time) (cached : OrderedDict Nat (Option Groups)) :
    List (RegexRoute Handler) → Nat → List Text → Course Time →
      Except Text (List Text) × Course Time
  | [], _, allowed, course => (.ok allowed, course)
  | route :: routes, index, allowed, course =>
      match cached.lookup index with
      | some found =>
          collectAllowed path deadline cached routes (index + 1)
            (if found.isSome then route.handlers.keys ∪ allowed else allowed) course
      | none =>
          match matchRoute timing timeouts route index path deadline course with
          | (.error routeId, after) => (.error routeId, after)
          | (.ok found, after) =>
              collectAllowed path deadline cached routes (index + 1)
                (if found.isSome then route.handlers.keys ∪ allowed else allowed) after

/-- The part of `resolve` under the deadline. -/
def searchRoutes (router : Router Handler) (method path : Text) :
    Except LookupError (RouteMatch Handler) × Course Time :=
  let deadline := timing.reading 0 + timeouts.totalMatchTimeout
  match searchMethod timing timeouts method path deadline router.regex 0 ∅ { readings := 1 } with
  | (.error routeId, course) => (.error (.routeMatchTimeout routeId), course)
  | (.ok (some found, _), course) => (.ok found, course)
  | (.ok (none, cached), course) =>
      match collectAllowed timing timeouts path deadline cached router.regex 0
          (router.staticMethods path) course with
      | (.error routeId, course) => (.error (.routeMatchTimeout routeId), course)
      | (.ok allowed, course) =>
          (.ok {
            handler := none
            pathParams := []
            routePattern := none
            allowedMethods := Router.sorted allowed }, course)

def resolve (router : Router Handler) (method path : Text) :
    Except LookupError (RouteMatch Handler) × Course Time :=
  match router.static.lookup (upper method, path) with
  | some handler =>
      (.ok { handler := some handler, pathParams := [], routePattern := some path }, {})
  | none =>
      if router.regex.isEmpty then
        (.ok {
          handler := none
          pathParams := []
          routePattern := none
          allowedMethods := Router.sorted (router.staticMethods path) }, {})
      else
        match router.validatePath path with
        | .error error => (.error (.route error), {})
        | .ok () => searchRoutes timing timeouts router (upper method) path

/-- What `dispatch` does before a handler runs; a `RouteMatchTimeout` leaves it. -/
def chooseHandler (router : Router Handler) (request : Request) :
    Except Text (Dispatched Handler) × Course Time :=
  match router.staticHandler request.method request.path with
  | some handler =>
      (.ok (if request.pathParams ≠ [] ∨ request.routePattern ≠ none then
        Dispatched.call handler (request.replaceContext [] none)
      else .calls handler request), {})
  | none =>
      match resolve timing timeouts router request.method request.path with
      | (.error (.routeMatchTimeout routeId), course) => (.error routeId, course)
      | (.error (.route .pathTooLarge), course) =>
          (.ok (Dispatched.answer (Response.text "request target is too large".toList 414 [])),
            course)
      | (.error (.route (.value message)), course) => (.ok (.raises message), course)
      | (.ok found, course) =>
          match found.handler with
          | none =>
              if found.allowedMethods ≠ [] then
                (.ok (Dispatched.answer (Response.text "method not allowed".toList 405
                  [allowHeader found.allowedMethods])), course)
              else (.ok (Dispatched.answer (Response.text "not found".toList 404 [])), course)
          | some handler =>
              (.ok (Dispatched.call handler
                (request.replaceContext found.pathParams found.routePattern)), course)

end Lookup

section Specification

variable {Time : Type} [AddCommGroup Time] [LinearOrder Time]

/-- The readings from `first` on lie before the deadline and no match is given up, as far as
`readings` and `attempts` count them. -/
structure OnTime (timing : Timing Time) (deadline : Time) (first readings attempts : Nat) :
    Prop where
  early : ∀ reading, first ≤ reading → reading < readings → timing.reading reading < deadline
  answered : ∀ attempt < attempts, timing.givesUp attempt = false

def Undelayed (timing : Timing Time) (timeouts : Timeouts Time) (course : Course Time) : Prop :=
  OnTime timing (timing.reading 0 + timeouts.totalMatchTimeout) 1 course.readings
    course.attempts.length

structure Bounded (timing : Timing Time) (timeouts : Timeouts Time) (deadline : Time)
    (attempt : Attempt Time) : Prop where
  begun : ∃ reading, attempt.begun = timing.reading reading
  positive : 0 < attempt.timeout
  single : attempt.timeout ≤ timeouts.matchTimeout
  total : attempt.begun + attempt.timeout ≤ deadline

end Specification

section Steps

variable {Handler Time : Type} [AddCommGroup Time] [LinearOrder Time]
variable {timing : Timing Time} {timeouts : Timeouts Time} {deadline : Time}
variable {course : Course Time} {route : RegexRoute Handler} {index : Nat} {path : Text}

/-- What one match comes to: refused at the deadline, given up by the engine, or answered. -/
inductive Matched (timing : Timing Time) (timeouts : Timeouts Time) (deadline : Time)
    (route : RegexRoute Handler) (index : Nat) (path : Text) (course : Course Time) :
    Except Text (Option Groups) × Course Time → Prop
  | late (past : deadline ≤ timing.reading course.readings) :
      Matched timing timeouts deadline route index path course
        (.error route.routeId, { course with readings := course.readings + 1 })
  | gaveUp (attempt : Attempt Time) (early : timing.reading course.readings < deadline)
      (here : attempt.index = index) (bounded : Bounded timing timeouts deadline attempt)
      (raised : timing.givesUp course.attempts.length = true) :
      Matched timing timeouts deadline route index path course
        (.error route.routeId,
          { readings := course.readings + 1, attempts := course.attempts ++ [attempt] })
  | answered (attempt : Attempt Time) (early : timing.reading course.readings < deadline)
      (here : attempt.index = index) (bounded : Bounded timing timeouts deadline attempt)
      (returned : timing.givesUp course.attempts.length = false) :
      Matched timing timeouts deadline route index path course
        (.ok (route.compiled path),
          { readings := course.readings + 1, attempts := course.attempts ++ [attempt] })

theorem matchRoute_cases [IsOrderedAddMonoid Time] (timing : Timing Time)
    (timeouts : Timeouts Time) (deadline : Time) (route : RegexRoute Handler)
    (index : Nat) (path : Text) (course : Course Time) :
    Matched timing timeouts deadline route index path course
      (matchRoute timing timeouts route index path deadline course) := by
  unfold matchRoute
  dsimp only
  split
  · rename_i past
    exact .late (sub_nonpos.mp past)
  · rename_i ahead
    have remaining : 0 < deadline - timing.reading course.readings := not_le.mp ahead
    have early : timing.reading course.readings < deadline := sub_pos.mp remaining
    have total : timing.reading course.readings +
        min timeouts.matchTimeout (deadline - timing.reading course.readings) ≤ deadline := by
      calc timing.reading course.readings +
            min timeouts.matchTimeout (deadline - timing.reading course.readings)
          ≤ timing.reading course.readings + (deadline - timing.reading course.readings) :=
            add_le_add_right (min_le_right _ _) _
        _ = deadline := add_sub_cancel _ _
    have bounded : Bounded timing timeouts deadline
        { index, begun := timing.reading course.readings
          timeout := min timeouts.matchTimeout (deadline - timing.reading course.readings) } :=
      ⟨⟨_, rfl⟩, lt_min timeouts.positive.1 remaining, min_le_left _ _, total⟩
    split
    · rename_i raised
      exact .gaveUp _ early rfl bounded raised
    · rename_i returned
      exact .answered _ early rfl bounded (Bool.eq_false_iff.mpr returned)

abbrev Smooth (timing : Timing Time) (deadline : Time) (course : Course Time) : Prop :=
  OnTime timing deadline 1 course.readings course.attempts.length

structure Stopped (timing : Timing Time) (deadline : Time) (routes : List (RegexRoute Handler))
    (routeId : Text) (course : Course Time) : Prop where
  delayed : ¬Smooth timing deadline course
  atOnce : OnTime timing deadline 1 (course.readings - 1) (course.attempts.length - 1)
  named : ∃ route ∈ routes, route.routeId = routeId

structure Pass (timing : Timing Time) (timeouts : Timeouts Time) (deadline : Time) (high : Nat)
    (attempts : List (Attempt Time)) : Prop where
  increasing : (attempts.map Attempt.index).Pairwise (· < ·)
  below : ∀ attempt ∈ attempts, attempt.index < high
  bounded : ∀ attempt ∈ attempts, Bounded timing timeouts deadline attempt

theorem Pass.none (high : Nat) : Pass timing timeouts deadline high [] where
  increasing := .nil
  below := nofun
  bounded := nofun

theorem Pass.mono {high higher : Nat} {attempts : List (Attempt Time)} (le : high ≤ higher)
    (pass : Pass timing timeouts deadline high attempts) :
    Pass timing timeouts deadline higher attempts where
  increasing := pass.increasing
  below := fun attempt member => (pass.below attempt member).trans_le le
  bounded := pass.bounded

theorem Pass.append {attempts : List (Attempt Time)} {attempt : Attempt Time}
    (pass : Pass timing timeouts deadline index attempts) (here : attempt.index = index)
    (bounded : Bounded timing timeouts deadline attempt) :
    Pass timing timeouts deadline (index + 1) (attempts ++ [attempt]) where
  increasing := by
    rw [List.map_append, List.pairwise_append]
    refine ⟨pass.increasing, List.pairwise_singleton _ _, ?_⟩
    intro earlier earlierMember later laterMember
    obtain ⟨other, member, rfl⟩ := List.mem_map.mp earlierMember
    rw [List.mem_singleton.mp laterMember]
    exact here ▸ pass.below other member
  below := by
    intro other member
    rcases List.mem_append.mp member with old | new
    · exact Nat.lt_succ_of_lt (pass.below other old)
    · rw [List.mem_singleton.mp new, here]
      exact Nat.lt_succ_self index
  bounded := by
    intro other member
    rcases List.mem_append.mp member with old | new
    · exact pass.bounded other old
    · rw [List.mem_singleton.mp new]
      exact bounded

omit [AddCommGroup Time] in
theorem Smooth.reads (smooth : Smooth timing deadline course)
    (ahead : timing.reading course.readings < deadline) :
    OnTime timing deadline 1 (course.readings + 1) course.attempts.length where
  early := by
    intro reading first below
    rcases Nat.lt_succ_iff_lt_or_eq.mp below with old | rfl
    · exact OnTime.early smooth reading first old
    · exact ahead
  answered := OnTime.answered smooth

omit [AddCommGroup Time] in
theorem Smooth.matches {attempt : Attempt Time} (smooth : Smooth timing deadline course)
    (ahead : timing.reading course.readings < deadline)
    (returned : timing.givesUp course.attempts.length = false) :
    Smooth timing deadline
      { readings := course.readings + 1, attempts := course.attempts ++ [attempt] } where
  early := (smooth.reads ahead).early
  answered := by
    intro number below
    rw [List.length_append] at below
    rcases Nat.lt_succ_iff_lt_or_eq.mp below with old | rfl
    · exact OnTime.answered smooth number old
    · exact returned

omit [AddCommGroup Time] in
theorem Smooth.refused {routes : List (RegexRoute Handler)} (smooth : Smooth timing deadline course)
    (began : 1 ≤ course.readings) (member : route ∈ routes)
    (past : deadline ≤ timing.reading course.readings) :
    Stopped timing deadline routes route.routeId
      { course with readings := course.readings + 1 } where
  delayed := fun fine =>
    absurd (OnTime.early fine course.readings began (Nat.lt_succ_self _)) (not_lt.mpr past)
  atOnce := ⟨OnTime.early smooth, fun attempt below =>
    OnTime.answered smooth attempt (below.trans_le (Nat.sub_le _ _))⟩
  named := ⟨route, member, rfl⟩

omit [AddCommGroup Time] in
theorem Smooth.abandoned {routes : List (RegexRoute Handler)} {attempt : Attempt Time}
    (smooth : Smooth timing deadline course) (member : route ∈ routes)
    (raised : timing.givesUp course.attempts.length = true) :
    Stopped timing deadline routes route.routeId
      { readings := course.readings + 1, attempts := course.attempts ++ [attempt] } where
  delayed := by
    intro fine
    have returned := OnTime.answered fine course.attempts.length (by
      rw [List.length_append]
      exact Nat.lt_succ_self _)
    rw [raised] at returned
    cases returned
  atOnce := by
    refine ⟨OnTime.early smooth, fun attempt below => OnTime.answered smooth attempt ?_⟩
    rw [List.length_append] at below
    exact below
  named := ⟨route, member, rfl⟩

end Steps

section Loops

variable {Handler Time : Type} [AddCommGroup Time] [LinearOrder Time]
variable {timing : Timing Time} {timeouts : Timeouts Time} {deadline : Time}

structure Searching (timing : Timing Time) (timeouts : Timeouts Time) (deadline : Time)
    (index : Nat) (cached : OrderedDict Nat (Option Groups)) (course : Course Time) : Prop where
  began : 1 ≤ course.readings
  smooth : Smooth timing deadline course
  pass : Pass timing timeouts deadline index course.attempts
  known : ∀ number, number ∈ cached ↔ ∃ attempt ∈ course.attempts, attempt.index = number

theorem Searching.skip {index : Nat} {cached : OrderedDict Nat (Option Groups)}
    {course : Course Time} (searching : Searching timing timeouts deadline index cached course) :
    Searching timing timeouts deadline (index + 1) cached course where
  began := searching.began
  smooth := searching.smooth
  pass := searching.pass.mono (Nat.le_succ index)
  known := searching.known

theorem Searching.matched {index : Nat} {cached : OrderedDict Nat (Option Groups)}
    {course : Course Time} {attempt : Attempt Time}
    (searching : Searching timing timeouts deadline index cached course)
    (ahead : timing.reading course.readings < deadline) (here : attempt.index = index)
    (bounded : Bounded timing timeouts deadline attempt)
    (returned : timing.givesUp course.attempts.length = false) (found : Option Groups) :
    Searching timing timeouts deadline (index + 1) (cached.set index found)
      { readings := course.readings + 1, attempts := course.attempts ++ [attempt] } where
  began := Nat.le_add_left 1 _
  smooth := searching.smooth.matches ahead returned
  pass := searching.pass.append here bounded
  known := by
    intro number
    rw [OrderedDict.mem_set, searching.known]
    constructor
    · rintro (same | ⟨other, member, other_index⟩)
      · exact ⟨attempt, by simp, here.trans same.symm⟩
      · exact ⟨other, List.mem_append_left _ member, other_index⟩
    · rintro ⟨other, member, rfl⟩
      rcases List.mem_append.mp member with old | new
      · exact Or.inr ⟨other, old, rfl⟩
      · rw [List.mem_singleton.mp new]
        exact Or.inl here

/-- The first loop finds what it finds without a clock, unless it is stopped. -/
theorem searchMethod_spec [IsOrderedAddMonoid Time] (method path : Text)
    (routes : List (RegexRoute Handler)) (index : Nat)
    (cached : OrderedDict Nat (Option Groups)) (course : Course Time)
    (searching : Searching timing timeouts deadline index cached course) :
    (∃ routeId after, searchMethod timing timeouts method path deadline routes index cached
        course = (.error routeId, after) ∧ Stopped timing deadline routes routeId after ∧
        Pass timing timeouts deadline (index + routes.length) after.attempts) ∨
      ∃ after, searchMethod timing timeouts method path deadline routes index cached course =
        (.ok (Router.searchMethod method path routes index cached), after) ∧
        Searching timing timeouts deadline (index + routes.length)
          (Router.searchMethod method path routes index cached).2 after := by
  induction routes generalizing index cached course with
  | nil => exact Or.inr ⟨course, rfl, searching⟩
  | cons route routes induction =>
      have shift : index + (route :: routes).length = index + 1 + routes.length := by
        rw [List.length_cons]
        omega
      rw [shift]
      unfold searchMethod Router.searchMethod
      cases registered : route.handlers.lookup method with
      | none =>
          rcases induction (index + 1) cached course searching.skip with
            ⟨routeId, after, result, stopped, pass⟩ | found
          · obtain ⟨other, member, same⟩ := stopped.named
            exact Or.inl ⟨routeId, after, result, ⟨stopped.delayed, stopped.atOnce,
              other, List.mem_cons_of_mem _ member, same⟩, pass⟩
          · exact Or.inr found
      | some handler =>
          dsimp only
          have matched := matchRoute_cases timing timeouts deadline route index path course
          generalize matchRoute timing timeouts route index path deadline course = outcome
            at matched ⊢
          cases matched with
          | late past =>
              exact Or.inl ⟨_, _, rfl,
                searching.smooth.refused searching.began List.mem_cons_self past,
                searching.pass.mono (by omega)⟩
          | gaveUp attempt early here bounded raised =>
              exact Or.inl ⟨_, _, rfl,
                searching.smooth.abandoned List.mem_cons_self raised,
                (searching.pass.append here bounded).mono (by omega)⟩
          | answered attempt early here bounded returned =>
              have later := searching.matched early here bounded returned (route.compiled path)
              cases found : route.compiled path with
              | some groups =>
                  rw [found] at later
                  exact Or.inr ⟨_, rfl, later.began, later.smooth, later.pass.mono (by omega),
                    later.known⟩
              | none =>
                  rw [found] at later
                  rcases induction (index + 1) (cached.set index none) _ later with
                    ⟨routeId, after, result, stopped, pass⟩ | found
                  · obtain ⟨other, member, same⟩ := stopped.named
                    exact Or.inl ⟨routeId, after, result, ⟨stopped.delayed, stopped.atOnce,
                      other, List.mem_cons_of_mem _ member, same⟩, pass⟩
                  · exact Or.inr found

structure Collecting (timing : Timing Time) (timeouts : Timeouts Time) (deadline : Time)
    (cached : OrderedDict Nat (Option Groups)) (earlier : List (Attempt Time)) (index : Nat)
    (later : List (Attempt Time)) (course : Course Time) : Prop where
  began : 1 ≤ course.readings
  smooth : Smooth timing deadline course
  joined : course.attempts = earlier ++ later
  pass : Pass timing timeouts deadline index later
  unknown : ∀ attempt ∈ later, attempt.index ∉ cached
  complete : ∀ number < index, number ∈ cached ∨ ∃ attempt ∈ later, attempt.index = number

theorem Collecting.skip {cached : OrderedDict Nat (Option Groups)}
    {earlier later : List (Attempt Time)} {index : Nat} {course : Course Time}
    (collecting : Collecting timing timeouts deadline cached earlier index later course)
    (cachedHere : index ∈ cached) :
    Collecting timing timeouts deadline cached earlier (index + 1) later course where
  began := collecting.began
  smooth := collecting.smooth
  joined := collecting.joined
  pass := collecting.pass.mono (Nat.le_succ index)
  unknown := collecting.unknown
  complete := by
    intro number below
    rcases Nat.lt_succ_iff_lt_or_eq.mp below with old | rfl
    · exact collecting.complete number old
    · exact Or.inl cachedHere

theorem Collecting.matched {cached : OrderedDict Nat (Option Groups)}
    {earlier later : List (Attempt Time)} {index : Nat} {course : Course Time}
    {attempt : Attempt Time}
    (collecting : Collecting timing timeouts deadline cached earlier index later course)
    (absent : index ∉ cached) (ahead : timing.reading course.readings < deadline)
    (here : attempt.index = index) (bounded : Bounded timing timeouts deadline attempt)
    (returned : timing.givesUp course.attempts.length = false) :
    Collecting timing timeouts deadline cached earlier (index + 1) (later ++ [attempt])
      { readings := course.readings + 1, attempts := course.attempts ++ [attempt] } where
  began := Nat.le_add_left 1 _
  smooth := collecting.smooth.matches ahead returned
  joined := by rw [collecting.joined, List.append_assoc]
  pass := collecting.pass.append here bounded
  unknown := by
    intro other member
    rcases List.mem_append.mp member with old | new
    · exact collecting.unknown other old
    · rw [List.mem_singleton.mp new, here]
      exact absent
  complete := by
    intro number below
    rcases Nat.lt_succ_iff_lt_or_eq.mp below with old | rfl
    · rcases collecting.complete number old with known | ⟨other, member, same⟩
      · exact Or.inl known
      · exact Or.inr ⟨other, List.mem_append_left _ member, same⟩
    · exact Or.inr ⟨attempt, by simp, here⟩

def Cut (timing : Timing Time) (timeouts : Timeouts Time) (deadline : Time)
    (cached : OrderedDict Nat (Option Groups)) (earlier : List (Attempt Time)) (high : Nat)
    (attempts : List (Attempt Time)) : Prop :=
  ∃ later, attempts = earlier ++ later ∧ Pass timing timeouts deadline high later ∧
    ∀ attempt ∈ later, attempt.index ∉ cached

/-- The second loop collects what it collects without a clock, unless it is stopped. -/
theorem collectAllowed_spec [IsOrderedAddMonoid Time] (path : Text)
    (cached : OrderedDict Nat (Option Groups)) (earlier : List (Attempt Time))
    (routes : List (RegexRoute Handler)) (index : Nat) (allowed : List Text)
    (later : List (Attempt Time)) (course : Course Time)
    (collecting : Collecting timing timeouts deadline cached earlier index later course) :
    (∃ routeId after, collectAllowed timing timeouts path deadline cached routes index allowed
        course = (.error routeId, after) ∧ Stopped timing deadline routes routeId after ∧
        Cut timing timeouts deadline cached earlier (index + routes.length) after.attempts) ∨
      ∃ after added, collectAllowed timing timeouts path deadline cached routes index allowed
          course = (.ok (Router.collectAllowed path cached routes index allowed), after) ∧
        Collecting timing timeouts deadline cached earlier (index + routes.length) added
          after := by
  induction routes generalizing index allowed later course with
  | nil => exact Or.inr ⟨course, later, rfl, collecting⟩
  | cons route routes induction =>
      have shift : index + (route :: routes).length = index + 1 + routes.length := by
        rw [List.length_cons]
        omega
      rw [shift]
      unfold collectAllowed Router.collectAllowed
      have widen : ∀ {routeId : Text} {after : Course Time},
          Stopped timing deadline routes routeId after →
          Stopped timing deadline (route :: routes) routeId after := by
        rintro routeId after ⟨delayed, atOnce, other, member, same⟩
        exact ⟨delayed, atOnce, other, List.mem_cons_of_mem _ member, same⟩
      cases known : cached.lookup index with
      | some found =>
          have skipped := collecting.skip (OrderedDict.mem_of_lookup known)
          rcases induction (index + 1) _ later course skipped with
            ⟨routeId, after, result, stopped, cut⟩ | collected
          · exact Or.inl ⟨routeId, after, result, widen stopped, cut⟩
          · exact Or.inr collected
      | none =>
          have absent : index ∉ cached := AList.lookup_eq_none.mp known
          dsimp only
          have matched := matchRoute_cases timing timeouts deadline route index path course
          generalize matchRoute timing timeouts route index path deadline course = outcome
            at matched ⊢
          cases matched with
          | late past =>
              exact Or.inl ⟨_, _, rfl,
                collecting.smooth.refused collecting.began List.mem_cons_self past,
                later, collecting.joined, collecting.pass.mono (by omega), collecting.unknown⟩
          | gaveUp attempt early here bounded raised =>
              refine Or.inl ⟨_, _, rfl, collecting.smooth.abandoned List.mem_cons_self raised,
                later ++ [attempt], ?_, (collecting.pass.append here bounded).mono (by omega), ?_⟩
              · rw [collecting.joined, List.append_assoc]
              · intro other member
                rcases List.mem_append.mp member with old | new
                · exact collecting.unknown other old
                · rw [List.mem_singleton.mp new, here]
                  exact absent
          | answered attempt early here bounded returned =>
              have next := collecting.matched absent early here bounded returned
              rcases induction (index + 1) _ (later ++ [attempt]) _ next with
                ⟨routeId, after, result, stopped, cut⟩ | collected
              · exact Or.inl ⟨routeId, after, result, widen stopped, cut⟩
              · exact Or.inr collected

end Loops

section Lookups

variable {Handler Time : Type} [AddCommGroup Time] [LinearOrder Time]
variable (timing : Timing Time) (timeouts : Timeouts Time) (router : Router Handler)

/-- The matches of a lookup: each route at most once, each within the deadline. -/
structure Thrifty (course : Course Time) : Prop where
  once : (course.attempts.map Attempt.index).Nodup
  registered : ∀ attempt ∈ course.attempts, attempt.index < router.regex.length
  bounded : ∀ attempt ∈ course.attempts,
    Bounded timing timeouts (timing.reading 0 + timeouts.totalMatchTimeout) attempt

variable {timing timeouts router}

theorem Pass.thrifty {course : Course Time}
    (pass : Pass timing timeouts (timing.reading 0 + timeouts.totalMatchTimeout)
      router.regex.length course.attempts) : Thrifty timing timeouts router course where
  once := pass.increasing.imp Nat.ne_of_lt
  registered := pass.below
  bounded := pass.bounded

theorem thrifty_append {course : Course Time} {cached : OrderedDict Nat (Option Groups)}
    {earlier later : List (Attempt Time)} (joined : course.attempts = earlier ++ later)
    (first : Pass timing timeouts (timing.reading 0 + timeouts.totalMatchTimeout)
      router.regex.length earlier)
    (second : Pass timing timeouts (timing.reading 0 + timeouts.totalMatchTimeout)
      router.regex.length later)
    (known : ∀ attempt ∈ earlier, attempt.index ∈ cached)
    (unknown : ∀ attempt ∈ later, attempt.index ∉ cached) :
    Thrifty timing timeouts router course where
  once := by
    rw [joined, List.map_append, List.nodup_append]
    refine ⟨first.increasing.imp Nat.ne_of_lt, second.increasing.imp Nat.ne_of_lt, ?_⟩
    intro index earlierMember other laterMember same
    obtain ⟨attempt, member, rfl⟩ := List.mem_map.mp earlierMember
    obtain ⟨repeated, repeatedMember, rfl⟩ := List.mem_map.mp laterMember
    exact unknown repeated repeatedMember (same ▸ known attempt member)
  registered := by
    intro attempt member
    rw [joined] at member
    rcases List.mem_append.mp member with old | new
    · exact first.below attempt old
    · exact second.below attempt new
  bounded := by
    intro attempt member
    rw [joined] at member
    rcases List.mem_append.mp member with old | new
    · exact first.bounded attempt old
    · exact second.bounded attempt new

variable (timing timeouts router)

theorem searching_start :
    Searching timing timeouts (timing.reading 0 + timeouts.totalMatchTimeout) 0 ∅
      ({ readings := 1 } : Course Time) where
  began := Nat.le_refl 1
  smooth := ⟨fun reading first below => absurd first (Nat.not_le.mpr below), nofun⟩
  pass := .none 0
  known number := by
    constructor
    · intro member
      exact absurd member (AList.notMem_empty number)
    · rintro ⟨attempt, member, -⟩
      cases member

inductive Searched (method path : Text) :
    Except LookupError (RouteMatch Handler) × Course Time → Prop
  | stopped (routeId : Text) (course : Course Time)
      (why : Stopped timing (timing.reading 0 + timeouts.totalMatchTimeout) router.regex routeId
        course)
      (thrifty : Thrifty timing timeouts router course) :
      Searched method path (.error (.routeMatchTimeout routeId), course)
  | found (found : RouteMatch Handler) (course : Course Time)
      (same : (Router.searchMethod method path router.regex 0 ∅).1 = some found)
      (smooth : Undelayed timing timeouts course)
      (thrifty : Thrifty timing timeouts router course) :
      Searched method path (.ok found, course)
  | missed (course : Course Time)
      (same : (Router.searchMethod method path router.regex 0 ∅).1 = none)
      (smooth : Undelayed timing timeouts course) (thrifty : Thrifty timing timeouts router course)
      (complete : ∀ index < router.regex.length,
        ∃ attempt ∈ course.attempts, attempt.index = index) :
      Searched method path (.ok {
        handler := none
        pathParams := []
        routePattern := none
        allowedMethods := Router.sorted (Router.collectAllowed path
          (Router.searchMethod method path router.regex 0 ∅).2 router.regex 0
          (router.staticMethods path)) }, course)

theorem searchRoutes_cases [IsOrderedAddMonoid Time] (method path : Text) :
    Searched timing timeouts router method path
      (searchRoutes timing timeouts router method path) := by
  unfold searchRoutes
  dsimp only
  rcases searchMethod_spec method path router.regex 0 ∅ _ (searching_start timing timeouts) with
    ⟨routeId, course, result, stopped, pass⟩ | ⟨course, result, searching⟩
  · rw [result]
    rw [Nat.zero_add] at pass
    exact .stopped routeId course stopped pass.thrifty
  · rw [result]
    rw [Nat.zero_add] at searching
    cases searched : Router.searchMethod method path router.regex 0 ∅ with
    | mk found cached =>
        have first : (Router.searchMethod method path router.regex 0 ∅).1 = found := by
          rw [searched]
        have second : (Router.searchMethod method path router.regex 0 ∅).2 = cached := by
          rw [searched]
        rw [second] at searching
        cases found with
        | some found => exact .found found course first searching.smooth searching.pass.thrifty
        | none =>
            have known : ∀ attempt ∈ course.attempts, attempt.index ∈ cached :=
              fun attempt member => (searching.known attempt.index).mpr ⟨attempt, member, rfl⟩
            have start : Collecting timing timeouts
                (timing.reading 0 + timeouts.totalMatchTimeout) cached course.attempts 0 []
                course := {
              began := searching.began
              smooth := searching.smooth
              joined := (List.append_nil _).symm
              pass := .none 0
              unknown := nofun
              complete := nofun }
            dsimp only
            rcases collectAllowed_spec path cached course.attempts router.regex 0
                (router.staticMethods path) [] course start with
              ⟨routeId, after, result, stopped, later, joined, pass, unknown⟩ |
              ⟨after, later, result, collecting⟩
            · rw [result]
              rw [Nat.zero_add] at pass
              exact .stopped routeId after stopped
                (thrifty_append joined searching.pass pass known unknown)
            · rw [result]
              rw [Nat.zero_add] at collecting
              have missed : Searched timing timeouts router method path _ :=
                .missed after first collecting.smooth
                (thrifty_append collecting.joined searching.pass collecting.pass known
                  collecting.unknown) (by
                  intro index below
                  rw [collecting.joined]
                  rcases collecting.complete index below with cachedHere | ⟨attempt, member, here⟩
                  · obtain ⟨attempt, member, here⟩ := (searching.known index).mp cachedHere
                    exact ⟨attempt, List.mem_append_left _ member, here⟩
                  · exact ⟨attempt, List.mem_append_right _ member, here⟩)
              rw [second] at missed
              exact missed

theorem undelayed_start : Undelayed timing timeouts ({} : Course Time) :=
  ⟨fun reading _ below => absurd below (Nat.not_lt_zero reading), nofun⟩

theorem thrifty_start : Thrifty timing timeouts router ({} : Course Time) where
  once := .nil
  registered := nofun
  bounded := nofun

/-- A lookup of a path none of whose static methods matches asks the regex routes. -/
theorem resolve_eq_search {method path : Text}
    (unknown : router.static.lookup (upper method, path) = none)
    (some_regex : router.regex.isEmpty = false) (valid : router.validatePath path = .ok ()) :
    router.resolve method path =
      match Router.searchMethod (upper method) path router.regex 0 ∅ with
      | (some found, _) => .ok found
      | (none, cached) => .ok {
          handler := none
          pathParams := []
          routePattern := none
          allowedMethods := Router.sorted
            (Router.collectAllowed path cached router.regex 0 (router.staticMethods path)) } := by
  unfold Router.resolve
  rw [unknown]
  dsimp only
  rw [some_regex, valid]
  rfl

/-- A lookup finds what it would find without a clock, unless a match was late; it then
raises `RouteMatchTimeout` for one of the routes and stops there. -/
theorem resolve_timed [IsOrderedAddMonoid Time] (method path : Text) :
    (Undelayed timing timeouts (resolve timing timeouts router method path).2 →
      (resolve timing timeouts router method path).1 =
        (router.resolve method path).mapError LookupError.route) ∧
    (¬Undelayed timing timeouts (resolve timing timeouts router method path).2 →
      ∃ routeId, (resolve timing timeouts router method path).1 =
          .error (.routeMatchTimeout routeId) ∧
        Stopped timing (timing.reading 0 + timeouts.totalMatchTimeout) router.regex routeId
          (resolve timing timeouts router method path).2) ∧
    Thrifty timing timeouts router (resolve timing timeouts router method path).2 := by
  have quiet := undelayed_start timing timeouts
  have thrifty := thrifty_start timing timeouts router
  unfold resolve
  cases unknown : router.static.lookup (upper method, path) with
  | some handler =>
      refine ⟨fun _ => ?_, fun delayed => absurd quiet delayed, thrifty⟩
      unfold Router.resolve
      rw [unknown]
      rfl
  | none =>
      dsimp only
      cases none_regex : router.regex.isEmpty with
      | true =>
          refine ⟨fun _ => ?_, fun delayed => absurd quiet delayed, thrifty⟩
          unfold Router.resolve
          rw [unknown]
          dsimp only
          rw [none_regex]
          rfl
      | false =>
          simp only [Bool.false_eq_true, if_false]
          cases valid : router.validatePath path with
          | error error =>
              refine ⟨fun _ => ?_, fun delayed => absurd quiet delayed, thrifty⟩
              unfold Router.resolve
              rw [unknown]
              dsimp only
              rw [none_regex, valid]
              rfl
          | ok value =>
              rw [resolve_eq_search router unknown none_regex valid]
              dsimp only
              have searched := searchRoutes_cases timing timeouts router (upper method) path
              generalize searchRoutes timing timeouts router (upper method) path = outcome
                at searched ⊢
              cases searched with
              | stopped routeId course why thrifty =>
                  exact ⟨fun smooth => absurd smooth why.delayed,
                    fun _ => ⟨routeId, rfl, why⟩, thrifty⟩
              | found found course same smooth thrifty =>
                  refine ⟨fun _ => ?_, fun delayed => absurd smooth delayed, thrifty⟩
                  cases unclocked : Router.searchMethod (upper method) path router.regex 0 ∅ with
                  | mk first cached =>
                      rw [unclocked] at same
                      dsimp only at same
                      rw [same]
                      rfl
              | missed course same smooth thrifty complete =>
                  refine ⟨fun _ => ?_, fun delayed => absurd smooth delayed, thrifty⟩
                  cases unclocked : Router.searchMethod (upper method) path router.regex 0 ∅ with
                  | mk first cached =>
                      rw [unclocked] at same
                      dsimp only at same
                      rw [same]
                      rfl

theorem chooseHandler_timed [IsOrderedAddMonoid Time] (request : Request) :
    (Undelayed timing timeouts (chooseHandler timing timeouts router request).2 →
      (chooseHandler timing timeouts router request).1 =
        .ok (Routing.chooseHandler router request)) ∧
    (¬Undelayed timing timeouts (chooseHandler timing timeouts router request).2 →
      ∃ routeId, (chooseHandler timing timeouts router request).1 = .error routeId ∧
        Stopped timing (timing.reading 0 + timeouts.totalMatchTimeout) router.regex routeId
          (chooseHandler timing timeouts router request).2) := by
  have quiet := undelayed_start timing timeouts
  have timed := resolve_timed timing timeouts router request.method request.path
  unfold chooseHandler Routing.chooseHandler
  cases known : router.staticHandler request.method request.path with
  | some handler =>
      exact ⟨fun _ => rfl, fun delayed => absurd quiet delayed⟩
  | none =>
      dsimp only
      generalize resolve timing timeouts router request.method request.path = outcome at timed ⊢
      obtain ⟨result, course⟩ := outcome
      obtain ⟨smooth, stopped, -⟩ := timed
      by_cases undelayed : Undelayed timing timeouts course
      · have same := smooth undelayed
        dsimp only at same
        refine ⟨fun _ => ?_, fun delayed => ?_⟩
        · rw [same]
          cases router.resolve request.method request.path with
          | error error => cases error <;> rfl
          | ok found =>
              dsimp only [Except.mapError]
              cases found.handler with
              | some handler => rfl
              | none =>
                  dsimp only
                  split
                  · rfl
                  · rfl
        · refine absurd undelayed ?_
          rw [same] at delayed
          cases resolved : router.resolve request.method request.path with
          | error error =>
              rw [resolved] at delayed
              cases error <;> exact delayed
          | ok found =>
              rw [resolved] at delayed
              dsimp only [Except.mapError] at delayed
              cases handled : found.handler with
              | some handler =>
                  rw [handled] at delayed
                  exact delayed
              | none =>
                  rw [handled] at delayed
                  dsimp only at delayed
                  split at delayed
                  · exact delayed
                  · exact delayed
      · obtain ⟨routeId, raised, why⟩ := stopped undelayed
        dsimp only at raised
        rw [raised]
        exact ⟨fun fine => absurd fine undelayed, fun _ => ⟨routeId, rfl, why⟩⟩

theorem chooseHandler_ok [IsOrderedAddMonoid Time] {request : Request}
    {dispatched : Dispatched Handler}
    (chosen : (chooseHandler timing timeouts router request).1 = .ok dispatched) :
    Routing.chooseHandler router request = dispatched := by
  obtain ⟨smooth, stopped⟩ := chooseHandler_timed timing timeouts router request
  by_cases undelayed : Undelayed timing timeouts (chooseHandler timing timeouts router request).2
  · exact Except.ok.inj ((smooth undelayed).symm.trans chosen)
  · obtain ⟨routeId, raised, -⟩ := stopped undelayed
    exact nomatch raised.symm.trans chosen

/-- **Dispatch under deadlines.** A request is dispatched as without a clock, unless a reading
reached the deadline or a match was given up; a `RouteMatchTimeout` that names one of the
routes then leaves `dispatch`, and nothing was asked after the first such answer. -/
theorem dispatch_under_deadlines [IsOrderedAddMonoid Time] (request : Request) :
    (Undelayed timing timeouts (chooseHandler timing timeouts router request).2 →
      (chooseHandler timing timeouts router request).1 =
        .ok (Routing.chooseHandler router request)) ∧
    (¬Undelayed timing timeouts (chooseHandler timing timeouts router request).2 →
      ∃ routeId, (chooseHandler timing timeouts router request).1 = .error routeId ∧
        Stopped timing (timing.reading 0 + timeouts.totalMatchTimeout) router.regex routeId
          (chooseHandler timing timeouts router request).2) :=
  chooseHandler_timed timing timeouts router request

end Lookups

section Bounds

variable {Handler Time : Type} [AddCommGroup Time] [LinearOrder Time]
variable {engine : Engine} {config : RegexRouteConfig}
variable {registrations : List (Registration Handler)} {router : Router Handler}

theorem addRegex_bounded {next : Router Handler} {pattern : Text} {methods : List Text}
    {handler : Handler} (bounded : router.regex.length ≤ router.regexConfig.maxRoutes)
    (added : router.addRegex engine pattern methods handler = .ok next) :
    next.regex.length ≤ next.regexConfig.maxRoutes := by
  unfold Router.addRegex at added
  split at added
  · split at added
    · cases added
    · split at added
      · cases added
      · cases added
        dsimp only
        rw [List.length_set]
        exact bounded
  · split at added
    · cases added
    · rename_i room
      split at added
      · cases added
      · cases added
        dsimp only
        rw [List.length_append]
        exact Nat.succ_le_of_lt (Nat.not_le.mp room)

theorem bounded_of_built (built : Built engine config registrations router) :
    router.regex.length ≤ router.regexConfig.maxRoutes := by
  induction built with
  | new => exact Nat.zero_le _
  | register registration _ registered induction =>
      unfold register at registered
      split at registered
      · split at registered
        · cases registered
        · split at registered
          · cases registered
          · split at registered
            · cases registered
            · obtain ⟨-, rfl⟩ := addStatic_ok registered
              exact induction
      · split at registered
        · cases registered
        · exact addRegex_bounded induction registered

theorem handler_of_found {method path : Text} {found : RouteMatch Handler}
    (same : (Router.searchMethod method path router.regex 0 ∅).1 = some found) :
    found.handler ≠ none := by
  rw [searchMethod_found] at same
  obtain ⟨route, -, matched⟩ := List.exists_of_findSome?_eq_some same
  unfold routeFound at matched
  split at matched
  · cases matched
  · obtain ⟨groups, -, rfl⟩ := Option.map_eq_some_iff.mp matched
    nofun

/-- **Bounded matching.** A lookup matches every regex route at most once, hence no more often
than `max_routes`; each match begins at a reading of the clock and has to end within
`match_timeout` and before the deadline. A lookup that finds no handler has matched them all. -/
theorem matching_bounded [IsOrderedAddMonoid Time]
    (built : Built engine config registrations router) (timing : Timing Time)
    (timeouts : Timeouts Time) (method path : Text) :
    Thrifty timing timeouts router (resolve timing timeouts router method path).2 ∧
      (resolve timing timeouts router method path).2.attempts.length ≤ config.maxRoutes ∧
      ∀ found, (resolve timing timeouts router method path).1 = .ok found →
        found.handler = none → ∀ index < router.regex.length,
          ∃ attempt ∈ (resolve timing timeouts router method path).2.attempts,
            attempt.index = index := by
  have thrifty := (resolve_timed timing timeouts router method path).2.2
  refine ⟨thrifty, ?_, ?_⟩
  · have within : (resolve timing timeouts router method path).2.attempts.length ≤
        router.regex.length := by
      have registered : (resolve timing timeouts router method path).2.attempts.map Attempt.index ⊆
          List.range router.regex.length := by
        intro index member
        obtain ⟨attempt, attempted, rfl⟩ := List.mem_map.mp member
        exact List.mem_range.mpr (thrifty.registered attempt attempted)
      have count := (List.subperm_of_subset thrifty.once registered).length_le
      rwa [List.length_map, List.length_range] at count
    have capacity := bounded_of_built built
    rw [(represents_of_built built).config] at capacity
    exact within.trans capacity
  · intro found returned missing index below
    unfold resolve at returned ⊢
    cases known : router.static.lookup (upper method, path) with
    | some handler =>
        rw [known] at returned
        cases returned
        cases missing
    | none =>
        rw [known] at returned
        dsimp only at returned ⊢
        cases none_regex : router.regex.isEmpty with
        | true =>
            rw [List.isEmpty_iff.mp none_regex] at below
            exact absurd below (Nat.not_lt_zero index)
        | false =>
            rw [none_regex] at returned
            simp only [Bool.false_eq_true, if_false] at returned ⊢
            cases valid : router.validatePath path with
            | error error =>
                rw [valid] at returned
                cases returned
            | ok value =>
                rw [valid] at returned
                dsimp only at returned ⊢
                have searched := searchRoutes_cases timing timeouts router (upper method) path
                generalize searchRoutes timing timeouts router (upper method) path = outcome
                  at searched returned ⊢
                cases searched with
                | stopped routeId course why thrifty => cases returned
                | found other course same smooth thrifty =>
                    cases returned
                    exact absurd missing (handler_of_found same)
                | missed course same smooth thrifty complete => exact complete index below

end Bounds

section Samples

def sampleTiming : Timing Int where
  reading number := number
  givesUp attempt := attempt == 1

def sampleTimeouts : Timeouts Int where
  matchTimeout := 2
  totalMatchTimeout := 5
  positive := by decide

theorem matching_bounded_sample :
    Thrifty sampleTiming sampleTimeouts sampleRouter
        (resolve sampleTiming sampleTimeouts sampleRouter "PATCH".toList "/b".toList).2 ∧
      (resolve sampleTiming sampleTimeouts sampleRouter "PATCH".toList
        "/b".toList).2.attempts.length ≤ 7 ∧
      ∀ found, (resolve sampleTiming sampleTimeouts sampleRouter "PATCH".toList "/b".toList).1 =
          .ok found → found.handler = none → ∀ index < sampleRouter.regex.length,
            ∃ attempt ∈ (resolve sampleTiming sampleTimeouts sampleRouter "PATCH".toList
              "/b".toList).2.attempts, attempt.index = index :=
  matching_bounded sampleBuilt sampleTiming sampleTimeouts "PATCH".toList "/b".toList

theorem dispatch_under_deadlines_sample :
    (chooseHandler sampleTiming sampleTimeouts sampleRouter sampleRequest).1 =
        .ok (Routing.chooseHandler sampleRouter sampleRequest) ∨
      ∃ routeId, (chooseHandler sampleTiming sampleTimeouts sampleRouter sampleRequest).1 =
          .error routeId ∧
        Stopped sampleTiming 5 sampleRouter.regex routeId
          (chooseHandler sampleTiming sampleTimeouts sampleRouter sampleRequest).2 := by
  obtain ⟨smooth, stopped⟩ :=
    dispatch_under_deadlines sampleTiming sampleTimeouts sampleRouter sampleRequest
  by_cases undelayed : Undelayed sampleTiming sampleTimeouts
      (chooseHandler sampleTiming sampleTimeouts sampleRouter sampleRequest).2
  · exact Or.inl (smooth undelayed)
  · exact Or.inr (stopped undelayed)

end Samples

end SmallServer.RoutingDeadlines
