import SmallServer.RoutingDispatch

/-!
# The order of regex routes

Which of several overlapping regex routes `resolve` chooses, against the order of the
`add_regex` calls. A call for a known pattern is merged into the entry of that pattern, so it
stands where the first call for the pattern stands.
-/

namespace SmallServer.RoutingOrder

open SmallServer HttpValues Routing RoutingTables RoutingDispatch

set_option autoImplicit false

variable {Handler : Type}

section Specification

/-- The routers that successful calls of `add_static` and `add_regex` make, with the calls of
`add_regex`. -/
inductive Called (engine : Engine) (config : RegexRouteConfig) :
    List (RegexCall Handler) → Router Handler → Prop
  | new : Called engine config [] { regexConfig := config }
  | static {calls : List (RegexCall Handler)} {router next : Router Handler}
      (path : Text) (methods : List Text) (handler : Handler) :
      Called engine config calls router →
      router.addStatic path methods handler = .ok next →
      Called engine config calls next
  | regex {calls : List (RegexCall Handler)} {router next : Router Handler}
      (call : RegexCall Handler) :
      Called engine config calls router →
      router.addRegex engine call.pattern call.methods call.handler = .ok next →
      Called engine config (calls ++ [call]) next

def Applies (engine : Engine) (method path : Text) (call : RegexCall Handler) : Prop :=
  method ∈ call.methods ∧ (fullmatch engine call.pattern path).isSome = true

instance instDecidableApplies (engine : Engine) (method path : Text)
    (call : RegexCall Handler) : Decidable (Applies engine method path call) := by
  unfold Applies
  infer_instance

def earliestCall (engine : Engine) (calls : List (RegexCall Handler)) (method path : Text) :
    Option (RegexCall Handler) :=
  calls.find? fun call => decide (Applies engine method path call)

def firstCall (calls : List (RegexCall Handler)) (pattern : Text) : Nat :=
  (calls.map RegexCall.pattern).idxOf pattern

/-- `rival` applies as well, and there was a call for its pattern before the first one for the
pattern of `call`. -/
structure Overtakes (engine : Engine) (calls : List (RegexCall Handler)) (method path : Text)
    (rival call : RegexCall Handler) : Prop where
  member : rival ∈ calls
  applies : Applies engine method path rival
  before : firstCall calls rival.pattern < firstCall calls call.pattern

/-- No call overtakes the earliest one that applies, or the foremost of those that do has the
same handler. -/
def InOrder (engine : Engine) (calls : List (RegexCall Handler)) (method path : Text) : Prop :=
  ∀ call, earliestCall engine calls method path = some call →
    ∀ rival, Overtakes engine calls method path rival call →
      rival.handler = call.handler ∨
        ∃ other, Overtakes engine calls method path other call ∧
          firstCall calls other.pattern < firstCall calls rival.pattern

end Specification

section Tables

variable {engine : Engine} {config : RegexRouteConfig}
variable {calls : List (RegexCall Handler)} {router : Router Handler}

theorem Called.tabulates (called : Called engine config calls router) :
    Tabulates engine calls router := by
  induction called with
  | new => exact tabulates_new config
  | static path methods handler _ added induction =>
      obtain ⟨_, rfl⟩ := addStatic_ok added
      exact ⟨induction.patterns, fun index route found =>
        let stands := induction.entries index route found
        ⟨stands.compiled, stands.handlers, stands.indexed⟩, induction.indexes⟩
  | regex call _ added induction => exact tabulates_addRegex induction added

theorem Called.sameConfig (called : Called engine config calls router) :
    router.regexConfig = config := by
  induction called with
  | new => rfl
  | static path methods handler _ added induction =>
      obtain ⟨_, rfl⟩ := addStatic_ok added
      exact induction
  | regex call _ added induction => exact (addRegex_keeps added).2.trans induction

theorem handlerFor_fresh {next : Router Handler} {call : RegexCall Handler}
    (tabulated : Tabulates engine calls router)
    (added : router.addRegex engine call.pattern call.methods call.handler = .ok next)
    {method : Text} (member : method ∈ call.methods) :
    handlerFor calls call.pattern method = none := by
  cases known : router.regexByPattern.lookup call.pattern with
  | none =>
      refine handlerFor_unknown (fun present => ?_) method
      obtain ⟨index, indexed⟩ := (tabulated.known_pattern call.pattern).mp present
      rw [known] at indexed
      cases indexed
  | some index =>
      obtain ⟨existing, found, isCalled⟩ := tabulated.indexes call.pattern index known
      obtain ⟨fresh, _⟩ := addRegex_known known found added
      rw [← isCalled, ← (tabulated.entries index existing found).handlers]
      exact AList.lookup_eq_none.mpr (fresh method member)

theorem Called.handlerFor_of_mem (called : Called engine config calls router)
    {call : RegexCall Handler} (member : call ∈ calls) {method : Text}
    (included : method ∈ call.methods) :
    handlerFor calls call.pattern method = some call.handler := by
  induction called with
  | new => cases member
  | static path methods handler _ _ induction => exact induction member
  | regex last earlier added induction =>
      rw [handlerFor_snoc]
      rcases List.mem_append.mp member with old | isLast
      · rw [induction old, Option.some_or]
      · obtain rfl := List.mem_singleton.mp isLast
        rw [handlerFor_fresh earlier.tabulates added included, Option.none_or]
        exact if_pos ⟨rfl, included⟩

end Tables

section Order

theorem eraseDups_pairwise (items : List Text) :
    items.eraseDups.Pairwise fun left right => items.idxOf left < items.idxOf right := by
  induction items using List.reverseRecOn with
  | nil => exact List.Pairwise.nil
  | append_singleton items last induction =>
      have lifted : items.eraseDups.Pairwise fun left right =>
          (items ++ [last]).idxOf left < (items ++ [last]).idxOf right := by
        refine List.Pairwise.imp_of_mem (fun {left right} inLeft inRight before => ?_) induction
        rw [List.idxOf_append_of_mem (List.mem_eraseDups.mp inLeft),
          List.idxOf_append_of_mem (List.mem_eraseDups.mp inRight)]
        exact before
      rw [eraseDups_snoc]
      split
      · exact lifted
      · rename_i isNew
        refine List.pairwise_append.mpr ⟨lifted, List.pairwise_singleton _ _, ?_⟩
        intro left inLeft right isLast
        obtain rfl := List.mem_singleton.mp isLast
        have present := List.mem_eraseDups.mp inLeft
        rw [List.idxOf_append_of_mem present,
          List.idxOf_append_of_notMem fun member => isNew (List.mem_eraseDups.mpr member)]
        have inside := List.idxOf_lt_length_of_mem present
        omega

/-- In the table, the patterns before one are those with an earlier first call. -/
theorem mem_front_iff {calls : List (RegexCall Handler)} {front back : List Text}
    {pattern other : Text} (table : calledPatterns calls = front ++ pattern :: back)
    (known : other ∈ calledPatterns calls) :
    other ∈ front ↔ firstCall calls other < firstCall calls pattern := by
  have increasing : (calledPatterns calls).Pairwise fun left right =>
      firstCall calls left < firstCall calls right := eraseDups_pairwise _
  rw [table] at increasing known
  obtain ⟨_, fromPattern, across⟩ := List.pairwise_append.mp increasing
  constructor
  · intro inFront
    exact across other inFront pattern List.mem_cons_self
  · intro before
    rcases List.mem_append.mp known with inFront | later
    · exact inFront
    · rcases List.mem_cons.mp later with rfl | inBack
      · omega
      · have after := List.rel_of_pairwise_cons fromPattern inBack
        omega

theorem firstCall_lt_of_ne {calls : List (RegexCall Handler)} {pattern other : Text}
    (known : pattern ∈ calledPatterns calls)
    (behind : ¬ firstCall calls other < firstCall calls pattern) (different : other ≠ pattern) :
    firstCall calls pattern < firstCall calls other := by
  have present : pattern ∈ calls.map RegexCall.pattern := List.mem_eraseDups.mp known
  have distinct : firstCall calls pattern ≠ firstCall calls other := fun same =>
    different ((List.idxOf_inj present).mp same).symm
  omega

end Order

section Choice

variable {engine : Engine} {config : RegexRouteConfig}
variable {calls : List (RegexCall Handler)} {router : Router Handler}

def servedBy (engine : Engine) (calls : List (RegexCall Handler)) (method path pattern : Text) :
    Option Handler :=
  if (fullmatch engine pattern path).isSome then handlerFor calls pattern method else none

theorem servedBy_of_applies (called : Called engine config calls router) {method path : Text}
    {call : RegexCall Handler} (member : call ∈ calls) (applies : Applies engine method path call) :
    servedBy engine calls method path call.pattern = some call.handler := by
  unfold servedBy
  rw [if_pos applies.2, called.handlerFor_of_mem member applies.1]

theorem applies_of_servedBy {method path pattern : Text} {handler : Handler}
    (served : servedBy engine calls method path pattern = some handler) :
    ∃ call ∈ calls, call.pattern = pattern ∧ call.handler = handler ∧
      Applies engine method path call := by
  obtain ⟨isMatch, registered⟩ := Option.ite_none_right_eq_some.mp served
  obtain ⟨call, member, given⟩ := List.exists_of_findSome?_eq_some registered
  obtain ⟨⟨samePattern, included⟩, sameHandler⟩ := Option.ite_none_right_eq_some.mp given
  exact ⟨call, member, samePattern, Option.some.inj sameHandler, included, samePattern ▸ isMatch⟩

theorem routeFound_handler {index : Nat} {route : RegexRoute Handler}
    (stands : EntryStands engine calls router index route) (method path : Text) :
    (routeFound method path route).bind RouteMatch.handler =
      servedBy engine calls method path route.pattern := by
  have compiled : fullmatch engine route.pattern path = route.compiled path := by
    unfold fullmatch
    rw [stands.compiled]
  unfold routeFound servedBy
  rw [compiled, ← stands.handlers]
  cases route.handlers.lookup method with
  | none => exact (ite_self none).symm
  | some handler =>
      cases route.compiled path with
      | none => rfl
      | some groups => rfl

/-- The first loop of `resolve` takes the first pattern of the table that serves. -/
theorem searchMethod_handler (tabulated : Tabulates engine calls router) (method path : Text) :
    (router.regex.findSome? (routeFound method path)).bind RouteMatch.handler =
      (calledPatterns calls).findSome? (servedBy engine calls method path) := by
  rw [← tabulated.patterns]
  have each : ∀ route ∈ router.regex, (routeFound method path route).bind RouteMatch.handler =
      servedBy engine calls method path route.pattern := by
    intro route member
    obtain ⟨index, found⟩ := List.getElem?_of_mem member
    exact routeFound_handler (tabulated.entries index route found) method path
  generalize router.regex = routes at each
  induction routes with
  | nil => rfl
  | cons route routes induction =>
      rw [List.map_cons, List.findSome?_cons, List.findSome?_cons, ← each route List.mem_cons_self]
      cases answered : routeFound method path route with
      | none => exact induction fun other member => each other (List.mem_cons_of_mem _ member)
      | some found =>
          unfold routeFound at answered
          split at answered
          · cases answered
          · obtain ⟨groups, _, rfl⟩ := Option.map_eq_some_iff.mp answered
            rfl

theorem resolve_handler (tabulated : Tabulates engine calls router) {method path : Text}
    (noStatic : (upper method, path) ∉ router.static) {found : RouteMatch Handler}
    (resolved : router.resolve method path = .ok found) :
    found.handler =
      (calledPatterns calls).findSome? (servedBy engine calls (upper method) path) := by
  unfold Router.resolve at resolved
  rw [AList.lookup_eq_none.mpr noStatic] at resolved
  dsimp only at resolved
  have searched := searchMethod_handler tabulated (upper method) path
  by_cases noRoutes : router.regex.isEmpty = true
  · rw [if_pos noRoutes] at resolved
    cases resolved
    rw [← searched, List.isEmpty_iff.mp noRoutes]
    rfl
  · rw [if_neg noRoutes] at resolved
    rw [← searchMethod_found (upper method) path router.regex 0 ∅] at searched
    split at resolved
    · cases resolved
    · rcases answer : Router.searchMethod (upper method) path router.regex 0 ∅ with
        ⟨_ | first, cached⟩
      · rw [answer] at resolved searched
        cases resolved
        exact searched
      · rw [answer] at resolved searched
        cases resolved
        exact searched

/-- The first pattern that serves is the one of the earliest call, unless it is overtaken. -/
theorem findSome?_servedBy_iff (called : Called engine config calls router)
    (method path : Text) :
    (calledPatterns calls).findSome? (servedBy engine calls method path) =
        (earliestCall engine calls method path).map RegexCall.handler ↔
      InOrder engine calls method path := by
  cases earliest : earliestCall engine calls method path with
  | none =>
      have silent : (calledPatterns calls).findSome? (servedBy engine calls method path) =
          none := by
        rw [List.findSome?_eq_none_iff]
        intro pattern _
        by_contra serves
        obtain ⟨handler, served⟩ := Option.ne_none_iff_exists'.mp serves
        obtain ⟨call, member, _, _, applies⟩ := applies_of_servedBy served
        exact List.find?_eq_none.mp earliest call member (decide_eq_true applies)
      rw [silent]
      refine iff_of_true rfl fun call isEarliest => ?_
      rw [earliest] at isEarliest
      cases isEarliest
  | some call =>
      have member : call ∈ calls := List.mem_of_find?_eq_some earliest
      have applies : Applies engine method path call :=
        of_decide_eq_true (List.find?_some
          (p := fun call => decide (Applies engine method path call)) earliest)
      have inTable : ∀ {other : RegexCall Handler}, other ∈ calls →
          other.pattern ∈ calledPatterns calls := fun known =>
        mem_calledPatterns.mpr ⟨_, known, rfl⟩
      obtain ⟨handler, chosen⟩ : ∃ handler, (calledPatterns calls).findSome?
          (servedBy engine calls method path) = some handler :=
        Option.isSome_iff_exists.mp (List.findSome?_isSome_iff.mpr
          ⟨call.pattern, inTable member, by rw [servedBy_of_applies called member applies]; rfl⟩)
      obtain ⟨front, pattern, back, table, served, skipped⟩ :=
        List.findSome?_eq_some_iff.mp chosen
      obtain ⟨leader, leaderMember, rfl, rfl, leaderApplies⟩ := applies_of_servedBy served
      -- whoever applies stands at the leading pattern or behind it
      have behind : ∀ other ∈ calls, Applies engine method path other →
          ¬ firstCall calls other.pattern < firstCall calls leader.pattern := by
        intro other known otherApplies before
        have silent := skipped other.pattern ((mem_front_iff table (inTable known)).mpr before)
        rw [servedBy_of_applies called known otherApplies] at silent
        cases silent
      rw [chosen]
      constructor
      · intro same other isEarliest rival overtakes
        obtain rfl := Option.some.inj (earliest.symm.trans isEarliest)
        by_cases leads : rival.pattern = leader.pattern
        · left
          have served := servedBy_of_applies called overtakes.member overtakes.applies
          rw [leads, servedBy_of_applies called leaderMember leaderApplies] at served
          exact (Option.some.inj served).symm.trans (Option.some.inj same)
        · right
          have first := firstCall_lt_of_ne (inTable leaderMember)
            (behind rival overtakes.member overtakes.applies) leads
          exact ⟨leader, ⟨leaderMember, leaderApplies, first.trans overtakes.before⟩, first⟩
      · intro ordered
        by_cases leads : call.pattern = leader.pattern
        · have served := servedBy_of_applies called member applies
          rw [leads, servedBy_of_applies called leaderMember leaderApplies] at served
          exact served
        · have first := firstCall_lt_of_ne (inTable leaderMember) (behind call member applies) leads
          rcases ordered call earliest leader ⟨leaderMember, leaderApplies, first⟩ with
            same | ⟨other, overtakes, before⟩
          · exact congrArg some same
          · exact absurd before (behind other overtakes.member overtakes.applies)

end Choice

/-- `resolve` takes the handler of the earliest `add_regex` call that applies exactly where no
call overtakes that one; for an ASCII path that is short enough it always answers. -/
theorem earliest_resolved_iff (engine : Engine) (config : RegexRouteConfig)
    (calls : List (RegexCall Handler)) (router : Router Handler)
    (called : Called engine config calls router) (method path : Text)
    (noStatic : (upper method, path) ∉ router.static) :
    (∀ found, router.resolve method path = .ok found →
      (found.handler =
          (earliestCall engine calls (upper method) path).map RegexCall.handler ↔
        InOrder engine calls (upper method) path)) ∧
      ((∀ c ∈ path, c.toNat < 128) → path.length ≤ config.maxPathBytes →
        ∃ found, router.resolve method path = .ok found) := by
  constructor
  · intro found resolved
    rw [resolve_handler called.tabulates noStatic resolved]
    exact findSome?_servedBy_iff called (upper method) path
  · intro ascii short
    have valid := validatePath_ok router ascii (called.sameConfig ▸ short)
    unfold Router.resolve
    rw [AList.lookup_eq_none.mpr noStatic, valid]
    dsimp only
    split
    · exact ⟨_, rfl⟩
    · split
      · exact ⟨_, rfl⟩
      · exact ⟨_, rfl⟩

section Samples

def dotted (pattern : Text) : Compiled := fun path =>
  if List.Forall₂ (fun mark c => mark = c ∨ (mark = '.' ∧ c ≠ '\n')) pattern path then some []
  else none

def sampleEngine : Engine where
  compile pattern := .ok (dotted pattern)

def sampleCalls : List (RegexCall Nat) :=
  [{ pattern := "/.".toList, methods := ["POST".toList], handler := 1 },
    { pattern := "/a".toList, methods := ["GET".toList], handler := 2 },
    { pattern := "/.".toList, methods := ["GET".toList], handler := 3 }]

def sampleRouter : Router Nat where
  regex :=
    [{ routeId := "regex-route-1".toList
       pattern := "/.".toList
       compiled := dotted "/.".toList
       handlers := setAll (setAll ∅ ["POST".toList] 1) ["GET".toList] 3 },
      { routeId := "regex-route-2".toList
        pattern := "/a".toList
        compiled := dotted "/a".toList
        handlers := setAll ∅ ["GET".toList] 2 }]
  regexByPattern := OrderedDict.set (OrderedDict.set ∅ "/.".toList 0) "/a".toList 1
  regexConfig := sampleLimits

theorem sampleCalled : Called sampleEngine sampleLimits sampleCalls sampleRouter :=
  ((Called.new.regex { pattern := "/.".toList, methods := ["POST".toList], handler := 1 }
    rfl).regex { pattern := "/a".toList, methods := ["GET".toList], handler := 2 } rfl).regex
      { pattern := "/.".toList, methods := ["GET".toList], handler := 3 } rfl

theorem sampleResolved : sampleRouter.resolve "GET".toList "/a".toList =
    .ok { handler := some 3, pathParams := [], routePattern := some "/.".toList } := rfl

theorem sampleEarliest : (earliestCall sampleEngine sampleCalls (upper "GET".toList)
    "/a".toList).map RegexCall.handler = some 2 := by
  decide

theorem earliest_resolved_iff_sample :
    ¬ InOrder sampleEngine sampleCalls (upper "GET".toList) "/a".toList := by
  intro ordered
  have same := ((earliest_resolved_iff sampleEngine sampleLimits sampleCalls sampleRouter
    sampleCalled "GET".toList "/a".toList (by decide)).1 _ sampleResolved).mpr ordered
  rw [sampleEarliest] at same
  exact absurd (Option.some.inj same) (by decide)

/-- GET is registered for the literal path first, and then for the pattern with the dot. -/
theorem later_call_overtakes : ¬ ∀ (engine : Engine) (config : RegexRouteConfig)
    (calls : List (RegexCall Nat)) (router : Router Nat), Called engine config calls router →
      ∀ method path found, (upper method, path) ∉ router.static →
        router.resolve method path = .ok found →
          found.handler =
            (earliestCall engine calls (upper method) path).map RegexCall.handler := by
  intro ordered
  have same := ordered sampleEngine sampleLimits sampleCalls sampleRouter sampleCalled
    "GET".toList "/a".toList _ (by decide) sampleResolved
  rw [sampleEarliest] at same
  exact absurd (Option.some.inj same) (by decide)

end Samples

end SmallServer.RoutingOrder
