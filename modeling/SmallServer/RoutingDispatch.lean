import SmallServer.RoutingTables

/-!
# Dispatch against the registrations

What a list of registrations says about a method and a path, the router's tables as a
representation of that list, and dispatch as the specified choice.
-/

namespace SmallServer.RoutingDispatch

open SmallServer HttpValues Routing RoutingTables

set_option autoImplicit false

variable {Handler : Type}

section Specification

def patternOf : Registration Handler → Option Text
  | .route _ _ _ => none
  | .routeRegex pattern _ _ => some pattern

def staticFor (method path : Text) : Registration Handler → Option Handler
  | .route registered methods handler =>
      if registered = path ∧ method ∈ methods.map upper then some handler else none
  | .routeRegex _ _ _ => none

def regexFor (pattern method : Text) : Registration Handler → Option Handler
  | .route _ _ _ => none
  | .routeRegex registered methods handler =>
      if registered = pattern ∧ method ∈ methods.map upper then some handler else none

def specifiedStatic (registrations : List (Registration Handler)) (method path : Text) :
    Option Handler :=
  registrations.findSome? (staticFor method path)

def patterns (registrations : List (Registration Handler)) : List Text :=
  (registrations.filterMap patternOf).eraseDups

def specifiedRegex (registrations : List (Registration Handler)) (pattern method : Text) :
    Option Handler :=
  registrations.findSome? (regexFor pattern method)

structure Choice (Handler : Type) where
  handler : Handler
  pathParams : List (Text × Text)
  routePattern : Option Text

def fullmatch (engine : Engine) (pattern path : Text) : Option Groups :=
  match engine.compile pattern with
  | .ok compiled => compiled path
  | .error _ => none

def patternChoice (engine : Engine) (registrations : List (Registration Handler))
    (method path pattern : Text) : Option (Choice Handler) :=
  match fullmatch engine pattern path with
  | none => none
  | some groups =>
      (specifiedRegex registrations pattern method).map fun handler =>
        { handler := handler
          pathParams := Router.captures groups
          routePattern := some pattern }

/-- The static handler if there is one, otherwise that of the first pattern that has the
method and matches the path. -/
def specifiedChoice (engine : Engine) (registrations : List (Registration Handler))
    (method path : Text) : Option (Choice Handler) :=
  match specifiedStatic registrations method path with
  | some handler => some { handler := handler, pathParams := [], routePattern := none }
  | none => (patterns registrations).findSome? (patternChoice engine registrations method path)

inductive Built (engine : Engine) (config : RegexRouteConfig) :
    List (Registration Handler) → Router Handler → Prop
  | new : Built engine config [] { regexConfig := config }
  | register {registrations : List (Registration Handler)} {router next : Router Handler}
      (registration : Registration Handler) :
      Built engine config registrations router →
      register engine router registration = .ok next →
      Built engine config (registrations ++ [registration]) next

end Specification

section Tables

theorem upper_of_supported {method : Text} (supported : method ∈ supportedMethods) :
    upper method = method := by
  have all : ∀ method ∈ supportedMethods, upper method = method := by decide
  exact all method supported

theorem token_of_supported {method : Text} (supported : method ∈ supportedMethods) :
    isToken method = true := by
  have all : ∀ method ∈ supportedMethods, isToken method = true := by decide
  exact all method supported

theorem normalizeMethods_ok {methods normalized : List Text}
    (accepted : normalizeMethods methods = .ok normalized) :
    normalized = (methods.map upper).eraseDups ∧
      ∀ method ∈ normalized, method ∈ supportedMethods := by
  unfold normalizeMethods at accepted
  dsimp only at accepted
  split at accepted
  · cases accepted
  · rename_i valid
    cases accepted
    refine ⟨rfl, fun method member => ?_⟩
    by_contra unsupported
    refine valid (Bool.or_eq_true_iff.mpr (Or.inr (List.any_eq_true.mpr ⟨method, member, ?_⟩)))
    simpa using unsupported

/-- What one entry of `_regex` must be, at its index. -/
structure RouteStands (engine : Engine) (registrations : List (Registration Handler))
    (router : Router Handler) (index : Nat) (route : RegexRoute Handler) : Prop where
  compiled : engine.compile route.pattern = .ok route.compiled
  handlers : ∀ method, route.handlers.lookup method =
    specifiedRegex registrations route.pattern method
  supported : ∀ method, method ∈ route.handlers → method ∈ supportedMethods
  indexed : router.regexByPattern.lookup route.pattern = some index

/-- The tables of a router say what its registrations say. -/
structure Represents (engine : Engine) (config : RegexRouteConfig)
    (registrations : List (Registration Handler)) (router : Router Handler) : Prop where
  config : router.regexConfig = config
  static : ∀ method path, router.static.lookup (method, path) =
    specifiedStatic registrations method path
  supported : ∀ key, key ∈ router.static → key.1 ∈ supportedMethods
  patterns : router.regex.map RegexRoute.pattern = patterns registrations
  routes : ∀ index route, router.regex[index]? = some route →
    RouteStands engine registrations router index route
  indexes : ∀ pattern index, router.regexByPattern.lookup pattern = some index →
    ∃ route, router.regex[index]? = some route ∧ route.pattern = pattern

variable {engine : Engine} {config : RegexRouteConfig}
variable {registrations : List (Registration Handler)} {router next : Router Handler}

theorem represents_new :
    Represents engine config ([] : List (Registration Handler)) { regexConfig := config } where
  config := rfl
  static method path := rfl
  supported key member := absurd member (AList.notMem_empty key)
  patterns := rfl
  routes index route found := by cases found
  indexes pattern index found := by cases found

theorem specifiedStatic_append (registration : Registration Handler) (method path : Text) :
    specifiedStatic (registrations ++ [registration]) method path =
      (specifiedStatic registrations method path).or (staticFor method path registration) :=
  findSome?_snoc _ _ _

theorem specifiedRegex_append (registration : Registration Handler) (pattern method : Text) :
    specifiedRegex (registrations ++ [registration]) pattern method =
      (specifiedRegex registrations pattern method).or (regexFor pattern method registration) :=
  findSome?_snoc _ _ _

theorem represents_route {path : Text} {methods : List Text} {handler : Handler}
    (represented : Represents engine config registrations router)
    (registered : register engine router (.route path methods handler) = .ok next) :
    Represents engine config (registrations ++ [.route path methods handler]) next := by
  simp only [register] at registered
  split at registered
  · cases registered
  split at registered
  · cases registered
  split at registered
  · cases registered
  rename_i normalized accepted
  obtain ⟨isNormalized, allSupported⟩ := normalizeMethods_ok accepted
  have names : ∀ method, method ∈ normalized ↔ method ∈ methods.map upper := fun method => by
    rw [isNormalized, List.mem_eraseDups]
  obtain ⟨fresh, rfl⟩ := addStatic_ok registered
  have sameRegex : ∀ pattern method,
      specifiedRegex (registrations ++ [.route path methods handler]) pattern method =
        specifiedRegex registrations pattern method := fun pattern method => by
    rw [specifiedRegex_append]
    exact Option.or_none
  refine {
    config := represented.config
    static := fun method other => ?_
    supported := fun key member => ?_
    patterns := ?_
    routes := fun index route found => ?_
    indexes := represented.indexes }
  · show (setAll router.static _ handler).lookup (method, other) = _
    rw [lookup_setAll, specifiedStatic_append, represented.static]
    by_cases isNew : path = other ∧ method ∈ methods.map upper
    · obtain ⟨rfl, member⟩ := isNew
      have known := (names method).mpr member
      have absent : specifiedStatic registrations method path = none := by
        rw [← represented.static]
        exact AList.lookup_eq_none.mpr (fresh method known)
      rw [if_pos (List.mem_map_of_mem known), absent]
      exact (if_pos ⟨rfl, member⟩).symm
    · have other : (method, other) ∉ normalized.map fun method => (method, path) := by
        intro member
        obtain ⟨known, inTable, same⟩ := List.mem_map.mp member
        cases same
        exact isNew ⟨rfl, (names method).mp inTable⟩
      rw [if_neg other]
      have silent : staticFor method _ (.route path methods handler) = none := if_neg isNew
      rw [silent, Option.or_none]
  · rcases (mem_setAll router.static _ handler key).mp member with isNew | old
    · obtain ⟨method, known, rfl⟩ := List.mem_map.mp isNew
      exact allSupported method known
    · exact represented.supported key old
  · unfold RoutingDispatch.patterns
    rw [List.filterMap_append]
    have none : [Registration.route path methods handler].filterMap patternOf = [] := rfl
    rw [none, List.append_nil]
    exact represented.patterns
  · obtain ⟨compiled, handlers, supported, indexed⟩ := represented.routes index route found
    exact ⟨compiled, fun method => by rw [sameRegex, handlers], supported, indexed⟩

theorem specifiedStatic_routeRegex (pattern : Text) (methods : List Text) (handler : Handler)
    (method path : Text) :
    specifiedStatic (registrations ++ [.routeRegex pattern methods handler]) method path =
      specifiedStatic registrations method path := by
  rw [specifiedStatic_append]
  exact Option.or_none

def regexCall : Registration Handler → Option (RegexCall Handler)
  | .route _ _ _ => none
  | .routeRegex pattern methods handler =>
      some { pattern := pattern, methods := (methods.map upper).eraseDups, handler := handler }

theorem handlerFor_regexCall (pattern method : Text) :
    handlerFor (registrations.filterMap regexCall) pattern method =
      specifiedRegex registrations pattern method := by
  unfold handlerFor specifiedRegex
  rw [← List.head?_filterMap, List.filterMap_filterMap, List.head?_filterMap]
  refine congrArg (registrations.findSome? ·) (funext fun registration => ?_)
  cases registration with
  | route path methods handler => rfl
  | routeRegex registered methods handler =>
      show (if registered = pattern ∧ method ∈ (methods.map upper).eraseDups then
        some handler else none) = _
      simp only [List.mem_eraseDups]
      rfl

theorem calledPatterns_regexCall :
    calledPatterns (registrations.filterMap regexCall) = patterns registrations := by
  unfold calledPatterns patterns
  rw [List.map_filterMap]
  congr 2
  funext registration
  cases registration with
  | route path methods handler => rfl
  | routeRegex registered methods handler => rfl

theorem Represents.tabulates (represented : Represents engine config registrations router) :
    Tabulates engine (registrations.filterMap regexCall) router where
  patterns := by rw [calledPatterns_regexCall, represented.patterns]
  entries index route found := by
    obtain ⟨compiled, handlers, _, indexed⟩ := represented.routes index route found
    exact ⟨compiled, fun method => by rw [handlerFor_regexCall, handlers], indexed⟩
  indexes := represented.indexes

/-- A handler for a pattern and a method comes from a registration of both. -/
theorem supported_of_specifiedRegex
    (represented : Represents engine config registrations router) {pattern method : Text}
    {handler : Handler} (specified : specifiedRegex registrations pattern method = some handler) :
    method ∈ supportedMethods := by
  have known : pattern ∈ RoutingDispatch.patterns registrations := by
    obtain ⟨registration, member, given⟩ := List.exists_of_findSome?_eq_some specified
    cases registration with
    | route path methods handler => cases given
    | routeRegex registered methods handler =>
        obtain ⟨same, _⟩ := (Option.ite_none_right_eq_some.mp given).1
        exact List.mem_eraseDups.mpr (List.mem_filterMap.mpr ⟨_, member, congrArg some same⟩)
  rw [← represented.patterns] at known
  obtain ⟨route, inTable, rfl⟩ := List.mem_map.mp known
  obtain ⟨index, found⟩ := List.getElem?_of_mem inTable
  have stands := represented.routes index route found
  rw [← stands.handlers] at specified
  exact stands.supported method (OrderedDict.mem_of_lookup specified)

theorem represents_routeRegex {pattern : Text} {methods : List Text} {handler : Handler}
    (represented : Represents engine config registrations router)
    (registered : register engine router (.routeRegex pattern methods handler) = .ok next) :
    Represents engine config (registrations ++ [.routeRegex pattern methods handler]) next := by
  simp only [register] at registered
  split at registered
  · cases registered
  rename_i normalized accepted
  obtain ⟨rfl, allSupported⟩ := normalizeMethods_ok accepted
  obtain ⟨sameStatic, sameConfig⟩ := addRegex_keeps registered
  let call : RegexCall Handler :=
    { pattern := pattern, methods := (methods.map upper).eraseDups, handler := handler }
  have tabulated := @tabulates_addRegex _ _ _ _ _ call represented.tabulates registered
  have extended : registrations.filterMap regexCall ++ [call] =
      (registrations ++ [Registration.routeRegex pattern methods handler]).filterMap regexCall := by
    rw [List.filterMap_append]
    rfl
  rw [extended] at tabulated
  refine {
    config := sameConfig.trans represented.config
    static := fun method path => by
      rw [specifiedStatic_routeRegex, sameStatic, represented.static]
    supported := fun key member => represented.supported key (sameStatic ▸ member)
    patterns := by rw [tabulated.patterns, calledPatterns_regexCall]
    routes := fun index route found => ?_
    indexes := tabulated.indexes }
  obtain ⟨compiled, handlers, indexed⟩ := tabulated.entries index route found
  have specified : ∀ method, route.handlers.lookup method = specifiedRegex
      (registrations ++ [.routeRegex pattern methods handler]) route.pattern method :=
    fun method => by rw [handlers, handlerFor_regexCall]
  refine ⟨compiled, specified, fun method member => ?_, indexed⟩
  obtain ⟨found, known⟩ := Option.isSome_iff_exists.mp (AList.lookup_isSome.mpr member)
  rw [specified, specifiedRegex_append, Option.or_eq_some_iff] at known
  rcases known with before | ⟨_, now⟩
  · exact supported_of_specifiedRegex represented before
  · obtain ⟨_, inCall⟩ := (Option.ite_none_right_eq_some.mp now).1
    exact allSupported method (List.mem_eraseDups.mpr inCall)

theorem represents_of_built (built : Built engine config registrations router) :
    Represents engine config registrations router := by
  induction built with
  | new => exact represents_new
  | register registration _ registered induction =>
      cases registration with
      | route path methods handler => exact represents_route induction registered
      | routeRegex pattern methods handler => exact represents_routeRegex induction registered

end Tables

section Lookup

variable {engine : Engine} {config : RegexRouteConfig}
variable {registrations : List (Registration Handler)} {router : Router Handler}

def routeFound (method path : Text) (route : RegexRoute Handler) : Option (RouteMatch Handler) :=
  match route.handlers.lookup method with
  | none => none
  | some handler =>
      (route.compiled path).map fun groups =>
        { handler := some handler
          pathParams := Router.captures groups
          routePattern := some route.pattern }

theorem searchMethod_found (method path : Text) (routes : List (RegexRoute Handler))
    (index : Nat) (cached : OrderedDict Nat (Option Groups)) :
    (Router.searchMethod method path routes index cached).1 =
      routes.findSome? (routeFound method path) := by
  induction routes generalizing index cached with
  | nil => rfl
  | cons route routes induction =>
      rw [List.findSome?_cons]
      unfold Router.searchMethod routeFound
      cases registered : route.handlers.lookup method with
      | none =>
          dsimp only
          exact induction _ _
      | some handler =>
          dsimp only
          cases matched : route.compiled path with
          | none =>
              dsimp only [Option.map_none]
              exact induction _ _
          | some groups => rfl

/-- The cache holds what the routes themselves answer. -/
def Cached (path : Text) (routes : List (RegexRoute Handler))
    (cached : OrderedDict Nat (Option Groups)) : Prop :=
  ∀ index found, cached.lookup index = some found →
    ∃ route, routes[index]? = some route ∧ found = route.compiled path

theorem Cached.set {path : Text} {routes : List (RegexRoute Handler)}
    {cached : OrderedDict Nat (Option Groups)} (answers : Cached path routes cached)
    {index : Nat} {route : RegexRoute Handler} (here : routes[index]? = some route) :
    Cached path routes (cached.set index (route.compiled path)) := by
  intro other found known
  rw [OrderedDict.lookup_set_eq] at known
  split at known
  · rename_i same
    exact ⟨route, same ▸ here, (Option.some.inj known).symm⟩
  · exact answers other found known

theorem searchMethod_cached (method path : Text) (all : List (RegexRoute Handler))
    (routes : List (RegexRoute Handler)) (index : Nat) (cached : OrderedDict Nat (Option Groups))
    (rest : all.drop index = routes) (answers : Cached path all cached) :
    Cached path all (Router.searchMethod method path routes index cached).2 := by
  induction routes generalizing index cached with
  | nil => exact answers
  | cons route routes induction =>
      have here : all[index]? = some route := by
        rw [← List.head?_drop, rest]
        rfl
      have after : all.drop (index + 1) = routes := by
        rw [← List.tail_drop, rest]
        rfl
      have extended := answers.set here
      unfold Router.searchMethod
      cases registered : route.handlers.lookup method with
      | none => exact induction _ _ after answers
      | some handler =>
          dsimp only
          cases matched : route.compiled path with
          | none =>
              rw [matched] at extended
              exact induction _ _ after extended
          | some groups =>
              rw [matched] at extended
              exact extended

/-- With such a cache the second loop collects the methods of the routes that match. -/
theorem mem_collectAllowed {path : Text} {all : List (RegexRoute Handler)}
    {cached : OrderedDict Nat (Option Groups)} (answers : Cached path all cached)
    (routes : List (RegexRoute Handler)) (index : Nat) (allowed : List Text)
    (rest : all.drop index = routes) (method : Text) :
    method ∈ Router.collectAllowed path cached routes index allowed ↔
      method ∈ allowed ∨
        ∃ route ∈ routes, (route.compiled path).isSome = true ∧ method ∈ route.handlers := by
  induction routes generalizing index allowed with
  | nil => simp [Router.collectAllowed]
  | cons route routes induction =>
      have here : all[index]? = some route := by
        rw [← List.head?_drop, rest]
        rfl
      have after : all.drop (index + 1) = routes := by
        rw [← List.tail_drop, rest]
        rfl
      have answered : (cached.lookup index).getD (route.compiled path) = route.compiled path := by
        cases known : cached.lookup index with
        | none => rfl
        | some found =>
            obtain ⟨same, atIndex, rfl⟩ := answers index found known
            rw [here] at atIndex
            obtain rfl := Option.some.inj atIndex
            rfl
      unfold Router.collectAllowed
      dsimp only
      rw [answered, induction _ _ after]
      by_cases matched : (route.compiled path).isSome = true
      · rw [if_pos matched, List.mem_union_iff, ← AList.mem_keys]
        constructor
        · rintro ((own | old) | ⟨other, member, both⟩)
          · exact Or.inr ⟨route, List.mem_cons_self, matched, own⟩
          · exact Or.inl old
          · exact Or.inr ⟨other, List.mem_cons_of_mem _ member, both⟩
        · rintro (old | ⟨other, member, both⟩)
          · exact Or.inl (Or.inr old)
          · rcases List.mem_cons.mp member with rfl | later
            · exact Or.inl (Or.inl both.2)
            · exact Or.inr ⟨other, later, both⟩
      · rw [if_neg matched]
        constructor
        · rintro (old | ⟨other, member, both⟩)
          · exact Or.inl old
          · exact Or.inr ⟨other, List.mem_cons_of_mem _ member, both⟩
        · rintro (old | ⟨other, member, both⟩)
          · exact Or.inl old
          · rcases List.mem_cons.mp member with rfl | later
            · exact absurd both.1 matched
            · exact Or.inr ⟨other, later, both⟩

theorem nodup_collectAllowed (path : Text) (cached : OrderedDict Nat (Option Groups))
    (routes : List (RegexRoute Handler)) (index : Nat) {allowed : List Text}
    (distinct : allowed.Nodup) :
    (Router.collectAllowed path cached routes index allowed).Nodup := by
  induction routes generalizing index allowed with
  | nil => exact distinct
  | cons route routes induction =>
      unfold Router.collectAllowed
      dsimp only
      split
      · exact induction _ (List.Nodup.union _ distinct)
      · exact induction _ distinct

theorem mem_staticMethods (router : Router Handler) (method path : Text) :
    method ∈ router.staticMethods path ↔ (method, path) ∈ router.static := by
  unfold Router.staticMethods
  rw [List.mem_map, AList.mem_keys]
  constructor
  · rintro ⟨⟨name, registered⟩, member, rfl⟩
    obtain ⟨known, same⟩ := List.mem_filter.mp member
    have equal : registered = path := eq_of_beq same
    rw [← equal]
    exact known
  · intro known
    exact ⟨(method, path), List.mem_filter.mpr ⟨known, beq_self_eq_true path⟩, rfl⟩

theorem nodup_staticMethods (router : Router Handler) (path : Text) :
    (router.staticMethods path).Nodup := by
  unfold Router.staticMethods
  refine List.Nodup.map_on ?_ (List.Nodup.filter _ router.static.keys_nodup)
  rintro ⟨left, leftPath⟩ leftMember ⟨right, rightPath⟩ rightMember same
  have leftSame : leftPath = path := eq_of_beq (List.mem_filter.mp leftMember).2
  have rightSame : rightPath = path := eq_of_beq (List.mem_filter.mp rightMember).2
  rw [leftSame, rightSame]
  exact congrArg (fun name => (name, path)) same

theorem sorted_strict {methods : List Text} (distinct : methods.Nodup) :
    (Router.sorted methods).Pairwise (· < ·) := by
  have increasing : (Router.sorted methods).Pairwise (· ≤ ·) := List.pairwise_insertionSort _ _
  have distinctSorted : (Router.sorted methods).Nodup :=
    (List.perm_insertionSort _ methods).nodup_iff.mpr distinct
  exact increasing.imp₂ (fun _ _ below differ => lt_of_le_of_ne below differ) distinctSorted

theorem mem_sorted {methods : List Text} {method : Text} :
    method ∈ Router.sorted methods ↔ method ∈ methods :=
  List.mem_insertionSort _

end Lookup

section Choice

variable {engine : Engine} {config : RegexRouteConfig}
variable {registrations : List (Registration Handler)} {router : Router Handler}

def Choice.toMatch (choice : Choice Handler) : RouteMatch Handler where
  handler := some choice.handler
  pathParams := choice.pathParams
  routePattern := choice.routePattern

theorem fullmatch_of_stands {index : Nat} {route : RegexRoute Handler}
    (stands : RouteStands engine registrations router index route) (path : Text) :
    fullmatch engine route.pattern path = route.compiled path := by
  unfold fullmatch
  rw [stands.compiled]

theorem routeFound_eq {index : Nat} {route : RegexRoute Handler}
    (stands : RouteStands engine registrations router index route) (method path : Text) :
    routeFound method path route =
      (patternChoice engine registrations method path route.pattern).map Choice.toMatch := by
  unfold routeFound patternChoice
  rw [fullmatch_of_stands stands, ← stands.handlers]
  cases route.handlers.lookup method with
  | none =>
      cases route.compiled path with
      | none => rfl
      | some groups => rfl
  | some handler =>
      cases route.compiled path with
      | none => rfl
      | some groups => rfl

theorem findSome?_routeFound (represented : Represents engine config registrations router)
    (method path : Text) :
    router.regex.findSome? (routeFound method path) =
      ((patterns registrations).findSome?
        (patternChoice engine registrations method path)).map Choice.toMatch := by
  rw [← represented.patterns]
  have each : ∀ route ∈ router.regex, routeFound method path route =
      (patternChoice engine registrations method path route.pattern).map Choice.toMatch := by
    intro route member
    obtain ⟨index, found⟩ := List.getElem?_of_mem member
    exact routeFound_eq (represented.routes index route found) method path
  generalize router.regex = routes at each
  induction routes with
  | nil => rfl
  | cons route routes induction =>
      rw [List.map_cons, List.findSome?_cons, List.findSome?_cons, each route List.mem_cons_self]
      cases patternChoice engine registrations method path route.pattern with
      | some choice => rfl
      | none => exact induction fun other member => each other (List.mem_cons_of_mem _ member)

theorem validatePath_ok (router : Router Handler) {path : Text}
    (ascii : ∀ c ∈ path, c.toNat < 128) (short : path.length ≤ router.regexConfig.maxPathBytes) :
    router.validatePath path = .ok () := by
  unfold Router.validatePath
  rw [if_neg, if_neg (by omega)]
  simp only [List.any_eq_true, decide_eq_true_eq, not_exists, not_and, not_le]
  exact ascii

def Served (engine : Engine) (registrations : List (Registration Handler)) (path method : Text) :
    Prop :=
  ∃ choice, specifiedChoice engine registrations method path = some choice

theorem served_iff (represented : Represents engine config registrations router)
    (path method : Text) :
    Served engine registrations path method ↔
      (method, path) ∈ router.static ∨
        ∃ route ∈ router.regex, (route.compiled path).isSome = true ∧ method ∈ route.handlers := by
  have matches_of : ∀ route ∈ router.regex, ((route.compiled path).isSome = true ∧
      method ∈ route.handlers) ↔
        (patternChoice engine registrations method path route.pattern).isSome = true := by
    intro route member
    obtain ⟨index, found⟩ := List.getElem?_of_mem member
    have stands := represented.routes index route found
    unfold patternChoice
    rw [fullmatch_of_stands stands, ← AList.lookup_isSome, stands.handlers]
    cases route.compiled path with
    | none => simp
    | some groups => simp
  constructor
  · rintro ⟨choice, specified⟩
    unfold specifiedChoice at specified
    rw [← represented.static] at specified
    cases registered : router.static.lookup (method, path) with
    | some handler => exact Or.inl (OrderedDict.mem_of_lookup registered)
    | none =>
        rw [registered] at specified
        obtain ⟨pattern, member, chosen⟩ := List.exists_of_findSome?_eq_some specified
        rw [← represented.patterns] at member
        obtain ⟨route, inTable, rfl⟩ := List.mem_map.mp member
        exact Or.inr ⟨route, inTable, (matches_of route inTable).mpr (by rw [chosen]; rfl)⟩
  · rintro (known | ⟨route, inTable, both⟩)
    · obtain ⟨handler, registered⟩ := Option.isSome_iff_exists.mp (AList.lookup_isSome.mpr known)
      refine ⟨{ handler := handler, pathParams := [], routePattern := none }, ?_⟩
      unfold specifiedChoice
      rw [← represented.static, registered]
    · unfold Served specifiedChoice
      cases specifiedStatic registrations method path with
      | some handler => exact ⟨_, rfl⟩
      | none =>
          have chosen := (matches_of route inTable).mp both
          have member : route.pattern ∈ patterns registrations := by
            rw [← represented.patterns]
            exact List.mem_map_of_mem inTable
          exact Option.isSome_iff_exists.mp
            (List.findSome?_isSome_iff.mpr ⟨route.pattern, member, chosen⟩)

theorem supported_of_served (represented : Represents engine config registrations router)
    {path method : Text} (served : Served engine registrations path method) :
    method ∈ supportedMethods := by
  rcases (served_iff represented path method).mp served with known | ⟨route, inTable, both⟩
  · exact represented.supported _ known
  · obtain ⟨index, found⟩ := List.getElem?_of_mem inTable
    exact (represented.routes index route found).supported method both.2

theorem resolve_specified (represented : Represents engine config registrations router)
    {method path : Text} (ascii : ∀ c ∈ path, c.toNat < 128)
    (short : path.length ≤ config.maxPathBytes)
    (noStatic : specifiedStatic registrations (upper method) path = none)
    {choice : Choice Handler} (chosen : (patterns registrations).findSome?
      (patternChoice engine registrations (upper method) path) = some choice) :
    router.resolve method path = .ok choice.toMatch := by
  have valid := validatePath_ok router ascii (represented.config ▸ short)
  have found := findSome?_routeFound represented (upper method) path
  rw [chosen] at found
  have nonempty : router.regex.isEmpty = false := by
    cases routes : router.regex with
    | nil =>
        rw [routes] at found
        cases found
    | cons route rest => rfl
  have first := searchMethod_found (upper method) path router.regex 0 ∅
  rw [found] at first
  unfold Router.resolve
  rw [represented.static, noStatic, nonempty, valid]
  dsimp only [Bool.false_eq_true, if_false]
  cases searched : Router.searchMethod (upper method) path router.regex 0 ∅ with
  | mk answer cached =>
      rw [searched] at first
      cases first
      rfl

theorem resolve_unspecified (represented : Represents engine config registrations router)
    {method path : Text} (ascii : ∀ c ∈ path, c.toNat < 128)
    (short : path.length ≤ config.maxPathBytes)
    (unspecified : specifiedChoice engine registrations (upper method) path = none) :
    ∃ allowed, allowed.Pairwise (· < ·) ∧
      (∀ name, name ∈ allowed ↔ Served engine registrations path name) ∧
      router.resolve method path =
        .ok { handler := none, pathParams := [], routePattern := none
              allowedMethods := allowed } := by
  have noStatic : router.static.lookup (upper method, path) = none := by
    rw [represented.static]
    unfold specifiedChoice at unspecified
    cases registered : specifiedStatic registrations (upper method) path with
    | none => rfl
    | some handler =>
        rw [registered] at unspecified
        cases unspecified
  by_cases noRoutes : router.regex = []
  · refine ⟨Router.sorted (router.staticMethods path),
      sorted_strict (nodup_staticMethods router path), fun name => ?_, ?_⟩
    · rw [mem_sorted, mem_staticMethods, served_iff represented, noRoutes]
      simp
    · unfold Router.resolve
      rw [noStatic, noRoutes]
      rfl
  · have valid := validatePath_ok router ascii (represented.config ▸ short)
    have nonempty : router.regex.isEmpty = false := List.isEmpty_eq_false_iff.mpr noRoutes
    have noPattern : (patterns registrations).findSome?
        (patternChoice engine registrations (upper method) path) = none := by
      unfold specifiedChoice at unspecified
      rw [← represented.static, noStatic] at unspecified
      exact unspecified
    have found := findSome?_routeFound represented (upper method) path
    rw [noPattern] at found
    have first := searchMethod_found (upper method) path router.regex 0 ∅
    rw [found] at first
    have answers := searchMethod_cached (upper method) path router.regex router.regex 0 ∅ rfl
      fun index found known => by cases known
    cases searched : Router.searchMethod (upper method) path router.regex 0 ∅ with
    | mk answer cached =>
        rw [searched] at first answers
        cases first
        refine ⟨_, sorted_strict (nodup_collectAllowed path cached router.regex 0
          (nodup_staticMethods router path)), fun name => ?_, ?_⟩
        · rw [mem_sorted, mem_collectAllowed answers router.regex 0 _ rfl, mem_staticMethods,
            served_iff represented]
        · unfold Router.resolve
          rw [noStatic, nonempty, valid, searched]
          rfl

end Choice

section Answers

theorem plain_of_supported {method : Text} (supported : method ∈ supportedMethods) :
    isPlainValue method = true := by
  have all : ∀ method ∈ supportedMethods, isPlainValue method = true := by decide
  exact all method supported

theorem plain_intercalate {separator : Text} (plain : isPlainValue separator = true)
    {methods : List Text} (each : ∀ method ∈ methods, isPlainValue method = true) :
    isPlainValue (List.intercalate separator methods) = true := by
  refine List.all_eq_true.mpr fun c member => ?_
  rcases ListScan.mem_of_mem_intercalate member with mark | ⟨method, known, inside⟩
  · exact List.all_eq_true.mp plain c mark
  · exact List.all_eq_true.mp (each method known) c inside

/-- The answers `dispatch` gives itself are always constructed. -/
theorem text_ok (value : Text) {status : Nat} (range : 100 ≤ status ∧ status ≤ 599)
    {extra : List (Text × Text)} (known : extra = [] ∨ ∃ methods,
      extra = [allowHeader methods] ∧ ∀ method ∈ methods, method ∈ supportedMethods) :
    ∃ response, Response.text value status extra = .ok response ∧ response.status = status ∧
      response.headers.items = extra ++ [contentTypeText] := by
  have combined : (if extra.any fun field => field.1 == contentTypeText.1 then extra
      else extra ++ [contentTypeText]) = extra ++ [contentTypeText] := by
    rcases known with rfl | ⟨methods, rfl, _⟩
    · rfl
    · rfl
  have typePlain : isPlainValue contentTypeText.2 = true := by decide
  have accepted : ∃ headers, Headers.ofPairs (extra ++ [contentTypeText]) = .ok headers ∧
      headers.get "content-length".toList = none := by
    rcases known with rfl | ⟨methods, rfl, supported⟩
    · exact ⟨{ items := [contentTypeText]
               names_token := by decide
               values_plain := by decide
               names_distinct := by decide },
        (Headers.ofPairs_eq_ok_iff _ _).mpr ⟨rfl, by decide, by decide, by decide⟩, by decide⟩
    · have listPlain : isPlainValue (allowHeader methods).2 = true :=
        plain_intercalate (by decide) fun method member =>
          plain_of_supported (supported method member)
      have values : ∀ field ∈ [allowHeader methods] ++ [contentTypeText],
          isPlainValue field.2 = true := by
        intro field member
        rcases List.mem_cons.mp member with rfl | last
        · exact listPlain
        · rw [List.mem_singleton.mp last]
          exact typePlain
      have names : ∀ field ∈ [allowHeader methods] ++ [contentTypeText],
          isToken field.1 = true := by
        intro field member
        rcases List.mem_cons.mp member with rfl | last
        · exact (by decide : isToken "Allow".toList = true)
        · rw [List.mem_singleton.mp last]
          decide
      have distinct : (([allowHeader methods] ++ [contentTypeText]).map
          fun field => lower field.1).Nodup :=
        (by decide : [lower "Allow".toList, lower contentTypeText.1].Nodup)
      exact ⟨⟨_, names, values, distinct⟩,
        (Headers.ofPairs_eq_ok_iff _ _).mpr ⟨rfl, names, values, distinct⟩, rfl⟩
  obtain ⟨headers, built, noLength⟩ := accepted
  have agrees : ∀ length, headers.get "content-length".toList = some length →
      length = decimalText (utf8Bytes value).length := by
    intro length present
    rw [noLength] at present
    cases present
  refine ⟨⟨status, utf8Bytes value, headers, range, agrees⟩, ?_, rfl, ?_⟩
  · unfold Response.text
    dsimp only
    rw [combined, built]
    dsimp only
    unfold Response.build
    rw [dif_pos range, dif_pos agrees]
  · exact ((Headers.ofPairs_eq_ok_iff _ _).mp built).1

end Answers

section Dispatch

variable {engine : Engine} {config : RegexRouteConfig}
variable {registrations : List (Registration Handler)} {router : Router Handler}

def Choice.seen (choice : Choice Handler) (request : Request) : Request :=
  { request with pathParams := choice.pathParams, routePattern := choice.routePattern }

theorem chooseHandler_specified (represented : Represents engine config registrations router)
    {request : Request} (ascii : ∀ c ∈ request.path, c.toNat < 128)
    (short : request.path.length ≤ config.maxPathBytes) {choice : Choice Handler}
    (specified : specifiedChoice engine registrations (upper request.method) request.path =
      some choice) :
    chooseHandler router request = .calls choice.handler (choice.seen request) := by
  unfold specifiedChoice at specified
  unfold chooseHandler Router.staticHandler
  rw [represented.static]
  cases registered : specifiedStatic registrations (upper request.method) request.path with
  | some handler =>
      rw [registered] at specified
      obtain rfl := Option.some.inj specified
      dsimp only
      split
      · rw [Request.replaceContext_eq_ok]
        rfl
      · rename_i clean
        obtain ⟨noParams, noPattern⟩ := not_or.mp clean
        have same : Choice.seen { handler := handler, pathParams := [], routePattern := none }
            request = request := by
          unfold Choice.seen
          dsimp only
          rw [← not_not.mp noParams, ← not_not.mp noPattern]
        rw [same]
  | none =>
      rw [registered] at specified
      rw [resolve_specified represented ascii short registered specified]
      dsimp only [Choice.toMatch]
      rw [Request.replaceContext_eq_ok]
      rfl

theorem chooseHandler_unspecified (represented : Represents engine config registrations router)
    {request : Request} (ascii : ∀ c ∈ request.path, c.toNat < 128)
    (short : request.path.length ≤ config.maxPathBytes)
    (unspecified : specifiedChoice engine registrations (upper request.method) request.path =
      none) :
    ∃ allowed response, allowed.Pairwise (· < ·) ∧
      (∀ name, name ∈ allowed ↔ Served engine registrations request.path name) ∧
      chooseHandler router request = .responds response ∧
      (if allowed = [] then response.status = 404
        else response.status = 405 ∧
          response.headers.get "Allow".toList =
            some (List.intercalate ", ".toList allowed)) := by
  obtain ⟨allowed, increasing, served, resolved⟩ :=
    resolve_unspecified represented ascii short unspecified
  have noStatic : router.staticHandler request.method request.path = none := by
    unfold Router.staticHandler
    rw [represented.static]
    unfold specifiedChoice at unspecified
    cases registered : specifiedStatic registrations (upper request.method) request.path with
    | none => rfl
    | some handler =>
        rw [registered] at unspecified
        cases unspecified
  unfold chooseHandler
  rw [noStatic, resolved]
  dsimp only
  by_cases nobody : allowed = []
  · obtain ⟨response, built, status, _⟩ := text_ok "not found".toList
      (show 100 ≤ 404 ∧ 404 ≤ 599 by decide) (Or.inl rfl)
    refine ⟨allowed, response, increasing, served, ?_, ?_⟩
    · rw [if_neg (not_not.mpr nobody), built]
      rfl
    · rw [if_pos nobody]
      exact status
  · obtain ⟨response, built, status, items⟩ := text_ok "method not allowed".toList
      (show 100 ≤ 405 ∧ 405 ≤ 599 by decide) (Or.inr ⟨allowed, rfl, fun method member =>
        supported_of_served represented ((served method).mp member)⟩)
    refine ⟨allowed, response, increasing, served, ?_, ?_⟩
    · rw [if_pos nobody, built]
      rfl
    · rw [if_neg nobody]
      refine ⟨status, ?_⟩
      unfold Headers.get
      rw [items]
      rfl

/-- Dispatch calls the specified handler with a context that depends on nothing but the route
and the path, and otherwise answers with the exact list of methods that have a handler. -/
theorem dispatch_as_registered (engine : Engine) (config : RegexRouteConfig)
    (registrations : List (Registration Handler)) (router : Router Handler)
    (built : Built engine config registrations router) (request : Request)
    (ascii : ∀ c ∈ request.path, c.toNat < 128)
    (short : request.path.length ≤ config.maxPathBytes) :
    (∀ choice, specifiedChoice engine registrations (upper request.method) request.path =
        some choice →
      chooseHandler router request = .calls choice.handler
        { request with pathParams := choice.pathParams, routePattern := choice.routePattern }) ∧
    (specifiedChoice engine registrations (upper request.method) request.path = none →
      ∃ allowed response, allowed.Pairwise (· < ·) ∧
        (∀ name, name ∈ allowed ↔ upper name = name ∧ ∃ other handler seen,
          other.path = request.path ∧ other.method = name ∧
            chooseHandler router other = .calls handler seen) ∧
        (∀ invoke, dispatch router invoke request = .ok response) ∧
        (if allowed = [] then response.status = 404
          else response.status = 405 ∧
            response.headers.get "Allow".toList =
              some (List.intercalate ", ".toList allowed))) := by
  have represented := represents_of_built built
  refine ⟨fun choice specified =>
    chooseHandler_specified represented ascii short specified, fun unspecified => ?_⟩
  obtain ⟨allowed, response, increasing, served, answered, verdict⟩ :=
    chooseHandler_unspecified represented ascii short unspecified
  refine ⟨allowed, response, increasing, fun name => ?_, fun invoke => ?_, verdict⟩
  · rw [served]
    constructor
    · rintro ⟨choice, specified⟩
      have supported := supported_of_served represented ⟨choice, specified⟩
      have same := upper_of_supported supported
      let other : Request :=
        { request with method := name, method_token := token_of_supported supported }
      have known : specifiedChoice engine registrations (upper other.method) other.path =
          some choice := by
        show specifiedChoice engine registrations (upper name) request.path = _
        rw [same]
        exact specified
      have asciiOther : ∀ c ∈ other.path, c.toNat < 128 := ascii
      have shortOther : other.path.length ≤ config.maxPathBytes := short
      exact ⟨same, other, choice.handler, choice.seen other, rfl, rfl,
        chooseHandler_specified represented asciiOther shortOther known⟩
    · rintro ⟨same, other, handler, seen, samePath, rfl, chosen⟩
      rw [← samePath] at ascii short ⊢
      cases specified : specifiedChoice engine registrations (upper other.method) other.path with
      | none =>
          obtain ⟨_, _, _, _, refused, _⟩ :=
            chooseHandler_unspecified represented ascii short specified
          rw [refused] at chosen
          cases chosen
      | some choice =>
          rw [same] at specified
          exact ⟨choice, specified⟩
  · unfold dispatch
    rw [answered]

end Dispatch

section Samples

def sampleEngine : Engine where
  compile pattern := .ok fun path => if path = pattern then some [] else none

def sampleLimits : RegexRouteConfig where
  maxRoutes := 7
  positive := by decide

def sampleRegistrations : List (Registration Nat) :=
  [.route "/a".toList ["get".toList] 1, .routeRegex "/b".toList ["PUT".toList, "GET".toList] 2,
    .routeRegex "/b".toList ["delete".toList] 3]

def sampleRouter : Router Nat where
  static := setAll ∅ [("GET".toList, "/a".toList)] 1
  regex :=
    [{ routeId := "regex-route-1".toList
       pattern := "/b".toList
       compiled := fun path => if path = "/b".toList then some [] else none
       handlers := setAll (setAll ∅ ["PUT".toList, "GET".toList] 2) ["DELETE".toList] 3 }]
  regexByPattern := OrderedDict.set ∅ "/b".toList 0
  regexConfig := sampleLimits

theorem sampleBuilt : Built sampleEngine sampleLimits sampleRegistrations sampleRouter :=
  ((Built.new.register (.route "/a".toList ["get".toList] 1) rfl).register
    (.routeRegex "/b".toList ["PUT".toList, "GET".toList] 2) rfl).register
      (.routeRegex "/b".toList ["delete".toList] 3) rfl

def sampleRequest : Request where
  method := "PATCH".toList
  path := "/b".toList
  headers := Headers.empty
  body := []
  version := "HTTP/1.1".toList
  rawTarget := "/b".toList
  queryString := []
  pathParams := [("spoofed".toList, "value".toList)]
  routePattern := none
  method_token := by decide
  target_rooted := rfl
  path_split := by decide
  query_split := by decide

theorem dispatch_as_registered_sample :
    ∃ allowed response, allowed.Pairwise (· < ·) ∧
      (∀ name, name ∈ allowed ↔ upper name = name ∧ ∃ other handler seen,
        other.path = sampleRequest.path ∧ other.method = name ∧
          chooseHandler sampleRouter other = .calls handler seen) ∧
      (∀ invoke, dispatch sampleRouter invoke sampleRequest = .ok response) ∧
      (if allowed = [] then response.status = 404
        else response.status = 405 ∧
          response.headers.get "Allow".toList =
            some (List.intercalate ", ".toList allowed)) :=
  (dispatch_as_registered sampleEngine sampleLimits sampleRegistrations sampleRouter sampleBuilt
    sampleRequest (ListScan.forall_of_all (by decide)) (by decide)).2 (by decide)

end Samples

end SmallServer.RoutingDispatch
