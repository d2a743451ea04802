import SmallServer.Routing

/-!
# The regex table

`_regex` and `_regex_by_pattern` as a function of the `add_regex` calls that succeeded: one
entry for each pattern, in the order of the first call for it, with the handlers of all of
them.
-/

namespace SmallServer.RoutingTables

open SmallServer HttpValues Routing

set_option autoImplicit false

instance : LawfulBEq Text := inferInstance

variable {Handler : Type}

section Dictionaries

theorem lookup_setAll {Key : Type} [DecidableEq Key] (dict : OrderedDict Key Handler)
    (keys : List Key) (handler : Handler) (key : Key) :
    (setAll dict keys handler).lookup key =
      if key ∈ keys then some handler else dict.lookup key := by
  unfold setAll
  induction keys generalizing dict with
  | nil => simp
  | cons first rest induction =>
      rw [List.foldl_cons, induction, OrderedDict.lookup_set_eq]
      by_cases later : key ∈ rest
      · simp [later]
      · by_cases here : key = first
        · simp [here]
        · simp [later, here]

theorem mem_setAll {Key : Type} [DecidableEq Key] (dict : OrderedDict Key Handler)
    (keys : List Key) (handler : Handler) (key : Key) :
    key ∈ setAll dict keys handler ↔ key ∈ keys ∨ key ∈ dict := by
  rw [← AList.lookup_isSome, lookup_setAll, ← AList.lookup_isSome]
  split
  · rename_i member
    exact iff_of_true rfl (Or.inl member)
  · rename_i absent
    exact (or_iff_right absent).symm

theorem findSome?_snoc {Item Result : Type} (pick : Item → Option Result) (items : List Item)
    (last : Item) : (items ++ [last]).findSome? pick = (items.findSome? pick).or (pick last) := by
  rw [List.findSome?_append]
  cases picked : pick last with
  | none => rw [List.findSome?_cons, picked]; rfl
  | some result => rw [List.findSome?_cons, picked]

theorem eraseDups_snoc (items : List Text) (last : Text) :
    (items ++ [last]).eraseDups =
      if last ∈ items.eraseDups then items.eraseDups else items.eraseDups ++ [last] := by
  rw [List.eraseDups_append]
  by_cases known : last ∈ items
  · rw [if_pos (List.mem_eraseDups.mpr known)]
    simp [List.removeAll, known]
  · rw [if_neg fun member => known (List.mem_eraseDups.mp member)]
    simp [List.removeAll, known, List.eraseDups_cons]

end Dictionaries

section Registration

variable {engine : Engine} {router next : Router Handler}

/-- `add_static` puts the new keys into the static table and leaves the regex tables. -/
theorem addStatic_ok {path : Text} {methods : List Text} {handler : Handler}
    (added : router.addStatic path methods handler = .ok next) :
    (∀ method ∈ methods, (method, path) ∉ router.static) ∧
      next = { router with
        static := setAll router.static (methods.map fun method => (method, path)) handler } := by
  unfold Router.addStatic at added
  dsimp only at added
  split at added
  · cases added
  · rename_i fresh
    cases added
    refine ⟨fun method member present => ?_, rfl⟩
    have missing := List.find?_eq_none.mp fresh (method, path) (List.mem_map_of_mem member)
    exact missing (decide_eq_true present)

theorem addRegex_known {pattern : Text} {methods : List Text} {handler : Handler} {index : Nat}
    {existing : RegexRoute Handler} (known : router.regexByPattern.lookup pattern = some index)
    (found : router.regex[index]? = some existing)
    (added : router.addRegex engine pattern methods handler = .ok next) :
    (∀ method ∈ methods, method ∉ existing.handlers) ∧
      next = { router with
        regex := router.regex.set index
          { existing with handlers := setAll existing.handlers methods handler } } := by
  unfold Router.addRegex at added
  rw [known] at added
  dsimp only at added
  rw [found] at added
  dsimp only at added
  split at added
  · cases added
  · rename_i fresh
    cases added
    refine ⟨fun method member present => ?_, rfl⟩
    exact List.find?_eq_none.mp fresh method member (decide_eq_true present)

theorem addRegex_new {pattern : Text} {methods : List Text} {handler : Handler}
    (unknown : router.regexByPattern.lookup pattern = none)
    (added : router.addRegex engine pattern methods handler = .ok next) :
    ∃ compiled, engine.compile pattern = .ok compiled ∧
      next = { router with
        regexByPattern := router.regexByPattern.set pattern router.regex.length
        regex := router.regex ++
          [{ routeId := "regex-route-".toList ++ decimalText (router.regex.length + 1)
             pattern := pattern
             compiled := compiled
             handlers := setAll ∅ methods handler }] } := by
  unfold Router.addRegex at added
  rw [unknown] at added
  dsimp only at added
  split at added
  · cases added
  · split at added
    · cases added
    · rename_i compiled accepted
      cases added
      refine ⟨compiled, ?_, rfl⟩
      unfold Router.compile at accepted
      split at accepted
      · cases accepted
      · split at accepted
        · cases accepted
        · exact accepted

theorem addRegex_keeps {pattern : Text} {methods : List Text} {handler : Handler}
    (added : router.addRegex engine pattern methods handler = .ok next) :
    next.static = router.static ∧ next.regexConfig = router.regexConfig := by
  cases known : router.regexByPattern.lookup pattern with
  | none =>
      obtain ⟨_, _, rfl⟩ := addRegex_new known added
      exact ⟨rfl, rfl⟩
  | some index =>
      cases found : router.regex[index]? with
      | none =>
          unfold Router.addRegex at added
          rw [known] at added
          dsimp only at added
          rw [found] at added
          cases added
      | some existing =>
          obtain ⟨_, rfl⟩ := addRegex_known known found added
          exact ⟨rfl, rfl⟩

end Registration

section Table

structure RegexCall (Handler : Type) where
  pattern : Text
  methods : List Text
  handler : Handler

def RegexCall.handlerFor (pattern method : Text) (call : RegexCall Handler) : Option Handler :=
  if call.pattern = pattern ∧ method ∈ call.methods then some call.handler else none

def handlerFor (calls : List (RegexCall Handler)) (pattern method : Text) : Option Handler :=
  calls.findSome? (RegexCall.handlerFor pattern method)

def calledPatterns (calls : List (RegexCall Handler)) : List Text :=
  (calls.map RegexCall.pattern).eraseDups

/-- What one entry of `_regex` must be, at its index. -/
structure EntryStands (engine : Engine) (calls : List (RegexCall Handler))
    (router : Router Handler) (index : Nat) (route : RegexRoute Handler) : Prop where
  compiled : engine.compile route.pattern = .ok route.compiled
  handlers : ∀ method, route.handlers.lookup method = handlerFor calls route.pattern method
  indexed : router.regexByPattern.lookup route.pattern = some index

/-- The regex tables of a router say what its `add_regex` calls say. -/
structure Tabulates (engine : Engine) (calls : List (RegexCall Handler))
    (router : Router Handler) : Prop where
  patterns : router.regex.map RegexRoute.pattern = calledPatterns calls
  entries : ∀ index route, router.regex[index]? = some route →
    EntryStands engine calls router index route
  indexes : ∀ pattern index, router.regexByPattern.lookup pattern = some index →
    ∃ route, router.regex[index]? = some route ∧ route.pattern = pattern

variable {engine : Engine} {calls : List (RegexCall Handler)} {router next : Router Handler}

theorem tabulates_new (config : RegexRouteConfig) :
    Tabulates engine ([] : List (RegexCall Handler)) { regexConfig := config } where
  patterns := rfl
  entries index route found := by cases found
  indexes pattern index found := by cases found

theorem handlerFor_snoc (call : RegexCall Handler) (pattern method : Text) :
    handlerFor (calls ++ [call]) pattern method =
      (handlerFor calls pattern method).or (call.handlerFor pattern method) :=
  findSome?_snoc _ _ _

theorem handlerFor_other {call : RegexCall Handler} {pattern : Text}
    (different : call.pattern ≠ pattern) (method : Text) :
    handlerFor (calls ++ [call]) pattern method = handlerFor calls pattern method := by
  have silent : call.handlerFor pattern method = none := if_neg fun both => different both.1
  rw [handlerFor_snoc, silent, Option.or_none]

theorem handlerFor_same {call : RegexCall Handler} {handlers : OrderedDict Text Handler}
    (fresh : ∀ method ∈ call.methods, method ∉ handlers)
    (stands : ∀ method, handlers.lookup method = handlerFor calls call.pattern method)
    (method : Text) :
    (setAll handlers call.methods call.handler).lookup method =
      handlerFor (calls ++ [call]) call.pattern method := by
  rw [lookup_setAll, handlerFor_snoc, ← stands]
  by_cases isNew : method ∈ call.methods
  · have absent : handlers.lookup method = none := AList.lookup_eq_none.mpr (fresh method isNew)
    rw [if_pos isNew, absent]
    exact (if_pos ⟨rfl, isNew⟩).symm
  · have silent : call.handlerFor call.pattern method = none := if_neg fun both => isNew both.2
    rw [if_neg isNew, silent, Option.or_none]

theorem calledPatterns_snoc (call : RegexCall Handler) :
    calledPatterns (calls ++ [call]) =
      if call.pattern ∈ calledPatterns calls then calledPatterns calls
      else calledPatterns calls ++ [call.pattern] := by
  unfold calledPatterns
  rw [List.map_append, List.map_singleton, eraseDups_snoc]

theorem mem_calledPatterns {pattern : Text} :
    pattern ∈ calledPatterns calls ↔ ∃ call ∈ calls, call.pattern = pattern := by
  unfold calledPatterns
  rw [List.mem_eraseDups, List.mem_map]

theorem handlerFor_unknown {pattern : Text} (unknown : pattern ∉ calledPatterns calls)
    (method : Text) : handlerFor calls pattern method = none := by
  unfold handlerFor
  rw [List.findSome?_eq_none_iff]
  exact fun call member => if_neg fun both =>
    unknown (mem_calledPatterns.mpr ⟨call, member, both.1⟩)

theorem Tabulates.known_pattern (tabulated : Tabulates engine calls router) (pattern : Text) :
    pattern ∈ calledPatterns calls ↔
      ∃ index, router.regexByPattern.lookup pattern = some index := by
  rw [← tabulated.patterns, List.mem_map]
  constructor
  · rintro ⟨route, member, rfl⟩
    obtain ⟨index, found⟩ := List.getElem?_of_mem member
    exact ⟨index, (tabulated.entries index route found).indexed⟩
  · rintro ⟨index, known⟩
    obtain ⟨route, found, same⟩ := tabulated.indexes pattern index known
    exact ⟨route, List.mem_of_getElem? found, same⟩

/-- A call for a known pattern changes the entry of that pattern where it stands. -/
theorem tabulates_known {call : RegexCall Handler} {index : Nat}
    (tabulated : Tabulates engine calls router)
    (known : router.regexByPattern.lookup call.pattern = some index)
    (added : router.addRegex engine call.pattern call.methods call.handler = .ok next) :
    Tabulates engine (calls ++ [call]) next := by
  obtain ⟨existing, found, isCalled⟩ := tabulated.indexes call.pattern index known
  obtain ⟨fresh, rfl⟩ := addRegex_known known found added
  obtain ⟨compiled, handlers, indexed⟩ := tabulated.entries index existing found
  have inRange : index < router.regex.length := (List.getElem?_eq_some_iff.mp found).1
  refine {
    patterns := ?_
    entries := fun position route atPosition => ?_
    indexes := fun other position knownOther => ?_ }
  · rw [calledPatterns_snoc, if_pos ((tabulated.known_pattern _).mpr ⟨index, known⟩),
      ← tabulated.patterns, List.map_set]
    obtain ⟨_, atIndex⟩ := List.getElem?_eq_some_iff.mp found
    refine List.ext_getElem (List.length_set) fun position _ _ => ?_
    by_cases same : index = position
    · subst same
      rw [List.getElem_set_self, List.getElem_map, atIndex]
    · rw [List.getElem_set_ne same]
  · rw [List.getElem?_set] at atPosition
    by_cases same : index = position
    · rw [if_pos same, if_pos (same ▸ inRange)] at atPosition
      obtain rfl := Option.some.inj atPosition
      subst same
      refine ⟨compiled, fun method => ?_, indexed⟩
      have stands : ∀ method, existing.handlers.lookup method =
          handlerFor calls call.pattern method := fun method => isCalled ▸ handlers method
      have merged := handlerFor_same fresh stands method
      rw [← isCalled] at merged
      exact merged
    · rw [if_neg same] at atPosition
      obtain ⟨compiledOld, handlersOld, indexedOld⟩ := tabulated.entries position route atPosition
      have otherPattern : call.pattern ≠ route.pattern := by
        intro one
        rw [← one, known] at indexedOld
        exact same (Option.some.inj indexedOld)
      exact ⟨compiledOld, fun method => by rw [handlerFor_other otherPattern, handlersOld],
        indexedOld⟩
  · obtain ⟨route, old, rfl⟩ := tabulated.indexes other position knownOther
    by_cases same : index = position
    · subst same
      have one : existing = route := Option.some.inj (found.symm.trans old)
      subst one
      exact ⟨_, List.getElem?_set_self inRange, rfl⟩
    · exact ⟨route, by rw [← old]; exact List.getElem?_set_ne same, rfl⟩

theorem tabulates_unknown {call : RegexCall Handler} (tabulated : Tabulates engine calls router)
    (unregistered : router.regexByPattern.lookup call.pattern = none)
    (added : router.addRegex engine call.pattern call.methods call.handler = .ok next) :
    Tabulates engine (calls ++ [call]) next := by
  obtain ⟨compiled, compiles, rfl⟩ := addRegex_new unregistered added
  have unknown : call.pattern ∉ calledPatterns calls := by
    intro member
    obtain ⟨index, present⟩ := (tabulated.known_pattern call.pattern).mp member
    rw [unregistered] at present
    cases present
  refine {
    patterns := ?_
    entries := fun position route atPosition => ?_
    indexes := fun other position knownOther => ?_ }
  · rw [calledPatterns_snoc, if_neg unknown, List.map_append, tabulated.patterns]
    rfl
  · by_cases last : position = router.regex.length
    · subst last
      rw [List.getElem?_concat_length] at atPosition
      obtain rfl := Option.some.inj atPosition
      exact ⟨compiles, handlerFor_same (fun _ _ => AList.notMem_empty _)
        (fun method => (handlerFor_unknown unknown method).symm), OrderedDict.lookup_set _ _ _⟩
    · have old : router.regex[position]? = some route := by
        have inRange := (List.getElem?_eq_some_iff.mp atPosition).1
        rw [List.length_append, List.length_singleton] at inRange
        rw [List.getElem?_append_left (by omega)] at atPosition
        exact atPosition
      obtain ⟨compiledOld, handlersOld, indexedOld⟩ := tabulated.entries position route old
      have different : call.pattern ≠ route.pattern := by
        intro same
        rw [← same, unregistered] at indexedOld
        cases indexedOld
      refine ⟨compiledOld, fun method => ?_, ?_⟩
      · rw [handlerFor_other different, handlersOld]
      · rw [← indexedOld]
        exact OrderedDict.lookup_set_ne _ _ different.symm
  · change (router.regexByPattern.set call.pattern router.regex.length).lookup other = _
      at knownOther
    rw [OrderedDict.lookup_set_eq] at knownOther
    by_cases same : other = call.pattern
    · rw [if_pos same] at knownOther
      obtain rfl := Option.some.inj knownOther
      exact ⟨_, List.getElem?_concat_length, same.symm⟩
    · rw [if_neg same] at knownOther
      obtain ⟨route, old, rfl⟩ := tabulated.indexes other position knownOther
      have inRange := (List.getElem?_eq_some_iff.mp old).1
      exact ⟨route, by rw [← old]; exact List.getElem?_append_left inRange, rfl⟩

theorem tabulates_addRegex {call : RegexCall Handler} (tabulated : Tabulates engine calls router)
    (added : router.addRegex engine call.pattern call.methods call.handler = .ok next) :
    Tabulates engine (calls ++ [call]) next := by
  cases known : router.regexByPattern.lookup call.pattern with
  | some index => exact tabulates_known tabulated known added
  | none => exact tabulates_unknown tabulated known added

end Table

end SmallServer.RoutingTables
