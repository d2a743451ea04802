import SmallServer.RoutingTables
import SmallServer.ResponseFraming
import SmallServer.Runs

/-!
# Registration as it changes the tables

`add_static` and `add_regex` statement by statement, over a router that keeps whatever was
stored before an exception. What a call leaves is compared with the one-step result of
`Routing`, and from that the tables stay consistent through every sequence of calls, failed
ones among them.
-/

namespace SmallServer.RoutingRegistration

open SmallServer HttpValues Routing RoutingTables Runs

set_option autoImplicit false

variable {Handler : Type}

section Patterns

def commentEnd : Bool → Text → Text
  | _, [] => []
  | true, _ :: rest => commentEnd false rest
  | false, character :: rest =>
      if character = '\\' then commentEnd true rest
      else if character = ')' then rest
      else commentEnd false rest

/-- What the scan of a pattern knows: the names found so far, whether each open group is in
verbose mode (the innermost first), and where in an escape or a class it stands. -/
structure Scan where
  names : List Text := []
  verboseStack : List Bool := [false]
  escaped : Bool := false
  inClass : Bool := false

def Scan.verbose (scan : Scan) : Bool := scan.verboseStack.headD false

def disabledFlags : Text → Text × Text
  | '-' :: after => (after.takeWhile Char.isAlpha, after.dropWhile Char.isAlpha)
  | after => ([], after)

/-- The group `(?enabled-disabled:` or `(?enabled-disabled)` at the start of a text: whether it
is verbose, its delimiter and the text after it. -/
def flagsAt (outer : Bool) (text : Text) : Option (Bool × Char × Text) :=
  match text with
  | '(' :: '?' :: rest =>
      let enabled := rest.takeWhile Char.isAlpha
      let disabled := disabledFlags (rest.dropWhile Char.isAlpha)
      match disabled.2 with
      | delimiter :: after =>
          if delimiter = ':' ∨ delimiter = ')' then
            some ((outer || enabled.contains 'x') && !disabled.1.contains 'x', delimiter, after)
          else none
      | [] => none
  | _ => none

/-- The length of `(?P<` or `(?<` at the start of a text, 0 where neither stands there. -/
def markerLength (text : Text) : Nat :=
  if "(?P<".toList.isPrefixOf text then 4
  else if "(?<".toList.isPrefixOf text then
    if text[3]? = some '=' ∨ text[3]? = some '!' then 0 else 3
  else 0

def declaredName (text : Text) : Option (Text × Text) :=
  let length := markerLength text
  let after := text.drop length
  if length ≠ 0 ∧ '>' ∈ after then
    some (after.takeWhile (· ≠ '>'), (after.dropWhile (· ≠ '>')).drop 1)
  else none

def openGroup (scan : Scan) (text : Text) : Scan × Text :=
  match flagsAt scan.verbose text with
  | some (verbose, delimiter, after) =>
      if delimiter = ':' then ({ scan with verboseStack := verbose :: scan.verboseStack }, after)
      else ({ scan with verboseStack := verbose :: scan.verboseStack.tail }, after)
  | none =>
      let scan := { scan with verboseStack := scan.verbose :: scan.verboseStack }
      match declaredName text with
      | some (name, after) => ({ scan with names := scan.names ++ [name] }, after)
      | none => (scan, text.tail)

def closeGroup (scan : Scan) : Scan :=
  match scan.verboseStack with
  | _ :: below :: rest => { scan with verboseStack := below :: rest }
  | _ => scan

/-- One round of the loop of `_named_group_names`. -/
def scanStep (scan : Scan) (character : Char) (rest : Text) : Scan × Text :=
  if scan.escaped then ({ scan with escaped := false }, rest)
  else if character = '\\' then ({ scan with escaped := true }, rest)
  else if character = '[' then ({ scan with inClass := true }, rest)
  else if character = ']' ∧ scan.inClass then ({ scan with inClass := false }, rest)
  else if scan.inClass then (scan, rest)
  else if scan.verbose ∧ character = '#' then (scan, (rest.dropWhile (· ≠ '\n')).drop 1)
  else if "(?#".toList.isPrefixOf (character :: rest) then (scan, commentEnd false (rest.drop 2))
  else if character = '(' then openGroup scan (character :: rest)
  else if character = ')' then (closeGroup scan, rest)
  else (scan, rest)

/-- The loop; every round takes at least one character, so that a pattern's length is enough. -/
def scanNames : Nat → Scan → Text → List Text
  | _, scan, [] => scan.names
  | 0, scan, _ => scan.names
  | fuel + 1, scan, character :: rest =>
      let (scan, rest) := scanStep scan character rest
      scanNames fuel scan rest

def namedGroupNames (pattern : Text) : List Text := scanNames pattern.length {} pattern

example : namedGroupNames "/(?x: # (?P<no>\n)(?P<id>.))".toList = ["id".toList] := by
  decide +kernel

/-- The `regex` package as it is found at one call: whether it can be imported, and what its
`compile` makes of a text, with the names of `groupindex`. -/
structure RegexPackage where
  installed : Bool
  compile : Text → Option (Compiled × List Text)

/-- `_compile` from the import on. -/
def RegexPackage.engine (package : RegexPackage) (maxNamedCaptures : Nat) : Engine where
  compile pattern :=
    if !package.installed then
      .error "regular-expression routes require 'smallserver[regex-routes]'"
    else
      match package.compile ("(?=/)(?:".toList ++ pattern ++ ")".toList) with
      | none => .error "invalid regex route pattern"
      | some (compiled, groupindex) =>
          let names := namedGroupNames pattern
          let compiledNames := groupindex.eraseDups
          if ¬(∀ name ∈ names, name ∈ compiledNames) ∨ ¬(∀ name ∈ compiledNames, name ∈ names) then
            .error "regex route named groups could not be validated"
          else if names.length ≠ compiledNames.length then
            .error "regex route pattern contains duplicate named groups"
          else if compiledNames.length > maxNamedCaptures then
            .error "regex route pattern has too many named captures"
          else .ok compiled

end Patterns

section Calls

/-- Code that reads and changes a router and may raise. What it stored before stays stored. -/
abbrev Registering (Handler Result : Type) := ExceptT String (StateM (Router Handler)) Result

inductive Argument
  | text (pattern : Text)
  | other

def addStatic (path : Text) (methods : List Text) (handler : Handler) :
    Registering Handler Unit := do
  let keys := methods.map fun method => (method, path)
  keys.forM fun key => do
    if key ∈ (← get).static then
      throw ("route already registered: " ++ String.ofList key.1 ++ " " ++ String.ofList path)
  keys.forM fun key =>
    modify fun router => { router with static := router.static.set key handler }

def addRegex (engine : Engine) (argument : Argument) (methods : List Text) (handler : Handler) :
    Registering Handler Unit := do
  match argument with
  | .other => throw "regex route pattern must be a string"
  | .text pattern =>
      match (← get).regexByPattern.lookup pattern with
      | some index =>
          match (← get).regex[index]? with
          | none => throw "list index out of range"
          | some existing =>
              match methods.find? fun method => decide (method ∈ existing.handlers) with
              | some duplicate =>
                  throw ("regex route already registered: " ++ String.ofList duplicate)
              | none =>
                  let handlers := setAll existing.handlers methods handler
                  modify fun router => { router with
                    regex := router.regex.set index { existing with handlers := handlers } }
      | none =>
          if (← get).regexConfig.maxRoutes ≤ (← get).regex.length then
            throw "maximum registered regex routes exceeded"
          else
            match Router.compile engine (← get).regexConfig pattern with
            | .error message => throw message
            | .ok compiled =>
                let route : RegexRoute Handler := {
                  routeId := "regex-route-".toList ++ decimalText ((← get).regex.length + 1)
                  pattern := pattern
                  compiled := compiled
                  handlers := setAll ∅ methods handler }
                modify fun router => { router with
                  regexByPattern := router.regexByPattern.set pattern router.regex.length }
                modify fun router => { router with regex := router.regex ++ [route] }

def perform (code : Registering Handler Unit) (router : Router Handler) :
    Except String Unit × Router Handler :=
  (code.run.run router).run

inductive Call (Handler : Type)
  | addStatic (path : Text) (methods : List Text) (handler : Handler)
  | addRegex (package : RegexPackage) (pattern : Argument) (methods : List Text)
      (handler : Handler)

def Call.perform (maxNamedCaptures : Nat) (router : Router Handler) :
    Call Handler → Except String Unit × Router Handler
  | .addStatic path methods handler =>
      RoutingRegistration.perform (RoutingRegistration.addStatic path methods handler) router
  | .addRegex package pattern methods handler =>
      RoutingRegistration.perform
        (RoutingRegistration.addRegex (package.engine maxNamedCaptures) pattern methods handler)
        router

def Registers (maxNamedCaptures : Nat) (router : Router Handler) (call : Call Handler)
    (next : Router Handler) : Prop :=
  (call.perform maxNamedCaptures router).2 = next

end Calls

section Atomicity

def settled (router : Router Handler) :
    Except String (Router Handler) → Except String Unit × Router Handler
  | .ok next => (.ok (), next)
  | .error message => (.error message, router)

theorem perform_bind {Result : Type} (first : Registering Handler Result)
    (rest : Result → Registering Handler Unit) (router : Router Handler) :
    perform (first >>= rest) router =
      match (first.run.run router).run with
      | (.ok result, next) => perform (rest result) next
      | (.error message, next) => (.error message, next) := by
  unfold perform ExceptT.run StateT.run Id.run
  simp only [bind, ExceptT.bind, ExceptT.mk, StateT.bind, ExceptT.bindCont]
  cases first router with
  | mk result next => cases result <;> rfl

theorem perform_get (rest : Router Handler → Registering Handler Unit)
    (router : Router Handler) : perform (get >>= rest) router = perform (rest router) router := by
  rw [perform_bind]
  rfl

theorem perform_modify (change : Router Handler → Router Handler) (router : Router Handler) :
    perform (modify change) router = (.ok (), change router) := rfl

theorem perform_throw (message : String) (router : Router Handler) :
    perform (throw message) router = (.error message, router) := rfl

theorem perform_check (keys : List (Text × Text)) (raised : Text × Text → String)
    (router : Router Handler) :
    perform (keys.forM fun key => do if key ∈ (← get).static then throw (raised key)) router =
      match keys.find? fun key => decide (key ∈ router.static) with
      | some key => (.error (raised key), router)
      | none => (.ok (), router) := by
  induction keys with
  | nil => rfl
  | cons key keys induction =>
      rw [List.forM_eq_forM, List.forM_cons, perform_bind, List.find?_cons]
      by_cases taken : key ∈ router.static
      · have raises : perform (do if key ∈ (← get).static then throw (raised key)) router =
            (.error (raised key), router) := by
          rw [perform_get, if_pos taken]
          rfl
        unfold perform at raises
        rw [raises, decide_eq_true taken]
      · have passes : perform (do if key ∈ (← get).static then throw (raised key)) router =
            (.ok (), router) := by
          rw [perform_get, if_neg taken]
          rfl
        unfold perform at passes
        rw [passes, decide_eq_false taken]
        exact induction

theorem perform_store (keys : List (Text × Text)) (handler : Handler) (router : Router Handler) :
    perform (keys.forM fun key => modify fun router =>
        { router with static := router.static.set key handler }) router =
      (.ok (), { router with static := setAll router.static keys handler }) := by
  induction keys generalizing router with
  | nil => rfl
  | cons key keys induction =>
      rw [List.forM_eq_forM, List.forM_cons, perform_bind]
      exact induction _

theorem perform_addStatic (path : Text) (methods : List Text) (handler : Handler)
    (router : Router Handler) :
    perform (addStatic path methods handler) router =
      settled router (router.addStatic path methods handler) := by
  unfold addStatic Router.addStatic
  dsimp only
  generalize methods.map (fun method => (method, path)) = keys
  have checked := perform_check keys (fun key => "route already registered: " ++
    String.ofList key.1 ++ " " ++ String.ofList path) router
  have stored := perform_store keys handler router
  rw [perform_bind]
  unfold perform at checked
  rw [checked]
  cases keys.find? fun key => decide (key ∈ router.static) with
  | some key => rfl
  | none => exact stored

theorem perform_addRegex (engine : Engine) (pattern : Text) (methods : List Text)
    (handler : Handler) (router : Router Handler) :
    perform (addRegex engine (.text pattern) methods handler) router =
      settled router (router.addRegex engine pattern methods handler) := by
  unfold addRegex Router.addRegex
  dsimp only
  rw [perform_get]
  cases router.regexByPattern.lookup pattern with
  | some index =>
      dsimp only
      rw [perform_get]
      cases router.regex[index]? with
      | none => rfl
      | some existing =>
          dsimp only
          cases methods.find? fun method => decide (method ∈ existing.handlers) with
          | some duplicate => rfl
          | none => rfl
  | none =>
      dsimp only
      rw [perform_get, perform_get]
      by_cases full : router.regexConfig.maxRoutes ≤ router.regex.length
      · rw [if_pos full, if_pos full]
        rfl
      · rw [if_neg full, if_neg full, perform_get]
        cases Router.compile engine router.regexConfig pattern with
        | error message => rfl
        | ok compiled => rfl

end Atomicity

section Specification

def routeIdAt (index : Nat) : Text := "regex-route-".toList ++ decimalText (index + 1)

/-- The index and the list of regex routes fit together, and the list is within its bound. -/
structure Consistent (router : Router Handler) : Prop where
  indexed : ∀ pattern index, router.regexByPattern.lookup pattern = some index ↔
    ∃ route, router.regex[index]? = some route ∧ route.pattern = pattern
  numbered : ∀ index route, router.regex[index]? = some route → route.routeId = routeIdAt index
  bounded : router.regex.length ≤ router.regexConfig.maxRoutes

def entryOf (router : Router Handler) (pattern : Text) : Option (RegexRoute Handler) :=
  router.regex.find? fun route => decide (route.pattern = pattern)

def handlerOf (router : Router Handler) (pattern method : Text) : Option Handler :=
  (entryOf router pattern).bind fun route => route.handlers.lookup method

/-- The static table has the given entries more, all of them new, and nothing else changed. -/
structure AddsStatic (path : Text) (methods : List Text) (handler : Handler)
    (router next : Router Handler) : Prop where
  fresh : ∀ method ∈ methods, router.static.lookup (method, path) = none
  handlers : ∀ method other, next.static.lookup (method, other) =
    if other = path ∧ method ∈ methods then some handler
    else router.static.lookup (method, other)
  regex : next.regex = router.regex
  index : next.regexByPattern = router.regexByPattern
  config : next.regexConfig = router.regexConfig

/-- The pattern's entry, made now if the pattern is new, has the given methods more, and
nothing else changed. -/
structure AddsRegex (pattern : Text) (methods : List Text) (handler : Handler)
    (router next : Router Handler) : Prop where
  fresh : ∀ method ∈ methods, handlerOf router pattern method = none
  handlers : ∀ other method, handlerOf next other method =
    if other = pattern ∧ method ∈ methods then some handler else handlerOf router other method
  patterns : next.regex.map RegexRoute.pattern =
    if pattern ∈ router.regex.map RegexRoute.pattern then router.regex.map RegexRoute.pattern
    else router.regex.map RegexRoute.pattern ++ [pattern]
  others : ∀ (position : Nat) route, router.regex[position]? = some route →
    route.pattern ≠ pattern → next.regex[position]? = some route
  index : ∀ other, other ≠ pattern →
    next.regexByPattern.lookup other = router.regexByPattern.lookup other
  static : next.static = router.static
  config : next.regexConfig = router.regexConfig

def Adds (router next : Router Handler) : Call Handler → Prop
  | .addStatic path methods handler => AddsStatic path methods handler router next
  | .addRegex _ (.text pattern) methods handler => AddsRegex pattern methods handler router next
  | .addRegex _ .other _ _ => False

/-- A call that raises leaves the router, one that returns has added what it was given. -/
def Settles (maxNamedCaptures : Nat) (router : Router Handler) (call : Call Handler) : Prop :=
  match call.perform maxNamedCaptures router with
  | (.error _, next) => next = router
  | (.ok (), next) => Adds router next call

/-- Every regex route is still at its index, under its id, with its pattern. -/
def KeepsRoutes (router later : Router Handler) : Prop :=
  ∀ (index : Nat) route, router.regex[index]? = some route →
    ∃ kept, later.regex[index]? = some kept ∧ kept.routeId = route.routeId ∧
      kept.pattern = route.pattern ∧ kept.compiled = route.compiled

end Specification

section Entries

variable {router next : Router Handler}

def identity (route : RegexRoute Handler) : Text × Text × Compiled :=
  (route.routeId, route.pattern, route.compiled)

theorem nodup_map_of_index {Item Key : Type} {items : List Item} {key : Item → Key}
    (unique : ∀ (first second : Nat) left right, items[first]? = some left →
      items[second]? = some right → key left = key right → first = second) :
    (items.map key).Nodup := by
  rw [List.nodup_iff_getElem?_ne_getElem?]
  intro first second before inRange same
  rw [List.length_map] at inRange
  rw [List.getElem?_map, List.getElem?_map, List.getElem?_eq_getElem inRange,
    List.getElem?_eq_getElem (before.trans inRange)] at same
  have equal := unique first second _ _ (List.getElem?_eq_getElem (before.trans inRange))
    (List.getElem?_eq_getElem inRange) (Option.some.inj same)
  omega

theorem Consistent.patterns_nodup (consistent : Consistent router) :
    (router.regex.map RegexRoute.pattern).Nodup := by
  refine nodup_map_of_index fun first second left right atFirst atSecond same => ?_
  have one := (consistent.indexed left.pattern first).mpr ⟨left, atFirst, rfl⟩
  have two := (consistent.indexed right.pattern second).mpr ⟨right, atSecond, rfl⟩
  rw [same, two] at one
  exact (Option.some.inj one).symm

theorem Consistent.routeIds_nodup (consistent : Consistent router) :
    (router.regex.map RegexRoute.routeId).Nodup := by
  refine nodup_map_of_index fun first second left right atFirst atSecond same => ?_
  rw [consistent.numbered first left atFirst, consistent.numbered second right atSecond] at same
  have digits := ResponseFraming.decimalText_injective (List.append_cancel_left same)
  omega

theorem keepsRoutes_of_identities {later : Router Handler}
    (kept : router.regex.map identity <+: later.regex.map identity) :
    KeepsRoutes router later := by
  intro index route found
  obtain ⟨tail, whole⟩ := kept
  have inRange : index < (router.regex.map identity).length := by
    rw [List.length_map]
    exact (List.getElem?_eq_some_iff.mp found).1
  have stays : (later.regex.map identity)[index]? = some (identity route) := by
    rw [← whole, List.getElem?_append_left inRange, List.getElem?_map, found]
    rfl
  rw [List.getElem?_map, Option.map_eq_some_iff] at stays
  obtain ⟨still, there, same⟩ := stays
  obtain ⟨sameId, samePattern, sameCompiled⟩ : still.routeId = route.routeId ∧
      still.pattern = route.pattern ∧ still.compiled = route.compiled := by
    simpa [identity] using same
  exact ⟨still, there, sameId, samePattern, sameCompiled⟩

theorem KeepsRoutes.trans {middle later : Router Handler} (first : KeepsRoutes router middle)
    (second : KeepsRoutes middle later) : KeepsRoutes router later := by
  intro index route found
  obtain ⟨between, there, sameId, samePattern, sameCompiled⟩ := first index route found
  obtain ⟨kept, still, keptId, keptPattern, keptCompiled⟩ := second index between there
  exact ⟨kept, still, keptId.trans sameId, keptPattern.trans samePattern,
    keptCompiled.trans sameCompiled⟩

theorem consistent_of_identities (consistent : Consistent router)
    (same : next.regex.map identity = router.regex.map identity)
    (index : next.regexByPattern = router.regexByPattern)
    (config : next.regexConfig = router.regexConfig) : Consistent next := by
  have forward : KeepsRoutes router next := keepsRoutes_of_identities (same ▸ List.prefix_rfl)
  have backward : KeepsRoutes next router := keepsRoutes_of_identities (same ▸ List.prefix_rfl)
  refine {
    indexed := fun pattern position => ?_
    numbered := fun position route found => ?_
    bounded := ?_ }
  · rw [index, consistent.indexed]
    constructor
    · rintro ⟨route, found, rfl⟩
      obtain ⟨kept, there, _, samePattern, _⟩ := forward position route found
      exact ⟨kept, there, samePattern⟩
    · rintro ⟨route, found, rfl⟩
      obtain ⟨kept, there, _, samePattern, _⟩ := backward position route found
      exact ⟨kept, there, samePattern⟩
  · obtain ⟨kept, there, sameId, _, _⟩ := backward position route found
    rw [← sameId]
    exact consistent.numbered position kept there
  · have lengths := congrArg List.length same
    rw [List.length_map, List.length_map] at lengths
    rw [lengths, config]
    exact consistent.bounded

theorem entryOf_eq_some (consistent : Consistent router) {pattern : Text}
    {route : RegexRoute Handler} :
    entryOf router pattern = some route ↔
      route.pattern = pattern ∧ ∃ index : Nat, router.regex[index]? = some route := by
  unfold entryOf
  constructor
  · intro found
    refine ⟨by simpa using List.find?_some found, ?_⟩
    exact List.getElem?_of_mem (List.mem_of_find?_eq_some found)
  · rintro ⟨rfl, index, there⟩
    cases found : router.regex.find? fun other => decide (other.pattern = route.pattern) with
    | none =>
        have missing := List.find?_eq_none.mp found route (List.mem_of_getElem? there)
        exact absurd (decide_eq_true rfl) missing
    | some other =>
        have same : other.pattern = route.pattern := by simpa using List.find?_some found
        obtain ⟨position, here⟩ := List.getElem?_of_mem (List.mem_of_find?_eq_some found)
        have one := (consistent.indexed route.pattern index).mpr ⟨route, there, rfl⟩
        have two := (consistent.indexed route.pattern position).mpr ⟨other, here, same⟩
        obtain rfl := Option.some.inj (one.symm.trans two)
        exact here.symm.trans there

theorem handlerOf_entry (consistent : Consistent router) {index : Nat}
    {route : RegexRoute Handler} (found : router.regex[index]? = some route) (method : Text) :
    handlerOf router route.pattern method = route.handlers.lookup method := by
  unfold handlerOf
  rw [(entryOf_eq_some consistent).mpr ⟨rfl, index, found⟩]
  rfl

theorem handlerOf_unknown {pattern : Text}
    (unknown : pattern ∉ router.regex.map RegexRoute.pattern) (method : Text) :
    handlerOf router pattern method = none := by
  have missing : entryOf router pattern = none := List.find?_eq_none.mpr
    fun route member same => unknown (List.mem_map.mpr ⟨route, member, of_decide_eq_true same⟩)
  unfold handlerOf
  rw [missing]
  rfl

/-- The entries of every other pattern are the same, at the same places. -/
def SameBeside (pattern : Text) (router next : Router Handler) : Prop :=
  ∀ (position : Nat) route, route.pattern ≠ pattern →
    (next.regex[position]? = some route ↔ router.regex[position]? = some route)

theorem handlerOf_beside {pattern other : Text} (consistent : Consistent router)
    (consistentNext : Consistent next) (beside : SameBeside pattern router next)
    (different : other ≠ pattern) (method : Text) :
    handlerOf next other method = handlerOf router other method := by
  have same : entryOf next other = entryOf router other := by
    refine Option.ext fun route => ?_
    rw [entryOf_eq_some consistent, entryOf_eq_some consistentNext]
    refine and_congr_right fun isOther => exists_congr fun position => ?_
    exact beside position route (isOther.symm ▸ different)
  unfold handlerOf
  rw [same]

end Entries

section Steps

variable {engine : Engine} {router next : Router Handler}

theorem consistent_new (config : RegexRouteConfig) :
    Consistent ({ regexConfig := config } : Router Handler) where
  indexed pattern index := by
    constructor
    · intro found
      cases found
    · rintro ⟨route, found, _⟩
      cases found
  numbered index route found := by cases found
  bounded := Nat.zero_le _

theorem addsStatic_of_ok {path : Text} {methods : List Text} {handler : Handler}
    (added : router.addStatic path methods handler = .ok next) :
    AddsStatic path methods handler router next := by
  obtain ⟨fresh, rfl⟩ := addStatic_ok added
  refine {
    fresh := fun method member => AList.lookup_eq_none.mpr (fresh method member)
    handlers := fun method other => ?_
    regex := rfl
    index := rfl
    config := rfl }
  change (setAll router.static _ handler).lookup (method, other) = _
  rw [lookup_setAll]
  by_cases given : other = path ∧ method ∈ methods
  · rw [if_pos given, if_pos (List.mem_map.mpr ⟨method, given.2, given.1 ▸ rfl⟩)]
  · rw [if_neg given, if_neg]
    rintro member
    obtain ⟨name, isGiven, same⟩ := List.mem_map.mp member
    cases same
    exact given ⟨rfl, isGiven⟩

theorem addRegex_known_spec {pattern : Text} {methods : List Text} {handler : Handler}
    {index : Nat} (consistent : Consistent router)
    (known : router.regexByPattern.lookup pattern = some index)
    (added : router.addRegex engine pattern methods handler = .ok next) :
    Consistent next ∧ next.regex.map identity = router.regex.map identity ∧
      AddsRegex pattern methods handler router next := by
  obtain ⟨existing, found, rfl⟩ := (consistent.indexed pattern index).mp known
  obtain ⟨fresh, shape⟩ := addRegex_known known found added
  obtain ⟨inRange, atIndex⟩ := List.getElem?_eq_some_iff.mp found
  let updated : RegexRoute Handler :=
    { existing with handlers := setAll existing.handlers methods handler }
  have stored : next.regex = router.regex.set index updated := by rw [shape]
  have kept : ∀ {Key : Type} (key : RegexRoute Handler → Key), key updated = key existing →
      next.regex.map key = router.regex.map key := by
    intro Key key same
    rw [stored, List.map_set, same, ← atIndex, ← List.getElem_map key, List.set_getElem_self]
    rwa [List.length_map]
  have consistentNext : Consistent next :=
    consistent_of_identities consistent (kept identity rfl) (by rw [shape]) (by rw [shape])
  have beside : SameBeside existing.pattern router next := by
    intro position route different
    rw [stored, List.getElem?_set]
    by_cases same : index = position
    · subst same
      rw [if_pos rfl, if_pos inRange, found]
      constructor
      · intro isUpdated
        exact absurd (congrArg RegexRoute.pattern (Option.some.inj isUpdated)).symm different
      · intro isExisting
        exact absurd (congrArg RegexRoute.pattern (Option.some.inj isExisting)).symm different
    · rw [if_neg same]
  refine ⟨consistentNext, kept identity rfl, {
    fresh := fun method member => ?_
    handlers := fun other method => ?_
    patterns := ?_
    others := fun position route there different => (beside position route different).mpr there
    index := fun other different => by rw [shape]
    static := by rw [shape]
    config := by rw [shape] }⟩
  · rw [handlerOf_entry consistent found]
    exact AList.lookup_eq_none.mpr (fresh method member)
  · by_cases same : other = existing.pattern
    · subst same
      have there : next.regex[index]? = some updated := by
        rw [stored]
        exact List.getElem?_set_self inRange
      have ofUpdated := handlerOf_entry consistentNext there method
      rw [handlerOf_entry consistent found, ofUpdated, lookup_setAll]
      by_cases given : method ∈ methods
      · rw [if_pos given, if_pos ⟨rfl, given⟩]
      · rw [if_neg given, if_neg fun both => given both.2]
    · rw [if_neg fun both => same both.1]
      exact handlerOf_beside consistent consistentNext beside same method
  · rw [if_pos (List.mem_map.mpr ⟨existing, List.mem_of_getElem? found, rfl⟩)]
    exact kept RegexRoute.pattern rfl

theorem addRegex_new_bounded {pattern : Text} {methods : List Text} {handler : Handler}
    (unknown : router.regexByPattern.lookup pattern = none)
    (added : router.addRegex engine pattern methods handler = .ok next) :
    router.regex.length < router.regexConfig.maxRoutes := by
  unfold Router.addRegex at added
  rw [unknown] at added
  dsimp only at added
  split at added
  · cases added
  · rename_i room
    exact not_le.mp room

structure Appends (last : RegexRoute Handler) (router next : Router Handler) : Prop where
  absent : last.pattern ∉ router.regex.map RegexRoute.pattern
  regex : next.regex = router.regex ++ [last]
  index : ∀ other, next.regexByPattern.lookup other =
    if other = last.pattern then some router.regex.length else router.regexByPattern.lookup other

theorem Appends.at_end {last : RegexRoute Handler} (appends : Appends last router next) :
    next.regex[router.regex.length]? = some last := by
  rw [appends.regex]
  exact List.getElem?_concat_length

theorem Appends.before_end {last : RegexRoute Handler} (appends : Appends last router next)
    (position : Nat) (route : RegexRoute Handler) (notLast : position ≠ router.regex.length) :
    next.regex[position]? = some route ↔ router.regex[position]? = some route := by
  rw [appends.regex]
  by_cases inRange : position < router.regex.length
  · rw [List.getElem?_append_left inRange]
  · rw [List.getElem?_eq_none (by simp; omega), List.getElem?_eq_none (by omega)]

theorem Appends.beside {last : RegexRoute Handler} (appends : Appends last router next) :
    SameBeside last.pattern router next := by
  intro position route different
  by_cases isLast : position = router.regex.length
  · subst isLast
    rw [appends.at_end, List.getElem?_eq_none le_rfl]
    constructor
    · intro isNew
      exact absurd (congrArg RegexRoute.pattern (Option.some.inj isNew)).symm different
    · intro impossible
      cases impossible
  · exact appends.before_end position route isLast

theorem Appends.consistent {last : RegexRoute Handler} (appends : Appends last router next)
    (consistent : Consistent router) (numbered : last.routeId = routeIdAt router.regex.length)
    (room : router.regex.length < next.regexConfig.maxRoutes) : Consistent next := by
  refine {
    indexed := fun other position => ?_
    numbered := fun position route there => ?_
    bounded := ?_ }
  · rw [appends.index]
    by_cases same : other = last.pattern
    · rw [if_pos same]
      constructor
      · intro isLast
        obtain rfl := Option.some.inj isLast
        exact ⟨last, appends.at_end, same.symm⟩
      · rintro ⟨route, there, isOther⟩
        by_contra notLast
        have old := (appends.before_end position route fun isLast =>
          notLast (isLast ▸ rfl)).mp there
        exact appends.absent (List.mem_map.mpr
          ⟨route, List.mem_of_getElem? old, isOther.trans same⟩)
    · rw [if_neg same, consistent.indexed]
      refine exists_congr fun route => and_congr_left fun isOther => ?_
      exact (appends.beside position route (isOther.symm ▸ same)).symm
  · by_cases isLast : position = router.regex.length
    · subst isLast
      rw [appends.at_end] at there
      obtain rfl := Option.some.inj there
      exact numbered
    · exact consistent.numbered position route
        ((appends.before_end position route isLast).mp there)
  · rw [appends.regex, List.length_append, List.length_singleton]
    exact room

theorem Consistent.absent_of_unknown (consistent : Consistent router) {pattern : Text}
    (unknown : router.regexByPattern.lookup pattern = none) :
    pattern ∉ router.regex.map RegexRoute.pattern := by
  intro member
  obtain ⟨route, isThere, same⟩ := List.mem_map.mp member
  obtain ⟨position, there⟩ := List.getElem?_of_mem isThere
  rw [(consistent.indexed pattern position).mpr ⟨route, there, same⟩] at unknown
  cases unknown

theorem addRegex_new_spec {pattern : Text} {methods : List Text} {handler : Handler}
    (consistent : Consistent router) (unknown : router.regexByPattern.lookup pattern = none)
    (added : router.addRegex engine pattern methods handler = .ok next) :
    Consistent next ∧ router.regex.map identity <+: next.regex.map identity ∧
      AddsRegex pattern methods handler router next := by
  have room := addRegex_new_bounded unknown added
  obtain ⟨compiled, _, shape⟩ := addRegex_new unknown added
  let last : RegexRoute Handler := {
    routeId := routeIdAt router.regex.length
    pattern := pattern
    compiled := compiled
    handlers := setAll ∅ methods handler }
  have absent := consistent.absent_of_unknown unknown
  have appends : Appends last router next := {
    absent := absent
    regex := by rw [shape]; rfl
    index := fun other => by rw [shape]; exact OrderedDict.lookup_set_eq _ _ _ _ }
  have consistentNext := appends.consistent consistent rfl (by rw [shape]; exact room)
  refine ⟨consistentNext, ?_, {
    fresh := fun method member => handlerOf_unknown absent method
    handlers := fun other method => ?_
    patterns := ?_
    others := fun position route there different =>
      (appends.beside position route different).mpr there
    index := fun other different => (appends.index other).trans (if_neg different)
    static := by rw [shape]
    config := by rw [shape] }⟩
  · rw [appends.regex, List.map_append]
    exact List.prefix_append _ _
  · by_cases same : other = pattern
    · subst same
      have ofLast := handlerOf_entry consistentNext appends.at_end method
      rw [handlerOf_unknown absent, ofLast, lookup_setAll]
      by_cases given : method ∈ methods
      · rw [if_pos given, if_pos ⟨rfl, given⟩]
      · rw [if_neg given, if_neg fun both => given both.2]
        exact AList.lookup_empty method
    · rw [if_neg fun both => same both.1]
      exact handlerOf_beside consistent consistentNext appends.beside same method
  · rw [if_neg absent, appends.regex, List.map_append]
    rfl

theorem addRegex_spec {pattern : Text} {methods : List Text} {handler : Handler}
    (consistent : Consistent router)
    (added : router.addRegex engine pattern methods handler = .ok next) :
    Consistent next ∧ router.regex.map identity <+: next.regex.map identity ∧
      AddsRegex pattern methods handler router next := by
  cases known : router.regexByPattern.lookup pattern with
  | none => exact addRegex_new_spec consistent known added
  | some index =>
      obtain ⟨consistentNext, same, adds⟩ := addRegex_known_spec consistent known added
      exact ⟨consistentNext, same ▸ List.prefix_rfl, adds⟩

theorem call_spec (maxNamedCaptures : Nat) (consistent : Consistent router)
    (call : Call Handler) :
    Settles maxNamedCaptures router call ∧
      Consistent (call.perform maxNamedCaptures router).2 ∧
      (call.perform maxNamedCaptures router).2.regexConfig = router.regexConfig ∧
      KeepsRoutes router (call.perform maxNamedCaptures router).2 := by
  have itself : KeepsRoutes router router := keepsRoutes_of_identities List.prefix_rfl
  cases call with
  | addStatic path methods handler =>
      unfold Settles Call.perform
      dsimp only
      rw [perform_addStatic]
      cases added : router.addStatic path methods handler with
      | error message => exact ⟨rfl, consistent, rfl, itself⟩
      | ok next =>
          have adds := addsStatic_of_ok added
          have same : next.regex.map identity = router.regex.map identity := by
            rw [adds.regex]
          exact ⟨adds, consistent_of_identities consistent same adds.index adds.config,
            adds.config, keepsRoutes_of_identities (same ▸ List.prefix_rfl)⟩
  | addRegex package argument methods handler =>
      unfold Settles Call.perform
      dsimp only
      cases argument with
      | other => exact ⟨rfl, consistent, rfl, itself⟩
      | text pattern =>
          rw [perform_addRegex]
          cases added : router.addRegex (package.engine maxNamedCaptures) pattern methods
              handler with
          | error message => exact ⟨rfl, consistent, rfl, itself⟩
          | ok next =>
              obtain ⟨consistentNext, kept, adds⟩ := addRegex_spec consistent added
              exact ⟨adds, consistentNext, adds.config, keepsRoutes_of_identities kept⟩

end Steps

section Registration

variable {maxNamedCaptures : Nat} {router : Router Handler} {calls : List (Call Handler)}

theorem consistent_of_run {start : Router Handler} (consistent : Consistent start)
    (run : Run (Registers maxNamedCaptures) start calls router) :
    Consistent router ∧ router.regexConfig = start.regexConfig ∧ KeepsRoutes start router := by
  induction run with
  | nil => exact ⟨consistent, rfl, keepsRoutes_of_identities List.prefix_rfl⟩
  | snoc call _ made induction =>
      obtain ⟨consistentState, sameConfig, kept⟩ := induction
      obtain ⟨_, consistentNext, configNext, keptNext⟩ :=
        call_spec maxNamedCaptures consistentState call
      obtain rfl := made
      exact ⟨consistentNext, configNext.trans sameConfig, kept.trans keptNext⟩

/-- After every sequence of calls, the tables fit together within the limit; any call either
raises and changes nothing or adds exactly what it was given; and no regex route changes its
id, whatever is called later. -/
theorem registration_atomic (config : RegexRouteConfig)
    (reached : Run (Registers maxNamedCaptures) ({ regexConfig := config } : Router Handler) calls
      router) :
    Consistent router ∧ (router.regex.map RegexRoute.pattern).Nodup ∧
      (router.regex.map RegexRoute.routeId).Nodup ∧
      router.regex.length ≤ config.maxRoutes ∧
      (∀ call, Settles maxNamedCaptures router call) ∧
      ∀ more later, Run (Registers maxNamedCaptures) router more later →
        KeepsRoutes router later := by
  obtain ⟨consistent, sameConfig, _⟩ := consistent_of_run (consistent_new config) reached
  refine ⟨consistent, consistent.patterns_nodup, consistent.routeIds_nodup,
    ?_, fun call => ?_, fun more later run => ?_⟩
  · have bounded := consistent.bounded
    rwa [sameConfig] at bounded
  · exact (call_spec maxNamedCaptures consistent call).1
  · exact (consistent_of_run consistent run).2.2

end Registration

section Samples

def sampleCompile (wrapped : Text) : Option (Compiled × List Text) :=
  if wrapped = "(?=/)(?:/u/(?P<id>.))".toList then
    some (fun path => match path with
      | ['/', 'u', '/', id] => if id = '\n' then none else some [("id".toList, some [id])]
      | _ => none, ["id".toList])
  else if wrapped = "(?=/)(?:/ping)".toList then
    some (fun path => if path = "/ping".toList then some [] else none, [])
  else none

def samplePackage : RegexPackage where
  installed := true
  compile := sampleCompile

def sampleConfig : RegexRouteConfig where
  maxRoutes := 1
  positive := by decide

def sampleCalls : List (Call Nat) :=
  [.addStatic "/a".toList ["GET".toList] 1,
    .addStatic "/a".toList ["POST".toList, "GET".toList] 2,
    .addRegex samplePackage (.text "/u/(".toList) ["GET".toList] 3,
    .addRegex samplePackage (.text "/u/(?P<id>.)".toList) ["GET".toList] 4,
    .addRegex samplePackage (.text "/u/(?P<id>.)".toList) ["PUT".toList, "GET".toList] 5,
    .addRegex samplePackage (.text "/u/(?P<id>.)".toList) ["PUT".toList] 6,
    .addRegex samplePackage (.text "/ping".toList) ["GET".toList] 7,
    .addRegex samplePackage .other ["GET".toList] 8]

def sampleNext (router : Router Nat) (call : Call Nat) : Option (Router Nat) :=
  some (call.perform 20 router).2

def sampleRouter : Router Nat := endOf sampleNext { regexConfig := sampleConfig } sampleCalls

/-- Of the eight calls, those that fail on their second method, in the compiler, at the limit
or on their argument leave no trace. -/
theorem registration_atomic_sample :
    (sampleRouter.static.lookup ("GET".toList, "/a".toList) = some 1 ∧
      sampleRouter.static.lookup ("POST".toList, "/a".toList) = none ∧
      handlerOf sampleRouter "/u/(?P<id>.)".toList "GET".toList = some 4 ∧
      handlerOf sampleRouter "/u/(?P<id>.)".toList "PUT".toList = some 6 ∧
      sampleRouter.regex.map RegexRoute.routeId = ["regex-route-1".toList]) ∧
    Consistent sampleRouter ∧ ∀ call, Settles 20 sampleRouter call := by
  have run : Run (Registers 20) ({ regexConfig := sampleConfig } : Router Nat) sampleCalls
      sampleRouter := by
    refine run_endOf (fun router call next taken => ?_) (by decide +kernel)
    exact Option.some.inj taken
  obtain ⟨consistent, _, _, _, settles, _⟩ := registration_atomic sampleConfig run
  exact ⟨by decide +kernel, consistent, settles⟩

end Samples

end SmallServer.RoutingRegistration
