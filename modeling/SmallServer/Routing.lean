import SmallServer.OrderedDict
import SmallServer.HttpValues
import Mathlib.Data.List.Sort
import Mathlib.Data.Char
import Mathlib.Data.List.Lex

/-!
# Routing

`Router` and `SmallServer.dispatch`. A compiled pattern is whatever function the regex
engine makes of it; no match runs into its timeout.
-/

namespace SmallServer.Routing

open SmallServer HttpValues

set_option autoImplicit false

/-- `groupdict()` of a match: every named group with its capture. -/
abbrev Groups := List (Text × Option Text)

/-- `fullmatch` of a compiled pattern. -/
abbrev Compiled := Text → Option Groups

/-- The regex engine, with the check of the pattern's named groups. -/
structure Engine where
  compile : Text → Except String Compiled

structure RegexRouteConfig where
  maxPathBytes : Nat := 8 * 1024
  maxPatternLength : Nat := 1024
  maxRoutes : Nat := 100
  positive : 0 < maxPathBytes ∧ 0 < maxPatternLength ∧ 0 < maxRoutes

def supportedMethods : List Text :=
  ["GET".toList, "POST".toList, "PUT".toList, "PATCH".toList, "DELETE".toList]

/-- `str.upper` on one character, as far as a supported method can come of it: the ASCII
letters and the characters that become ASCII letters. Any other one stays outside ASCII. -/
def upperChar (c : Char) : Text :=
  if c.toNat ∈ List.range' 0x61 26 then [Char.ofNat (c.toNat - 32)]
  else match c.toNat with
    | 0xDF => "SS".toList
    | 0x131 => "I".toList
    | 0x17F => "S".toList
    | 0xFB00 => "FF".toList
    | 0xFB01 => "FI".toList
    | 0xFB02 => "FL".toList
    | 0xFB03 => "FFI".toList
    | 0xFB04 => "FFL".toList
    | 0xFB05 => "ST".toList
    | 0xFB06 => "ST".toList
    | _ => [c]

def upper (method : Text) : Text := method.flatMap upperChar

def normalizeMethods (methods : List Text) : Except String (List Text) :=
  let normalized := (methods.map upper).eraseDups
  if normalized.isEmpty || normalized.any fun method => !supportedMethods.contains method then
    .error "routes must use one or more supported HTTP methods"
  else .ok normalized

variable {Handler : Type}

structure RouteMatch (Handler : Type) where
  handler : Option Handler
  pathParams : List (Text × Text)
  routePattern : Option Text
  allowedMethods : List Text := []

structure RegexRoute (Handler : Type) where
  routeId : Text
  pattern : Text
  compiled : Compiled
  handlers : OrderedDict Text Handler

structure Router (Handler : Type) where
  static : OrderedDict (Text × Text) Handler := ∅
  regex : List (RegexRoute Handler) := []
  regexByPattern : OrderedDict Text Nat := ∅
  regexConfig : RegexRouteConfig

/-- `for key in keys: dict[key] = value`. -/
def setAll {Key : Type} [DecidableEq Key] (dict : OrderedDict Key Handler) (keys : List Key)
    (handler : Handler) : OrderedDict Key Handler :=
  keys.foldl (fun dict key => dict.set key handler) dict

inductive RouteError
  | pathTooLarge
  | value (message : String)

namespace Router

def addStatic (router : Router Handler) (path : Text) (methods : List Text) (handler : Handler) :
    Except String (Router Handler) :=
  let keys := methods.map fun method => (method, path)
  match keys.find? fun key => decide (key ∈ router.static) with
  | some key => .error ("route already registered: " ++ String.ofList key.1 ++ " " ++
      String.ofList path)
  | none => .ok { router with static := setAll router.static keys handler }

def compile (engine : Engine) (config : RegexRouteConfig) (pattern : Text) :
    Except String Compiled :=
  if pattern.head? ≠ some '/' then .error "regex route pattern must start with a literal '/'"
  else if pattern.length > config.maxPatternLength then .error "regex route pattern is too long"
  else engine.compile pattern

def addRegex (engine : Engine) (router : Router Handler) (pattern : Text) (methods : List Text)
    (handler : Handler) : Except String (Router Handler) :=
  match router.regexByPattern.lookup pattern with
  | some index =>
      match router.regex[index]? with
      | none => .error "list index out of range"
      | some existing =>
          match methods.find? fun method => decide (method ∈ existing.handlers) with
          | some duplicate =>
              .error ("regex route already registered: " ++ String.ofList duplicate)
          | none =>
              .ok { router with
                regex := router.regex.set index
                  { existing with handlers := setAll existing.handlers methods handler } }
  | none =>
      if router.regexConfig.maxRoutes ≤ router.regex.length then
        .error "maximum registered regex routes exceeded"
      else
        match compile engine router.regexConfig pattern with
        | .error message => .error message
        | .ok compiled =>
            .ok { router with
              regexByPattern := router.regexByPattern.set pattern router.regex.length
              regex := router.regex ++
                [{ routeId := "regex-route-".toList ++ decimalText (router.regex.length + 1)
                   pattern := pattern
                   compiled := compiled
                   handlers := setAll ∅ methods handler }] }

def staticHandler (router : Router Handler) (method path : Text) : Option Handler :=
  router.static.lookup (upper method, path)

def staticMethods (router : Router Handler) (path : Text) : List Text :=
  (router.static.keys.filter fun key => key.2 == path).map Prod.fst

def sorted (methods : List Text) : List Text := methods.insertionSort (· ≤ ·)

def captures (groups : Groups) : List (Text × Text) :=
  groups.filterMap fun group => group.2.map fun value => (group.1, value)

/-- The first loop of `resolve`: only routes with the method are matched, and what they
answer is kept under their index. -/
def searchMethod (method path : Text) :
    List (RegexRoute Handler) → Nat → OrderedDict Nat (Option Groups) →
      Option (RouteMatch Handler) × OrderedDict Nat (Option Groups)
  | [], _, cached => (none, cached)
  | route :: routes, index, cached =>
      match route.handlers.lookup method with
      | none => searchMethod method path routes (index + 1) cached
      | some handler =>
          match route.compiled path with
          | some groups =>
              (some {
                handler := some handler
                pathParams := captures groups
                routePattern := some route.pattern }, cached.set index (some groups))
          | none => searchMethod method path routes (index + 1) (cached.set index none)

/-- The second loop of `resolve`: the methods of every route that matches. -/
def collectAllowed (path : Text) (cached : OrderedDict Nat (Option Groups)) :
    List (RegexRoute Handler) → Nat → List Text → List Text
  | [], _, allowed => allowed
  | route :: routes, index, allowed =>
      let found := (cached.lookup index).getD (route.compiled path)
      collectAllowed path cached routes (index + 1)
        (if found.isSome then route.handlers.keys ∪ allowed else allowed)

def validatePath (router : Router Handler) (path : Text) : Except RouteError Unit :=
  if path.any fun c => decide (128 ≤ c.toNat) then
    .error (.value "request path must contain ASCII characters only")
  else if path.length > router.regexConfig.maxPathBytes then .error .pathTooLarge
  else .ok ()

def resolve (router : Router Handler) (method path : Text) :
    Except RouteError (RouteMatch Handler) :=
  match router.static.lookup (upper method, path) with
  | some handler => .ok { handler := some handler, pathParams := [], routePattern := some path }
  | none =>
      if router.regex.isEmpty then
        .ok {
          handler := none
          pathParams := []
          routePattern := none
          allowedMethods := sorted (router.staticMethods path) }
      else
        match router.validatePath path with
        | .error error => .error error
        | .ok () =>
            match searchMethod (upper method) path router.regex 0 ∅ with
            | (some found, _) => .ok found
            | (none, cached) =>
                .ok {
                  handler := none
                  pathParams := []
                  routePattern := none
                  allowedMethods := sorted
                    (collectAllowed path cached router.regex 0 (router.staticMethods path)) }

end Router

/-- How a request is answered: by a handler, which sees the request given, or at once. -/
inductive Dispatched (Handler : Type)
  | calls (handler : Handler) (request : Request)
  | responds (response : Response)
  | raises (error : String)

namespace Dispatched

def answer : Except String Response → Dispatched Handler
  | .ok response => .responds response
  | .error error => .raises error

def call (handler : Handler) : Except String Request → Dispatched Handler
  | .ok request => .calls handler request
  | .error error => .raises error

end Dispatched

def allowHeader (methods : List Text) : Text × Text :=
  ("Allow".toList, List.intercalate ", ".toList methods)

/-- `dispatch` up to the call of the handler. -/
def chooseHandler (router : Router Handler) (request : Request) : Dispatched Handler :=
  match router.staticHandler request.method request.path with
  | some handler =>
      if request.pathParams ≠ [] ∨ request.routePattern ≠ none then
        Dispatched.call handler (request.replaceContext [] none)
      else .calls handler request
  | none =>
      match router.resolve request.method request.path with
      | .error .pathTooLarge =>
          Dispatched.answer (Response.text "request target is too large".toList 414 [])
      | .error (.value message) => .raises message
      | .ok found =>
          match found.handler with
          | none =>
              if found.allowedMethods ≠ [] then
                Dispatched.answer (Response.text "method not allowed".toList 405
                  [allowHeader found.allowedMethods])
              else Dispatched.answer (Response.text "not found".toList 404 [])
          | some handler =>
              Dispatched.call handler (request.replaceContext found.pathParams found.routePattern)

inductive Outcome
  | returned (response : Response)
  | httpError (status : Nat) (detail : Text)
  | raised (error : String)

def dispatch (router : Router Handler) (invoke : Handler → Request → Outcome)
    (request : Request) : Except String Response :=
  match chooseHandler router request with
  | .responds response => .ok response
  | .raises error => .error error
  | .calls handler request =>
      match invoke handler request with
      | .returned response => .ok response
      | .raised error => .error error
      | .httpError status detail =>
          Response.text (if detail = [] then "HTTP ".toList ++ decimalText status else detail)
            status []

/-- One use of `app.route(path, methods)` or `app.route_regex(pattern, methods)`. -/
inductive Registration (Handler : Type)
  | route (path : Text) (methods : List Text) (handler : Handler)
  | routeRegex (pattern : Text) (methods : List Text) (handler : Handler)

/-- `SmallServer.route` and `SmallServer.route_regex`, decorator applied. -/
def register (engine : Engine) (router : Router Handler) :
    Registration Handler → Except String (Router Handler)
  | .route path methods handler =>
      if path.head? ≠ some '/' then .error "route path must start with '/'"
      else if '?' ∈ path ∨ '#' ∈ path then
        .error "route path must not contain a query string or fragment"
      else
        match normalizeMethods methods with
        | .error message => .error message
        | .ok normalized => router.addStatic path normalized handler
  | .routeRegex pattern methods handler =>
      match normalizeMethods methods with
      | .error message => .error message
      | .ok normalized => router.addRegex engine pattern normalized handler

end SmallServer.Routing
