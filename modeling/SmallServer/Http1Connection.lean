import SmallServer.RequestSegmentation
import SmallServer.RoutingDeadlines
import SmallServer.SendDelivery
import SmallServer.WebSocketUpgrade

/-!
# One HTTP/1.1 connection

`SmallServer._connection_loop` with `_dispatch_websocket` and `_send_response`, as steps of a
coroutine between its waits. What the kernel delivers and takes, how a handler ends, what the
clock reads and what other tasks have changed meanwhile come in with the labels. A connection
that is upgraded is handed to `run_websocket_connection` and comes back when that ends.
-/

namespace SmallServer.Http1Connection

open SmallServer HttpValues RequestParser Routing RoutingDeadlines WebSocketUpgrade Runs

set_option autoImplicit false

section Model

variable (Handler SocketHandler Time : Type)

structure Application [AddCommGroup Time] [LinearOrder Time] where
  limits : Limits
  maxConnections : Nat
  router : Router Handler
  timeouts : Timeouts Time
  websocketRoutes : OrderedDict Text (WebSocketRoute SocketHandler)
  websocketMaxConnections : Nat

/-- The exceptions that leave the loop: out of `feed`, out of building a response, out of
`send_all`, out of a wait or a handler as a `BaseException`, or out of the WebSocket. -/
inductive Raised where
  | feed (detail : String)
  | formatting (detail : String)
  | send (failure : SendDelivery.Failure)
  | interrupted (number : Nat)
  | websocket (number : Nat)
deriving DecidableEq

/-- Where the loop is suspended; `atHead` is before its condition. -/
inductive Phase where
  | atHead (parser : HTTPRequestParser)
  | receiving (parser : HTTPRequestParser)
  | handling (handler : Handler) (request : Request)
  | sending (sending : SendDelivery.Phase)
  | upgraded (request : Request) (route : WebSocketRoute SocketHandler) (trailingData : Bytes)
  | finished (primaryError : Option Raised)

/-- How the handler within `dispatch` ends: as `Routing` has it, or with a `RouteMatchTimeout`,
which it can get from a `dispatch` that it awaits itself. -/
inductive HandlerEnd where
  | settled (outcome : Outcome)
  | matchTimeout (routeId : Text)

/-- The connection. All fields but the first two are history: the bytes fed to the parser, the
handler calls and how a handler ended, the responses passed to `_send_response`, the bytes the
kernel took of them, the events passed to the route observer and the calls of
`_connection_finished`. -/
structure Connection where
  phase : Phase Handler SocketHandler
  routeErrorEvent : Option Text := none
  received : Bytes := []
  calls : List (Handler × Request) := []
  outcome : Option HandlerEnd := none
  responses : List Response := []
  written : Bytes := []
  enqueued : List Text := []
  finishes : List (Option Raised) := []

structure Surroundings where
  timing : Timing Time
  websocketStates : Nat
  unavailable : Option Text

inductive Label where
  | checks (closed : Bool)
  | receives (chunk : Bytes) (surroundings : Surroundings Time)
  | receiveFails
  | interrupted (number : Nat)
  | handled (ended : HandlerEnd)
  | sends (label : SendDelivery.Label)
  | websocketEnds (raised : Option Nat)

variable {Handler SocketHandler Time}

def Label.found : Label Time → Option (Surroundings Time)
  | .receives _ surroundings => some surroundings
  | _ => none

def Label.ended : Label Time → Option HandlerEnd
  | .handled ended => some ended
  | _ => none

/-- The last value that is read off the labels of a run. For `Label.found` that is what the turn
found which completed the request, once there is one. -/
def lastOf {Value : Type} (reads : Label Time → Option Value) (labels : List (Label Time)) :
    Option Value :=
  (labels.filterMap reads).getLast?

theorem lastOf_snoc {Value : Type} (reads : Label Time → Option Value)
    (labels : List (Label Time)) (label : Label Time) :
    lastOf reads (labels ++ [label]) = (reads label).or (lastOf reads labels) := by
  unfold lastOf
  rw [List.filterMap_append, List.getLast?_append, List.filterMap_cons]
  cases reads label <;> rfl

def start [AddCommGroup Time] [LinearOrder Time] (app : Application Handler SocketHandler Time) :
    Connection Handler SocketHandler where
  phase := .atHead (HTTPRequestParser.new app.limits true)

namespace Connection

variable (connection : Connection Handler SocketHandler)

/-- The `finally` block. -/
def finish (primaryError : Option Raised) : Connection Handler SocketHandler :=
  { connection with
    phase := .finished primaryError
    enqueued := connection.enqueued ++ connection.routeErrorEvent.toList
    finishes := connection.finishes ++ [primaryError] }

/-- `_send_response` at a wait, or over. -/
def settle : SendDelivery.Phase → Connection Handler SocketHandler
  | .returned => connection.finish none
  | .raised failure => connection.finish (some (.send failure))
  | sending => { connection with phase := .sending sending }

/-- `_send_response` up to its first `socket_send`, on a response that may have failed to be
constructed. -/
def answer : Except String Response → Connection Handler SocketHandler
  | .error detail => connection.finish (some (.formatting detail))
  | .ok response =>
      let answering := { connection with responses := connection.responses ++ [response] }
      match ResponseWire.sendResponse response with
      | .error detail => answering.finish (some (.formatting detail))
      | .ok payload => answering.settle (SendDelivery.start payload)

def respond (value : Text) (status : Nat) : Connection Handler SocketHandler :=
  connection.answer (Response.text value status [])

/-- An `Exception` out of `dispatch`. -/
def fail : Connection Handler SocketHandler :=
  connection.respond "internal server error".toList 500

variable [AddCommGroup Time] [LinearOrder Time]
variable (app : Application Handler SocketHandler Time) (surroundings : Surroundings Time)

/-- `_dispatch_websocket`, up to `run_websocket_connection`. -/
def dispatchWebsocket (request : Request) (trailingData : Bytes) :
    Connection Handler SocketHandler :=
  match app.websocketRoutes.lookup request.path with
  | none => connection.respond "not found".toList 404
  | some route =>
      match validateUpgrade request route with
      | some refusal => connection.answer refusal.response
      | none =>
          if surroundings.websocketStates ≥ min app.websocketMaxConnections app.maxConnections then
            connection.respond "WebSocket capacity reached".toList 503
          else
            match surroundings.unavailable with
            | some detail => connection.respond detail 503
            | none => { connection with phase := .upgraded request route trailingData }

/-- `dispatch`, up to the handler. -/
def dispatch (request : Request) : Connection Handler SocketHandler :=
  match (chooseHandler surroundings.timing app.timeouts app.router request).1 with
  | .error routeId => { connection with routeErrorEvent := some routeId }.fail
  | .ok (.raises _) => connection.fail
  | .ok (.responds response) => connection.answer (.ok response)
  | .ok (.calls handler request) =>
      { connection with
        phase := .handling handler request
        calls := connection.calls ++ [(handler, request)] }

def serve (request : Request) (trailingData : Bytes) : Connection Handler SocketHandler :=
  if isUpgradeAttempt request then
    connection.dispatchWebsocket app surroundings request trailingData
  else if trailingData ≠ [] then
    connection.respond "pipelined requests are not supported".toList 400
  else connection.dispatch app surroundings request

def receive (parser : HTTPRequestParser) (chunk : Bytes) : Connection Handler SocketHandler :=
  let fed := { connection with received := connection.received ++ chunk }
  match feed parser chunk with
  | (.error (.httpParseError status detail), _) => fed.respond detail.toList status
  | (.error (.valueError detail), _) => fed.finish (some (.feed detail))
  | (.ok none, next) => { fed with phase := .atHead next }
  | (.ok (some request), next) => fed.serve app surroundings request next.trailingData

/-- What `dispatch` makes of the end of a handler; nothing where it raises. -/
def handlerResponse : Outcome → Option Response
  | .returned response => some response
  | .raised _ => none
  | .httpError status detail =>
      (Response.text (if detail = [] then "HTTP ".toList ++ decimalText status else detail)
        status []).toOption

def handlerEnds (ended : HandlerEnd) : Connection Handler SocketHandler :=
  let later := { connection with outcome := some ended }
  match ended with
  | .matchTimeout routeId => { later with routeErrorEvent := some routeId }.fail
  | .settled outcome =>
      match handlerResponse outcome with
      | none => later.fail
      | some response => later.answer (.ok response)

end Connection

variable [AddCommGroup Time] [LinearOrder Time]

/-- `_connection_loop`, one turn at a time. -/
inductive Step (app : Application Handler SocketHandler Time) :
    Connection Handler SocketHandler → Label Time → Connection Handler SocketHandler → Prop
  | continues {connection : Connection Handler SocketHandler} {parser : HTTPRequestParser}
      (here : connection.phase = .atHead parser) :
      Step app connection (.checks false) { connection with phase := .receiving parser }
  | closes {connection : Connection Handler SocketHandler} {parser : HTTPRequestParser}
      (here : connection.phase = .atHead parser) :
      Step app connection (.checks true) (connection.finish none)
  | receives {connection : Connection Handler SocketHandler} {parser : HTTPRequestParser}
      (chunk : Bytes) (surroundings : Surroundings Time)
      (here : connection.phase = .receiving parser) (nonempty : chunk ≠ []) :
      Step app connection (.receives chunk surroundings)
        (connection.receive app surroundings parser chunk)
  | ends {connection : Connection Handler SocketHandler} {parser : HTTPRequestParser}
      (surroundings : Surroundings Time) (here : connection.phase = .receiving parser) :
      Step app connection (.receives [] surroundings) (connection.finish none)
  | receiveFails {connection : Connection Handler SocketHandler} {parser : HTTPRequestParser}
      (here : connection.phase = .receiving parser) :
      Step app connection .receiveFails (connection.finish none)
  | receiveInterrupted {connection : Connection Handler SocketHandler}
      {parser : HTTPRequestParser} (number : Nat) (here : connection.phase = .receiving parser) :
      Step app connection (.interrupted number) (connection.finish (some (.interrupted number)))
  | handled {connection : Connection Handler SocketHandler} {handler : Handler}
      {request : Request} (ended : HandlerEnd)
      (here : connection.phase = .handling handler request) :
      Step app connection (.handled ended) (connection.handlerEnds ended)
  | handlerInterrupted {connection : Connection Handler SocketHandler} {handler : Handler}
      {request : Request} (number : Nat) (here : connection.phase = .handling handler request) :
      Step app connection (.interrupted number) (connection.finish (some (.interrupted number)))
  | sends {connection : Connection Handler SocketHandler} {sending next : SendDelivery.Phase}
      (label : SendDelivery.Label) (here : connection.phase = .sending sending)
      (step : SendDelivery.Step sending label next) :
      Step app connection (.sends label)
        ({ connection with written := connection.written ++ label.accepted }.settle next)
  | websocketReturns {connection : Connection Handler SocketHandler} {request : Request}
      {route : WebSocketRoute SocketHandler} {trailingData : Bytes}
      (here : connection.phase = .upgraded request route trailingData) :
      Step app connection (.websocketEnds none) (connection.finish none)
  | websocketRaises {connection : Connection Handler SocketHandler} {request : Request}
      {route : WebSocketRoute SocketHandler} {trailingData : Bytes} (number : Nat)
      (here : connection.phase = .upgraded request route trailingData) :
      Step app connection (.websocketEnds (some number))
        (connection.finish (some (.websocket number)))

end Model

section Specification

variable {Handler SocketHandler Time : Type} [AddCommGroup Time] [LinearOrder Time]

def Completes (app : Application Handler SocketHandler Time) (received : Bytes)
    (request : Request) (trailingData : Bytes) : Prop :=
  ∃ parser, feed (HTTPRequestParser.new app.limits true) received = (.ok (some request), parser) ∧
    parser.trailingData = trailingData

def States (value : Text) (status : Nat) (response : Response) : Prop :=
  Response.text value status [] = .ok response

inductive UpgradeRefused (app : Application Handler SocketHandler Time)
    (surroundings : Surroundings Time) (request : Request) : Response → Prop
  | unrouted {response : Response} (absent : app.websocketRoutes.lookup request.path = none)
      (stated : States "not found".toList 404 response) :
      UpgradeRefused app surroundings request response
  | invalid {route : WebSocketRoute SocketHandler} {refusal : Refusal} {response : Response}
      (routed : app.websocketRoutes.lookup request.path = some route)
      (refused : validateUpgrade request route = some refusal)
      (stated : refusal.response = .ok response) :
      UpgradeRefused app surroundings request response
  | full {route : WebSocketRoute SocketHandler} {response : Response}
      (routed : app.websocketRoutes.lookup request.path = some route)
      (valid : validateUpgrade request route = none)
      (occupied : min app.websocketMaxConnections app.maxConnections ≤
        surroundings.websocketStates)
      (stated : States "WebSocket capacity reached".toList 503 response) :
      UpgradeRefused app surroundings request response
  | unavailable {route : WebSocketRoute SocketHandler} {detail : Text} {response : Response}
      (routed : app.websocketRoutes.lookup request.path = some route)
      (valid : validateUpgrade request route = none)
      (room : surroundings.websocketStates <
        min app.websocketMaxConnections app.maxConnections)
      (missing : surroundings.unavailable = some detail) (stated : States detail 503 response) :
      UpgradeRefused app surroundings request response

/-- A request that goes to the router: complete, no upgrade attempt, and nothing behind it. -/
structure Dispatches (app : Application Handler SocketHandler Time) (received : Bytes)
    (request : Request) : Prop where
  complete : Completes app received request []
  plain : isUpgradeAttempt request = false

/-- The router decides so on the received request, in the time its turn has. -/
def Chooses (app : Application Handler SocketHandler Time) (surroundings : Surroundings Time)
    (received : Bytes) (decision : Except Text (Dispatched Handler)) : Prop :=
  ∃ request, Dispatches app received request ∧
    (chooseHandler surroundings.timing app.timeouts app.router request).1 = decision

abbrev Handles (app : Application Handler SocketHandler Time)
    (surroundings : Surroundings Time) (received : Bytes) (handler : Handler)
    (request : Request) : Prop :=
  Chooses app surroundings received (.ok (.calls handler request))

/-- Why a response is sent: what its turn found, what was received, the handler calls, how the
handler ended and the event that is kept for the route observer. -/
inductive Reason (app : Application Handler SocketHandler Time)
    (surroundings : Surroundings Time) (received : Bytes) :
    List (Handler × Request) → Option HandlerEnd → Option Text → Response → Prop
  | rejected {status : Nat} {detail : String} {response : Response}
      (fed : (feed (HTTPRequestParser.new app.limits true) received).1 =
        .error (.httpParseError status detail)) (stated : States detail.toList status response) :
      Reason app surroundings received [] none none response
  | upgradeRefused {request : Request} {trailingData : Bytes} {response : Response}
      (complete : Completes app received request trailingData)
      (attempt : isUpgradeAttempt request = true)
      (refused : UpgradeRefused app surroundings request response) :
      Reason app surroundings received [] none none response
  | pipelined {request : Request} {trailingData : Bytes} {response : Response}
      (complete : Completes app received request trailingData)
      (plain : isUpgradeAttempt request = false) (more : trailingData ≠ [])
      (stated : States "pipelined requests are not supported".toList 400 response) :
      Reason app surroundings received [] none none response
  | delayed {routeId : Text} {response : Response}
      (late : Chooses app surroundings received (.error routeId))
      (stated : States "internal server error".toList 500 response) :
      Reason app surroundings received [] none (some routeId) response
  | failed {error : String} {response : Response}
      (raised : Chooses app surroundings received (.ok (.raises error)))
      (stated : States "internal server error".toList 500 response) :
      Reason app surroundings received [] none none response
  | routed {response : Response}
      (responds : Chooses app surroundings received (.ok (.responds response))) :
      Reason app surroundings received [] none none response
  | handled {handler : Handler} {request : Request} {outcome : Outcome} {response : Response}
      (handles : Handles app surroundings received handler request)
      (stated : Connection.handlerResponse outcome = some response) :
      Reason app surroundings received [(handler, request)] (some (.settled outcome)) none
        response
  | handlerFailed {handler : Handler} {request : Request} {outcome : Outcome}
      {response : Response} (handles : Handles app surroundings received handler request)
      (nothing : Connection.handlerResponse outcome = none)
      (stated : States "internal server error".toList 500 response) :
      Reason app surroundings received [(handler, request)] (some (.settled outcome)) none
        response
  | handlerDelayed {handler : Handler} {request : Request} {routeId : Text}
      {response : Response} (handles : Handles app surroundings received handler request)
      (stated : States "internal server error".toList 500 response) :
      Reason app surroundings received [(handler, request)] (some (.matchTimeout routeId))
        (some routeId) response

def HandlerEnd.event : HandlerEnd → Option Text
  | .settled _ => none
  | .matchTimeout routeId => some routeId

def Wire (response : Response) (payload : Bytes) : Prop :=
  ResponseWire.sendResponse response = .ok payload

inductive Ending (app : Application Handler SocketHandler Time)
    (found : Option (Surroundings Time)) (received : Bytes) :
    List (Handler × Request) → Option HandlerEnd → Option Text → List Response → Bytes →
      Option Raised → Prop
  | left (waits : (feed (HTTPRequestParser.new app.limits true) received).1 = .ok none) :
      Ending app found received [] none none [] [] none
  | leftInterrupted (number : Nat)
      (waits : (feed (HTTPRequestParser.new app.limits true) received).1 = .ok none) :
      Ending app found received [] none none [] [] (some (.interrupted number))
  | broken {detail : String}
      (fed : (feed (HTTPRequestParser.new app.limits true) received).1 =
        .error (.valueError detail)) :
      Ending app found received [] none none [] [] (some (.feed detail))
  | abandoned {handler : Handler} {request : Request} {surroundings : Surroundings Time}
      (number : Nat) (turn : found = some surroundings)
      (handles : Handles app surroundings received handler request) :
      Ending app found received [(handler, request)] none none [] []
        (some (.interrupted number))
  | answered {calls : List (Handler × Request)} {outcome : Option HandlerEnd}
      {event : Option Text} {response : Response} {payload : Bytes}
      {surroundings : Surroundings Time} (turn : found = some surroundings)
      (reason : Reason app surroundings received calls outcome event response)
      (wire : Wire response payload) :
      Ending app found received calls outcome event [response] payload none
  | cut {calls : List (Handler × Request)} {outcome : Option HandlerEnd} {event : Option Text}
      {response : Response} {payload written rest : Bytes} {surroundings : Surroundings Time}
      (failure : SendDelivery.Failure) (turn : found = some surroundings)
      (reason : Reason app surroundings received calls outcome event response)
      (wire : Wire response payload) (unsent : rest ≠ []) (divided : written ++ rest = payload) :
      Ending app found received calls outcome event [response] written (some (.send failure))
  | upgraded {request : Request} {trailingData : Bytes} (raised : Option Nat)
      (complete : Completes app received request trailingData)
      (attempt : isUpgradeAttempt request = true) :
      Ending app found received [] none none [] [] (raised.map Raised.websocket)

structure Idle (connection : Connection Handler SocketHandler) : Prop where
  calls : connection.calls = []
  outcome : connection.outcome = none
  event : connection.routeErrorEvent = none

structure Fresh (connection : Connection Handler SocketHandler) : Prop where
  responses : connection.responses = []
  written : connection.written = []
  enqueued : connection.enqueued = []
  finishes : connection.finishes = []

/-- What holds of a connection, wherever its loop stands, by what its last chunk was found
with. -/
inductive Stage (app : Application Handler SocketHandler Time)
    (found : Option (Surroundings Time)) (connection : Connection Handler SocketHandler) : Prop
  | reading (parser : HTTPRequestParser)
      (here : connection.phase = .atHead parser ∨ connection.phase = .receiving parser)
      (idle : Idle connection) (fresh : Fresh connection)
      (fed : feed (HTTPRequestParser.new app.limits true) connection.received =
        (.ok none, parser))
  | handling (handler : Handler) (request : Request) (surroundings : Surroundings Time)
      (here : connection.phase = .handling handler request) (fresh : Fresh connection)
      (turn : found = some surroundings)
      (handles : Handles app surroundings connection.received handler request)
      (calls : connection.calls = [(handler, request)]) (outcome : connection.outcome = none)
      (event : connection.routeErrorEvent = none)
  | sending (sending : SendDelivery.Phase) (response : Response) (payload : Bytes)
      (surroundings : Surroundings Time) (here : connection.phase = .sending sending)
      (turn : found = some surroundings)
      (reason : Reason app surroundings connection.received connection.calls connection.outcome
        connection.routeErrorEvent response) (responses : connection.responses = [response])
      (wire : Wire response payload)
      (leaves : SendDelivery.Leaves payload connection.written sending)
      (enqueued : connection.enqueued = []) (finishes : connection.finishes = [])
      (unfinished : sending ≠ .returned)
  | upgraded (request : Request) (route : WebSocketRoute SocketHandler) (trailingData : Bytes)
      (here : connection.phase = .upgraded request route trailingData) (idle : Idle connection)
      (fresh : Fresh connection)
      (complete : Completes app connection.received request trailingData)
      (attempt : isUpgradeAttempt request = true)
      (routed : app.websocketRoutes.lookup request.path = some route)
      (valid : validateUpgrade request route = none)
  | finished (primaryError : Option Raised) (here : connection.phase = .finished primaryError)
      (ending : Ending app found connection.received connection.calls connection.outcome
        connection.routeErrorEvent connection.responses connection.written primaryError)
      (enqueued : connection.enqueued = connection.routeErrorEvent.toList)
      (finishes : connection.finishes = [primaryError])

end Specification

section ParserErrors

variable {limits : Limits}

def Rejects (error : FeedError) : Prop :=
  ∀ status detail, error = .httpParseError status detail →
    status = 400 ∨ status = 413 ∨ status = 414

theorem rejects_badRequest (detail : String) : Rejects (.httpParseError 400 detail) := by
  rintro status other ⟨⟩
  exact Or.inl rfl

theorem rejects_tooLarge (detail : String) : Rejects (.httpParseError 413 detail) := by
  rintro status other ⟨⟩
  exact Or.inr (Or.inl rfl)

theorem rejects_uriTooLong (detail : String) : Rejects (.httpParseError 414 detail) := by
  rintro status other ⟨⟩
  exact Or.inr (Or.inr rfl)

theorem parseRequestLine_rejects {line : Text} {error : FeedError}
    (raised : parseRequestLine limits line = .error error) : Rejects error := by
  unfold parseRequestLine at raised
  split at raised
  · split at raised
    · cases raised
      exact rejects_badRequest _
    · split at raised
      · cases raised
        exact rejects_uriTooLong _
      · split at raised
        · cases raised
          exact rejects_badRequest _
        · cases raised
  · cases raised
    exact rejects_badRequest _

theorem readHeaderLines_rejects {lines : List Text} {error : FeedError}
    (raised : readHeaderLines lines = .error error) : Rejects error := by
  induction lines with
  | nil => cases raised
  | cons line lines induction =>
      unfold readHeaderLines at raised
      split at raised
      · cases raised
        exact rejects_badRequest _
      · split at raised
        · cases raised
          exact rejects_badRequest _
        · cases rest : readHeaderLines lines with
          | error inner =>
              rw [rest] at raised
              cases raised
              exact induction rest
          | ok pairs =>
              rw [rest] at raised
              cases raised

theorem parseContentLength_rejects {values : List Text} {error : FeedError}
    (raised : parseContentLength limits values = .error error) : Rejects error := by
  cases values with
  | nil => cases raised
  | cons value rest =>
      unfold parseContentLength at raised
      dsimp only at raised
      split at raised
      · cases converted : intOfDecimal value with
        | error inner =>
            rw [converted] at raised
            cases raised
            unfold intOfDecimal at converted
            split at converted
            · cases converted
            · cases converted
              exact nofun
        | ok length =>
            rw [converted] at raised
            simp only [bind, Except.bind] at raised
            split at raised
            · cases raised
              exact rejects_tooLarge _
            · cases raised
      · cases raised
        exact rejects_badRequest _

theorem parseFields_rejects {lines : List Text} {error : FeedError}
    (raised : parseFields limits lines = .error error) : Rejects error := by
  unfold parseFields at raised
  split at raised
  · cases raised
    exact rejects_tooLarge _
  · cases read : readHeaderLines lines with
    | error inner =>
        rw [read] at raised
        cases raised
        exact readHeaderLines_rejects read
    | ok pairs =>
        rw [read] at raised
        simp only [bind, Except.bind] at raised
        split at raised
        · cases raised
          exact rejects_badRequest _
        · split at raised
          · cases raised
            exact rejects_badRequest _
          · rename_i headers built
            cases declared : parseContentLength limits (contentLengths pairs) with
            | error inner =>
                rw [declared] at raised
                cases raised
                exact parseContentLength_rejects declared
            | ok length =>
                rw [declared] at raised
                dsimp only at raised
                split at raised
                · cases raised
                  exact rejects_badRequest _
                · cases raised

theorem parseHead_rejects {raw : Bytes} {error : FeedError}
    (raised : parseHead limits raw = .error error) : Rejects error := by
  unfold parseHead at raised
  split at raised
  · cases raised
    exact rejects_badRequest _
  · rename_i requestLine lines pieces
    cases first : parseRequestLine limits requestLine with
    | error inner =>
        rw [first] at raised
        cases raised
        exact parseRequestLine_rejects first
    | ok parsed =>
        rw [first] at raised
        simp only [bind, Except.bind] at raised
        cases rest : parseFields limits lines with
        | error inner =>
            rw [rest] at raised
            cases raised
            exact parseFields_rejects rest
        | ok fields =>
            rw [rest] at raised
            cases raised

theorem feed_rejects {s : Bytes} {error : FeedError}
    (raised : (feed (HTTPRequestParser.new limits true) s).1 = .error error) : Rejects error := by
  rw [feed_new] at raised
  have cases := feedHead_cases (HTTPRequestParser.awaitingHead limits true s)
  generalize feedHead (HTTPRequestParser.awaitingHead limits true s) = outcome at cases raised
  cases cases with
  | waiting => cases raised
  | overlong absent long =>
      cases raised
      exact rejects_tooLarge _
  | overlongHead marker found long =>
      cases raised
      exact rejects_tooLarge _
  | rejected marker inner found short parsed =>
      cases raised
      exact parseHead_rejects parsed
  | read marker head found short parsed =>
      have body := feedBody_cases
        ((HTTPRequestParser.awaitingHead limits true s).readHead head (marker + 4)) head
      generalize feedBody
        ((HTTPRequestParser.awaitingHead limits true s).readHead head (marker + 4)) head =
          bodyOutcome at body raised
      cases body with
      | waiting | completed => cases raised
      | pipelined long strict =>
          cases raised
          exact rejects_badRequest _
      | rejected detail complete built =>
          cases raised
          exact rejects_badRequest _

end ParserErrors

section Turns

variable {Handler SocketHandler Time : Type} [AddCommGroup Time] [LinearOrder Time]
variable {app : Application Handler SocketHandler Time}
variable {connection : Connection Handler SocketHandler} {response : Response}
variable {found : Option (Surroundings Time)} {surroundings : Surroundings Time}

theorem finish_stage {primaryError : Option Raised}
    (ending : Ending app found connection.received connection.calls connection.outcome
      connection.routeErrorEvent connection.responses connection.written primaryError)
    (enqueued : connection.enqueued = []) (finishes : connection.finishes = []) :
    Stage app found (connection.finish primaryError) := by
  refine .finished primaryError rfl ending ?_ ?_
  · change connection.enqueued ++ connection.routeErrorEvent.toList = _
    rw [enqueued]
    rfl
  · change connection.finishes ++ [primaryError] = _
    rw [finishes]
    rfl

theorem settle_stage {sending : SendDelivery.Phase} {payload : Bytes}
    (turn : found = some surroundings)
    (reason : Reason app surroundings connection.received connection.calls connection.outcome
      connection.routeErrorEvent response) (responses : connection.responses = [response])
    (wire : Wire response payload)
    (leaves : SendDelivery.Leaves payload connection.written sending)
    (enqueued : connection.enqueued = []) (finishes : connection.finishes = []) :
    Stage app found (connection.settle sending) := by
  cases sending with
  | returned =>
      refine finish_stage ?_ enqueued finishes
      rw [responses]
      have whole : connection.written = payload := leaves
      rw [whole]
      exact .answered turn reason wire
  | raised failure =>
      refine finish_stage ?_ enqueued finishes
      rw [responses]
      obtain ⟨rest, unsent, divided⟩ := leaves
      exact .cut failure turn reason wire unsent divided
  | offering send =>
      exact .sending _ response payload surroundings rfl turn reason responses wire leaves enqueued
        finishes nofun
  | waiting send mode =>
      exact .sending _ response payload surroundings rfl turn reason responses wire leaves enqueued
        finishes nofun

theorem wire_exists (response : Response) : ∃ payload, Wire response payload := by
  obtain ⟨closing, same, -⟩ := ResponseWire.sendResponse_closing response
  obtain ⟨payload, written, -⟩ := ResponseWire.readMessage_toHttp1 closing
  exact ⟨payload, same.trans written⟩

theorem answer_stage (turn : found = some surroundings) (fresh : Fresh connection)
    (reason : Reason app surroundings connection.received connection.calls connection.outcome
      connection.routeErrorEvent response) :
    Stage app found (connection.answer (.ok response)) := by
  obtain ⟨payload, wire⟩ := wire_exists response
  have sent : ResponseWire.sendResponse response = .ok payload := wire
  unfold Connection.answer
  dsimp only
  rw [sent]
  refine settle_stage turn reason ?_ wire ?_ fresh.enqueued fresh.finishes
  · change connection.responses ++ [response] = [response]
    rw [fresh.responses]
    rfl
  · change SendDelivery.Leaves payload connection.written _
    rw [fresh.written]
    exact SendDelivery.leaves_start payload

theorem states_exists (value : Text) {status : Nat} (range : 100 ≤ status ∧ status ≤ 599) :
    ∃ response, States value status response := by
  obtain ⟨response, built, -⟩ := RoutingDispatch.text_ok value range (Or.inl rfl)
  exact ⟨response, built⟩

theorem respond_stage {value : Text} {status : Nat} (range : 100 ≤ status ∧ status ≤ 599)
    (turn : found = some surroundings) (fresh : Fresh connection)
    (reason : ∀ response, States value status response → Reason app surroundings
      connection.received connection.calls connection.outcome connection.routeErrorEvent response) :
    Stage app found (connection.respond value status) := by
  obtain ⟨response, stated⟩ := states_exists value range
  have built : Response.text value status [] = .ok response := stated
  unfold Connection.respond
  rw [built]
  exact answer_stage turn fresh (reason response stated)

theorem fail_stage (turn : found = some surroundings) (fresh : Fresh connection)
    (reason : ∀ response, States "internal server error".toList 500 response →
      Reason app surroundings connection.received connection.calls connection.outcome
        connection.routeErrorEvent response) : Stage app found connection.fail :=
  respond_stage (by decide) turn fresh reason

theorem dispatchWebsocket_stage {request : Request} {trailingData : Bytes}
    (turn : found = some surroundings) (idle : Idle connection) (fresh : Fresh connection)
    (complete : Completes app connection.received request trailingData)
    (attempt : isUpgradeAttempt request = true) :
    Stage app found (connection.dispatchWebsocket app surroundings request trailingData) := by
  have reason : ∀ response, UpgradeRefused app surroundings request response →
      Reason app surroundings connection.received connection.calls connection.outcome
        connection.routeErrorEvent response := by
    intro response refused
    rw [idle.calls, idle.outcome, idle.event]
    exact .upgradeRefused complete attempt refused
  unfold Connection.dispatchWebsocket
  cases routed : app.websocketRoutes.lookup request.path with
  | none =>
      exact respond_stage (by decide) turn fresh fun response stated =>
        reason response (.unrouted routed stated)
  | some route =>
      dsimp only
      cases checked : validateUpgrade request route with
      | some refusal =>
          obtain ⟨response, built, -⟩ := refused_response request route checked
          dsimp only
          rw [built]
          exact answer_stage turn fresh (reason response (.invalid routed checked built))
      | none =>
          dsimp only
          split
          · rename_i occupied
            exact respond_stage (by decide) turn fresh fun response stated =>
              reason response (.full routed checked occupied stated)
          · rename_i room
            split
            · rename_i missing
              exact respond_stage (by decide) turn fresh fun response stated =>
                reason response
                  (.unavailable routed checked (Nat.lt_of_not_le room) missing stated)
            · exact .upgraded request route trailingData rfl ⟨idle.calls, idle.outcome, idle.event⟩
                ⟨fresh.responses, fresh.written, fresh.enqueued, fresh.finishes⟩ complete attempt
                routed checked

theorem dispatch_stage {request : Request} (turn : found = some surroundings)
    (idle : Idle connection) (fresh : Fresh connection)
    (dispatches : Dispatches app connection.received request) :
    Stage app found (connection.dispatch app surroundings request) := by
  unfold Connection.dispatch
  cases chosen : (chooseHandler surroundings.timing app.timeouts app.router request).1 with
  | error routeId =>
      refine fail_stage turn ⟨fresh.responses, fresh.written, fresh.enqueued, fresh.finishes⟩ ?_
      intro response stated
      change Reason app surroundings connection.received connection.calls connection.outcome
        (some routeId) response
      rw [idle.calls, idle.outcome]
      exact .delayed ⟨request, dispatches, chosen⟩ stated
  | ok dispatched =>
      cases dispatched with
      | raises error =>
          refine fail_stage turn fresh fun response stated => ?_
          rw [idle.calls, idle.outcome, idle.event]
          exact .failed ⟨request, dispatches, chosen⟩ stated
      | responds response =>
          refine answer_stage turn fresh ?_
          rw [idle.calls, idle.outcome, idle.event]
          exact .routed ⟨request, dispatches, chosen⟩
      | calls handler seen =>
          refine .handling handler seen surroundings rfl
            ⟨fresh.responses, fresh.written, fresh.enqueued, fresh.finishes⟩ turn
            ⟨request, dispatches, chosen⟩ ?_ idle.outcome idle.event
          change connection.calls ++ [(handler, seen)] = _
          rw [idle.calls]
          rfl

theorem serve_stage {request : Request} {trailingData : Bytes} (turn : found = some surroundings)
    (idle : Idle connection) (fresh : Fresh connection)
    (complete : Completes app connection.received request trailingData) :
    Stage app found (connection.serve app surroundings request trailingData) := by
  unfold Connection.serve
  split
  · rename_i attempt
    exact dispatchWebsocket_stage turn idle fresh complete attempt
  · rename_i plain
    have noAttempt : isUpgradeAttempt request = false := Bool.eq_false_iff.mpr plain
    split
    · rename_i more
      refine respond_stage (by decide) turn fresh fun response stated => ?_
      rw [idle.calls, idle.outcome, idle.event]
      exact .pipelined complete noAttempt more stated
    · rename_i nothing
      rw [not_not.mp nothing] at complete
      exact dispatch_stage turn idle fresh ⟨complete, noAttempt⟩

theorem receive_stage {parser : HTTPRequestParser} {chunk : Bytes}
    (turn : found = some surroundings) (idle : Idle connection) (fresh : Fresh connection)
    (fed : feed (HTTPRequestParser.new app.limits true) connection.received =
      (.ok none, parser)) :
    Stage app found (connection.receive app surroundings parser chunk) := by
  have joined : feed parser chunk =
      feed (HTTPRequestParser.new app.limits true) (connection.received ++ chunk) := by
    have state : (feed (HTTPRequestParser.new app.limits true) connection.received).2 = parser := by
      rw [fed]
    rw [← state]
    exact RequestSegmentation.feed_feed (by rw [fed]) chunk
  unfold Connection.receive
  dsimp only
  rw [joined]
  generalize result : feed (HTTPRequestParser.new app.limits true)
    (connection.received ++ chunk) = outcome
  have first : (feed (HTTPRequestParser.new app.limits true)
    (connection.received ++ chunk)).1 = outcome.1 := by rw [result]
  match outcome, result, first with
  | (.error (.httpParseError status detail), next), result, first =>
      have range : 100 ≤ status ∧ status ≤ 599 := by
        have known := feed_rejects first status detail rfl
        omega
      refine respond_stage range turn
        ⟨fresh.responses, fresh.written, fresh.enqueued, fresh.finishes⟩ fun response stated => ?_
      change Reason app surroundings (connection.received ++ chunk) connection.calls
        connection.outcome connection.routeErrorEvent response
      rw [idle.calls, idle.outcome, idle.event]
      exact .rejected first stated
  | (.error (.valueError detail), next), result, first =>
      refine finish_stage ?_ fresh.enqueued fresh.finishes
      change Ending app found (connection.received ++ chunk) connection.calls connection.outcome
        connection.routeErrorEvent connection.responses connection.written _
      rw [idle.calls, idle.outcome, idle.event, fresh.responses, fresh.written]
      exact .broken first
  | (.ok none, next), result, first =>
      exact .reading next (Or.inl rfl) ⟨idle.calls, idle.outcome, idle.event⟩
        ⟨fresh.responses, fresh.written, fresh.enqueued, fresh.finishes⟩ result
  | (.ok (some request), next), result, first =>
      exact serve_stage turn ⟨idle.calls, idle.outcome, idle.event⟩
        ⟨fresh.responses, fresh.written, fresh.enqueued, fresh.finishes⟩ ⟨next, result, rfl⟩

theorem handlerEnds_stage {handler : Handler} {request : Request} (ended : HandlerEnd)
    (turn : found = some surroundings) (fresh : Fresh connection)
    (handles : Handles app surroundings connection.received handler request)
    (calls : connection.calls = [(handler, request)])
    (event : connection.routeErrorEvent = none) :
    Stage app found (connection.handlerEnds ended) := by
  unfold Connection.handlerEnds
  cases ended with
  | matchTimeout routeId =>
      refine fail_stage turn ⟨fresh.responses, fresh.written, fresh.enqueued, fresh.finishes⟩ ?_
      intro response stated
      change Reason app surroundings connection.received connection.calls
        (some (.matchTimeout routeId)) (some routeId) response
      rw [calls]
      exact .handlerDelayed handles stated
  | settled outcome =>
      dsimp only
      cases result : Connection.handlerResponse outcome with
      | none =>
          refine fail_stage turn
            ⟨fresh.responses, fresh.written, fresh.enqueued, fresh.finishes⟩ ?_
          intro response stated
          change Reason app surroundings connection.received connection.calls
            (some (.settled outcome)) connection.routeErrorEvent response
          rw [calls, event]
          exact .handlerFailed handles result stated
      | some response =>
          refine answer_stage turn
            ⟨fresh.responses, fresh.written, fresh.enqueued, fresh.finishes⟩ ?_
          change Reason app surroundings connection.received connection.calls
            (some (.settled outcome)) connection.routeErrorEvent response
          rw [calls, event]
          exact .handled handles result

theorem Stage.read (stage : Stage app found connection) {parser : HTTPRequestParser}
    (here : connection.phase = .atHead parser ∨ connection.phase = .receiving parser) :
    Idle connection ∧ Fresh connection ∧
      feed (HTTPRequestParser.new app.limits true) connection.received = (.ok none, parser) := by
  cases stage with
  | reading other at' idle fresh fed =>
      have same : parser = other := by
        rcases here with head | receiving
        · rcases at' with other | other
          · exact Phase.atHead.inj (head.symm.trans other)
          · exact nomatch head.symm.trans other
        · rcases at' with other | other
          · exact nomatch receiving.symm.trans other
          · exact Phase.receiving.inj (receiving.symm.trans other)
      rw [same]
      exact ⟨idle, fresh, fed⟩
  | handling _ _ _ other =>
      rcases here with here | here
      · exact nomatch here.symm.trans other
      · exact nomatch here.symm.trans other
  | sending _ _ _ _ other =>
      rcases here with here | here
      · exact nomatch here.symm.trans other
      · exact nomatch here.symm.trans other
  | upgraded _ _ _ other =>
      rcases here with here | here
      · exact nomatch here.symm.trans other
      · exact nomatch here.symm.trans other
  | finished _ other =>
      rcases here with here | here
      · exact nomatch here.symm.trans other
      · exact nomatch here.symm.trans other

theorem Stage.handled (stage : Stage app found connection) {handler : Handler}
    {request : Request} (here : connection.phase = .handling handler request) :
    Fresh connection ∧
      (∃ surroundings, found = some surroundings ∧
        Handles app surroundings connection.received handler request) ∧
      connection.calls = [(handler, request)] ∧ connection.outcome = none ∧
      connection.routeErrorEvent = none := by
  cases stage with
  | reading _ at' =>
      rcases at' with other | other
      · exact nomatch here.symm.trans other
      · exact nomatch here.symm.trans other
  | handling _ _ surroundings other fresh turn handles calls outcome event =>
      obtain ⟨rfl, rfl⟩ := Phase.handling.inj (here.symm.trans other)
      exact ⟨fresh, ⟨surroundings, turn, handles⟩, calls, outcome, event⟩
  | sending _ _ _ _ other => exact nomatch here.symm.trans other
  | upgraded _ _ _ other => exact nomatch here.symm.trans other
  | finished _ other => exact nomatch here.symm.trans other

theorem Stage.sent (stage : Stage app found connection) {sending : SendDelivery.Phase}
    (here : connection.phase = .sending sending) :
    ∃ response payload surroundings, found = some surroundings ∧
      Reason app surroundings connection.received connection.calls connection.outcome
        connection.routeErrorEvent response ∧ connection.responses = [response] ∧
      Wire response payload ∧ SendDelivery.Leaves payload connection.written sending ∧
      connection.enqueued = [] ∧ connection.finishes = [] := by
  cases stage with
  | reading _ at' =>
      rcases at' with other | other
      · exact nomatch here.symm.trans other
      · exact nomatch here.symm.trans other
  | handling _ _ _ other => exact nomatch here.symm.trans other
  | sending _ response payload surroundings other turn reason responses wire leaves enqueued
      finishes _ =>
      cases here.symm.trans other
      exact ⟨response, payload, surroundings, turn, reason, responses, wire, leaves, enqueued,
        finishes⟩
  | upgraded _ _ _ other => exact nomatch here.symm.trans other
  | finished _ other => exact nomatch here.symm.trans other

theorem Stage.handedOver (stage : Stage app found connection) {request : Request}
    {route : WebSocketRoute SocketHandler} {trailingData : Bytes}
    (here : connection.phase = .upgraded request route trailingData) :
    Idle connection ∧ Fresh connection ∧
      Completes app connection.received request trailingData ∧ isUpgradeAttempt request = true ∧
      app.websocketRoutes.lookup request.path = some route ∧
      validateUpgrade request route = none := by
  cases stage with
  | reading _ at' =>
      rcases at' with other | other
      · exact nomatch here.symm.trans other
      · exact nomatch here.symm.trans other
  | handling _ _ _ other => exact nomatch here.symm.trans other
  | sending _ _ _ _ other => exact nomatch here.symm.trans other
  | upgraded _ _ _ other idle fresh complete attempt routed valid =>
      obtain ⟨rfl, rfl, rfl⟩ := Phase.upgraded.inj (here.symm.trans other)
      exact ⟨idle, fresh, complete, attempt, routed, valid⟩
  | finished _ other => exact nomatch here.symm.trans other

theorem leave_stage {primaryError : Option Raised} (idle : Idle connection)
    (fresh : Fresh connection)
    (ending : Ending app found connection.received ([] : List (Handler × Request)) none none [] []
      primaryError) : Stage app found (connection.finish primaryError) := by
  refine finish_stage ?_ fresh.enqueued fresh.finishes
  rw [idle.calls, idle.outcome, idle.event, fresh.responses, fresh.written]
  exact ending

theorem step_stage {label : Label Time} {next : Connection Handler SocketHandler}
    (stage : Stage app found connection) (step : Step app connection label next) :
    Stage app (label.found.or found) next := by
  cases step with
  | @continues parser here =>
      obtain ⟨idle, fresh, fed⟩ := stage.read (Or.inl here)
      exact .reading parser (Or.inr rfl) ⟨idle.calls, idle.outcome, idle.event⟩
        ⟨fresh.responses, fresh.written, fresh.enqueued, fresh.finishes⟩ fed
  | closes here =>
      obtain ⟨idle, fresh, fed⟩ := stage.read (Or.inl here)
      exact leave_stage idle fresh (.left (by rw [fed]))
  | receives chunk surroundings here nonempty =>
      obtain ⟨idle, fresh, fed⟩ := stage.read (Or.inr here)
      exact receive_stage rfl idle fresh fed
  | ends surroundings here =>
      obtain ⟨idle, fresh, fed⟩ := stage.read (Or.inr here)
      exact leave_stage idle fresh (.left (by rw [fed]))
  | receiveFails here =>
      obtain ⟨idle, fresh, fed⟩ := stage.read (Or.inr here)
      exact leave_stage idle fresh (.left (by rw [fed]))
  | receiveInterrupted number here =>
      obtain ⟨idle, fresh, fed⟩ := stage.read (Or.inr here)
      exact leave_stage idle fresh (.leftInterrupted number (by rw [fed]))
  | handled ended here =>
      obtain ⟨fresh, ⟨surroundings, turn, handles⟩, calls, -, event⟩ := stage.handled here
      exact handlerEnds_stage ended turn fresh handles calls event
  | handlerInterrupted number here =>
      obtain ⟨fresh, ⟨surroundings, turn, handles⟩, calls, outcome, event⟩ := stage.handled here
      refine finish_stage ?_ fresh.enqueued fresh.finishes
      rw [calls, outcome, event, fresh.responses, fresh.written]
      exact .abandoned number turn handles
  | sends label here sent =>
      obtain ⟨response, payload, surroundings, turn, reason, responses, wire, leaves, enqueued,
        finishes⟩ := stage.sent here
      exact settle_stage turn reason responses wire (SendDelivery.leaves_step leaves sent)
        enqueued finishes
  | websocketReturns here =>
      obtain ⟨idle, fresh, complete, attempt, -⟩ := stage.handedOver here
      exact leave_stage idle fresh (.upgraded none complete attempt)
  | websocketRaises number here =>
      obtain ⟨idle, fresh, complete, attempt, -⟩ := stage.handedOver here
      exact leave_stage idle fresh (.upgraded (some number) complete attempt)

theorem settle_outcome (sending : SendDelivery.Phase) :
    (connection.settle sending).outcome = connection.outcome := by
  cases sending <;> rfl

theorem answer_outcome (response : Except String Response) :
    (connection.answer response).outcome = connection.outcome := by
  unfold Connection.answer
  split
  · rfl
  · dsimp only
    split
    · rfl
    · exact settle_outcome _

theorem respond_outcome (value : Text) (status : Nat) :
    (connection.respond value status).outcome = connection.outcome := answer_outcome _

theorem receive_outcome (surroundings : Surroundings Time) (parser : HTTPRequestParser)
    (chunk : Bytes) :
    (connection.receive app surroundings parser chunk).outcome = connection.outcome := by
  unfold Connection.receive
  dsimp only
  split
  · exact respond_outcome _ _
  · rfl
  · rfl
  · unfold Connection.serve
    split
    · unfold Connection.dispatchWebsocket
      split
      · exact respond_outcome _ _
      · split
        · exact answer_outcome _
        · split
          · exact respond_outcome _ _
          · split
            · exact respond_outcome _ _
            · rfl
    · split
      · exact respond_outcome _ _
      · unfold Connection.dispatch
        split
        · exact respond_outcome _ _
        · exact respond_outcome _ _
        · exact answer_outcome _
        · rfl

theorem handlerEnds_outcome (ended : HandlerEnd) :
    (connection.handlerEnds ended).outcome = some ended := by
  unfold Connection.handlerEnds
  cases ended with
  | matchTimeout routeId => exact respond_outcome _ _
  | settled outcome =>
      dsimp only
      split
      · exact respond_outcome _ _
      · exact answer_outcome _

theorem step_outcome {label : Label Time} {next : Connection Handler SocketHandler}
    (step : Step app connection label next) :
    next.outcome = label.ended.or connection.outcome := by
  cases step with
  | continues | closes | ends | receiveFails | receiveInterrupted | handlerInterrupted
  | websocketReturns | websocketRaises => rfl
  | receives chunk surroundings => exact receive_outcome surroundings _ chunk
  | handled ended => exact handlerEnds_outcome ended
  | sends => exact settle_outcome _

theorem run_outcome {labels : List (Label Time)}
    (run : Run (Step app) (start app) labels connection) :
    connection.outcome = lastOf Label.ended labels := by
  induction run with
  | nil => rfl
  | snoc label before step induction => rw [lastOf_snoc, step_outcome step, induction]

theorem run_stage {labels : List (Label Time)}
    (run : Run (Step app) (start app) labels connection) :
    Stage app (lastOf Label.found labels) connection := by
  induction run with
  | nil =>
      exact .reading _ (Or.inl rfl) ⟨rfl, rfl, rfl⟩ ⟨rfl, rfl, rfl, rfl⟩
        (RequestSegmentation.feed_empty app.limits true)
  | snoc label before step induction =>
      rw [lastOf_snoc]
      exact step_stage induction step

end Turns

end SmallServer.Http1Connection
