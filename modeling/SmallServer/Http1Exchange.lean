import SmallServer.Http1Connection
import SmallServer.RequestErrors

/-!
# What an HTTP/1.1 connection does in a run

The consequences of `run_stage`: how often a handler is called and for which bytes, how often a
response is sent and how much of it arrives, how the connection ends. Against these, that a
request is served whatever the chunks it comes in.
-/

namespace SmallServer.Http1Exchange

open SmallServer HttpValues RequestParser RequestGrammar RequestErrors Routing RoutingDeadlines
open WebSocketUpgrade Runs Http1Connection

set_option autoImplicit false

section Specification

variable {Handler SocketHandler Time : Type} [AddCommGroup Time] [LinearOrder Time]

/-- The bytes are the head of this request, its body, and nothing else. -/
structure Spells (limits : Limits) (received : Bytes) (request : Request) (fields : List Field) :
    Prop where
  spelled : decodeLatin1 received =
    headText request.method request.rawTarget fields ++ decodeLatin1 request.body
  formed : WellFormedHead limits request.method request.rawTarget fields
  bounded : (headText request.method request.rawTarget fields).length ≤ limits.maxHeaderBytes
  length : request.body.length = declaredLength fields
  headers : request.headers.items = fields.map trimmed

def Answers : HandlerEnd → Response → Prop
  | .settled outcome, response =>
      Connection.handlerResponse outcome = some response ∨
        Connection.handlerResponse outcome = none ∧
          States "internal server error".toList 500 response
  | .matchTimeout _, response => States "internal server error".toList 500 response

/-- A match of the request ran into its deadline: in the turn that dispatched it, or in the
handler, which ended so. -/
def TimesOut (app : Application Handler SocketHandler Time) (labels : List (Label Time))
    (received : Bytes) (routeId : Text) : Prop :=
  (∃ surroundings, lastOf Label.found labels = some surroundings ∧
    Chooses app surroundings received (.error routeId)) ∨
    lastOf Label.ended labels = some (.matchTimeout routeId)

def deliveries (arrivals : List (Bytes × Surroundings Time)) : List (Label Time) :=
  arrivals.flatMap fun arrival => [.checks false, .receives arrival.1 arrival.2]

def arrived (arrivals : List (Bytes × Surroundings Time)) : Bytes := arrivals.flatMap Prod.fst

def waitingAt (app : Application Handler SocketHandler Time) (received : Bytes) :
    Connection Handler SocketHandler where
  phase := .atHead (feed (HTTPRequestParser.new app.limits true) received).2
  received := received

def receivingAt (app : Application Handler SocketHandler Time) (received : Bytes) :
    Connection Handler SocketHandler where
  phase := .receiving (feed (HTTPRequestParser.new app.limits true) received).2
  received := received

end Specification

section Received

variable {Handler SocketHandler Time : Type} [AddCommGroup Time] [LinearOrder Time]
variable {app : Application Handler SocketHandler Time} {received : Bytes} {request : Request}

theorem spells_of_completes (complete : Completes app received request []) :
    ∃ fields, Spells app.limits received request fields := by
  obtain ⟨parser, fed, trailing⟩ := complete
  have first : (feed (HTTPRequestParser.new app.limits true) received).1 = .ok (some request) := by
    rw [fed]
  obtain ⟨fields, rest, spelled, formed, bounded, length, headers⟩ := feed_request_spells first
  obtain ⟨marker, found, behind⟩ := RequestSegmentation.feed_request_trailing first
  have plain : ∀ field ∈ fields, isPlainValue (stripBlanks field.2) = true := by
    intro field member
    have built := request.headers.values_plain
    rw [headers] at built
    exact built (trimmed field) (List.mem_map_of_mem member)
  have here := find_terminator_headText formed plain spelled
  have inside := ListScan.find_length_le found
  have four : terminator.length = 4 := rfl
  have same : marker = (headText request.method request.rawTarget fields).length - 4 :=
    Option.some.inj (found.symm.trans here)
  have nothing : received.length ≤ marker + 4 + request.body.length := by
    rw [fed, trailing] at behind
    exact List.drop_eq_nil_iff.mp behind.symm
  have total := congrArg List.length spelled
  simp only [decodeLatin1_length, List.length_append] at total
  have long : 4 ≤ (headText request.method request.rawTarget fields).length := by
    rw [headText_eq_intercalate, List.length_append]
    exact Nat.le_add_left 4 _
  have restNil : rest = [] := by
    refine List.eq_nil_of_length_eq_zero ?_
    omega
  rw [restNil, List.append_nil] at spelled
  exact ⟨fields, spelled, formed, bounded, length, headers⟩

theorem completes_of_fed
    (fed : (feed (HTTPRequestParser.new app.limits true) received).1 = .ok (some request)) :
    Completes app received request
      (feed (HTTPRequestParser.new app.limits true) received).2.trailingData := by
  refine ⟨(feed (HTTPRequestParser.new app.limits true) received).2, ?_, rfl⟩
  rw [← fed]

theorem feed_valueError_iff {limits : Limits} :
    (∃ detail, (feed (HTTPRequestParser.new limits true) received).1 =
      .error (.valueError detail)) ↔ OversizedLength limits received :=
  (feed_holds (.awaiting (HTTPRequestParser.new limits true) rfl rfl rfl) received).2

theorem completes_silent {trailingData : Bytes} {error : FeedError}
    (complete : Completes app received request trailingData) :
    (feed (HTTPRequestParser.new app.limits true) received).1 ≠ .error error := by
  obtain ⟨parser, fed, -⟩ := complete
  rw [fed]
  exact nofun

/-- Before its last byte a request without trailing data is not complete, and not refused. -/
theorem waits_before {earlier later : Bytes} (more : later ≠ [])
    (complete : Completes app (earlier ++ later) request []) :
    (feed (HTTPRequestParser.new app.limits true) earlier).1 = .ok none := by
  obtain ⟨parser, fed, trailing⟩ := complete
  cases result : (feed (HTTPRequestParser.new app.limits true) earlier).1 with
  | error error =>
      have longer := RequestSegmentation.feed_error_append result later
      rw [fed] at longer
      exact nomatch longer
  | ok found =>
      cases found with
      | none => rfl
      | some other =>
          obtain ⟨-, behind⟩ := RequestSegmentation.feed_request_append result later
          rw [fed, trailing] at behind
          exact absurd (List.append_eq_nil_iff.mp behind.symm).2 more

end Received

section Runs

variable {Handler SocketHandler Time : Type} [AddCommGroup Time] [LinearOrder Time]
variable {app : Application Handler SocketHandler Time} {labels : List (Label Time)}
variable {connection : Connection Handler SocketHandler}
variable {found : Option (Surroundings Time)} {surroundings : Surroundings Time}
variable {received written : Bytes} {calls : List (Handler × Request)}
variable {outcome : Option HandlerEnd} {event : Option Text} {response : Response}
variable {responses : List Response} {primaryError : Option Raised}

theorem calls_of_reason
    (reason : Reason app surroundings received calls outcome event response) :
    calls = [] ∨ ∃ handler request surroundings, calls = [(handler, request)] ∧
      Handles app surroundings received handler request := by
  cases reason with
  | rejected | upgradeRefused | pipelined | delayed | failed | routed => exact Or.inl rfl
  | handled handles | handlerFailed handles | handlerDelayed handles =>
      exact Or.inr ⟨_, _, _, rfl, handles⟩

theorem calls_of_stage (stage : Stage app found connection) :
    connection.calls = [] ∨ ∃ handler request surroundings,
      connection.calls = [(handler, request)] ∧
        Handles app surroundings connection.received handler request := by
  cases stage with
  | reading _ _ idle | upgraded _ _ _ _ idle => exact Or.inl idle.calls
  | handling handler request surroundings _ _ _ handles calls =>
      exact Or.inr ⟨handler, request, surroundings, calls, handles⟩
  | sending _ _ _ _ _ _ reason => exact calls_of_reason reason
  | finished _ _ ending =>
      generalize connection.calls = calls at ending ⊢
      generalize connection.outcome = outcome at ending
      generalize connection.routeErrorEvent = event at ending
      generalize connection.responses = responses at ending
      generalize connection.written = written at ending
      cases ending with
      | left | leftInterrupted | broken | upgraded => exact Or.inl rfl
      | abandoned _ _ handles => exact Or.inr ⟨_, _, _, rfl, handles⟩
      | answered _ reason => exact calls_of_reason reason
      | cut _ _ reason => exact calls_of_reason reason

/-- **Handlers are called for what was received.** In every run at most one handler is called.
The received bytes then are one request that is no upgrade attempt, to the last byte, and the
call is the one the router alone decides for this request. -/
theorem handler_called_once [IsOrderedAddMonoid Time]
    (run : Run (Step app) (start app) labels connection) :
    connection.calls.length ≤ 1 ∧
      ∀ handler request, (handler, request) ∈ connection.calls →
        ∃ original fields, Spells app.limits connection.received original fields ∧
          isUpgradeAttempt original = false ∧
          Routing.chooseHandler app.router original = .calls handler request := by
  rcases calls_of_stage (run_stage run) with none | ⟨handler, request, surroundings, one, handles⟩
  · rw [none]
    exact ⟨Nat.zero_le 1, nofun⟩
  · rw [one]
    refine ⟨Nat.le_refl 1, ?_⟩
    intro other seen member
    cases List.mem_singleton.mp member
    obtain ⟨original, dispatches, chosen⟩ := handles
    obtain ⟨fields, spells⟩ := spells_of_completes dispatches.complete
    exact ⟨original, fields, spells, dispatches.plain,
      chooseHandler_ok surroundings.timing app.timeouts app.router chosen⟩

/-- **One response at most.** In every run at most one response is sent, for a reason that the
loop finds in the turn which completes the request or refuses the bytes; the bytes the kernel took
are a prefix of that response on the wire, and all of it exactly where the connection has ended
without an exception. -/
theorem answered_once (run : Run (Step app) (start app) labels connection) :
    connection.responses = [] ∧ connection.written = [] ∨
      ∃ response payload surroundings, connection.responses = [response] ∧
        lastOf Label.found labels = some surroundings ∧
        Reason app surroundings connection.received connection.calls connection.outcome
          connection.routeErrorEvent response ∧
        Wire response payload ∧ connection.written <+: payload ∧
        (connection.written = payload ↔ connection.phase = .finished none) := by
  cases run_stage run with
  | reading _ _ _ fresh | handling _ _ _ _ fresh | upgraded _ _ _ _ _ fresh =>
      exact Or.inl ⟨fresh.responses, fresh.written⟩
  | sending sending response payload surroundings here turn reason responses wire leaves _ _
      unfinished =>
      refine Or.inr ⟨response, payload, surroundings, responses, turn, reason, wire,
        leaves.taken_prefix, ?_⟩
      rw [here]
      exact iff_of_false (fun whole => unfinished (leaves.returned_iff.mpr whole)) nofun
  | finished primaryError here ending =>
      rw [here]
      generalize connection.calls = calls at ending ⊢
      generalize connection.outcome = outcome at ending ⊢
      generalize connection.routeErrorEvent = event at ending ⊢
      generalize connection.responses = responses at ending ⊢
      generalize connection.written = written at ending ⊢
      cases ending with
      | left | leftInterrupted | broken | abandoned | upgraded => exact Or.inl ⟨rfl, rfl⟩
      | answered turn reason wire =>
          exact Or.inr ⟨_, _, _, rfl, turn, reason, wire, List.prefix_rfl, iff_of_true rfl rfl⟩
      | cut failure turn reason wire unsent divided =>
          refine Or.inr ⟨_, _, _, rfl, turn, reason, wire, ⟨_, divided⟩, ?_⟩
          refine iff_of_false (fun whole => ?_) nofun
          rw [← divided] at whole
          exact unsent (List.append_right_eq_self.mp whole.symm)

theorem chooses_silent {decision : Except Text (Dispatched Handler)}
    (chooses : Chooses app surroundings received decision) {error : FeedError} :
    (feed (HTTPRequestParser.new app.limits true) received).1 ≠ .error error := by
  obtain ⟨request, dispatches, -⟩ := chooses
  exact completes_silent dispatches.complete

theorem chooses_complete {decision : Except Text (Dispatched Handler)}
    (chooses : Chooses app surroundings received decision) :
    (feed (HTTPRequestParser.new app.limits true) received).1 ≠ .ok none := by
  obtain ⟨request, ⟨⟨parser, fed, -⟩, -⟩, -⟩ := chooses
  rw [fed]
  exact nofun

theorem chooses_plain {decision : Except Text (Dispatched Handler)} {request : Request}
    {trailingData : Bytes} (chooses : Chooses app surroundings received decision)
    (complete : Completes app received request trailingData) :
    isUpgradeAttempt request = false ∧ trailingData = [] := by
  obtain ⟨original, ⟨⟨parser, fed, trailing⟩, plain⟩, -⟩ := chooses
  obtain ⟨other, whole, behind⟩ := complete
  rw [fed] at whole
  cases whole
  exact ⟨plain, behind.symm.trans trailing⟩

theorem chooses_unique {first second : Except Text (Dispatched Handler)}
    (chooses : Chooses app surroundings received first)
    (other : Chooses app surroundings received second) : first = second := by
  obtain ⟨request, ⟨⟨parser, fed, -⟩, -⟩, decided⟩ := chooses
  obtain ⟨again, ⟨⟨state, whole, -⟩, -⟩, same⟩ := other
  rw [fed] at whole
  cases whole
  exact decided.symm.trans same

theorem reason_silent
    (reason : Reason app surroundings received calls outcome event response) (detail : String) :
    (feed (HTTPRequestParser.new app.limits true) received).1 ≠ .error (.valueError detail) := by
  cases reason with
  | rejected fed =>
      rw [fed]
      exact nofun
  | upgradeRefused complete | pipelined complete => exact completes_silent complete
  | delayed chooses | failed chooses | routed chooses | handled chooses | handlerFailed chooses
  | handlerDelayed chooses => exact chooses_silent chooses

theorem ending_valueError
    (ending : Ending app found received calls outcome event responses written primaryError) :
    (∃ detail, primaryError = some (.feed detail)) ↔ OversizedLength app.limits received := by
  rw [← feed_valueError_iff]
  have silent : (∀ detail, primaryError ≠ some (.feed detail)) →
      (∀ detail, (feed (HTTPRequestParser.new app.limits true) received).1 ≠
        .error (.valueError detail)) →
      ((∃ detail, primaryError = some (.feed detail)) ↔ ∃ detail,
        (feed (HTTPRequestParser.new app.limits true) received).1 =
          .error (.valueError detail)) :=
    fun other clean => iff_of_false (fun ⟨detail, same⟩ => other detail same)
      fun ⟨detail, raised⟩ => clean detail raised
  cases ending with
  | left waits | leftInterrupted _ waits =>
      refine silent nofun fun detail => ?_
      rw [waits]
      exact nofun
  | broken fed => exact iff_of_true ⟨_, rfl⟩ ⟨_, fed⟩
  | abandoned _ _ handles => exact silent nofun fun _ => chooses_silent handles
  | answered _ reason | cut _ _ reason => exact silent nofun (reason_silent reason)
  | upgraded raised complete =>
      refine silent (fun detail => ?_) fun _ => completes_silent complete
      cases raised <;> exact nofun

theorem ending_formatted
    (ending : Ending app found received calls outcome event responses written primaryError)
    (detail : String) : primaryError ≠ some (.formatting detail) := by
  cases ending with
  | left | leftInterrupted | broken | abandoned | answered | cut => exact nofun
  | upgraded raised => cases raised <;> exact nofun

/-- A response is sent with an event exactly for a timeout, and is a 500 then. -/
theorem reason_event
    (reason : Reason app surroundings received calls outcome event response) (routeId : Text) :
    (event = some routeId ↔ Chooses app surroundings received (.error routeId) ∨
      outcome = some (.matchTimeout routeId)) ∧
      (event = some routeId → States "internal server error".toList 500 response) := by
  have never : event = none → ¬Chooses app surroundings received (.error routeId) →
      outcome ≠ some (.matchTimeout routeId) →
      (event = some routeId ↔ Chooses app surroundings received (.error routeId) ∨
        outcome = some (.matchTimeout routeId)) ∧
        (event = some routeId → States "internal server error".toList 500 response) := by
    rintro rfl inTime settled
    refine ⟨iff_of_false nofun fun late => ?_, nofun⟩
    rcases late with late | ended
    · exact inTime late
    · exact settled ended
  cases reason with
  | rejected fed => exact never rfl (fun late => chooses_silent late fed) nofun
  | upgradeRefused complete attempt =>
      refine never rfl (fun late => ?_) nofun
      rw [(chooses_plain late complete).1] at attempt
      cases attempt
  | pipelined complete _ more =>
      exact never rfl (fun late => more (chooses_plain late complete).2) nofun
  | failed raised => exact never rfl (fun late => nomatch chooses_unique late raised) nofun
  | routed responds => exact never rfl (fun late => nomatch chooses_unique late responds) nofun
  | handled handles | handlerFailed handles =>
      exact never rfl (fun late => nomatch chooses_unique late handles) nofun
  | @delayed other response late stated =>
      refine ⟨⟨?_, ?_⟩, fun _ => stated⟩
      · rintro ⟨⟩
        exact Or.inl late
      · rintro (again | ended)
        · cases chooses_unique late again
          rfl
        · cases ended
  | @handlerDelayed handler request other response handles stated =>
      refine ⟨⟨?_, ?_⟩, fun _ => stated⟩
      · rintro ⟨⟩
        exact Or.inr rfl
      · rintro (late | ended)
        · exact nomatch chooses_unique late handles
        · cases ended
          rfl

theorem ending_event
    (ending : Ending app found received calls outcome event responses written primaryError)
    (routeId : Text) :
    (event = some routeId ↔
      (∃ surroundings, found = some surroundings ∧
        Chooses app surroundings received (.error routeId)) ∨
        outcome = some (.matchTimeout routeId)) ∧
      (event = some routeId → ∃ response, responses = [response] ∧
        States "internal server error".toList 500 response) := by
  have never : event = none →
      (∀ surroundings, found = some surroundings →
        ¬Chooses app surroundings received (.error routeId)) →
      outcome ≠ some (.matchTimeout routeId) →
      (event = some routeId ↔
        (∃ surroundings, found = some surroundings ∧
          Chooses app surroundings received (.error routeId)) ∨
          outcome = some (.matchTimeout routeId)) ∧
        (event = some routeId → ∃ response, responses = [response] ∧
          States "internal server error".toList 500 response) := by
    rintro rfl inTime settled
    refine ⟨iff_of_false nofun fun late => ?_, nofun⟩
    rcases late with ⟨surroundings, turn, late⟩ | ended
    · exact inTime surroundings turn late
    · exact settled ended
  have sent : ∀ surroundings response, found = some surroundings → responses = [response] →
      Reason app surroundings received calls outcome event response →
      (event = some routeId ↔
        (∃ surroundings, found = some surroundings ∧
          Chooses app surroundings received (.error routeId)) ∨
          outcome = some (.matchTimeout routeId)) ∧
        (event = some routeId → ∃ response, responses = [response] ∧
          States "internal server error".toList 500 response) := by
    rintro surroundings response rfl rfl reason
    obtain ⟨kept, stated⟩ := reason_event reason routeId
    refine ⟨kept.trans (or_congr_left ⟨fun late => ⟨surroundings, rfl, late⟩, ?_⟩),
      fun some => ⟨response, rfl, stated some⟩⟩
    rintro ⟨again, turn, late⟩
    cases turn
    exact late
  cases ending with
  | left waits | leftInterrupted _ waits =>
      exact never rfl (fun _ _ late => chooses_complete late waits) nofun
  | broken fed => exact never rfl (fun _ _ late => chooses_silent late fed) nofun
  | abandoned _ turn handles =>
      refine never rfl (fun surroundings again late => ?_) nofun
      cases turn.symm.trans again
      exact nomatch chooses_unique late handles
  | answered turn reason => exact sent _ _ turn rfl reason
  | cut _ turn reason => exact sent _ _ turn rfl reason
  | upgraded raised complete attempt =>
      refine never rfl (fun surroundings turn late => ?_) nofun
      rw [(chooses_plain late complete).1] at attempt
      cases attempt

theorem finished_last {next : Connection Handler SocketHandler} {label : Label Time}
    (here : connection.phase = .finished primaryError) : ¬Step app connection label next := by
  intro step
  cases step with
  | continues other | closes other | receives _ _ other | ends _ other | receiveFails other
  | receiveInterrupted _ other | handled _ other | handlerInterrupted _ other | sends _ other
  | websocketReturns other | websocketRaises _ other => exact nomatch here.symm.trans other

/-- **Every connection ends once.** In every run the `finally` block is passed once, with the
exception that left the loop, or not yet; nothing follows it. The observer gets at most one event,
there and only there, and this one exactly where a match ran into its deadline: in the turn that
dispatched the request, or in its handler. Then a 500 is the response. The parser's own failure is
what leaves the loop exactly on a length of too many digits, and a response is never left
unformatted. -/
theorem ends_once (run : Run (Step app) (start app) labels connection) :
    (connection.finishes = [] ∧ connection.enqueued = [] ∧
        ∀ primaryError, connection.phase ≠ .finished primaryError) ∨
      ∃ primaryError, connection.phase = .finished primaryError ∧
        connection.finishes = [primaryError] ∧ connection.enqueued.length ≤ 1 ∧
        (∀ routeId, connection.enqueued = [routeId] ↔
          TimesOut app labels connection.received routeId) ∧
        (connection.enqueued ≠ [] → ∃ response, connection.responses = [response] ∧
          States "internal server error".toList 500 response) ∧
        ((∃ detail, primaryError = some (.feed detail)) ↔
          OversizedLength app.limits connection.received) ∧
        (∀ detail, primaryError ≠ some (.formatting detail)) ∧
        ∀ label next, ¬Step app connection label next := by
  cases run_stage run with
  | reading _ here _ fresh =>
      refine Or.inl ⟨fresh.finishes, fresh.enqueued, fun primaryError other => ?_⟩
      rcases here with here | here
      · exact nomatch here.symm.trans other
      · exact nomatch here.symm.trans other
  | handling _ _ _ here fresh | upgraded _ _ _ here _ fresh =>
      exact Or.inl ⟨fresh.finishes, fresh.enqueued, fun _ other => nomatch here.symm.trans other⟩
  | sending _ _ _ _ here _ _ _ _ _ enqueued finishes =>
      exact Or.inl ⟨finishes, enqueued, fun _ other => nomatch here.symm.trans other⟩
  | finished primaryError here ending enqueued finishes =>
      have kept := ending_event ending
      rw [run_outcome run] at kept
      refine Or.inr ⟨primaryError, here, finishes, ?_, ?_, ?_, ending_valueError ending,
        ending_formatted ending, fun label next => finished_last here⟩
      · rw [enqueued]
        cases connection.routeErrorEvent with
        | none => exact Nat.zero_le 1
        | some routeId => exact Nat.le_refl 1
      · intro routeId
        rw [enqueued, Option.toList_eq_singleton_iff]
        exact (kept routeId).1
      · rw [enqueued]
        intro some
        obtain ⟨routeId, event⟩ := Option.ne_none_iff_exists'.mp
          (mt Option.toList_eq_nil_iff.mpr some)
        exact (kept routeId).2 event

end Runs

section Service

variable {Handler SocketHandler Time : Type} [AddCommGroup Time] [LinearOrder Time]
variable {app : Application Handler SocketHandler Time}

theorem turn_run (received : Bytes) {chunk : Bytes} (surroundings : Surroundings Time)
    (nonempty : chunk ≠ []) :
    Run (Step app) (waitingAt app received) (deliveries [(chunk, surroundings)])
      ((receivingAt app received).receive app surroundings
        (feed (HTTPRequestParser.new app.limits true) received).2 chunk) :=
  Run.cons (.continues rfl) (Run.single (.receives chunk surroundings rfl nonempty))

theorem wait_run {received chunk : Bytes} (surroundings : Surroundings Time)
    (before : (feed (HTTPRequestParser.new app.limits true) received).1 = .ok none)
    (after : (feed (HTTPRequestParser.new app.limits true) (received ++ chunk)).1 = .ok none)
    (nonempty : chunk ≠ []) :
    Run (Step app) (waitingAt app received) (deliveries [(chunk, surroundings)])
      (waitingAt app (received ++ chunk)) := by
  have turn := @turn_run Handler SocketHandler Time _ _ app received chunk surroundings nonempty
  unfold Connection.receive receivingAt at turn
  rw [RequestSegmentation.feed_feed before chunk] at turn
  unfold waitingAt at turn ⊢
  generalize feed (HTTPRequestParser.new app.limits true) (received ++ chunk) = outcome
    at after turn ⊢
  obtain ⟨result, parser⟩ := outcome
  cases after
  exact turn

theorem start_waits : start app = waitingAt app [] := by
  unfold start waitingAt
  rw [RequestSegmentation.feed_empty]

theorem arrivals_run {arrivals : List (Bytes × Surroundings Time)} {later : Bytes}
    {request : Request} (nonempty : ∀ arrival ∈ arrivals, arrival.1 ≠ []) (more : later ≠ [])
    (complete : Completes app (arrived arrivals ++ later) request []) :
    Run (Step app) (start app) (deliveries arrivals) (waitingAt app (arrived arrivals)) := by
  induction arrivals using List.reverseRecOn generalizing later with
  | nil =>
      rw [start_waits]
      exact .nil
  | append_singleton arrivals arrival induction =>
      have split : arrived (arrivals ++ [arrival]) = arrived arrivals ++ arrival.1 := by
        unfold arrived
        rw [List.flatMap_append, List.flatMap_singleton]
      have labels : deliveries (arrivals ++ [arrival]) =
          deliveries arrivals ++ deliveries [arrival] := List.flatMap_append
      have some : arrival.1 ≠ [] := nonempty arrival (List.mem_append_right _ (by simp))
      rw [split] at complete ⊢
      rw [labels]
      have after := waits_before more complete
      rw [List.append_assoc] at complete
      have before := waits_before (List.append_ne_nil_of_left_ne_nil some later) complete
      refine (induction (fun other member => nonempty other (List.mem_append_left _ member))
        (List.append_ne_nil_of_left_ne_nil some later) complete).append ?_
      exact wait_run arrival.2 before after some

theorem dispatch_run {received chunk : Bytes} {surroundings : Surroundings Time}
    {request seen : Request} {handler : Handler} (nonempty : chunk ≠ [])
    (before : (feed (HTTPRequestParser.new app.limits true) received).1 = .ok none)
    (dispatches : Dispatches app (received ++ chunk) request)
    (chosen : (chooseHandler surroundings.timing app.timeouts app.router request).1 =
      .ok (.calls handler seen)) :
    Run (Step app) (waitingAt app received) (deliveries [(chunk, surroundings)])
      { phase := .handling handler seen
        received := received ++ chunk
        calls := [(handler, seen)] } := by
  have turn := @turn_run Handler SocketHandler Time _ _ app received chunk surroundings nonempty
  obtain ⟨⟨parser, fed, trailing⟩, plain⟩ := dispatches
  unfold Connection.receive receivingAt at turn
  rw [RequestSegmentation.feed_feed before chunk, fed] at turn
  unfold Connection.serve Connection.dispatch at turn
  dsimp only at turn
  rw [plain, trailing, chosen] at turn
  exact turn

theorem handlerEnds_answers {connection : Connection Handler SocketHandler} {ended : HandlerEnd}
    {response : Response} {payload : Bytes} (answers : Answers ended response)
    (wire : Wire response payload) (event : connection.routeErrorEvent = none) :
    connection.handlerEnds ended =
      { connection with
        outcome := some ended
        routeErrorEvent := ended.event
        responses := connection.responses ++ [response] }.settle (SendDelivery.start payload) := by
  have sent : ResponseWire.sendResponse response = .ok payload := wire
  have failed : ∀ answering : Connection Handler SocketHandler,
      States "internal server error".toList 500 response → answering.fail =
        { answering with responses := answering.responses ++ [response] }.settle
          (SendDelivery.start payload) := by
    intro answering stated
    have built : Response.text "internal server error".toList 500 [] = .ok response := stated
    unfold Connection.fail Connection.respond Connection.answer
    dsimp only
    rw [built]
    dsimp only
    rw [sent]
  unfold Connection.handlerEnds
  cases ended with
  | matchTimeout routeId => exact failed _ answers
  | settled outcome =>
      have silent : (HandlerEnd.settled outcome).event = connection.routeErrorEvent := event.symm
      rw [silent]
      rcases answers with returned | ⟨nothing, stated⟩
      · dsimp only
        rw [returned]
        unfold Connection.answer
        dsimp only
        rw [sent]
      · dsimp only
        rw [nothing]
        exact failed _ stated

theorem sends_run {connection : Connection Handler SocketHandler}
    {sending last : SendDelivery.Phase} {sends : List SendDelivery.Label}
    (run : Run SendDelivery.Step sending sends last) :
    Run (Step app) (connection.settle sending) (sends.map Label.sends)
      ({ connection with
        written := connection.written ++ SendDelivery.accepted sends }.settle last) := by
  induction run with
  | nil =>
      have none : SendDelivery.accepted [] = [] := rfl
      rw [none, List.append_nil]
      exact .nil
  | @snoc sends middle next label before step induction =>
      rw [List.map_append]
      refine .snoc (Label.sends label) induction ?_
      have joined : SendDelivery.accepted (sends ++ [label]) =
          SendDelivery.accepted sends ++ label.accepted := by
        unfold SendDelivery.accepted
        rw [List.flatMap_append, List.flatMap_singleton]
      rw [joined, ← List.append_assoc]
      have settled : ∀ phase : Phase Handler SocketHandler,
          Connection.settle { connection with
            phase := phase
            written := connection.written ++ SendDelivery.accepted sends ++ label.accepted } next =
          Connection.settle { connection with
            written := connection.written ++ SendDelivery.accepted sends ++ label.accepted }
            next := by
        intro phase
        cases next <;> rfl
      rw [← settled (.sending middle)]
      cases step with
      | sent answer => exact .sends _ rfl (.sent answer)
      | ready => exact .sends _ rfl .ready
      | interrupted => exact .sends _ rfl .interrupted

/-- Some kernel takes everything that is sent. -/
theorem delivered_whole (payload : Bytes) :
    ∃ sends, Run SendDelivery.Step (SendDelivery.start payload) sends .returned := by
  unfold SendDelivery.start
  cases KernelTransport.SendAll.start payload with
  | none => exact ⟨[], .nil⟩
  | some send =>
      have unfinished := send.unfinished
      have offered : (send.offer.length : Int) = send.data.length - send.offset := by
        rw [KernelTransport.SendAll.offer_length]
        omega
      have last : SendDelivery.afterTurn send (send.turn (.sent send.offer.length)) =
          .returned := by
        unfold KernelTransport.SendAll.turn
        dsimp only
        rw [if_neg (by omega), if_neg (by omega)]
        unfold KernelTransport.SendAll.advance
        rw [dif_neg (by omega)]
        rfl
      exact ⟨_, Run.single (last ▸ SendDelivery.Step.sent (.sent send.offer.length))⟩

theorem service_run {arrivals : List (Bytes × Surroundings Time)} {chunk payload : Bytes}
    {surroundings : Surroundings Time} {request seen : Request} {handler : Handler}
    {ended : HandlerEnd} {response : Response} {sends : List SendDelivery.Label}
    (nonempty : ∀ arrival ∈ arrivals ++ [(chunk, surroundings)], arrival.1 ≠ [])
    (dispatches : Dispatches app (arrived (arrivals ++ [(chunk, surroundings)])) request)
    (chosen : (chooseHandler surroundings.timing app.timeouts app.router request).1 =
      .ok (.calls handler seen)) (answers : Answers ended response)
    (wire : Wire response payload)
    (delivered : Run SendDelivery.Step (SendDelivery.start payload) sends .returned) :
    Run (Step app) (start app)
      (deliveries (arrivals ++ [(chunk, surroundings)]) ++
        .handled ended :: sends.map Label.sends)
      { phase := .finished none
        routeErrorEvent := ended.event
        received := arrived (arrivals ++ [(chunk, surroundings)])
        calls := [(handler, seen)]
        outcome := some ended
        responses := [response]
        written := payload
        enqueued := ended.event.toList
        finishes := [none] } := by
  have split : arrived (arrivals ++ [(chunk, surroundings)]) = arrived arrivals ++ chunk := by
    unfold arrived
    rw [List.flatMap_append, List.flatMap_singleton]
  have labels : deliveries (arrivals ++ [(chunk, surroundings)]) =
      deliveries arrivals ++ deliveries [(chunk, surroundings)] := List.flatMap_append
  rw [split] at dispatches ⊢
  rw [labels]
  have some : chunk ≠ [] := nonempty _ (List.mem_append_right _ (List.mem_singleton.mpr rfl))
  have before := waits_before some dispatches.complete
  have reading := arrivals_run
    (fun arrival member => nonempty arrival (List.mem_append_left _ member)) some
    dispatches.complete
  have called := reading.append (dispatch_run some before dispatches chosen)
  have handled := called.snoc (Label.handled ended) (.handled ended rfl)
  rw [handlerEnds_answers answers wire rfl] at handled
  have sent := handled.append (sends_run delivered)
  rw [List.append_assoc, List.singleton_append] at sent
  have whole : SendDelivery.accepted sends = payload := SendDelivery.leaves_of_run delivered
  rw [whole] at sent
  exact sent

theorem answers_exists (ended : HandlerEnd) : ∃ response, Answers ended response := by
  obtain ⟨failure, stated⟩ := states_exists "internal server error".toList
    (by decide : 100 ≤ 500 ∧ 500 ≤ 599)
  cases ended with
  | matchTimeout routeId => exact ⟨failure, stated⟩
  | settled outcome =>
      cases result : Connection.handlerResponse outcome with
      | some response => exact ⟨response, Or.inl result⟩
      | none => exact ⟨failure, Or.inr ⟨result, stated⟩⟩

/-- **A request is served.** Whatever the chunks in which a request arrives: the handler that is
chosen for it in time is called, and however it ends there is a response to its end, such that
against every kernel that takes the whole of it, and there are such, the connection runs to its
end, with this one call, this one response and all of its bytes taken, and with an event for the
observer exactly where the handler ended with a `RouteMatchTimeout`. -/
theorem served_in_full {arrivals : List (Bytes × Surroundings Time)} {chunk : Bytes}
    {surroundings : Surroundings Time} {request seen : Request} {handler : Handler}
    (nonempty : ∀ arrival ∈ arrivals ++ [(chunk, surroundings)], arrival.1 ≠ [])
    (dispatches : Dispatches app (arrived (arrivals ++ [(chunk, surroundings)])) request)
    (chosen : (chooseHandler surroundings.timing app.timeouts app.router request).1 =
      .ok (.calls handler seen)) (ended : HandlerEnd) :
    ∃ response payload, Answers ended response ∧ Wire response payload ∧
      (∃ sends, Run SendDelivery.Step (SendDelivery.start payload) sends .returned) ∧
      ∀ sends, Run SendDelivery.Step (SendDelivery.start payload) sends .returned →
        ∃ connection, Run (Step app) (start app)
            (deliveries (arrivals ++ [(chunk, surroundings)]) ++
              .handled ended :: sends.map Label.sends) connection ∧
          connection.phase = .finished none ∧ connection.calls = [(handler, seen)] ∧
          connection.responses = [response] ∧ connection.written = payload ∧
          connection.enqueued = ended.event.toList ∧ connection.finishes = [none] := by
  obtain ⟨response, answers⟩ := answers_exists ended
  obtain ⟨payload, wire⟩ := wire_exists response
  refine ⟨response, payload, answers, wire, delivered_whole payload, fun sends delivered => ?_⟩
  exact ⟨_, service_run nonempty dispatches chosen answers wire delivered, rfl, rfl, rfl, rfl,
    rfl, rfl⟩

end Service

section Samples

def sampleApp : Application Nat Unit Int where
  limits := defaultLimits
  maxConnections := 4
  router := RoutingDispatch.sampleRouter
  timeouts := sampleTimeouts
  websocketRoutes := ∅
  websocketMaxConnections := 4

def sampleArrivals : List (Bytes × Surroundings Int) :=
  [(encodeLatin1 "GET /a HTTP/1.1\r\nHo".toList,
      { timing := sampleTiming, websocketStates := 0, unavailable := none }),
    (encodeLatin1 "st: a\r\n\r\n".toList,
      { timing := sampleTiming, websocketStates := 0, unavailable := none })]

def sampleRequest : Request where
  method := "GET".toList
  path := "/a".toList
  headers := { Headers.empty with
    items := [("Host".toList, "a".toList)]
    names_token := by decide
    values_plain := by decide
    names_distinct := by decide }
  body := []
  version := "HTTP/1.1".toList
  rawTarget := "/a".toList
  queryString := []
  pathParams := []
  routePattern := none
  method_token := WebSocketUpgrade.sampleMethod_token
  target_rooted := rfl
  path_split := by decide
  query_split := by decide

theorem sampleDispatches : Dispatches sampleApp (arrived sampleArrivals) sampleRequest where
  complete := ⟨_, Prod.ext (by decide +kernel : (feed (HTTPRequestParser.new defaultLimits true)
    (arrived sampleArrivals)).1 = .ok (some sampleRequest)) rfl, by decide +kernel⟩
  plain := by decide +kernel

theorem sampleChosen : (RoutingDeadlines.chooseHandler sampleTiming sampleTimeouts
    RoutingDispatch.sampleRouter sampleRequest).1 = .ok (.calls 1 sampleRequest) := by
  have known : RoutingDispatch.sampleRouter.staticHandler sampleRequest.method
      sampleRequest.path = some 1 := by decide +kernel
  unfold RoutingDeadlines.chooseHandler
  rw [known]
  rfl

def sampleEnd : HandlerEnd := .matchTimeout "regex-route-1".toList

theorem sampleRun : ∃ response payload, ∃ sends : List SendDelivery.Label,
    Run (Step sampleApp) (start sampleApp)
      (deliveries sampleArrivals ++ .handled sampleEnd :: sends.map Label.sends)
      { phase := .finished none
        routeErrorEvent := sampleEnd.event
        received := arrived sampleArrivals
        calls := [(1, sampleRequest)]
        outcome := some sampleEnd
        responses := [response]
        written := payload
        enqueued := sampleEnd.event.toList
        finishes := [none] } := by
  obtain ⟨response, answers⟩ := answers_exists sampleEnd
  obtain ⟨payload, wire⟩ := wire_exists response
  obtain ⟨sends, delivered⟩ := delivered_whole payload
  have run := @service_run Nat Unit Int _ _ sampleApp (sampleArrivals.take 1) _ payload _
    sampleRequest sampleRequest 1 sampleEnd response sends
    (ListScan.forall_of_all (by decide)) sampleDispatches sampleChosen answers wire delivered
  exact ⟨response, payload, sends, run⟩

theorem handler_called_once_sample : ∃ labels connection,
    Run (Step sampleApp) (start sampleApp) labels connection ∧
      connection.calls = [(1, sampleRequest)] ∧ connection.calls.length ≤ 1 ∧
      ∃ original fields, Spells defaultLimits connection.received original fields ∧
        isUpgradeAttempt original = false ∧
        Routing.chooseHandler RoutingDispatch.sampleRouter original = .calls 1 sampleRequest := by
  obtain ⟨response, payload, sends, run⟩ := sampleRun
  obtain ⟨once, called⟩ := handler_called_once run
  exact ⟨_, _, run, rfl, once, called 1 sampleRequest (List.mem_singleton.mpr rfl)⟩

theorem answered_once_sample : ∃ labels connection,
    Run (Step sampleApp) (start sampleApp) labels connection ∧
      connection.phase = .finished none ∧
      (connection.responses = [] ∧ connection.written = [] ∨
        ∃ response payload surroundings, connection.responses = [response] ∧
          lastOf Label.found labels = some surroundings ∧
          Reason sampleApp surroundings connection.received connection.calls connection.outcome
            connection.routeErrorEvent response ∧
          Wire response payload ∧ connection.written <+: payload ∧
          (connection.written = payload ↔ connection.phase = .finished none)) := by
  obtain ⟨response, payload, sends, run⟩ := sampleRun
  exact ⟨_, _, run, rfl, answered_once run⟩

theorem ends_once_sample : ∃ labels connection,
    Run (Step sampleApp) (start sampleApp) labels connection ∧
      connection.enqueued = ["regex-route-1".toList] ∧
      ∃ primaryError, connection.phase = .finished primaryError ∧
        connection.finishes = [primaryError] ∧ connection.enqueued.length ≤ 1 ∧
        (∀ routeId, connection.enqueued = [routeId] ↔
          TimesOut sampleApp labels connection.received routeId) ∧
        ((∃ detail, primaryError = some (.feed detail)) ↔
          OversizedLength defaultLimits connection.received) := by
  obtain ⟨response, payload, sends, run⟩ := sampleRun
  rcases ends_once run with ⟨-, -, unfinished⟩ |
    ⟨primaryError, here, once, single, events, -, feeds, -⟩
  · exact absurd rfl (unfinished none)
  · exact ⟨_, _, run, rfl, primaryError, here, once, single, events, feeds⟩

theorem served_in_full_sample : ∃ response payload, ∃ sends : List SendDelivery.Label,
    ∃ connection,
    Answers sampleEnd response ∧ Wire response payload ∧
      Run (Step sampleApp) (start sampleApp)
        (deliveries sampleArrivals ++ .handled sampleEnd :: sends.map Label.sends) connection ∧
      connection.phase = .finished none ∧ connection.calls = [(1, sampleRequest)] ∧
      connection.responses = [response] ∧ connection.written = payload ∧
      connection.enqueued = ["regex-route-1".toList] := by
  obtain ⟨response, payload, answers, wire, ⟨sends, delivered⟩, served⟩ :=
    @served_in_full Nat Unit Int _ _ sampleApp (sampleArrivals.take 1) _ _ sampleRequest
      sampleRequest 1 (ListScan.forall_of_all (by decide)) sampleDispatches sampleChosen sampleEnd
  obtain ⟨connection, run, here, calls, responses, written, events, -⟩ := served sends delivered
  exact ⟨response, payload, sends, connection, answers, wire, run, here, calls, responses,
    written, events⟩

end Samples

end SmallServer.Http1Exchange
