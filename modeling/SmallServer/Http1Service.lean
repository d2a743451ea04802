import SmallServer.Http1Exchange

/-!
# All HTTP/1.1 connections of one server

Connections take their turns in any order. What one of them sees of the others is how many
WebSockets there are at the moment it asks.
-/

namespace SmallServer.Http1Service

open SmallServer HttpValues RequestParser Routing WebSocketUpgrade Runs Http1Connection
open Http1Exchange

set_option autoImplicit false

section Model

variable {Handler SocketHandler Time : Type} [AddCommGroup Time] [LinearOrder Time]

abbrev Service (Handler SocketHandler : Type) := List (Connection Handler SocketHandler)

def isUpgraded (connection : Connection Handler SocketHandler) : Bool :=
  match connection.phase with
  | .upgraded _ _ _ => true
  | _ => false

/-- `len(handle._websocket_states)`. -/
def websocketStates (service : Service Handler SocketHandler) : Nat := service.countP isUpgraded

inductive Move (Time : Type) where
  | accepts
  | turns (number : Nat) (label : Label Time)

/-- The turn reads the number of WebSockets as it is. -/
def Counts (service : Service Handler SocketHandler) (label : Label Time) : Prop :=
  ∀ chunk surroundings, label = .receives chunk surroundings →
    surroundings.websocketStates = websocketStates service

inductive Moves (app : Application Handler SocketHandler Time) :
    Service Handler SocketHandler → Move Time → Service Handler SocketHandler → Prop
  | accepts {service : Service Handler SocketHandler} :
      Moves app service .accepts (service ++ [start app])
  | turns {service : Service Handler SocketHandler} {number : Nat}
      {connection next : Connection Handler SocketHandler} {label : Label Time}
      (here : service[number]? = some connection) (counts : Counts service label)
      (step : Step app connection label next) :
      Moves app service (.turns number label) (service.set number next)

def capacity (app : Application Handler SocketHandler Time) : Nat :=
  min app.websocketMaxConnections app.maxConnections

end Model

section Turns

variable {Handler SocketHandler Time : Type} [AddCommGroup Time] [LinearOrder Time]
variable {app : Application Handler SocketHandler Time}
variable {connection next : Connection Handler SocketHandler} {label : Label Time}

theorem settle_closed (sending : SendDelivery.Phase) :
    isUpgraded (connection.settle sending) = false := by
  cases sending <;> rfl

theorem answer_closed (response : Except String Response) :
    isUpgraded (connection.answer response) = false := by
  unfold Connection.answer
  split
  · rfl
  · dsimp only
    split
    · rfl
    · exact settle_closed _

theorem respond_closed (value : Text) (status : Nat) :
    isUpgraded (connection.respond value status) = false := answer_closed _

theorem respond_responses {value : Text} {status : Nat} {response : Response}
    (stated : States value status response) :
    (connection.respond value status).responses = connection.responses ++ [response] := by
  have built : Response.text value status [] = .ok response := stated
  unfold Connection.respond
  rw [built]
  unfold Connection.answer
  dsimp only
  split
  · rfl
  · rename_i payload written
    cases SendDelivery.start payload <;> rfl

/-- A connection becomes a WebSocket on a valid offer, and only while there is room. -/
theorem dispatchWebsocket_upgraded {request : Request} {trailingData : Bytes}
    {surroundings : Surroundings Time}
    (upgraded : isUpgraded
      (connection.dispatchWebsocket app surroundings request trailingData) = true) :
    surroundings.websocketStates < capacity app := by
  unfold Connection.dispatchWebsocket at upgraded
  split at upgraded
  · rw [respond_closed] at upgraded
    cases upgraded
  · split at upgraded
    · rw [answer_closed] at upgraded
      cases upgraded
    · split at upgraded
      · rw [respond_closed] at upgraded
        cases upgraded
      · rename_i room
        exact Nat.lt_of_not_le room

theorem dispatch_closed {request : Request} {surroundings : Surroundings Time} :
    isUpgraded (connection.dispatch app surroundings request) = false := by
  unfold Connection.dispatch
  split
  · exact respond_closed _ _
  · exact respond_closed _ _
  · exact answer_closed _
  · rfl

theorem handlerEnds_closed (ended : HandlerEnd) :
    isUpgraded (connection.handlerEnds ended) = false := by
  unfold Connection.handlerEnds
  cases ended with
  | matchTimeout routeId => exact respond_closed _ _
  | settled outcome =>
      dsimp only
      split
      · exact respond_closed _ _
      · exact answer_closed _

theorem receive_upgraded {parser : HTTPRequestParser} {chunk : Bytes}
    {surroundings : Surroundings Time}
    (upgraded : isUpgraded (connection.receive app surroundings parser chunk) = true) :
    surroundings.websocketStates < capacity app := by
  unfold Connection.receive at upgraded
  dsimp only at upgraded
  split at upgraded
  · rw [respond_closed] at upgraded
    cases upgraded
  · cases upgraded
  · cases upgraded
  · unfold Connection.serve at upgraded
    split at upgraded
    · exact dispatchWebsocket_upgraded upgraded
    · split at upgraded
      · rw [respond_closed] at upgraded
        cases upgraded
      · rw [dispatch_closed] at upgraded
        cases upgraded

/-- A turn that makes a WebSocket of a connection is one that counted and found room. -/
theorem step_upgraded (step : Step app connection label next) (upgraded : isUpgraded next = true) :
    ∃ chunk surroundings, label = .receives chunk surroundings ∧
      surroundings.websocketStates < capacity app := by
  cases step with
  | continues => cases upgraded
  | closes | ends | receiveFails | receiveInterrupted | handlerInterrupted | websocketReturns
  | websocketRaises => cases upgraded
  | receives chunk surroundings => exact ⟨chunk, surroundings, rfl, receive_upgraded upgraded⟩
  | handled outcome =>
      rw [handlerEnds_closed] at upgraded
      cases upgraded
  | sends =>
      rw [settle_closed] at upgraded
      cases upgraded

end Turns

section Interleavings

variable {Handler SocketHandler Time : Type} [AddCommGroup Time] [LinearOrder Time]
variable {app : Application Handler SocketHandler Time}
variable {service next : Service Handler SocketHandler}

structure Kept (app : Application Handler SocketHandler Time)
    (service : Service Handler SocketHandler) : Prop where
  bounded : websocketStates service ≤ capacity app
  own : ∀ connection ∈ service, ∃ labels, Run (Step app) (start app) labels connection

theorem move_kept {move : Move Time} (kept : Kept app service)
    (moves : Moves app service move next) : Kept app next := by
  cases moves with
  | accepts =>
      refine ⟨?_, ?_⟩
      · have same : websocketStates (service ++ [start app]) = websocketStates service := by
          unfold websocketStates
          rw [List.countP_append]
          rfl
        rw [same]
        exact kept.bounded
      · intro connection member
        rcases List.mem_append.mp member with old | new
        · exact kept.own connection old
        · rw [List.mem_singleton.mp new]
          exact ⟨[], .nil⟩
  | @turns number connection later label here counts step =>
      refine ⟨?_, ?_⟩
      · have inside : number < service.length := (List.getElem?_eq_some_iff.mp here).1
        have counted := List.countP_set (p := isUpgraded) (a := later) inside
        have bounded := kept.bounded
        unfold websocketStates at bounded ⊢
        by_cases upgraded : isUpgraded later = true
        · obtain ⟨chunk, surroundings, same, room⟩ := step_upgraded step upgraded
          rw [counts chunk surroundings same] at room
          unfold websocketStates at room
          rw [if_pos upgraded] at counted
          omega
        · rw [if_neg upgraded] at counted
          omega
      · intro other member
        rcases List.mem_or_eq_of_mem_set member with old | rfl
        · exact kept.own other old
        · obtain ⟨labels, run⟩ := kept.own connection (List.mem_of_getElem? here)
          exact ⟨labels ++ [label], .snoc label run step⟩

theorem run_kept {moves : List (Move Time)} (run : Run (Moves app) [] moves service) :
    Kept app service := by
  refine run.stateInvariant ⟨Nat.zero_le _, fun _ none => absurd none List.not_mem_nil⟩ ?_
  exact fun state move next kept moves => move_kept kept moves

structure Offers (app : Application Handler SocketHandler Time) (received : Bytes)
    (request : Request) : Prop where
  complete : ∃ trailingData, Completes app received request trailingData
  routed : ∃ route, app.websocketRoutes.lookup request.path = some route ∧ Offer request ∧
    OriginAllowed route request

/-- What becomes of a valid offer: a WebSocket, or a 503 that says what was missing. -/
def Admitted (app : Application Handler SocketHandler Time) (states : Nat)
    (unavailable : Option Text) (connection : Connection Handler SocketHandler) : Prop :=
  if states < capacity app then
    match unavailable with
    | none => isUpgraded connection = true
    | some detail => ∃ response, States detail 503 response ∧ connection.responses = [response]
  else ∃ response, States "WebSocket capacity reached".toList 503 response ∧
    connection.responses = [response]

theorem respond_once {value : Text} {status : Nat} (range : 100 ≤ status ∧ status ≤ 599)
    {connection : Connection Handler SocketHandler} (fresh : connection.responses = []) :
    ∃ response, States value status response ∧
      (connection.respond value status).responses = [response] := by
  obtain ⟨response, stated⟩ := states_exists value range
  refine ⟨response, stated, ?_⟩
  rw [respond_responses stated, fresh]
  rfl

theorem receive_offer {connection later : Connection Handler SocketHandler}
    {found : Option (Surroundings Time)} {surroundings : Surroundings Time} {request : Request}
    {chunk : Bytes} (stage : Stage app found connection)
    (step : Step app connection (.receives chunk surroundings) later)
    (offers : Offers app (connection.received ++ chunk) request) :
    Admitted app surroundings.websocketStates surroundings.unavailable later := by
  obtain ⟨⟨trailingData, parser, whole, -⟩, ⟨route, routed, offer, allowed⟩⟩ := offers
  cases step with
  | ends _ here =>
      obtain ⟨-, -, fed⟩ := stage.read (Or.inr here)
      rw [List.append_nil, fed] at whole
      cases whole
  | receives _ _ here nonempty =>
      obtain ⟨-, fresh, fed⟩ := stage.read (Or.inr here)
      have silent : (feed (HTTPRequestParser.new app.limits true) connection.received).1 =
          .ok none := by rw [fed]
      have joined := RequestSegmentation.feed_feed silent chunk
      rw [fed, whole] at joined
      have attempt := attempt_of_offer offer
      have admitted := (admitted_iff request route).mpr ⟨offer, allowed⟩
      unfold Connection.receive
      dsimp only at joined ⊢
      rw [joined]
      dsimp only
      unfold Connection.serve
      rw [if_pos attempt]
      unfold Connection.dispatchWebsocket
      rw [routed]
      dsimp only
      rw [admitted]
      dsimp only
      unfold Admitted
      by_cases room : surroundings.websocketStates < capacity app
      · have free : ¬surroundings.websocketStates ≥
            min app.websocketMaxConnections app.maxConnections := Nat.not_le.mpr room
        rw [if_pos room, if_neg free]
        cases surroundings.unavailable with
        | none => rfl
        | some detail => exact respond_once (by decide) fresh.responses
      · have full : surroundings.websocketStates ≥
            min app.websocketMaxConnections app.maxConnections := Nat.not_lt.mp room
        rw [if_neg room, if_pos full]
        exact respond_once (by decide) fresh.responses

/-- **The bound on WebSockets holds at all times.** Whatever the order in which connections are
accepted and take their turns: there are never more WebSockets than the configuration allows,
each connection is where a run of its own leads, and whoever makes a valid offer becomes a
WebSocket exactly while there is room for one and the protocol is available; otherwise a 503
says which of the two is missing. -/
theorem websocket_capacity_kept {moves : List (Move Time)}
    (run : Run (Moves app) [] moves service) :
    websocketStates service ≤ capacity app ∧
      (∀ connection ∈ service, ∃ labels, Run (Step app) (start app) labels connection) ∧
      ∀ connection ∈ service, ∀ chunk surroundings later request,
        Counts service (.receives chunk surroundings) →
        Step app connection (.receives chunk surroundings) later →
        Offers app (connection.received ++ chunk) request →
          Admitted app (websocketStates service) surroundings.unavailable later := by
  have kept := run_kept run
  refine ⟨kept.bounded, kept.own, ?_⟩
  intro connection member chunk surroundings later request counts step offers
  obtain ⟨labels, own⟩ := kept.own connection member
  have answered := receive_offer (run_stage own) step offers
  rw [counts chunk surroundings rfl] at answered
  exact answered

end Interleavings

section Samples

def sampleApp : Application Nat Nat Int :=
  { Http1Exchange.sampleApp with
    websocketRoutes := OrderedDict.set ∅ "/chat".toList sampleRoute
    websocketMaxConnections := 1 }

def sampleBytes : Bytes :=
  encodeLatin1 ("GET /chat HTTP/1.1\r\nHost: server.example.com\r\nUpgrade: websocket\r\n" ++
    "Connection: keep-alive, Upgrade\r\nSec-WebSocket-Key: dGhlIHNhbXBsZSBub25jZQ==\r\n" ++
    "Sec-WebSocket-Protocol: chat, superchat\r\nSec-WebSocket-Version: 13\r\n\r\n").toList

def sampleSurroundings : Surroundings Int where
  timing := RoutingDeadlines.sampleTiming
  websocketStates := 0
  unavailable := none

theorem sampleFed : (feed (HTTPRequestParser.new sampleApp.limits true) sampleBytes).1 =
    .ok (some WebSocketUpgrade.sampleRequest) := by
  decide +kernel

theorem sampleOffers :
    Offers sampleApp sampleBytes WebSocketUpgrade.sampleRequest where
  complete := ⟨_, completes_of_fed sampleFed⟩
  routed := ⟨sampleRoute, OrderedDict.lookup_set _ _ _,
    (admitted_iff WebSocketUpgrade.sampleRequest sampleRoute).mp sampleAdmitted⟩

theorem sampleRun : Run (Moves sampleApp) [] [.accepts, .turns 0 (.checks false)]
    [receivingAt sampleApp []] := by
  have started : start sampleApp = waitingAt sampleApp [] := start_waits
  have accepted : Moves sampleApp [] .accepts [waitingAt sampleApp []] := started ▸ .accepts
  exact Run.cons accepted (Run.single (.turns rfl nofun (.continues rfl)))

theorem websocket_capacity_kept_sample :
    isUpgraded ((receivingAt sampleApp []).receive sampleApp sampleSurroundings
      (feed (HTTPRequestParser.new sampleApp.limits true) []).2 sampleBytes) = true := by
  have nonempty : sampleBytes ≠ [] := by
    intro none
    have fed := sampleFed
    rw [none, RequestSegmentation.feed_empty] at fed
    cases fed
  obtain ⟨-, -, answered⟩ := websocket_capacity_kept sampleRun
  have counts : Counts [receivingAt sampleApp []] (.receives sampleBytes sampleSurroundings) := by
    intro chunk surroundings same
    rw [← (Label.receives.inj same).2]
    rfl
  have step := @Step.receives Nat Nat Int _ _ sampleApp (receivingAt sampleApp []) _ sampleBytes
    sampleSurroundings rfl nonempty
  have offers : Offers sampleApp ((receivingAt sampleApp []).received ++ sampleBytes)
      WebSocketUpgrade.sampleRequest := by
    have first : (receivingAt sampleApp []).received ++ sampleBytes = sampleBytes :=
      List.nil_append _
    rw [first]
    exact sampleOffers
  have upgraded := answered _ List.mem_cons_self sampleBytes sampleSurroundings _ _ counts step
    offers
  have room : websocketStates [receivingAt sampleApp []] < capacity sampleApp := by decide
  unfold Admitted at upgraded
  rwa [if_pos room] at upgraded

end Samples

end SmallServer.Http1Service
