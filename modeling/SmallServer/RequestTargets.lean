import SmallServer.RequestSegmentation
import SmallServer.Http2Guarantees

/-!
# Request targets

The HTTP/1.1 parser gives `Request` the raw target together with its two sides, the HTTP/2
protocol gives it the target as the path, and `dispatch` rebuilds the request with a new
context. All three end in one normal form, in which the target is split at its first `?`.
-/

namespace SmallServer.RequestTargets

open SmallServer HttpValues RequestParser RequestGrammar RequestSegmentation
open Http2Frames Http2Protocol Http2Guarantees

set_option autoImplicit false

/-- What stands between the first two spaces of the received bytes. -/
def receivedTarget (received : Bytes) : Text :=
  ListScan.beforeMark ' ' (ListScan.afterMark ' ' (decodeLatin1 received))

def FromParser (target : Text) (request : Request) : Prop :=
  ∃ (limits : Limits) (preserve : Bool) (earlier : List Bytes) (data : Bytes),
    (feed (feedRun (HTTPRequestParser.new limits preserve) earlier) data).1 =
      .ok (some request) ∧
    receivedTarget (earlier.flatten ++ data) = target

/-- The protocol handed out the request at the end of a stream whose header list has the
target as its path. -/
def FromProtocol (target : Text) (request : Request) : Prop :=
  ∃ (σ : Type) (engine : Engine σ) (config : HTTP2Config) (rawHeaders : RawHeaders)
    (body : Bytes) (streamId : StreamId),
    Yields engine config rawHeaders body { streamId, request } ∧
    (.str pathName, .str target) ∈ rawHeaders

structure Normal (target : Text) (request : Request) : Prop where
  rawTarget : request.rawTarget = target
  path_clean : '?' ∉ request.path
  whole : ('?' ∉ target ∧ target = request.path ∧ request.queryString = []) ∨
    ('?' ∈ target ∧ target = request.path ++ '?' :: request.queryString)

section Splitting

variable {target : Text} {request : Request}

theorem normal_self (request : Request) : Normal request.rawTarget request := by
  refine ⟨rfl, ?_, ?_⟩
  · rw [request.path_split]
    exact ListScan.mark_not_mem_beforeMark '?' request.rawTarget
  · by_cases member : '?' ∈ request.rawTarget
    · refine Or.inr ⟨member, ?_⟩
      rw [request.path_split, request.query_split]
      exact (ListScan.beforeMark_append_afterMark member).symm
    · refine Or.inl ⟨member, ?_, ?_⟩
      · rw [request.path_split, ListScan.beforeMark_of_not_mem member]
      · rw [request.query_split]
        exact ListScan.afterMark_of_not_mem member

theorem normal_of_target (same : request.rawTarget = target) : Normal target request := by
  rw [← same]
  exact normal_self request

end Splitting

section Building

variable {method path version queryString : Text} {headers : Headers} {body : Bytes}
  {rawTarget : Option Text} {pathParams : List (Text × Text)} {routePattern : Option Text}
  {request : Request}

theorem rawTarget_of_build
    (built : Request.build method path headers body version rawTarget queryString pathParams
      routePattern = .ok request) :
    request.rawTarget = Request.resolveTarget path rawTarget queryString := by
  unfold Request.build at built
  dsimp only at built
  split at built
  · split at built
    · split at built
      · split at built
        · cases built
          rfl
        · cases built
      · cases built
    · cases built
  · cases built

end Building

section Parser

def Received (received : Bytes) (parser : HTTPRequestParser) : Prop :=
  match parser.requestHead with
  | none => parser.buffer = received
  | some head => ∃ raw, received = raw ++ terminator ++ parser.buffer ∧
      parseHead parser.limits raw = .ok head

theorem received_feedBody {received : Bytes} {parser : HTTPRequestParser} (head : RequestHead)
    (held : Received received parser) :
    Received received (feedBody parser head).2 ∧
      ∀ request, (feedBody parser head).1 = .ok (some request) →
        request.rawTarget = head.rawTarget ∧ isToken head.method = true := by
  have body := feedBody_cases parser head
  generalize feedBody parser head = outcome at body ⊢
  cases body with
  | pipelined long strict => exact ⟨held, fun request same => by cases same⟩
  | waiting short => exact ⟨held, fun request same => by cases same⟩
  | rejected detail complete built => exact ⟨held, fun request same => by cases same⟩
  | completed request complete built =>
      refine ⟨held, fun other same => ?_⟩
      cases same
      exact ⟨rawTarget_of_build built, token_of_buildRequest built⟩

theorem receivedTarget_eq {limits : Limits} {raw rest : Bytes} {head : RequestHead}
    (parsed : parseHead limits raw = .ok head) (token : isToken head.method = true) :
    receivedTarget (raw ++ terminator ++ rest) = head.rawTarget := by
  obtain ⟨fields, spelled, -, visible, -⟩ := parseHead_eq_ok parsed
  have noSpace : ' ' ∉ head.method := tokenChar_ne token (by decide)
  have noBlank : ' ' ∉ head.rawTarget := by
    intro member
    have seen := visible ' ' member
    revert seen
    decide
  have ending : decodeLatin1 terminator = crlf ++ crlf := by decide
  have text : decodeLatin1 (raw ++ terminator ++ rest) =
      head.method ++ ' ' :: (head.rawTarget ++ ' ' :: (http11 ++ crlf ++
        (fields.flatMap fun field => fieldLine field ++ crlf) ++ crlf ++ decodeLatin1 rest)) := by
    rw [decodeLatin1_append, decodeLatin1_append, ending, spelled]
    unfold headText requestLine
    simp only [List.append_assoc, List.cons_append]
  unfold receivedTarget
  rw [text, ListScan.afterMark_append noSpace, ListScan.beforeMark_append noBlank]

theorem received_feedHead {received : Bytes} {parser : HTTPRequestParser}
    (fresh : parser.requestHead = none) (held : parser.buffer = received) :
    Received received (feedHead parser).2 ∧
      ∀ request, (feedHead parser).1 = .ok (some request) →
        request.rawTarget = receivedTarget received := by
  have kept : Received received parser := by
    unfold Received
    rw [fresh]
    exact held
  have head := feedHead_cases parser
  generalize feedHead parser = outcome at head ⊢
  cases head with
  | overlong absent long => exact ⟨kept, fun request same => by cases same⟩
  | waiting absent short => exact ⟨kept, fun request same => by cases same⟩
  | overlongHead marker found long => exact ⟨kept, fun request same => by cases same⟩
  | rejected marker error found short parsed => exact ⟨kept, fun request same => by cases same⟩
  | read marker head found short parsed =>
      have cut := ListScan.find_split found
      rw [held] at cut parsed
      have four : terminator.length = 4 := rfl
      rw [four] at cut
      have read : Received received (parser.readHead head (marker + 4)) := by
        refine ⟨received.take marker, ?_, parsed⟩
        rw [readHead_buffer, held]
        exact cut
      obtain ⟨after, target⟩ := received_feedBody head read
      refine ⟨after, fun request returned => ?_⟩
      obtain ⟨same, token⟩ := target request returned
      rw [same, cut]
      exact (receivedTarget_eq parsed token).symm

/-- One call: the invariant is kept, and a returned request has the target that was received. -/
theorem received_feed {received : Bytes} {parser : HTTPRequestParser} (data : Bytes)
    (held : Received received parser) :
    Received (received ++ data) (feed parser data).2 ∧
      ∀ request, (feed parser data).1 = .ok (some request) →
        request.rawTarget = receivedTarget (received ++ data) := by
  unfold Received at held
  unfold feed
  cases current : parser.requestHead with
  | none =>
      rw [current] at held
      exact received_feedHead rfl (congrArg (· ++ data) held)
  | some head =>
      rw [current] at held
      obtain ⟨raw, same, parsed⟩ := held
      have joined : received ++ data = raw ++ terminator ++ (parser.buffer ++ data) := by
        rw [same, List.append_assoc]
      have grown : Received (received ++ data)
          { parser with buffer := parser.buffer ++ data, requestHead := some head } :=
        ⟨raw, joined, parsed⟩
      obtain ⟨after, target⟩ := received_feedBody head grown
      refine ⟨after, fun request returned => ?_⟩
      obtain ⟨same, token⟩ := target request returned
      rw [same, joined]
      exact (receivedTarget_eq parsed token).symm

theorem received_feedRun (limits : Limits) (preserve : Bool) (earlier : List Bytes) :
    Received earlier.flatten (feedRun (HTTPRequestParser.new limits preserve) earlier) := by
  have general : ∀ received parser, Received received parser →
      Received (received ++ earlier.flatten) (feedRun parser earlier) := by
    induction earlier with
    | nil =>
        intro received parser held
        rw [List.flatten_nil, List.append_nil]
        exact held
    | cons chunk rest induction =>
        intro received parser held
        have later := induction _ _ (received_feed chunk held).1
        rw [List.append_assoc] at later
        exact later
  exact general [] _ rfl

theorem normal_of_parse {target : Text} {request : Request}
    (built : FromParser target request) : Normal target request := by
  obtain ⟨limits, preserve, earlier, data, returned, received⟩ := built
  have held := received_feedRun limits preserve earlier
  have same := (received_feed data held).2 request returned
  exact normal_of_target (same.trans received)

end Parser

section Protocol

variable {config : HTTP2Config}

/-- One turn of the loop: a pseudo-header that came before keeps its value, since a second
one is refused, and the one that comes now is kept. -/
theorem lookup_add {scan next : HeaderScan} {header : HeaderText × HeaderText} {name value : Text}
    (added : scan.add config header = .ok next) (pseudo : name.head? = some ':')
    (given : scan.pseudo.lookup name = some value ∨ header = (.str name, .str value)) :
    next.pseudo.lookup name = some value := by
  obtain ⟨other, content⟩ := header
  cases other with
  | bytes octets => cases added
  | str other =>
      cases content with
      | bytes octets => cases added
      | str content =>
          simp only [HeaderScan.add] at added
          split at added
          · cases added
          · split at added
            · split at added
              · cases added
              · rename_i fresh
                cases added
                rcases given with known | same
                · have differs : name ≠ other := by
                    rintro rfl
                    have member : name ∈ scan.pseudo :=
                      AList.lookup_isSome.mp (by rw [known]; rfl)
                    exact fresh (Or.inr member)
                  dsimp only
                  rw [OrderedDict.lookup_set_ne _ _ differs]
                  exact known
                · cases same
                  exact OrderedDict.lookup_set _ _ _
            · rename_i regular
              have known : scan.pseudo.lookup name = some value := by
                rcases given with known | same
                · exact known
                · cases same
                  exact absurd pseudo regular
              split at added
              · cases added
              · split at added
                · cases added
                · split at added
                  · cases added
                    exact known
                  · cases added
                    exact known

theorem lookup_scan {rawHeaders : RawHeaders} {first scan : HeaderScan} {name value : Text}
    (scanned : rawHeaders.foldlM (HeaderScan.add config) first = .ok scan)
    (pseudo : name.head? = some ':')
    (given : first.pseudo.lookup name = some value ∨ (.str name, .str value) ∈ rawHeaders) :
    scan.pseudo.lookup name = some value := by
  induction rawHeaders generalizing first with
  | nil =>
      cases scanned
      exact given.resolve_right List.not_mem_nil
  | cons header rawHeaders induction =>
      rw [List.foldlM_cons] at scanned
      cases added : first.add config header with
      | error error =>
          rw [added] at scanned
          cases scanned
      | ok next =>
          rw [added] at scanned
          refine induction scanned ?_
          rcases given with known | member
          · exact Or.inl (lookup_add added pseudo (Or.inl known))
          · rcases List.mem_cons.mp member with here | later
            · exact Or.inl (lookup_add added pseudo (Or.inr here.symm))
            · exact Or.inr later

theorem path_of_finish {scan : HeaderScan} {metadata : RequestMetadata}
    (finished : scan.finish config = .ok metadata) :
    scan.pseudo.lookup pathName = some metadata.path := by
  unfold HeaderScan.finish at finished
  dsimp only at finished
  split at finished
  · cases finished
  split at finished
  · cases finished
  split at finished
  · rename_i method scheme path _ _ supplied
    have found : scan.pseudo.lookup pathName = some path :=
      (Option.filter_eq_some_iff.mp supplied).1
    split at finished
    · cases finished
    split at finished
    · cases finished
    split at finished
    · cases finished
    split at finished
    · cases finished
    split at finished
    · cases finished
    · rename_i headers _
      cases length : decodeContentLength config headers with
      | error error =>
          rw [length] at finished
          cases finished
      | ok contentLength =>
          rw [length] at finished
          cases finished
          exact found
  · cases finished

theorem path_of_decoded {rawHeaders : RawHeaders} {metadata : RequestMetadata} {target : Text}
    (decodes : decodeRequestHeaders config rawHeaders = .ok metadata)
    (given : (.str pathName, .str target) ∈ rawHeaders) : metadata.path = target := by
  unfold decodeRequestHeaders at decodes
  split at decodes
  · cases decodes
  · split at decodes
    · cases decodes
    · rename_i scan scanned
      have found := lookup_scan scanned (by decide) (Or.inr given)
      rw [path_of_finish decodes] at found
      exact Option.some_inj.mp found

theorem normal_of_protocol {target : Text} {request : Request}
    (built : FromProtocol target request) : Normal target request := by
  obtain ⟨σ, engine, config, rawHeaders, body, streamId, yields, given⟩ := built
  obtain ⟨metadata, decodes, built, -⟩ := request_of_yields yields
  obtain ⟨-, same, -⟩ := built_fields built
  exact normal_of_target (same.trans (path_of_decoded decodes given))

end Protocol

section Targets

structure SameTarget (first second : Request) : Prop where
  path : first.path = second.path
  queryString : first.queryString = second.queryString
  rawTarget : first.rawTarget = second.rawTarget

theorem sameTarget_of_normal {target : Text} {first second : Request}
    (left : Normal target first) (right : Normal target second) : SameTarget first second := by
  have same : first.rawTarget = second.rawTarget := left.rawTarget.trans right.rawTarget.symm
  refine ⟨?_, ?_, same⟩
  · rw [first.path_split, second.path_split, same]
  · rw [first.query_split, second.query_split, same]

structure Preserved (before after : Request) : Prop extends SameTarget before after where
  method : after.method = before.method
  headers : after.headers = before.headers
  body : after.body = before.body
  version : after.version = before.version

/-- **Targets are split consistently and stably.** Both front ends bring a target into the
same normal form, and a request rebuilt for another route keeps everything but its context. -/
theorem targets_consistent :
    (∀ target first second, FromParser target first → FromProtocol target second →
      SameTarget first second ∧ Normal target first ∧ Normal target second) ∧
    (∀ method path headers body version rawTarget queryString params pattern request,
      Request.build method path headers body version rawTarget queryString params pattern =
        .ok request →
      Normal (Request.resolveTarget path rawTarget queryString) request ∧
      ∀ pathParams routePattern, ∃ rebuilt,
        request.replaceContext pathParams routePattern = .ok rebuilt ∧
        Preserved request rebuilt ∧ rebuilt.pathParams = pathParams ∧
        rebuilt.routePattern = routePattern) := by
  refine ⟨fun target first second parsed handed => ?_, ?_⟩
  · have left := normal_of_parse parsed
    have right := normal_of_protocol handed
    exact ⟨sameTarget_of_normal left right, left, right⟩
  · intro method path headers body version rawTarget queryString params pattern request built
    refine ⟨normal_of_target (rawTarget_of_build built), fun pathParams routePattern => ?_⟩
    exact ⟨_, Request.replaceContext_eq_ok request pathParams routePattern,
      ⟨⟨rfl, rfl, rfl⟩, rfl, rfl, rfl, rfl⟩, rfl, rfl⟩

end Targets

section Samples

def sampleTarget : Text := "/a?b?".toList

theorem sampleMethod_token : isToken "GET".toList = true := by decide

def sampleParts (host : List (Text × Text)) (version : Text)
    (names_token : ∀ item ∈ host, isToken item.1 = true)
    (values_plain : ∀ item ∈ host, isPlainValue item.2 = true)
    (names_distinct : (host.map fun item => lower item.1).Nodup) : Request where
  method := "GET".toList
  path := "/a".toList
  headers := { items := host, names_token, values_plain, names_distinct }
  body := []
  version
  rawTarget := sampleTarget
  queryString := "b?".toList
  pathParams := []
  routePattern := none
  method_token := sampleMethod_token
  target_rooted := by decide
  path_split := by decide
  query_split := by decide

def parsedSample : Request :=
  sampleParts [("Host".toList, ['a'])] http11 (by decide) (by decide) (by decide)

def handedSample : Request :=
  sampleParts [(hostName, ['a'])] "HTTP/2".toList (by decide) (by decide) (by decide)

theorem parsed_sample : FromParser sampleTarget parsedSample :=
  ⟨⟨100, 10, 10, 100⟩, true, [encodeLatin1 "GET /a?b? HT".toList],
    encodeLatin1 "TP/1.1\r\nHost: a\r\n\r\n".toList, by decide +kernel, by decide +kernel⟩

def sampleHeaders : RawHeaders :=
  [(.str methodName, .str "GET".toList), (.str schemeName, .str "http".toList),
    (.str pathName, .str sampleTarget), (.str hostName, .str ['a'])]

def sampleProtocol : H2Protocol Http2Effects.Script :=
  requestReceived (Http2Effects.scripted 40) HTTP2Config.standard
    (H2Protocol.new { events := [], outgoing := [7] }) 1 sampleHeaders

theorem handed_sample : FromProtocol sampleTarget handedSample := by
  refine ⟨_, Http2Effects.scripted 40, HTTP2Config.standard, sampleHeaders, [], 1,
    ⟨sampleProtocol, ?_, ?_, ?_, ?_⟩, ?_⟩
  · exact { method := "GET".toList, path := sampleTarget, headers := handedSample.headers
            contentLength := none }
  · decide +kernel
  · decide +kernel
  · decide +kernel
  · decide

theorem targets_consistent_sample :
    (SameTarget parsedSample handedSample ∧ Normal sampleTarget parsedSample ∧
      Normal sampleTarget handedSample) ∧
    ∃ request, Request.build "GET".toList "/a".toList Headers.empty [] http11 none "b?".toList
        [] none = .ok request ∧ Normal sampleTarget request := by
  refine ⟨targets_consistent.1 sampleTarget _ _ parsed_sample handed_sample,
    sampleParts [] http11 (by decide) (by decide) (by decide), by decide +kernel, ?_⟩
  exact (targets_consistent.2 "GET".toList "/a".toList Headers.empty [] http11 none "b?".toList
    [] none _ (by decide +kernel)).1

end Samples

end SmallServer.RequestTargets
