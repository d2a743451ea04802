import SmallServer.Http2Dispatch

/-!
# Guarantees of HTTP/2 requests

What the HTTP/1.1 parser enforces of a request, and how far `_decode_request_headers` and
`_stream_ended` enforce it too.
-/

namespace SmallServer.Http2Guarantees

open SmallServer HttpValues RequestParser Http2Frames Http2Protocol Http2Dispatch

set_option autoImplicit false

/-- What a handler may rely on when the request came over HTTP/1.1. -/
structure Guaranteed (request : Request) : Prop where
  method_token : isToken request.method = true
  target_rooted : request.rawTarget.head? = some '/'
  target_no_fragment : '#' ∉ request.rawTarget
  target_visible : ∀ c ∈ request.rawTarget, isVisible c = true
  names_token : ∀ field ∈ request.headers.items, isToken field.1 = true
  names_distinct : (request.headers.items.map fun field => lower field.1).Nodup
  values_plain : ∀ field ∈ request.headers.items, isPlainValue field.2 = true
  no_transfer_encoding : ∀ field ∈ request.headers.items, lower field.1 ≠ transferEncodingName
  host : ∃ value, request.headers.get hostName = some value ∧ value ≠ []
  content_length : ∀ value, request.headers.get contentLengthName = some value →
    isAsciiDecimal value = true ∧ decimalValue value = request.body.length

def Yields {σ : Type} (engine : Engine σ) (config : HTTP2Config) (rawHeaders : RawHeaders)
    (body : Bytes) (ready : H2ReadyRequest) : Prop :=
  ∃ (protocol : H2Protocol σ) (metadata : RequestMetadata),
    decodeRequestHeaders config rawHeaders = .ok metadata ∧
    protocol.inbound.lookup ready.streamId = some (collectedStream metadata body) ∧
    (streamEnded engine protocol ready.streamId).1 = .ok (some ready)

section Decoding

variable {config : HTTP2Config}

structure KeptField (rawHeaders : RawHeaders) (field : Text × Text) : Prop where
  received : (.str field.1, .str field.2) ∈ rawHeaders
  lowered : field.1 = lower field.1
  allowed : forbiddenHeaders.contains (lower field.1) = false

/-- One turn of the loop keeps a regular field or leaves the fields alone. -/
theorem add_regular {scan next : HeaderScan} {header : HeaderText × HeaderText}
    (added : scan.add config header = .ok next) :
    (∃ name value, header = (.str name, .str value) ∧
      next.regular = scan.regular ++ [(name, value)] ∧
        name = lower name ∧ forbiddenHeaders.contains (lower name) = false) ∨
    (next.regular = scan.regular ∧
      ∀ value, header ≠ (.str hostName, .str value)) := by
  obtain ⟨name, value⟩ := header
  cases name with
  | bytes octets => cases added
  | str name =>
      cases value with
      | bytes octets => cases added
      | str value =>
          simp only [HeaderScan.add] at added
          split at added
          · cases added
          · split at added
            · rename_i pseudo
              split at added
              · cases added
              · cases added
                refine Or.inr ⟨rfl, fun other same => ?_⟩
                cases same
                exact absurd pseudo (by decide)
            · split at added
              · cases added
              · rename_i regular
                obtain ⟨lowered, allowed⟩ := not_or.mp regular
                split at added
                · cases added
                · split at added
                  · rename_i cookie
                    cases added
                    refine Or.inr ⟨rfl, fun other same => ?_⟩
                    cases same
                    exact absurd cookie (by decide)
                  · cases added
                    exact Or.inl ⟨name, value, rfl, rfl, not_not.mp lowered,
                      Bool.eq_false_iff.mpr allowed⟩

theorem scan_regular {rawHeaders : RawHeaders} {first scan : HeaderScan}
    (scanned : rawHeaders.foldlM (HeaderScan.add config) first = .ok scan) :
    (∀ field ∈ scan.regular, field ∈ first.regular ∨ KeptField rawHeaders field) ∧
      ∀ value, (hostName, value) ∈ first.regular ∨ (.str hostName, .str value) ∈ rawHeaders →
        (hostName, value) ∈ scan.regular := by
  induction rawHeaders generalizing first with
  | nil =>
      cases scanned
      exact ⟨fun field member => Or.inl member, fun value given => given.resolve_right
        (List.not_mem_nil)⟩
  | cons header rawHeaders induction =>
      rw [List.foldlM_cons] at scanned
      cases added : first.add config header with
      | error error =>
          rw [added] at scanned
          cases scanned
      | ok next =>
          rw [added] at scanned
          obtain ⟨kept, hosts⟩ := induction scanned
          have later : ∀ {field}, KeptField rawHeaders field →
              KeptField (header :: rawHeaders) field := fun found =>
            ⟨List.mem_cons_of_mem _ found.received, found.lowered, found.allowed⟩
          rcases add_regular added with ⟨name, value, rfl, grown, lowered, allowed⟩ | ⟨same, other⟩
          · rw [grown] at kept hosts
            refine ⟨fun field member => ?_, fun host given => hosts host ?_⟩
            · rcases kept field member with old | new
              · rcases List.mem_append.mp old with before | last
                · exact Or.inl before
                · rw [List.mem_singleton.mp last]
                  exact Or.inr ⟨List.mem_cons_self, lowered, allowed⟩
              · exact Or.inr (later new)
            · rcases given with before | now
              · exact Or.inl (List.mem_append_left _ before)
              · rcases List.mem_cons.mp now with here | after
                · cases here
                  exact Or.inl (List.mem_append_right _ (List.mem_singleton.mpr rfl))
                · exact Or.inr after
          · rw [same] at kept hosts
            refine ⟨fun field member => (kept field member).imp id later,
              fun host given => hosts host ?_⟩
            rcases given with before | now
            · exact Or.inl before
            · rcases List.mem_cons.mp now with here | after
              · exact absurd here.symm (other host)
              · exact Or.inr after

structure Decoded (rawHeaders : RawHeaders) (scan : HeaderScan) (metadata : RequestMetadata) :
    Prop where
  method_token : isToken metadata.method = true
  path_rooted : metadata.path.head? = some '/'
  path_no_fragment : '#' ∉ metadata.path
  path_visible : ∀ c ∈ metadata.path, isVisible c = true
  fields : metadata.headers.items = scan.fields
  kept : ∀ field ∈ scan.regular, KeptField rawHeaders field
  hosts : ∀ value, (.str hostName, .str value) ∈ rawHeaders → (hostName, value) ∈ scan.regular
  one_host : (scan.supplied authorityName).isSome = true ↔ ∀ value, (hostName, value) ∉ scan.regular
  length : ∀ value, metadata.headers.get contentLengthName = some value →
    isAsciiDecimal value = true ∧ metadata.contentLength = some (decimalValue value)

theorem decodeContentLength_ok {headers : Headers} {length : Option Nat}
    (decoded : decodeContentLength config headers = .ok length) (value : Text)
    (found : headers.get contentLengthName = some value) :
    isAsciiDecimal value = true ∧ length = some (decimalValue value) := by
  unfold decodeContentLength at decoded
  rw [found] at decoded
  dsimp only at decoded
  split at decoded
  · cases decoded
  · rename_i decimal
    split at decoded
    · cases decoded
    · split at decoded
      · cases decoded
      · cases decoded
        exact ⟨not_not.mp decimal, rfl⟩

theorem existingHost_iff (scan : HeaderScan) :
    (scan.regular.any fun field => field.1 == hostName) = true ↔
      ∃ value, (hostName, value) ∈ scan.regular := by
  rw [List.any_eq_true]
  constructor
  · rintro ⟨⟨name, value⟩, member, same⟩
    have host : name = hostName := eq_of_beq same
    exact ⟨value, host ▸ member⟩
  · rintro ⟨value, member⟩
    exact ⟨(hostName, value), member, beq_self_eq_true hostName⟩

theorem decoded_of_ok {rawHeaders : RawHeaders} {metadata : RequestMetadata}
    (decodes : decodeRequestHeaders config rawHeaders = .ok metadata) :
    ∃ scan, Decoded rawHeaders scan metadata := by
  unfold decodeRequestHeaders at decodes
  split at decodes
  · cases decodes
  split at decodes
  · cases decodes
  rename_i scan scanned
  obtain ⟨kept, hosts⟩ := scan_regular scanned
  unfold HeaderScan.finish at decodes
  dsimp only at decodes
  split at decodes
  · cases decodes
  split at decodes
  · cases decodes
  split at decodes
  case h_2 => cases decodes
  rename_i method _ path _ _ _
  split at decodes
  · cases decodes
  rename_i token
  split at decodes
  · cases decodes
  rename_i target
  split at decodes
  · cases decodes
  rename_i notBoth
  split at decodes
  · cases decodes
  rename_i notNeither
  split at decodes
  · cases decodes
  rename_i headers built
  cases length : decodeContentLength config headers with
  | error error =>
      rw [length] at decodes
      cases decodes
  | ok contentLength =>
      rw [length] at decodes
      cases decodes
      obtain ⟨rooted, rest⟩ := not_or.mp target
      obtain ⟨noFragment, visible⟩ := not_or.mp rest
      refine ⟨scan, {
        method_token := by simpa using token
        path_rooted := not_not.mp rooted
        path_no_fragment := noFragment
        path_visible := List.all_eq_true.mp (by simpa using visible)
        fields := ((Headers.ofPairs_eq_ok_iff _ _).mp built).1
        kept := fun field member => (kept field member).resolve_left (List.not_mem_nil)
        hosts := fun value given => hosts value (Or.inr given)
        one_host := ⟨fun supplied value member => ?_, fun none => ?_⟩
        length := decodeContentLength_ok length }⟩
      · exact notBoth ⟨supplied, (existingHost_iff scan).mpr ⟨value, member⟩⟩
      · by_contra missing
        refine notNeither ⟨by simpa using missing, fun existing => ?_⟩
        obtain ⟨value, member⟩ := (existingHost_iff scan).mp existing
        exact none value member

theorem get_of_mem {headers : Headers} {field : Text × Text} (member : field ∈ headers.items)
    {name : Text} (same : lower field.1 = lower name) : headers.get name = some field.2 := by
  have distinct := headers.names_distinct
  unfold Headers.get
  generalize headers.items = fields at member distinct
  induction fields with
  | nil => cases member
  | cons first fields induction =>
      rw [List.map_cons, List.nodup_cons] at distinct
      rw [List.find?_cons]
      rcases List.mem_cons.mp member with rfl | later
      · rw [beq_iff_eq.mpr same]
        rfl
      · have different : (lower first.1 == lower name) = false := by
          rw [beq_eq_false_iff_ne]
          intro equal
          refine distinct.1 ?_
          rw [equal, ← same]
          exact List.mem_map_of_mem later
        rw [different]
        exact induction later distinct.2

/-- Every field of a decoded request is a kept one, the authority or the joined cookies. -/
theorem field_of_decoded {rawHeaders : RawHeaders} {scan : HeaderScan}
    {metadata : RequestMetadata} (decoded : Decoded rawHeaders scan metadata)
    {field : Text × Text} (member : field ∈ metadata.headers.items) :
    KeptField rawHeaders field ∨ field.1 = hostName ∨ field.1 = cookieName := by
  rw [decoded.fields] at member
  unfold HeaderScan.fields at member
  rcases List.mem_append.mp member with front | cookies
  · rcases List.mem_append.mp front with regular | authority
    · exact Or.inl (decoded.kept field regular)
    · split at authority
      · exact Or.inr (Or.inl (congrArg Prod.fst (List.mem_singleton.mp authority)))
      · cases authority
  · split at cookies
    · cases cookies
    · exact Or.inr (Or.inr (congrArg Prod.fst (List.mem_singleton.mp cookies)))

/-- The request has a host, which is empty exactly where an empty host field was sent. -/
theorem host_of_decoded {rawHeaders : RawHeaders} {scan : HeaderScan}
    {metadata : RequestMetadata} (decoded : Decoded rawHeaders scan metadata) :
    (∃ value, metadata.headers.get hostName = some value ∧ value ≠ []) ↔
      (.str hostName, .str []) ∉ rawHeaders := by
  have regular : ∀ {value}, (hostName, value) ∈ scan.regular →
      metadata.headers.get hostName = some value := by
    intro value member
    have inItems : (hostName, value) ∈ metadata.headers.items := by
      rw [decoded.fields]
      exact List.mem_append_left _ (List.mem_append_left _ member)
    exact get_of_mem inItems rfl
  constructor
  · rintro ⟨value, found, nonempty⟩ emptySent
    have sent := regular (decoded.hosts [] emptySent)
    rw [found] at sent
    exact nonempty (Option.some.inj sent)
  · intro notSent
    by_cases supplied : (scan.supplied authorityName).isSome = true
    · obtain ⟨authority, given⟩ := Option.isSome_iff_exists.mp supplied
      have inItems : (hostName, authority) ∈ metadata.headers.items := by
        rw [decoded.fields]
        unfold HeaderScan.fields
        rw [given]
        exact List.mem_append_left _ (List.mem_append_right _ (List.mem_singleton.mpr rfl))
      refine ⟨authority, get_of_mem inItems rfl, ?_⟩
      have kept := (Option.filter_eq_some_iff.mp given).2
      rintro rfl
      cases kept
    · have some : ∃ value, (hostName, value) ∈ scan.regular := by
        by_contra none
        exact supplied (decoded.one_host.mpr fun value member => none ⟨value, member⟩)
      obtain ⟨value, member⟩ := some
      refine ⟨value, regular member, ?_⟩
      rintro rfl
      exact notSent (decoded.kept _ member).received

end Decoding

section Requests

variable {σ : Type} {engine : Engine σ} {config : HTTP2Config}

/-- The fields of a request that is built from a path without a query of its own. -/
theorem built_fields {method path : Text} {headers : Headers} {body : Bytes} {request : Request}
    (built : Request.build method path headers body "HTTP/2".toList none [] [] none =
      .ok request) :
    request.method = method ∧ request.rawTarget = path ∧ request.headers = headers ∧
      request.body = body := by
  have target : Request.resolveTarget path none [] = path := by simp [Request.resolveTarget]
  unfold Request.build at built
  dsimp only at built
  split at built
  · split at built
    · split at built
      · split at built
        · cases built
          exact ⟨rfl, target, rfl, rfl⟩
        · cases built
      · cases built
    · cases built
  · cases built

theorem request_of_yields {rawHeaders : RawHeaders} {body : Bytes} {ready : H2ReadyRequest}
    (yields : Yields engine config rawHeaders body ready) :
    ∃ metadata, decodeRequestHeaders config rawHeaders = .ok metadata ∧
      Request.build metadata.method metadata.path metadata.headers body "HTTP/2".toList none []
        [] none = .ok ready.request ∧
      ∀ expected, metadata.contentLength = some expected → body.length = expected := by
  obtain ⟨streamId, handed⟩ := ready
  obtain ⟨protocol, metadata, decodes, found, ended⟩ := yields
  refine ⟨metadata, decodes, ?_⟩
  unfold streamEnded at ended
  rw [found] at ended
  dsimp only at ended
  split at ended
  · cases ended
  · rename_i declared
    split at ended
    · cases ended
    · rename_i request built
      cases ended
      refine ⟨built, fun expected declares => ?_⟩
      by_contra differs
      refine declared ?_
      unfold missesDeclared
      show (metadata.contentLength.any fun expected => body.length != expected) = true
      rw [declares]
      exact bne_iff_ne.mpr differs

theorem yields_of_dispatched {occurrences : List Occurrence} {item : H2ReadyRequest}
    (connection : σ) (dispatched : Dispatched config occurrences item) :
    ∃ rawHeaders body, .reported (.requestReceived item.streamId rawHeaders) ∈ occurrences ∧
      Yields engine config rawHeaders body item := by
  obtain ⟨before, headers, collected, later, metadata, same, -, -, decodes, built, whole,
    declared⟩ := dispatched
  let body := payloads item.streamId collected
  let protocol : H2Protocol σ :=
    { H2Protocol.new connection with
      inbound := OrderedDict.set ∅ item.streamId (collectedStream metadata body) }
  have found : protocol.inbound.lookup item.streamId = some (collectedStream metadata body) :=
    OrderedDict.lookup_set _ _ _
  refine ⟨headers, body, ?_, protocol, metadata, decodes, found, ?_⟩
  · rw [same, List.append_assoc]
    exact List.mem_append_right _ List.mem_cons_self
  · have meets : missesDeclared (collectedStream metadata body) = false := by
      unfold missesDeclared
      show (metadata.contentLength.any fun expected => body.length != expected) = false
      cases declares : metadata.contentLength with
      | none => rfl
      | some expected =>
          have equal := declared expected declares
          rw [whole] at equal
          exact bne_eq_false_iff_eq.mpr equal
    have rebuilt : Request.build (collectedStream metadata body).method
        (collectedStream metadata body).path (collectedStream metadata body).headers
        (collectedStream metadata body).body.content "HTTP/2".toList none [] [] none =
          .ok item.request := built
    unfold streamEnded
    rw [found]
    dsimp only
    rw [meets, rebuilt]
    rfl

/-- A request over HTTP/2 has every guarantee of the HTTP/1.1 parser unless an empty host field
came with it. -/
theorem guaranteed_iff (engine : Engine σ) (config : HTTP2Config) (rawHeaders : RawHeaders)
    (body : Bytes) (ready : H2ReadyRequest)
    (yields : Yields engine config rawHeaders body ready) :
    Guaranteed ready.request ↔ (.str hostName, .str []) ∉ rawHeaders := by
  obtain ⟨metadata, decodes, built, declared⟩ := request_of_yields yields
  obtain ⟨scan, decoded⟩ := decoded_of_ok decodes
  obtain ⟨method, target, headers, whole⟩ := built_fields built
  rw [← host_of_decoded decoded, ← headers]
  refine ⟨fun guaranteed => guaranteed.host, fun host => ?_⟩
  exact {
    method_token := method ▸ decoded.method_token
    target_rooted := target ▸ decoded.path_rooted
    target_no_fragment := target ▸ decoded.path_no_fragment
    target_visible := target ▸ decoded.path_visible
    names_token := ready.request.headers.names_token
    names_distinct := ready.request.headers.names_distinct
    values_plain := ready.request.headers.values_plain
    no_transfer_encoding := fun field member same => by
      rw [headers] at member
      rcases field_of_decoded decoded member with kept | host | cookie
      · have allowed := kept.allowed
        rw [same] at allowed
        exact absurd allowed (by decide)
      · rw [host] at same
        exact absurd same (by decide)
      · rw [cookie] at same
        exact absurd same (by decide)
    host := host
    content_length := fun value found => by
      rw [headers] at found
      obtain ⟨decimal, length⟩ := decoded.length value found
      exact ⟨decimal, by rw [whole]; exact (declared _ length).symm⟩ }

end Requests

section Samples

def sampleHeaders : RawHeaders :=
  [(.str methodName, .str "GET".toList), (.str schemeName, .str "http".toList),
    (.str pathName, .str ['/']), (.str hostName, .str [])]

def sampleProtocol : H2Protocol Http2Effects.Script :=
  requestReceived (Http2Effects.scripted 40) HTTP2Config.standard
    (H2Protocol.new { events := [], outgoing := [7] }) 1 sampleHeaders

def sampleRequest : Request where
  method := "GET".toList
  path := ['/']
  headers := {
    items := [(hostName, [])]
    names_token := by decide
    values_plain := by decide
    names_distinct := by decide }
  body := []
  version := "HTTP/2".toList
  rawTarget := ['/']
  queryString := []
  pathParams := []
  routePattern := none
  method_token := by decide
  target_rooted := rfl
  path_split := by decide
  query_split := by decide

theorem sampleYields : Yields (Http2Effects.scripted 40) HTTP2Config.standard sampleHeaders []
    { streamId := 1, request := sampleRequest } :=
  ⟨sampleProtocol, { method := "GET".toList, path := ['/'], headers := sampleRequest.headers
                     contentLength := none }, by decide, by decide, by decide⟩

/-- The protocol hands out a request that the HTTP/1.1 parser would have refused. -/
theorem host_missing :
    Yields (Http2Effects.scripted 40) HTTP2Config.standard sampleHeaders []
        { streamId := 1, request := sampleRequest } ∧
      ¬ Guaranteed sampleRequest := by
  refine ⟨sampleYields, fun guaranteed => ?_⟩
  obtain ⟨value, found, nonempty⟩ := guaranteed.host
  have empty : sampleRequest.headers.get hostName = some [] := by decide
  rw [empty] at found
  exact nonempty (Option.some.inj found).symm

theorem guaranteed_iff_sample :
    Guaranteed sampleRequest ↔ (.str hostName, .str []) ∉ sampleHeaders :=
  guaranteed_iff (Http2Effects.scripted 40) HTTP2Config.standard sampleHeaders []
    { streamId := 1, request := sampleRequest } sampleYields

end Samples

end SmallServer.Http2Guarantees
