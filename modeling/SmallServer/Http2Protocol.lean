import SmallServer.RequestParser
import SmallServer.OrderedDict
import SmallServer.Http2Frames
import Mathlib.Data.Finset.Card

/-!
# The HTTP/2 protocol state

`H2Protocol` over an arbitrary HTTP/2 engine. The engine is a record of the calls the
protocol makes on hyper-h2's connection, over a state of its own; it may fail in any
call it is caught in, and report any window. An operation that raises keeps the state
it had reached, as the Python object does. The configuration and the engine are fixed
for a connection and stand beside the state.
-/

namespace SmallServer.Http2Protocol

open SmallServer HttpValues Http2Frames RequestParser

set_option autoImplicit false

abbrev StreamId := Nat

inductive ErrorCode where
  | protocolError
  | internalError
  | streamClosed
  | refusedStream
  | enhanceYourCalm
deriving DecidableEq

inductive HeaderText where
  | str (text : Text)
  | bytes (octets : Bytes)
deriving DecidableEq

abbrev RawHeaders := List (HeaderText × HeaderText)

/-- The engine events `receive_data` looks at, and one for all others. -/
inductive Event where
  | requestReceived (streamId : StreamId) (headers : RawHeaders)
  | dataReceived (streamId : StreamId) (data : Bytes) (flowControlledLength : Nat)
  | streamEnded (streamId : StreamId)
  | streamReset (streamId : StreamId)
  | trailersReceived (streamId : StreamId)
  | connectionTerminated
  | windowUpdated
  | remoteSettingsChanged
  | ignored
deriving DecidableEq

/-- An exception of the engine; the protocol never looks inside. -/
structure EngineError where
  detail : String
deriving DecidableEq

inductive Raised where
  | valueError (message : String)
  | engineError (error : EngineError)
deriving DecidableEq

/-- The calls made on the engine's connection. -/
structure Engine (σ : Type) where
  initiateConnection : σ → σ
  receiveData : σ → Bytes → Except EngineError (List Event) × σ
  dataToSend : σ → Bytes × σ
  acknowledgeReceivedData : σ → Nat → StreamId → Except EngineError Unit × σ
  localFlowControlWindow : σ → StreamId → Except EngineError Int × σ
  maxOutboundFrameSize : σ → Int
  sendHeaders : σ → StreamId → List (Text × Text) → Bool → Except EngineError Unit × σ
  sendData : σ → StreamId → Bytes → Bool → Except EngineError Unit × σ
  resetStream : σ → StreamId → ErrorCode → Except EngineError Unit × σ
  closeConnection : σ → Nat → StreamId → Except EngineError Unit × σ

structure H2ReadyRequest where
  streamId : StreamId
  request : Request
deriving DecidableEq

/-- A request body: collected in a `bytearray`, frozen to `bytes` at its end. -/
inductive InboundBody where
  | bytearray (content : Bytes)
  | bytes (content : Bytes)
deriving DecidableEq

def InboundBody.content : InboundBody → Bytes
  | .bytearray content => content
  | .bytes content => content

structure InboundStream where
  method : Text
  path : Text
  headers : Headers
  body : InboundBody
  expectedContentLength : Option Nat
  dispatched : Bool
deriving DecidableEq

structure OutboundStream where
  body : Bytes
  offset : Nat
deriving DecidableEq

def OutboundStream.remaining (outbound : OutboundStream) : Int :=
  outbound.body.length - outbound.offset

inductive Command where
  | reset (streamId : StreamId)
  | response (streamId : StreamId) (response : Response)
deriving DecidableEq

namespace Command

def streamId : Command → StreamId
  | .reset streamId => streamId
  | .response streamId _ => streamId

def bodySize : Command → Int
  | .reset _ => 0
  | .response _ answer => answer.body.length

/-- `command[1] == stream_id and command[2] is not None`. -/
def isResponseOn (streamId : StreamId) : Command → Bool
  | .reset _ => false
  | .response other _ => other == streamId

end Command

structure H2Protocol (σ : Type) where
  connection : σ
  frames : FrameBudget := FrameBudget.new
  inbound : OrderedDict StreamId InboundStream := ∅
  activeStreams : Finset StreamId := ∅
  outbound : OrderedDict StreamId OutboundStream := ∅
  commands : List Command := []
  bufferedRequestBytes : Int := 0
  pendingOutputBytes : Int := 0
  controlOutput : Bytes := []
  cancelledStreams : List StreamId := []
  readyRequests : List H2ReadyRequest := []
  lastProcessedStreamId : StreamId := 0
  remoteClosed : Bool := false
  localClosed : Bool := false
deriving DecidableEq

abbrev Outcome (σ α : Type) := Except Raised α × H2Protocol σ

section RequestHeaders

/-- `len(text.encode("utf-8"))`. -/
def utf8Length (text : Text) : Nat := (text.map Char.utf8Size).sum

def forbiddenHeaders : List Text :=
  ["connection".toList, "keep-alive".toList, "proxy-connection".toList,
    "transfer-encoding".toList, "upgrade".toList]

def methodName : Text := ":method".toList

def schemeName : Text := ":scheme".toList

def authorityName : Text := ":authority".toList

def pathName : Text := ":path".toList

def teName : Text := "te".toList

def cookieName : Text := "cookie".toList

/-- What `_decode_request_headers` can raise; its caller treats both alike. -/
inductive DecodeError where
  | typeError (message : String)
  | valueError (message : String)
deriving DecidableEq

structure RequestMetadata where
  method : Text
  path : Text
  headers : Headers
  contentLength : Option Nat
deriving DecidableEq

/-- The local variables of the loop over the raw headers. -/
structure HeaderScan where
  decodedSize : Nat := 0
  pseudo : OrderedDict Text Text := ∅
  regular : List (Text × Text) := []
  cookies : List Text := []
  seenRegular : Bool := false

/-- One turn of that loop. `lower` agrees with `str.lower` on Latin-1; a wider name
is refused here by Python and by `Headers` in the model. -/
def HeaderScan.add (config : HTTP2Config) (scan : HeaderScan) :
    HeaderText × HeaderText → Except DecodeError HeaderScan
  | (.str name, .str value) =>
      let decodedSize := scan.decodedSize + (utf8Length name + utf8Length value + 32)
      if decodedSize > config.maxHeaderBytes then
        .error (.valueError "HTTP/2 decoded headers are too large")
      else if name.head? = some ':' then
        if scan.seenRegular ∨ name ∈ scan.pseudo then
          .error (.valueError "invalid HTTP/2 pseudo-header ordering")
        else .ok { scan with decodedSize, pseudo := scan.pseudo.set name value }
      else if name ≠ lower name ∨ forbiddenHeaders.contains (lower name) then
        .error (.valueError "forbidden HTTP/2 request header")
      else if lower name = teName ∧ lower value ≠ "trailers".toList then
        .error (.valueError "invalid HTTP/2 TE header")
      else if lower name = cookieName then
        .ok { scan with decodedSize, seenRegular := true, cookies := scan.cookies ++ [value] }
      else
        .ok { scan with
          decodedSize, seenRegular := true, regular := scan.regular ++ [(name, value)] }
  | _ => .error (.typeError "HTTP/2 headers must decode to text")

/-- `pseudo.get(name)` where only a non-empty value counts. -/
def HeaderScan.supplied (scan : HeaderScan) (name : Text) : Option Text :=
  (scan.pseudo.lookup name).filter fun value => !value.isEmpty

def HeaderScan.fields (scan : HeaderScan) : List (Text × Text) :=
  scan.regular ++
    (match scan.supplied authorityName with
      | some authority => [(hostName, authority)]
      | none => []) ++
    (if scan.cookies = [] then []
      else [(cookieName, List.intercalate "; ".toList scan.cookies)])

def decodeContentLength (config : HTTP2Config) (headers : Headers) :
    Except DecodeError (Option Nat) :=
  match headers.get contentLengthName with
  | none => .ok none
  | some value =>
      if ¬ isAsciiDecimal value then .error (.valueError "invalid HTTP/2 content-length")
      else if value.length > intMaxStrDigits then
        .error (.valueError "Exceeds the limit (4300 digits) for integer string conversion")
      else if decimalValue value > config.maxBodyBytes then
        .error (.valueError "HTTP/2 content-length exceeds configured maximum")
      else .ok (some (decimalValue value))

/-- `_decode_request_headers` from the pseudo-headers on. -/
def HeaderScan.finish (config : HTTP2Config) (scan : HeaderScan) :
    Except DecodeError RequestMetadata :=
  let allowed := [methodName, schemeName, authorityName, pathName]
  if scan.pseudo.keys.any fun name => !allowed.contains name then
    .error (.valueError "unknown HTTP/2 pseudo-header")
  else if scan.pseudo.lookup methodName = some "CONNECT".toList then
    .error (.valueError "HTTP/2 CONNECT is not supported")
  else
    match scan.supplied methodName, scan.supplied schemeName, scan.supplied pathName with
    | some method, some _, some path =>
        if isToken method = false then .error (.valueError "invalid HTTP/2 method")
        else if path.head? ≠ some '/' ∨ '#' ∈ path ∨ path.all isVisible = false then
          .error (.valueError "invalid HTTP/2 origin-form path")
        else
          let existingHost := scan.regular.any fun field => field.1 == hostName
          if (scan.supplied authorityName).isSome ∧ existingHost then
            .error (.valueError "HTTP/2 authority and host must not both be supplied")
          else if (scan.supplied authorityName).isNone ∧ ¬ existingHost then
            .error (.valueError "HTTP/2 requests require :authority or host")
          else
            match Headers.ofPairs scan.fields with
            | .error message => .error (.valueError message)
            | .ok headers =>
                (decodeContentLength config headers).map fun contentLength =>
                  { method, path, headers, contentLength }
    | _, _, _ => .error (.valueError "missing required HTTP/2 pseudo-header")

def decodeRequestHeaders (config : HTTP2Config) (rawHeaders : RawHeaders) :
    Except DecodeError RequestMetadata :=
  if rawHeaders.length > config.maxHeaderCount then
    .error (.valueError "too many HTTP/2 request headers")
  else
    match rawHeaders.foldlM (HeaderScan.add config) {} with
    | .error error => .error error
    | .ok scan => scan.finish config

end RequestHeaders

section Operations

variable {σ : Type} (engine : Engine σ) (config : HTTP2Config)

namespace H2Protocol

def new (connection : σ) : H2Protocol σ := { connection }

def activeStreamCount (protocol : H2Protocol σ) : Nat := protocol.activeStreams.card

/-- The property of this name: queued and unsent bodies, and captured control bytes. -/
def pendingOutput (protocol : H2Protocol σ) : Int :=
  protocol.pendingOutputBytes + protocol.controlOutput.length

def hasPendingInput (protocol : H2Protocol σ) : Bool := protocol.frames.hasReadyFrames

end H2Protocol

def validateWireOutput (protocol : H2Protocol σ) (newBytes alreadyBuffered : Nat) :
    Except Raised Unit :=
  if (newBytes : Int) + alreadyBuffered + protocol.pendingOutputBytes >
      config.maxPendingOutputBytes then
    .error (.valueError "HTTP/2 generated output exceeds configured maximum")
  else .ok ()

def initiate (protocol : H2Protocol σ) : Outcome σ Bytes :=
  let (output, connection) :=
    engine.dataToSend (engine.initiateConnection protocol.connection)
  let next := { protocol with connection }
  if output.length > config.maxControlOutputBytes then
    (.error (.valueError "HTTP/2 control output exceeds configured maximum"), next)
  else
    match validateWireOutput config next output.length 0 with
    | .error raised => (.error raised, next)
    | .ok () => (.ok output, next)

def captureControlOutput (protocol : H2Protocol σ) : Outcome σ Unit :=
  let (produced, connection) := engine.dataToSend protocol.connection
  let next := { protocol with connection }
  let nextControlSize := protocol.controlOutput.length + produced.length
  if nextControlSize > config.maxControlOutputBytes ∨
      (nextControlSize : Int) + protocol.pendingOutputBytes > config.maxPendingOutputBytes then
    (.error (.valueError "HTTP/2 control output exceeds configured maximum"), next)
  else (.ok (), { next with controlOutput := protocol.controlOutput ++ produced })

def takeCancelledStreams (protocol : H2Protocol σ) : List StreamId × H2Protocol σ :=
  (protocol.cancelledStreams, { protocol with cancelledStreams := [] })

def releaseInbound (protocol : H2Protocol σ) (streamId : StreamId) : H2Protocol σ :=
  match protocol.inbound.lookup streamId with
  | none => protocol
  | some stream =>
      { protocol with
        inbound := protocol.inbound.erase streamId
        bufferedRequestBytes := protocol.bufferedRequestBytes - stream.body.content.length }

/-- `drop_stream`. Its loop over the commands charges back every response it removes. -/
def dropStream (protocol : H2Protocol σ) (streamId : StreamId) : H2Protocol σ :=
  let released := releaseInbound protocol streamId
  let unsent := (released.outbound.lookup streamId).elim 0 OutboundStream.remaining
  let removed := released.commands.filter (Command.isResponseOn streamId)
  { released with
    readyRequests := released.readyRequests.filter fun item => item.streamId != streamId
    outbound := released.outbound.erase streamId
    pendingOutputBytes :=
      released.pendingOutputBytes - unsent - (removed.map Command.bodySize).sum
    commands := released.commands.filter fun command => !command.isResponseOn streamId
    activeStreams := released.activeStreams.erase streamId }

/-- `_reset_stream`: the engine's refusal to reset is ignored. -/
def resetStream (protocol : H2Protocol σ) (streamId : StreamId) (errorCode : ErrorCode) :
    H2Protocol σ :=
  dropStream
    { protocol with connection := (engine.resetStream protocol.connection streamId errorCode).2 }
    streamId

def requestReceived (protocol : H2Protocol σ) (streamId : StreamId) (rawHeaders : RawHeaders) :
    H2Protocol σ :=
  if protocol.activeStreams.card ≥ config.maxConcurrentStreams then
    resetStream engine protocol streamId .refusedStream
  else
    match decodeRequestHeaders config rawHeaders with
    | .error _ => resetStream engine protocol streamId .protocolError
    | .ok metadata =>
        { protocol with
          activeStreams := insert streamId protocol.activeStreams
          inbound := protocol.inbound.set streamId {
            method := metadata.method
            path := metadata.path
            headers := metadata.headers
            body := .bytearray []
            expectedContentLength := metadata.contentLength
            dispatched := false } }

/-- `stream.expected_content_length is not None and size > stream.expected_content_length`. -/
def exceedsDeclared (stream : InboundStream) (size : Nat) : Bool :=
  stream.expectedContentLength.any fun expected => expected < size

/-- `_data_received` after the acknowledgement. -/
def storeData (protocol : H2Protocol σ) (streamId : StreamId) (data : Bytes) : H2Protocol σ :=
  match protocol.inbound.lookup streamId with
  | none => protocol
  | some stream =>
      let nextStreamSize := stream.body.content.length + data.length
      let nextConnectionSize := protocol.bufferedRequestBytes + data.length
      if nextStreamSize > config.maxBodyBytes ∨ exceedsDeclared stream nextStreamSize ∨
          nextConnectionSize > config.maxConnectionBufferBytes then
        resetStream engine protocol streamId .enhanceYourCalm
      else
        match stream.body with
        | .bytes _ => resetStream engine protocol streamId .streamClosed
        | .bytearray content =>
            { protocol with
              inbound := protocol.inbound.set streamId
                { stream with body := .bytearray (content ++ data) }
              bufferedRequestBytes := nextConnectionSize }

def dataReceived (protocol : H2Protocol σ) (streamId : StreamId) (data : Bytes)
    (flowLength : Nat) : Outcome σ Unit :=
  match engine.acknowledgeReceivedData protocol.connection flowLength streamId with
  | (.error error, connection) => (.error (.engineError error), { protocol with connection })
  | (.ok (), connection) =>
      (.ok (), storeData engine config { protocol with connection } streamId data)

/-- `stream.expected_content_length is not None and len(stream.body) !=` that length. -/
def missesDeclared (stream : InboundStream) : Bool :=
  stream.expectedContentLength.any fun expected => stream.body.content.length != expected

/-- `_stream_ended`. The record is changed before `Request` is built. -/
def streamEnded (protocol : H2Protocol σ) (streamId : StreamId) :
    Outcome σ (Option H2ReadyRequest) :=
  match protocol.inbound.lookup streamId with
  | none => (.ok none, protocol)
  | some stream =>
      if missesDeclared stream then
        (.ok none, resetStream engine protocol streamId .protocolError)
      else
        let body := stream.body.content
        let next := { protocol with
          inbound := protocol.inbound.set streamId
            { stream with body := .bytes body, dispatched := true }
          lastProcessedStreamId := max protocol.lastProcessedStreamId streamId }
        match Request.build stream.method stream.path stream.headers body "HTTP/2".toList
            none [] [] none with
        | .error message => (.error (.valueError message), next)
        | .ok request => (.ok (some { streamId, request }), next)

/-- The body of the event loop of `receive_data`. -/
def handleEvent (protocol : H2Protocol σ) : Event → Outcome σ Unit
  | .requestReceived streamId headers =>
      (.ok (), requestReceived engine config protocol streamId headers)
  | .dataReceived streamId data flowLength =>
      dataReceived engine config protocol streamId data flowLength
  | .streamEnded streamId =>
      match streamEnded engine protocol streamId with
      | (.error raised, next) => (.error raised, next)
      | (.ok none, next) => (.ok (), next)
      | (.ok (some completed), next) =>
          (.ok (), { next with readyRequests := next.readyRequests ++ [completed] })
  | .streamReset streamId =>
      (.ok (), dropStream
        { protocol with cancelledStreams := protocol.cancelledStreams ++ [streamId] } streamId)
  | .trailersReceived streamId =>
      (.ok (), resetStream engine protocol streamId .protocolError)
  | .connectionTerminated => (.ok (), { protocol with remoteClosed := true })
  | .windowUpdated | .remoteSettingsChanged | .ignored => (.ok (), protocol)

def handleEvents (protocol : H2Protocol σ) : List Event → Outcome σ Unit
  | [] => (.ok (), protocol)
  | event :: events =>
      match handleEvent engine config protocol event with
      | (.error raised, next) => (.error raised, next)
      | (.ok (), next) => handleEvents next events

/-- One turn of the frame loop of `receive_data`. -/
def receiveFrame (protocol : H2Protocol σ) (wireChunk : Bytes) : Outcome σ Unit :=
  match engine.receiveData protocol.connection wireChunk with
  | (.error error, connection) => (.error (.engineError error), { protocol with connection })
  | (.ok events, connection) =>
      match handleEvents engine config { protocol with connection } events with
      | (.error raised, next) => (.error raised, next)
      | (.ok (), next) => captureControlOutput engine config next

def receiveFrames (protocol : H2Protocol σ) : List Bytes → Outcome σ Unit
  | [] => (.ok (), protocol)
  | wireChunk :: wireChunks =>
      match receiveFrame engine config protocol wireChunk with
      | (.error raised, next) => (.error raised, next)
      | (.ok (), next) => receiveFrames next wireChunks

/-- The end of `receive_data`: parked requests leave once no frame is waiting. -/
def releaseReady (protocol : H2Protocol σ) : List H2ReadyRequest × H2Protocol σ :=
  if protocol.frames.hasReadyFrames then ([], protocol)
  else
    (protocol.readyRequests.filter fun item =>
        decide (item.streamId ∉ protocol.cancelledStreams ∧
          item.streamId ∈ protocol.activeStreams),
      { protocol with readyRequests := [] })

def receiveData (protocol : H2Protocol σ) (data : Bytes) : Outcome σ (List H2ReadyRequest) :=
  match protocol.frames.feed config data with
  | (.error message, frames) => (.error (.valueError message), { protocol with frames })
  | (.ok (), fed) =>
      let (wireChunks, frames) := fed.take config.readerFrameBatchSize
      match receiveFrames engine config { protocol with frames } wireChunks with
      | (.error raised, next) => (.error raised, next)
      | (.ok (), next) =>
          let (ready, next) := releaseReady next
          (.ok ready, next)

def queueResponse (protocol : H2Protocol σ) (streamId : StreamId) (response : Response) :
    Bool × H2Protocol σ :=
  if streamId ∉ protocol.activeStreams then (false, protocol)
  else
    let released := releaseInbound protocol streamId
    let bodySize := response.body.length
    if bodySize > config.maxResponseBodyBytes ∨
        (released.controlOutput.length : Int) + released.pendingOutputBytes + bodySize >
          config.maxPendingOutputBytes then
      if released.commands.any fun command => command.streamId == streamId then
        (false, released)
      else (false, { released with commands := released.commands ++ [.reset streamId] })
    else if released.commands.length ≥ config.maxConcurrentStreams * 2 then
      (false, resetStream engine released streamId .enhanceYourCalm)
    else
      (true, { released with
        pendingOutputBytes := released.pendingOutputBytes + bodySize
        commands := released.commands ++ [.response streamId response] })

def responseFields (response : Response) : List (Text × Text) :=
  (":status".toList, decimalText response.status) ::
    ((response.headers.items.filter fun field =>
        !(teName :: forbiddenHeaders).contains (lower field.1)).map
      fun field => (lower field.1, field.2)) ++
    (if response.headers.get contentLengthName = none then
      [(contentLengthName, decimalText response.body.length)] else [])

def headerSize (fields : List (Text × Text)) : Nat :=
  (fields.map fun field => utf8Length field.1 + utf8Length field.2 + 32).sum

def startResponse (protocol : H2Protocol σ) (streamId : StreamId) (response : Response) :
    H2Protocol σ :=
  let refunded := { protocol with
    pendingOutputBytes := protocol.pendingOutputBytes - response.body.length }
  if headerSize (responseFields response) > config.maxHeaderBytes then
    resetStream engine refunded streamId .internalError
  else
    match engine.sendHeaders protocol.connection streamId (responseFields response)
        response.body.isEmpty with
    | (.error _, connection) => dropStream { refunded with connection } streamId
    | (.ok (), connection) =>
        if response.body = [] then
          { protocol with connection, activeStreams := protocol.activeStreams.erase streamId }
        else
          { protocol with
            connection
            outbound := protocol.outbound.set streamId { body := response.body, offset := 0 } }

/-- One turn of the command loop of `flush`, before the capture. -/
def runCommand (protocol : H2Protocol σ) : Command → H2Protocol σ
  | .reset streamId => resetStream engine protocol streamId .enhanceYourCalm
  | .response streamId response => startResponse engine config protocol streamId response

def runCommands (protocol : H2Protocol σ) : List Command → Outcome σ Unit
  | [] => (.ok (), protocol)
  | command :: commands =>
      match captureControlOutput engine config (runCommand engine config protocol command) with
      | (.error raised, next) => (.error raised, next)
      | (.ok (), next) => runCommands next commands

def finishResponse (protocol : H2Protocol σ) (streamId : StreamId) : H2Protocol σ :=
  { protocol with
    outbound := protocol.outbound.erase streamId
    activeStreams := protocol.activeStreams.erase streamId }

/-- `min(remaining, max(0, window), max_outbound_frame_size)`. -/
def chunkSize (remaining window maxFrame : Int) : Int := min (min remaining (max 0 window)) maxFrame

/-- `flush` on a stream whose window is known: at most one chunk of its body. -/
def sendChunk (protocol : H2Protocol σ) (streamId : StreamId) (outbound : OutboundStream)
    (window : Int) (output : Bytes) : Outcome σ Bytes :=
  let size := chunkSize outbound.remaining window
    (engine.maxOutboundFrameSize protocol.connection)
  if size ≤ 0 then (.ok output, protocol)
  else
    let endStream : Bool := size == outbound.remaining
    let chunk := (outbound.body.drop outbound.offset).take size.toNat
    match engine.sendData protocol.connection streamId chunk endStream with
    | (.error _, connection) => (.ok output, dropStream { protocol with connection } streamId)
    | (.ok (), connection) =>
        let (generated, connection) := engine.dataToSend connection
        let sent := { protocol with
          connection
          outbound := protocol.outbound.set streamId
            { outbound with offset := outbound.offset + size.toNat }
          pendingOutputBytes := protocol.pendingOutputBytes - size }
        match validateWireOutput config sent generated.length output.length with
        | .error raised => (.error raised, sent)
        | .ok () =>
            (.ok (output ++ generated), if endStream then finishResponse sent streamId else sent)

def sendBody (protocol : H2Protocol σ) (streamId : StreamId) (outbound : OutboundStream)
    (output : Bytes) : Outcome σ Bytes :=
  if outbound.remaining ≤ 0 then (.ok output, finishResponse protocol streamId)
  else
    match engine.localFlowControlWindow protocol.connection streamId with
    | (.error _, connection) => (.ok output, dropStream { protocol with connection } streamId)
    | (.ok window, connection) =>
        sendChunk engine config { protocol with connection } streamId outbound window output

/-- The body loop of `flush`, over the streams listed when it began. -/
def sendBodies (protocol : H2Protocol σ) (output : Bytes) :
    List (Sigma fun _ : StreamId => OutboundStream) → Outcome σ Bytes
  | [] => (.ok output, protocol)
  | entry :: entries =>
      match sendBody engine config protocol entry.1 entry.2 output with
      | (.error raised, next) => (.error raised, next)
      | (.ok output, next) => sendBodies next output entries

def drainEngine (protocol : H2Protocol σ) (output : Bytes) : Outcome σ Bytes :=
  let (generated, connection) := engine.dataToSend protocol.connection
  let next := { protocol with connection }
  match validateWireOutput config next generated.length output.length with
  | .error raised => (.error raised, next)
  | .ok () => (.ok (output ++ generated), next)

def flush (protocol : H2Protocol σ) : Outcome σ Bytes :=
  match runCommands engine config { protocol with commands := [] } protocol.commands with
  | (.error raised, next) => (.error raised, next)
  | (.ok (), started) =>
      match sendBodies engine config { started with controlOutput := [] } started.controlOutput
          started.outbound.entries with
      | (.error raised, next) => (.error raised, next)
      | (.ok output, next) => drainEngine engine config next output

def clearTables (protocol : H2Protocol σ) : H2Protocol σ :=
  { protocol with
    inbound := ∅
    outbound := ∅
    commands := []
    readyRequests := []
    activeStreams := ∅
    bufferedRequestBytes := 0
    pendingOutputBytes := 0
    controlOutput := [] }

/-- `close`: output beyond a limit is given up, never raised. -/
def close (protocol : H2Protocol σ) (errorCode : Nat) : Bytes × H2Protocol σ :=
  let left :=
    if protocol.localClosed then protocol
    else { protocol with
      localClosed := true
      connection := (engine.closeConnection protocol.connection errorCode
        protocol.lastProcessedStreamId).2 }
  let control := left.controlOutput
  let (generated, connection) := engine.dataToSend left.connection
  let cleared := { clearTables left with connection }
  match validateWireOutput config cleared generated.length control.length with
  | .error _ => ([], cleared)
  | .ok () =>
      if control.length + generated.length > config.maxControlOutputBytes then ([], cleared)
      else (control ++ generated, cleared)

end Operations

section Dropping

variable {σ : Type} (protocol : H2Protocol σ) (streamId : StreamId)

def inboundSize (stream : InboundStream) : Int := stream.body.content.length

theorem releaseInbound_eq : releaseInbound protocol streamId = { protocol with
    inbound := protocol.inbound.erase streamId
    bufferedRequestBytes := protocol.bufferedRequestBytes -
      (protocol.inbound.lookup streamId).elim 0 inboundSize } := by
  unfold releaseInbound
  split
  · rename_i absent
    have same : protocol.inbound.erase streamId = protocol.inbound :=
      AList.ext (List.kerase_of_notMem_keys (AList.lookup_eq_none.mp absent))
    rw [absent, same, Option.elim_none, Int.sub_zero]
  · rename_i stream found
    rw [found]
    rfl

theorem dropStream_eq : dropStream protocol streamId = { protocol with
    inbound := protocol.inbound.erase streamId
    bufferedRequestBytes := protocol.bufferedRequestBytes -
      (protocol.inbound.lookup streamId).elim 0 inboundSize
    readyRequests := protocol.readyRequests.filter fun item => item.streamId != streamId
    outbound := protocol.outbound.erase streamId
    pendingOutputBytes := protocol.pendingOutputBytes -
      (protocol.outbound.lookup streamId).elim 0 OutboundStream.remaining -
        ((protocol.commands.filter (Command.isResponseOn streamId)).map Command.bodySize).sum
    commands := protocol.commands.filter fun command => !command.isResponseOn streamId
    activeStreams := protocol.activeStreams.erase streamId } := by
  unfold dropStream
  rw [releaseInbound_eq]

end Dropping

end SmallServer.Http2Protocol
