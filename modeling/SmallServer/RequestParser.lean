import SmallServer.HttpValues

/-!
# The incremental HTTP/1.1 request parser

`HTTPRequestParser.feed` and `_parse_head`, with the parser state threaded through
every call: a call that raises leaves the buffer it had built. The two kinds of
exception that can leave `feed` are kept apart, because the connection loop
answers only one of them.
-/

namespace SmallServer.RequestParser

open SmallServer HttpValues

set_option autoImplicit false

inductive FeedError where
  | httpParseError (status : Nat) (detail : String)
  | valueError (detail : String)
deriving DecidableEq

structure Limits where
  maxHeaderBytes : Nat
  maxHeaderCount : Nat
  maxBodyBytes : Nat
  maxRequestTargetBytes : Nat
deriving DecidableEq

def Limits.Positive (limits : Limits) : Prop :=
  0 < limits.maxHeaderBytes ∧ 0 < limits.maxHeaderCount ∧ 0 < limits.maxBodyBytes ∧
    0 < limits.maxRequestTargetBytes

instance (limits : Limits) : Decidable limits.Positive :=
  inferInstanceAs (Decidable (_ ∧ _))

structure RequestHead where
  method : Text
  rawTarget : Text
  headers : Headers
  contentLength : Nat
deriving DecidableEq

def crlf : Text := ['\r', '\n']

def terminator : Bytes := [13, 10, 13, 10]

def http11 : Text := "HTTP/1.1".toList

def contentLengthName : Text := "content-length".toList

def transferEncodingName : Text := "transfer-encoding".toList

def hostName : Text := "host".toList

def isBlank (c : Char) : Bool := c == ' ' || c == '\t'

/-- `value.strip(" \t")`. -/
def stripBlanks (value : Text) : Text := ListScan.strip isBlank value

/-- `0x21 <= ord(character) <= 0x7E`. -/
def isVisible (c : Char) : Bool := 0x21 ≤ c.toNat && c.toNat ≤ 0x7E

/-- `value.isascii() and value.isdecimal()`: among ASCII texts, the non-empty
strings of digits. -/
def isAsciiDecimal (value : Text) : Bool := !value.isEmpty && value.all Char.isDigit

/-- CPython's default limit on the digits `int` converts from a string. -/
def intMaxStrDigits : Nat := 4300

def decimalValue (digits : Text) : Nat :=
  digits.foldl (fun value digit => 10 * value + (digit.toNat - 0x30)) 0

/-- `int(value)` on a string of ASCII digits. -/
def intOfDecimal (value : Text) : Except FeedError Nat :=
  if value.length ≤ intMaxStrDigits then .ok (decimalValue value)
  else .error (.valueError "Exceeds the limit (4300 digits) for integer string conversion")

/-- The checks of `_parse_head` on the request line: method and raw target. -/
def parseRequestLine (limits : Limits) (line : Text) : Except FeedError (Text × Text) :=
  match line.splitOn ' ' with
  | [method, rawTarget, version] =>
      if version ≠ http11 ∨ rawTarget.head? ≠ some '/' then
        .error (.httpParseError 400 "only origin-form HTTP/1.1 requests are supported")
      else if rawTarget.length > limits.maxRequestTargetBytes then
        .error (.httpParseError 414 "request target is too large")
      else if '#' ∈ rawTarget ∨ ¬ rawTarget.all isVisible then
        .error (.httpParseError 400 "request target is not valid origin-form")
      else .ok (method, rawTarget)
  | _ => .error (.httpParseError 400 "malformed request line")

def headerField (line : Text) : Text × Text :=
  (ListScan.beforeMark ':' line, stripBlanks (ListScan.afterMark ':' line))

def readHeaderLines : List Text → Except FeedError (List (Text × Text))
  | [] => .ok []
  | line :: rest =>
      if ':' ∉ line then .error (.httpParseError 400 "malformed request header")
      else if lower (headerField line).1 = transferEncodingName then
        .error (.httpParseError 400 "transfer-encoding is not supported")
      else (readHeaderLines rest).map (headerField line :: ·)

/-- The values the loop collects under `content-length`. -/
def contentLengths (pairs : List (Text × Text)) : List Text :=
  (pairs.filter fun pair => lower pair.1 == contentLengthName).map Prod.snd

def parseContentLength (limits : Limits) : List Text → Except FeedError Nat
  | [] => .ok 0
  | value :: _ =>
      if isAsciiDecimal value then do
        let length ← intOfDecimal value
        if length > limits.maxBodyBytes then
          .error (.httpParseError 413 "request body is too large")
        else .ok length
      else .error (.httpParseError 400 "invalid content-length")

/-- `_parse_head` after the request line. -/
def parseFields (limits : Limits) (lines : List Text) : Except FeedError (Headers × Nat) :=
  if lines.length > limits.maxHeaderCount then
    .error (.httpParseError 413 "too many request headers")
  else do
    let pairs ← readHeaderLines lines
    if (contentLengths pairs).length > 1 then
      .error (.httpParseError 400 "multiple content-length headers are not supported")
    else match Headers.ofPairs pairs with
      | .error detail => .error (.httpParseError 400 detail)
      | .ok headers => do
          let length ← parseContentLength limits (contentLengths pairs)
          if (headers.get hostName).getD [] = [] then
            .error (.httpParseError 400 "HTTP/1.1 requests require a Host header")
          else .ok (headers, length)

def parseHead (limits : Limits) (raw : Bytes) : Except FeedError RequestHead :=
  match ListScan.split crlf (decodeLatin1 raw) with
  | [] => .error (.httpParseError 400 "malformed request line")
  | requestLine :: lines => do
      let (method, rawTarget) ← parseRequestLine limits requestLine
      let (headers, contentLength) ← parseFields limits lines
      .ok { method, rawTarget, headers, contentLength }

structure HTTPRequestParser where
  limits : Limits
  preserveTrailingData : Bool
  buffer : Bytes
  requestHead : Option RequestHead
  trailingData : Bytes
deriving DecidableEq

def HTTPRequestParser.new (limits : Limits) (preserveTrailingData : Bool) : HTTPRequestParser where
  limits := limits
  preserveTrailingData := preserveTrailingData
  buffer := []
  requestHead := none
  trailingData := []

def buildRequest (head : RequestHead) (body : Bytes) : Except String Request :=
  Request.build head.method (ListScan.beforeMark '?' head.rawTarget) head.headers body http11
    (some head.rawTarget) (ListScan.afterMark '?' head.rawTarget) [] none

/-- `feed` once the head is known. -/
def feedBody (parser : HTTPRequestParser) (head : RequestHead) :
    Except FeedError (Option Request) × HTTPRequestParser :=
  if parser.buffer.length > head.contentLength ∧ ¬ parser.preserveTrailingData then
    (.error (.httpParseError 400 "pipelined requests are not supported"), parser)
  else if parser.buffer.length < head.contentLength then (.ok none, parser)
  else
    let completed := { parser with trailingData := parser.buffer.drop head.contentLength }
    match buildRequest head (parser.buffer.take head.contentLength) with
    | .error detail => (.error (.httpParseError 400 detail), completed)
    | .ok request => (.ok (some request), completed)

/-- The head is read: `_request_head` is set and the head leaves the buffer. -/
def HTTPRequestParser.readHead (parser : HTTPRequestParser) (head : RequestHead) (length : Nat) :
    HTTPRequestParser :=
  { parser with buffer := parser.buffer.drop length, requestHead := some head }

/-- `feed` while the head is still incomplete, from the received buffer on. -/
def feedHead (parser : HTTPRequestParser) :
    Except FeedError (Option Request) × HTTPRequestParser :=
  match ListScan.find terminator parser.buffer with
  | none =>
      if parser.buffer.length > parser.limits.maxHeaderBytes then
        (.error (.httpParseError 413 "request headers are too large"), parser)
      else (.ok none, parser)
  | some marker =>
      if marker + 4 > parser.limits.maxHeaderBytes then
        (.error (.httpParseError 413 "request headers are too large"), parser)
      else
        match parseHead parser.limits (parser.buffer.take marker) with
        | .error error => (.error error, parser)
        | .ok head => feedBody (parser.readHead head (marker + 4)) head

def feed (parser : HTTPRequestParser) (data : Bytes) :
    Except FeedError (Option Request) × HTTPRequestParser :=
  let received := { parser with buffer := parser.buffer ++ data }
  match parser.requestHead with
  | some head => feedBody received head
  | none => feedHead received

def HTTPRequestParser.awaitingHead (limits : Limits) (preserve : Bool) (buffer : Bytes) :
    HTTPRequestParser :=
  { HTTPRequestParser.new limits preserve with buffer := buffer }

section Projections

variable (limits : Limits) (preserve : Bool) (buffer : Bytes) (parser : HTTPRequestParser)
  (head : RequestHead) (length : Nat)

@[simp] theorem awaitingHead_limits :
    (HTTPRequestParser.awaitingHead limits preserve buffer).limits = limits := rfl

@[simp] theorem awaitingHead_preserveTrailingData :
    (HTTPRequestParser.awaitingHead limits preserve buffer).preserveTrailingData = preserve := rfl

@[simp] theorem awaitingHead_buffer :
    (HTTPRequestParser.awaitingHead limits preserve buffer).buffer = buffer := rfl

@[simp] theorem awaitingHead_requestHead :
    (HTTPRequestParser.awaitingHead limits preserve buffer).requestHead = none := rfl

@[simp] theorem readHead_limits : (parser.readHead head length).limits = parser.limits := rfl

@[simp] theorem readHead_preserveTrailingData :
    (parser.readHead head length).preserveTrailingData = parser.preserveTrailingData := rfl

@[simp] theorem readHead_buffer :
    (parser.readHead head length).buffer = parser.buffer.drop length := rfl

@[simp] theorem readHead_requestHead : (parser.readHead head length).requestHead = some head := rfl

theorem feed_new (s : Bytes) :
    feed (HTTPRequestParser.new limits preserve) s =
      feedHead (HTTPRequestParser.awaitingHead limits preserve s) := rfl

end Projections

inductive HeadFeed (parser : HTTPRequestParser) :
    Except FeedError (Option Request) × HTTPRequestParser → Prop
  | overlong (absent : ListScan.find terminator parser.buffer = none)
      (long : parser.limits.maxHeaderBytes < parser.buffer.length) :
      HeadFeed parser (.error (.httpParseError 413 "request headers are too large"), parser)
  | waiting (absent : ListScan.find terminator parser.buffer = none)
      (short : parser.buffer.length ≤ parser.limits.maxHeaderBytes) :
      HeadFeed parser (.ok none, parser)
  | overlongHead (marker : Nat) (found : ListScan.find terminator parser.buffer = some marker)
      (long : parser.limits.maxHeaderBytes < marker + 4) :
      HeadFeed parser (.error (.httpParseError 413 "request headers are too large"), parser)
  | rejected (marker : Nat) (error : FeedError)
      (found : ListScan.find terminator parser.buffer = some marker)
      (short : marker + 4 ≤ parser.limits.maxHeaderBytes)
      (parsed : parseHead parser.limits (parser.buffer.take marker) = .error error) :
      HeadFeed parser (.error error, parser)
  | read (marker : Nat) (head : RequestHead)
      (found : ListScan.find terminator parser.buffer = some marker)
      (short : marker + 4 ≤ parser.limits.maxHeaderBytes)
      (parsed : parseHead parser.limits (parser.buffer.take marker) = .ok head) :
      HeadFeed parser (feedBody (parser.readHead head (marker + 4)) head)

theorem feedHead_cases (parser : HTTPRequestParser) : HeadFeed parser (feedHead parser) := by
  unfold feedHead
  split
  · rename_i absent
    split
    · exact .overlong absent ‹_›
    · exact .waiting absent (Nat.le_of_not_lt ‹_›)
  · rename_i marker found
    split
    · exact .overlongHead marker found ‹_›
    · rename_i short
      split
      · exact .rejected marker _ found (Nat.le_of_not_lt short) ‹_›
      · exact .read marker _ found (Nat.le_of_not_lt short) ‹_›

section Equations

variable {parser : HTTPRequestParser} {head : RequestHead} {marker : Nat}

theorem feedHead_overlong (absent : ListScan.find terminator parser.buffer = none)
    (long : parser.limits.maxHeaderBytes < parser.buffer.length) :
    feedHead parser =
      (.error (.httpParseError 413 "request headers are too large"), parser) := by
  rw [feedHead, absent]
  exact if_pos long

theorem feedHead_waiting (absent : ListScan.find terminator parser.buffer = none)
    (short : parser.buffer.length ≤ parser.limits.maxHeaderBytes) :
    feedHead parser = (.ok none, parser) := by
  rw [feedHead, absent]
  exact if_neg (Nat.not_lt.mpr short)

theorem feedHead_overlongHead (found : ListScan.find terminator parser.buffer = some marker)
    (long : parser.limits.maxHeaderBytes < marker + 4) :
    feedHead parser =
      (.error (.httpParseError 413 "request headers are too large"), parser) := by
  rw [feedHead, found]
  exact if_pos long

theorem feedHead_rejected {error : FeedError}
    (found : ListScan.find terminator parser.buffer = some marker)
    (short : marker + 4 ≤ parser.limits.maxHeaderBytes)
    (parsed : parseHead parser.limits (parser.buffer.take marker) = .error error) :
    feedHead parser = (.error error, parser) := by
  rw [feedHead, found]
  dsimp only
  rw [if_neg (Nat.not_lt.mpr short), parsed]

theorem feedHead_read (found : ListScan.find terminator parser.buffer = some marker)
    (short : marker + 4 ≤ parser.limits.maxHeaderBytes)
    (parsed : parseHead parser.limits (parser.buffer.take marker) = .ok head) :
    feedHead parser = feedBody (parser.readHead head (marker + 4)) head := by
  rw [feedHead, found]
  dsimp only
  rw [if_neg (Nat.not_lt.mpr short), parsed]

theorem feedBody_rejected {detail : String} (preserve : parser.preserveTrailingData = true)
    (complete : head.contentLength ≤ parser.buffer.length)
    (built : buildRequest head (parser.buffer.take head.contentLength) = .error detail) :
    feedBody parser head = (.error (.httpParseError 400 detail),
      { parser with trailingData := parser.buffer.drop head.contentLength }) := by
  rw [feedBody, if_neg (by simp [preserve]), if_neg (Nat.not_lt.mpr complete), built]

theorem feedBody_completed {request : Request} (preserve : parser.preserveTrailingData = true)
    (complete : head.contentLength ≤ parser.buffer.length)
    (built : buildRequest head (parser.buffer.take head.contentLength) = .ok request) :
    feedBody parser head = (.ok (some request),
      { parser with trailingData := parser.buffer.drop head.contentLength }) := by
  rw [feedBody, if_neg (by simp [preserve]), if_neg (Nat.not_lt.mpr complete), built]

end Equations

inductive BodyFeed (parser : HTTPRequestParser) (head : RequestHead) :
    Except FeedError (Option Request) × HTTPRequestParser → Prop
  | pipelined (long : head.contentLength < parser.buffer.length)
      (strict : parser.preserveTrailingData = false) :
      BodyFeed parser head
        (.error (.httpParseError 400 "pipelined requests are not supported"), parser)
  | waiting (short : parser.buffer.length < head.contentLength) :
      BodyFeed parser head (.ok none, parser)
  | rejected (detail : String) (complete : head.contentLength ≤ parser.buffer.length)
      (built : buildRequest head (parser.buffer.take head.contentLength) = .error detail) :
      BodyFeed parser head
        (.error (.httpParseError 400 detail),
          { parser with trailingData := parser.buffer.drop head.contentLength })
  | completed (request : Request) (complete : head.contentLength ≤ parser.buffer.length)
      (built : buildRequest head (parser.buffer.take head.contentLength) = .ok request) :
      BodyFeed parser head
        (.ok (some request),
          { parser with trailingData := parser.buffer.drop head.contentLength })

theorem feedBody_cases (parser : HTTPRequestParser) (head : RequestHead) :
    BodyFeed parser head (feedBody parser head) := by
  unfold feedBody
  split
  · rename_i pipelined
    exact .pipelined pipelined.1 (by simpa using pipelined.2)
  · split
    · exact .waiting ‹_›
    · rename_i complete
      split
      · exact .rejected _ (Nat.le_of_not_lt complete) ‹_›
      · exact .completed _ (Nat.le_of_not_lt complete) ‹_›

end SmallServer.RequestParser
