import SmallServer.RequestGrammar

/-!
# Segmentation of the request bytes

The parser state after any number of calls that returned nothing is the state one
call on all the bytes would have left. Everything about cuts follows from that and
from the three ways a finished call extends to a longer input.
-/

namespace SmallServer.RequestSegmentation

open SmallServer HttpValues RequestParser

set_option autoImplicit false

def feedRun (parser : HTTPRequestParser) (chunks : List Bytes) : HTTPRequestParser :=
  chunks.foldl (fun state chunk => (feed state chunk).2) parser

/-- How the read loop of `_connection_loop` ends: the first outcome, the parser that
produced it and the chunks it has not been fed. -/
structure ReadLoop where
  outcome : Option (Except FeedError Request)
  parser : HTTPRequestParser
  unfed : List Bytes

def feedChunks (parser : HTTPRequestParser) : List Bytes → ReadLoop
  | [] => ⟨none, parser, []⟩
  | chunk :: rest =>
      match feed parser chunk with
      | (.ok none, next) => feedChunks next rest
      | (.ok (some request), next) => ⟨some (.ok request), next, rest⟩
      | (.error error, next) => ⟨some (.error error), next, rest⟩

def outcomeOf : Except FeedError (Option Request) → Option (Except FeedError Request)
  | .ok none => none
  | .ok (some request) => some (.ok request)
  | .error error => some (.error error)

/-- What `_run_reader` of an upgraded connection reads: the bytes the parser had left,
then the chunks it receives itself. -/
def readerInput (trailingData : Bytes) (received : List Bytes) : List Bytes :=
  if trailingData = [] then received else trailingData :: received

section OneCall

variable {limits : Limits} {s : Bytes}

theorem feed_empty (limits : Limits) (preserve : Bool) :
    feed (HTTPRequestParser.new limits preserve) [] =
      (.ok none, HTTPRequestParser.new limits preserve) := by
  have absent : ListScan.find terminator [] = none := by decide
  have short : (HTTPRequestParser.new limits preserve).buffer.length ≤ limits.maxHeaderBytes :=
    Nat.zero_le _
  exact feedHead_waiting absent short

/-- Once the blank line is there, later bytes only lengthen the body buffer. -/
theorem feed_read_append (limits : Limits) (s : Bytes) (preserve : Bool) (data : Bytes)
    {marker : Nat} {head : RequestHead} (found : ListScan.find terminator s = some marker)
    (short : marker + 4 ≤ limits.maxHeaderBytes)
    (parsed : parseHead limits (s.take marker) = .ok head) :
    feed (HTTPRequestParser.new limits preserve) (s ++ data) =
      feedBody ((HTTPRequestParser.awaitingHead limits preserve (s ++ data)).readHead head
        (marker + 4)) head := by
  have inside := ListScan.find_length_le found
  have takeSame : (s ++ data).take marker = s.take marker :=
    List.take_append_of_le_length (by omega)
  rw [feed_new]
  refine feedHead_read (ListScan.find_append found data) short ?_
  rw [awaitingHead_limits, awaitingHead_buffer, takeSame, parsed]

theorem drop_head_append {marker : Nat} (found : ListScan.find terminator s = some marker)
    (data : Bytes) : (s ++ data).drop (marker + 4) = s.drop (marker + 4) ++ data := by
  have inside := ListScan.find_length_le found
  have four : terminator.length = 4 := rfl
  exact List.drop_append_of_le_length (by omega)

/-- A call that returned nothing left the state of a single call. -/
theorem feed_feed {preserve : Bool}
    (waiting : (feed (HTTPRequestParser.new limits preserve) s).1 = .ok none) (data : Bytes) :
    feed (feed (HTTPRequestParser.new limits preserve) s).2 data =
      feed (HTTPRequestParser.new limits preserve) (s ++ data) := by
  have longer := @feed_read_append limits s preserve data
  rw [feed_new] at waiting ⊢
  have fresh := feedHead_cases (HTTPRequestParser.awaitingHead limits preserve s)
  generalize feedHead (HTTPRequestParser.awaitingHead limits preserve s) = outcome
    at fresh waiting ⊢
  cases fresh with
  | overlong | overlongHead | rejected => cases waiting
  | waiting => rfl
  | read marker head found short parsed =>
      simp only [awaitingHead_limits, awaitingHead_buffer] at found short parsed
      rw [longer found short parsed]
      have body := feedBody_cases
        ((HTTPRequestParser.awaitingHead limits preserve s).readHead head (marker + 4)) head
      generalize feedBody
        ((HTTPRequestParser.awaitingHead limits preserve s).readHead head (marker + 4)) head =
          bodyOutcome at body waiting
      cases body with
      | pipelined | rejected | completed => cases waiting
      | waiting =>
          have same : ({ (HTTPRequestParser.awaitingHead limits preserve s).readHead head
                (marker + 4) with
              buffer := ((HTTPRequestParser.awaitingHead limits preserve s).readHead head
                (marker + 4)).buffer ++ data } : HTTPRequestParser) =
              (HTTPRequestParser.awaitingHead limits preserve (s ++ data)).readHead head
                (marker + 4) := by
            simp only [HTTPRequestParser.readHead, HTTPRequestParser.awaitingHead,
              drop_head_append found]
          change feedBody _ head = _
          rw [same]

theorem feed_error_append {error : FeedError}
    (raised : (feed (HTTPRequestParser.new limits true) s).1 = .error error) (data : Bytes) :
    (feed (HTTPRequestParser.new limits true) (s ++ data)).1 = .error error := by
  have longer := @feed_read_append limits s true data
  rw [feed_new] at raised
  have fresh := feedHead_cases (HTTPRequestParser.awaitingHead limits true s)
  generalize feedHead (HTTPRequestParser.awaitingHead limits true s) = outcome at fresh raised
  cases fresh with
  | waiting => cases raised
  | overlong absent long =>
      simp only [awaitingHead_limits, awaitingHead_buffer] at absent long
      rw [feed_new, ← raised]
      cases found : ListScan.find terminator (s ++ data) with
      | none =>
          rw [feedHead_overlong found (by
            rw [awaitingHead_buffer, awaitingHead_limits, List.length_append]
            omega)]
      | some marker =>
          have beyond := ListScan.find_none_append absent found
          have four : terminator.length = 4 := rfl
          rw [feedHead_overlongHead found (by rw [awaitingHead_limits]; omega)]
  | overlongHead marker found long =>
      simp only [awaitingHead_limits, awaitingHead_buffer] at found long
      rw [feed_new, ← raised, feedHead_overlongHead (ListScan.find_append found data) long]
  | rejected marker inner found short parsed =>
      simp only [awaitingHead_limits, awaitingHead_buffer] at found short parsed
      have inside := ListScan.find_length_le found
      have takeSame : (s ++ data).take marker = s.take marker :=
        List.take_append_of_le_length (by omega)
      rw [feed_new, ← raised, feedHead_rejected (ListScan.find_append found data) short (by
        rw [awaitingHead_limits, awaitingHead_buffer, takeSame, parsed])]
  | read marker head found short parsed =>
      simp only [awaitingHead_limits, awaitingHead_buffer] at found short parsed
      rw [longer found short parsed]
      have body := feedBody_cases
        ((HTTPRequestParser.awaitingHead limits true s).readHead head (marker + 4)) head
      generalize feedBody
        ((HTTPRequestParser.awaitingHead limits true s).readHead head (marker + 4)) head =
          bodyOutcome at body raised
      cases body with
      | waiting | completed => cases raised
      | pipelined long strict => cases strict
      | rejected detail complete built =>
          simp only [readHead_buffer, awaitingHead_buffer] at complete built
          rw [@feedBody_rejected _ _ detail rfl]
          · exact raised
          · rw [readHead_buffer, awaitingHead_buffer, drop_head_append found, List.length_append]
            omega
          · rw [readHead_buffer, awaitingHead_buffer, drop_head_append found,
              List.take_append_of_le_length complete, built]

/-- A call that returned a request would have returned it on any longer input, the
additional bytes joining the trailing data. -/
theorem feed_request_append {request : Request}
    (fed : (feed (HTTPRequestParser.new limits true) s).1 = .ok (some request)) (data : Bytes) :
    (feed (HTTPRequestParser.new limits true) (s ++ data)).1 = .ok (some request) ∧
      (feed (HTTPRequestParser.new limits true) (s ++ data)).2.trailingData =
        (feed (HTTPRequestParser.new limits true) s).2.trailingData ++ data := by
  have longer := @feed_read_append limits s true data
  rw [feed_new limits true s] at fed ⊢
  have fresh := feedHead_cases (HTTPRequestParser.awaitingHead limits true s)
  generalize feedHead (HTTPRequestParser.awaitingHead limits true s) = outcome at fresh fed ⊢
  cases fresh with
  | overlong | waiting | overlongHead | rejected => cases fed
  | read marker head found short parsed =>
      simp only [awaitingHead_limits, awaitingHead_buffer] at found short parsed
      rw [longer found short parsed]
      have body := feedBody_cases
        ((HTTPRequestParser.awaitingHead limits true s).readHead head (marker + 4)) head
      generalize feedBody
        ((HTTPRequestParser.awaitingHead limits true s).readHead head (marker + 4)) head =
          bodyOutcome at body fed ⊢
      cases body with
      | pipelined | waiting | rejected => cases fed
      | completed built complete builtEq =>
          cases fed
          simp only [readHead_buffer, awaitingHead_buffer] at complete builtEq
          rw [@feedBody_completed _ _ request rfl]
          · refine ⟨rfl, ?_⟩
            simp only [readHead_buffer, awaitingHead_buffer, drop_head_append found]
            exact List.drop_append_of_le_length complete
          · rw [readHead_buffer, awaitingHead_buffer, drop_head_append found, List.length_append]
            omega
          · rw [readHead_buffer, awaitingHead_buffer, drop_head_append found,
              List.take_append_of_le_length complete, builtEq]

theorem feed_request_trailing {request : Request}
    (fed : (feed (HTTPRequestParser.new limits true) s).1 = .ok (some request)) :
    ∃ marker, ListScan.find terminator s = some marker ∧
      (feed (HTTPRequestParser.new limits true) s).2.trailingData =
        s.drop (marker + 4 + request.body.length) := by
  rw [feed_new] at fed ⊢
  have fresh := feedHead_cases (HTTPRequestParser.awaitingHead limits true s)
  generalize feedHead (HTTPRequestParser.awaitingHead limits true s) = outcome at fresh fed ⊢
  cases fresh with
  | overlong | waiting | overlongHead | rejected => cases fed
  | read marker head found short parsed =>
      simp only [awaitingHead_buffer] at found parsed
      have body := feedBody_cases
        ((HTTPRequestParser.awaitingHead limits true s).readHead head (marker + 4)) head
      generalize feedBody
        ((HTTPRequestParser.awaitingHead limits true s).readHead head (marker + 4)) head =
          bodyOutcome at body fed ⊢
      cases body with
      | pipelined | waiting | rejected => cases fed
      | completed built complete builtEq =>
          cases fed
          simp only [readHead_buffer, awaitingHead_buffer] at complete builtEq
          obtain ⟨-, -, rooted, -⟩ := RequestGrammar.parseHead_eq_ok parsed
          obtain ⟨other, otherBuilt, -, -, -, bodyEq⟩ :=
            RequestGrammar.buildRequest_eq_ok head
              ((s.drop (marker + 4)).take head.contentLength)
              (RequestGrammar.token_of_buildRequest builtEq) rooted
          rw [builtEq] at otherBuilt
          cases otherBuilt
          refine ⟨marker, found, ?_⟩
          rw [bodyEq, List.length_take, Nat.min_eq_left complete]
          exact List.drop_drop

end OneCall

section Runs

variable {limits : Limits}

theorem feedChunks_after {fed : Bytes}
    (silent : (feed (HTTPRequestParser.new limits true) fed).1 = .ok none)
    (chunks : List Bytes) :
    (feedChunks (feed (HTTPRequestParser.new limits true) fed).2 chunks).outcome =
      outcomeOf (feed (HTTPRequestParser.new limits true) (fed ++ chunks.flatten)).1 ∧
    ∀ request,
      (feedChunks (feed (HTTPRequestParser.new limits true) fed).2 chunks).outcome =
        some (.ok request) →
      (feedChunks (feed (HTTPRequestParser.new limits true) fed).2 chunks).parser.trailingData ++
          (feedChunks (feed (HTTPRequestParser.new limits true) fed).2 chunks).unfed.flatten =
        (feed (HTTPRequestParser.new limits true) (fed ++ chunks.flatten)).2.trailingData := by
  induction chunks generalizing fed with
  | nil =>
      simp only [feedChunks, List.flatten_nil, List.append_nil]
      rw [silent]
      exact ⟨rfl, fun request impossible => by cases impossible⟩
  | cons chunk rest induction =>
      rw [feedChunks, feed_feed silent chunk, List.flatten_cons, ← List.append_assoc]
      generalize outcomeEq : feed (HTTPRequestParser.new limits true) (fed ++ chunk) = outcome
      obtain ⟨result, next⟩ := outcome
      cases result with
      | error error =>
          have same := feed_error_append (s := fed ++ chunk) (by rw [outcomeEq]) rest.flatten
          rw [same]
          exact ⟨rfl, fun request impossible => by cases impossible⟩
      | ok returned =>
          cases returned with
          | none =>
              have silent : (feed (HTTPRequestParser.new limits true) (fed ++ chunk)).1 =
                  .ok none := by
                rw [outcomeEq]
              have step := induction silent
              rw [outcomeEq] at step
              exact step
          | some request =>
              have same := feed_request_append (s := fed ++ chunk) (by rw [outcomeEq]) rest.flatten
              rw [same.1, same.2, outcomeEq]
              exact ⟨rfl, fun _ _ => rfl⟩

def HeadBounded (limits : Limits) (parser : HTTPRequestParser) : Prop :=
  parser.limits = limits ∧
    ∀ head, parser.requestHead = some head → head.contentLength ≤ limits.maxBodyBytes

theorem contentLength_le {raw : Bytes} {head : RequestHead}
    (parsed : parseHead limits raw = .ok head) : head.contentLength ≤ limits.maxBodyBytes := by
  obtain ⟨fields, -, -, -, -, -, formed, -, length⟩ := RequestGrammar.parseHead_eq_ok parsed
  rw [length]
  by_cases declares : ∃ field ∈ fields, lower field.1 = contentLengthName
  · obtain ⟨field, member, named⟩ := declares
    rw [RequestGrammar.declaredLength_of_mem formed.names_distinct member named]
    exact (formed.length_decimal field member named).2
  · rw [RequestGrammar.declaredLength_of_absent
      fun field member named => declares ⟨field, member, named⟩]
    exact Nat.zero_le _

theorem feedBody_bounded (parser : HTTPRequestParser) {head : RequestHead}
    (bounded : HeadBounded limits parser) (current : parser.requestHead = some head) :
    HeadBounded limits (feedBody parser head).2 ∧
      ((feedBody parser head).1 = .ok none →
        (feedBody parser head).2.buffer.length ≤ limits.maxBodyBytes) := by
  have small := bounded.2 head current
  have body := feedBody_cases parser head
  generalize feedBody parser head = outcome at body ⊢
  cases body with
  | pipelined => exact ⟨bounded, fun impossible => by cases impossible⟩
  | rejected => exact ⟨bounded, fun impossible => by cases impossible⟩
  | completed => exact ⟨bounded, fun impossible => by cases impossible⟩
  | waiting short => exact ⟨bounded, fun _ => by dsimp only; omega⟩

/-- One call keeps the bound on the head, and bounds the buffer when it returns nothing. -/
theorem feed_bounded {parser : HTTPRequestParser} (bounded : HeadBounded limits parser)
    (data : Bytes) :
    HeadBounded limits (feed parser data).2 ∧
      ((feed parser data).1 = .ok none → (feed parser data).2.buffer.length ≤
        max limits.maxHeaderBytes limits.maxBodyBytes) := by
  unfold feed
  split
  · rename_i head current
    have step := feedBody_bounded { parser with buffer := parser.buffer ++ data } bounded current
    exact ⟨step.1, fun silent => (step.2 silent).trans (Nat.le_max_right _ _)⟩
  · have received : HeadBounded limits { parser with buffer := parser.buffer ++ data } := bounded
    generalize ({ parser with buffer := parser.buffer ++ data } : HTTPRequestParser) = next
      at received
    have head := feedHead_cases next
    generalize feedHead next = outcome at head ⊢
    cases head with
    | overlong => exact ⟨received, fun impossible => by cases impossible⟩
    | overlongHead => exact ⟨received, fun impossible => by cases impossible⟩
    | rejected => exact ⟨received, fun impossible => by cases impossible⟩
    | waiting absent short =>
        rw [received.1] at short
        exact ⟨received, fun _ => short.trans (Nat.le_max_left _ _)⟩
    | read marker head found short parsed =>
        rw [received.1] at parsed
        have read : HeadBounded limits (next.readHead head (marker + 4)) :=
          ⟨received.1, fun other same => by cases same; exact contentLength_le parsed⟩
        have step := feedBody_bounded (next.readHead head (marker + 4)) read rfl
        exact ⟨step.1, fun silent => (step.2 silent).trans (Nat.le_max_right _ _)⟩

theorem feedRun_bounded (preserve : Bool) (chunks : List Bytes) :
    HeadBounded limits (feedRun (HTTPRequestParser.new limits preserve) chunks) := by
  have general : ∀ parser, HeadBounded limits parser →
      HeadBounded limits (feedRun parser chunks) := by
    induction chunks with
    | nil => exact fun parser bounded => bounded
    | cons chunk rest induction =>
        exact fun parser bounded => induction _ (feed_bounded bounded chunk).1
  exact general _ ⟨rfl, fun head impossible => by cases impossible⟩

theorem flatten_readerInput (trailingData : Bytes) (received : List Bytes) :
    (readerInput trailingData received).flatten = trailingData ++ received.flatten := by
  unfold readerInput
  split
  · rename_i empty
    rw [empty, List.nil_append]
  · rfl

/-- Cutting the input changes neither the first outcome nor what a protocol handoff
receives, and a silent call leaves a bounded buffer. -/
theorem segmentation_independent (limits : Limits) (chunks : List Bytes) :
    (feedChunks (HTTPRequestParser.new limits true) chunks).outcome =
        outcomeOf (feed (HTTPRequestParser.new limits true) chunks.flatten).1 ∧
      (∀ request,
        (feedChunks (HTTPRequestParser.new limits true) chunks).outcome = some (.ok request) →
        ∃ marker, ListScan.find terminator chunks.flatten = some marker ∧
          (readerInput (feedChunks (HTTPRequestParser.new limits true) chunks).parser.trailingData
              (feedChunks (HTTPRequestParser.new limits true) chunks).unfed).flatten =
            chunks.flatten.drop (marker + 4 + request.body.length)) ∧
      ∀ fed chunk,
        (feed (feedRun (HTTPRequestParser.new limits true) fed) chunk).1 = .ok none →
        (feed (feedRun (HTTPRequestParser.new limits true) fed) chunk).2.buffer.length ≤
          max limits.maxHeaderBytes limits.maxBodyBytes := by
  have start := feed_empty limits true
  have silent : (feed (HTTPRequestParser.new limits true) []).1 = .ok none := by rw [start]
  have run := feedChunks_after silent chunks
  rw [start, List.nil_append] at run
  refine ⟨run.1, ?_, ?_⟩
  · intro request returned
    have whole := run.1.symm.trans returned
    have fed : (feed (HTTPRequestParser.new limits true) chunks.flatten).1 =
        .ok (some request) := by
      generalize (feed (HTTPRequestParser.new limits true) chunks.flatten).1 = result at whole
      match result, whole with
      | .ok (some _), same =>
          cases same
          rfl
    obtain ⟨marker, found, trailing⟩ := feed_request_trailing fed
    refine ⟨marker, found, ?_⟩
    rw [flatten_readerInput, run.2 request returned, trailing]
  · intro fed chunk silent
    exact (feed_bounded (feedRun_bounded true fed) chunk).2 silent

end Runs

end SmallServer.RequestSegmentation
