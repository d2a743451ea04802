import SmallServer.ResponseWire

/-!
# Framing of HTTP/1.1 responses

What a serialized response says about its own end. Its head reads back as the fields that were
meant, so that no value can add a line, and the body is whatever follows the head. A receiver
that goes by the framing fields reads the same body unless a handler supplied a
`Transfer-Encoding`, which `_send_response` passes on.
-/

namespace SmallServer.ResponseFraming

open SmallServer HttpValues RequestParser ResponseWire

set_option autoImplicit false

theorem decimalValue_decimalText (number : Nat) : decimalValue (decimalText number) = number :=
  Nat.ofDigitChars_ten_toDigits

theorem decimalText_injective {first second : Nat} (same : decimalText first = decimalText second) :
    first = second := by
  rw [← decimalValue_decimalText first, same, decimalValue_decimalText]

section Inverse

/-- The length field that stands in for a missing one. -/
def defaultLength (response : Response) : List (Text × Text) :=
  if response.headers.get contentLengthName = none then
    [("Content-Length".toList, decimalText response.body.length)]
  else []

/-- The bytes read back as the response with these fields: the head up to the first blank
line is the status line and one line for each field, and the body is all the rest. -/
def ReadsBack (response : Response) (encoded : Except String Bytes)
    (fields : List (Text × Text)) : Prop :=
  ∃ wire, encoded = .ok wire ∧ readMessage wire = some {
    status := decimalText response.status
    fields
    body := response.body }

theorem toHttp1_readsBack (response : Response) :
    ReadsBack response (toHttp1 response) (defaultLength response ++ response.headers.items) :=
  readMessage_toHttp1 response

theorem sendResponse_readsBack (response : Response) :
    ReadsBack response (sendResponse response)
      (defaultLength response ++ closingFields response) := by
  obtain ⟨closing, sent, status, body, items⟩ := sendResponse_closing response
  obtain ⟨wire, written, read⟩ := readMessage_toHttp1 closing
  have sameLength : closing.headers.get contentLengthName =
      response.headers.get contentLengthName := by
    rw [get_contentLength, get_contentLength, items, lengthValues_closing]
  refine ⟨wire, sent.trans written, ?_⟩
  rw [read, status, body]
  unfold writtenFields defaultLength
  rw [sameLength, items, body]

/-- **Serialization is free of injection and invertible.** -/
theorem serialization_invertible :
    (∀ response,
      ReadsBack response (toHttp1 response) (defaultLength response ++ response.headers.items) ∧
      ReadsBack response (sendResponse response)
        (defaultLength response ++
          (response.headers.items.filter fun field => lower field.1 ≠ "connection".toList) ++
          [("Connection".toList, "close".toList)])) ∧
    ∀ first second, toHttp1 first = toHttp1 second →
      first.status = second.status ∧ first.body = second.body ∧
        defaultLength first ++ first.headers.items =
          defaultLength second ++ second.headers.items := by
  refine ⟨fun response => ⟨toHttp1_readsBack response, ?_⟩, fun first second same => ?_⟩
  · rw [List.append_assoc]
    exact sendResponse_readsBack response
  · obtain ⟨left, wroteLeft, readLeft⟩ := toHttp1_readsBack first
    obtain ⟨right, wroteRight, readRight⟩ := toHttp1_readsBack second
    rw [same, wroteRight] at wroteLeft
    cases wroteLeft
    rw [readRight] at readLeft
    obtain ⟨status, fields, body⟩ := Message.mk.inj (Option.some_inj.mp readLeft)
    exact ⟨(decimalText_injective status).symm, body.symm, fields.symm⟩

end Inverse

section Framing

/-- How a receiver finds the end of a response with a body: a transfer coding overrides a
length, and a length counts only where it is the only one. -/
inductive Framing where
  | transferEncoding
  | contentLength (length : Nat)
  | undefined
deriving DecidableEq

def framing (fields : List (Text × Text)) : Framing :=
  if fields.any fun field => lower field.1 == transferEncodingName then .transferEncoding
  else
    match lengthValues fields with
    | [value] => .contentLength (decimalValue value)
    | _ => .undefined

/-- The response on the wire has one length field, the true one, no transfer coding, and a
receiver reads exactly its body. -/
def ConsistentlyFramed (response : Response) : Prop :=
  ∃ wire message, sendResponse response = .ok wire ∧ readMessage wire = some message ∧
    lengthValues message.fields = [decimalText response.body.length] ∧
    (∀ field ∈ message.fields, lower field.1 ≠ transferEncodingName) ∧
    framing message.fields = .contentLength message.body.length ∧
    message.body = response.body

theorem lengthValues_sent (response : Response) :
    lengthValues (defaultLength response ++ closingFields response) =
      [decimalText response.body.length] := by
  have own := lengthValues_headers response
  unfold defaultLength
  rw [lengthValues_append, lengthValues_closing, own]
  split
  · exact congrArg (· ++ []) (lengthValues_length _).1
  · rfl

theorem transferEncoding_sent (response : Response) :
    (∀ field ∈ defaultLength response ++ closingFields response,
        lower field.1 ≠ transferEncodingName) ↔
      ∀ field ∈ response.headers.items, lower field.1 ≠ transferEncodingName := by
  constructor
  · intro clean field member same
    have kept : field ∈ closingFields response := by
      refine List.mem_append_left _ (List.mem_filter.mpr ⟨member, ?_⟩)
      rw [decide_eq_true_eq, same]
      decide
    exact clean field (List.mem_append_right _ kept) same
  · intro clean field member
    rcases List.mem_append.mp member with own | sent
    · unfold defaultLength at own
      split at own
      · rw [List.mem_singleton.mp own]
        exact (by decide : lower "Content-Length".toList ≠ transferEncodingName)
      · cases own
    · rcases List.mem_append.mp sent with given | last
      · exact clean field (List.mem_filter.mp given).1
      · rw [List.mem_singleton.mp last]
        decide

/-- **A response is framed without contradiction exactly when its handler supplied no
`Transfer-Encoding`.** -/
theorem consistentlyFramed_iff (response : Response) :
    ConsistentlyFramed response ↔
      ∀ field ∈ response.headers.items, lower field.1 ≠ transferEncodingName := by
  obtain ⟨wire, sent, read⟩ := sendResponse_readsBack response
  constructor
  · rintro ⟨other, message, otherSent, otherRead, -, clean, -, -⟩
    rw [sent] at otherSent
    cases otherSent
    rw [read] at otherRead
    cases otherRead
    exact (transferEncoding_sent response).mp clean
  · intro clean
    have absent := (transferEncoding_sent response).mpr clean
    refine ⟨wire, _, sent, read, lengthValues_sent response, absent, ?_, rfl⟩
    have none : (defaultLength response ++ closingFields response).any
        (fun field => lower field.1 == transferEncodingName) = false := by
      refine List.any_eq_false.mpr fun field member same => ?_
      exact absent field member (eq_of_beq same)
    unfold framing
    dsimp only
    rw [none, lengthValues_sent]
    exact congrArg Framing.contentLength (decimalValue_decimalText _)

end Framing

section Samples

theorem sampleStatus_range : 100 ≤ 200 ∧ 200 ≤ 599 := by decide

def plainSample (items : List (Text × Text)) (names_token : ∀ item ∈ items, isToken item.1 = true)
    (values_plain : ∀ item ∈ items, isPlainValue item.2 = true)
    (names_distinct : (items.map fun item => lower item.1).Nodup)
    (length_agrees : ∀ value, ({ items, names_token, values_plain, names_distinct } :
      Headers).get "content-length".toList = some value → value = decimalText 2) : Response where
  status := 200
  body := [104, 105]
  headers := { items, names_token, values_plain, names_distinct }
  status_range := sampleStatus_range
  length_agrees

def shortSample : Response :=
  plainSample [("X-A".toList, ['b'])] (by decide) (by decide) (by decide)
    (fun value found => by cases found)

def explicitSample : Response :=
  plainSample [("Content-Length".toList, ['2']), ("X-A".toList, ['b'])] (by decide) (by decide)
    (by decide) (fun value found => (Option.some.inj found).symm)

theorem serialization_invertible_sample :
    shortSample ≠ explicitSample ∧
      shortSample.status = explicitSample.status ∧ shortSample.body = explicitSample.body ∧
        defaultLength shortSample ++ shortSample.headers.items =
          defaultLength explicitSample ++ explicitSample.headers.items :=
  ⟨by decide, serialization_invertible.2 shortSample explicitSample (by decide +kernel)⟩

def chunkedSample : Response :=
  plainSample [("Transfer-Encoding".toList, "chunked".toList)] (by decide) (by decide) (by decide)
    (fun value found => by cases found)

/-- The response is sent with a transfer coding and a length, and its receiver goes by the
transfer coding. -/
theorem chunked_contradicts :
    chunkedSample.status = 200 ∧ ¬ ConsistentlyFramed chunkedSample ∧
      ∃ wire message, sendResponse chunkedSample = .ok wire ∧ readMessage wire = some message ∧
        framing message.fields = .transferEncoding := by
  refine ⟨rfl, fun framed => ?_, ?_⟩
  · obtain ⟨wire, sent, read⟩ := sendResponse_readsBack chunkedSample
    obtain ⟨other, message, otherSent, otherRead, -, clean, -, -⟩ := framed
    rw [sent] at otherSent
    cases otherSent
    rw [read] at otherRead
    cases otherRead
    exact (transferEncoding_sent chunkedSample).mp clean _ List.mem_cons_self (by decide)
  · obtain ⟨wire, sent, read⟩ := sendResponse_readsBack chunkedSample
    exact ⟨wire, _, sent, read, by decide +kernel⟩

end Samples

end SmallServer.ResponseFraming
