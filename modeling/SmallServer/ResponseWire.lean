import SmallServer.RequestGrammar
import SmallServer.Http2Effects

/-!
# Response serialization

`Response.to_http1` and `SmallServer._send_response`, a reader of the bytes they write, and
the comparison with the field list of `_start_response`.
-/

namespace SmallServer.ResponseWire

open SmallServer HttpValues RequestParser RequestGrammar Http2Frames Http2Protocol

set_option autoImplicit false

section Writing

def reasons : List (Nat × Text) :=
  [(101, "Switching Protocols".toList), (200, "OK".toList), (201, "Created".toList),
    (204, "No Content".toList), (400, "Bad Request".toList), (403, "Forbidden".toList),
    (404, "Not Found".toList), (405, "Method Not Allowed".toList),
    (413, "Payload Too Large".toList), (414, "URI Too Long".toList),
    (408, "Request Timeout".toList), (426, "Upgrade Required".toList),
    (500, "Internal Server Error".toList), (503, "Service Unavailable".toList)]

/-- `_REASONS.get(status, "")`. -/
def reasonFor (status : Nat) : Text := (reasons.lookup status).getD []

/-- `"HTTP/1.1 {} {}".format(status, reason).rstrip()`. -/
def statusLine (status : Nat) : Text :=
  ("HTTP/1.1 ".toList ++ decimalText status ++ ' ' :: reasonFor status).rdropWhile Char.isWhitespace

def separator : Text := [':', ' ']

def fieldText (field : Text × Text) : Text := field.1 ++ (separator ++ field.2)

/-- The fields `to_http1` writes: a length of its own only where the headers have none. -/
def writtenFields (response : Response) : List (Text × Text) :=
  (if response.headers.get contentLengthName = none then
    [("Content-Length".toList, decimalText response.body.length)] else []) ++
    response.headers.items

def encodeStrict (text : Text) : Except String Bytes :=
  if text.all fun c => decide (c.toNat ≤ 0xFF) then .ok (encodeLatin1 text)
  else .error "ordinal not in range(256)"

def toHttp1 (response : Response) : Except String Bytes :=
  let lines := statusLine response.status :: (writtenFields response).map fieldText
  match encodeStrict (List.intercalate crlf lines ++ (crlf ++ crlf)) with
  | .error message => .error message
  | .ok head => .ok (head ++ response.body)

def connectionName : Text := "connection".toList

/-- The header mapping `_send_response` builds. -/
def closingFields (response : Response) : List (Text × Text) :=
  (response.headers.items.filter fun field => lower field.1 ≠ connectionName) ++
    [("Connection".toList, "close".toList)]

def sendResponse (response : Response) : Except String Bytes :=
  match Headers.ofPairs (closingFields response) with
  | .error message => .error message
  | .ok headers =>
      match Response.build response.status response.body headers with
      | .error message => .error message
      | .ok closing => toHttp1 closing

end Writing

section Reading

structure Message where
  status : Text
  fields : List (Text × Text)
  body : Bytes
deriving DecidableEq

def readField (line : Text) : Text × Text :=
  match ListScan.find separator line with
  | none => (line, [])
  | some offset => (line.take offset, line.drop (offset + 2))

/-- The head up to the first blank line, cut into lines, and everything after it. -/
def readMessage (wire : Bytes) : Option Message :=
  match ListScan.find terminator wire with
  | none => none
  | some offset =>
      match ListScan.split crlf (decodeLatin1 (wire.take offset)) with
      | [] => none
      | first :: lines =>
          some {
            status := ListScan.beforeMark ' ' (ListScan.afterMark ' ' first)
            fields := lines.map readField
            body := wire.drop (offset + 4) }

theorem digit_of_decimalText {number : Nat} {c : Char} (member : c ∈ decimalText number) :
    c.isDigit = true :=
  Nat.isDigit_of_mem_toDigits (by decide) (by decide) member

theorem digit_bounds {c : Char} (digit : c.isDigit = true) : 48 ≤ c.toNat ∧ c.toNat ≤ 57 := by
  simp only [Char.isDigit, Bool.and_eq_true, decide_eq_true_eq, UInt32.le_iff_toNat_le] at digit
  exact digit

theorem digit_ne {c mark : Char} (digit : c.isDigit = true) (low : mark.toNat < 48) : c ≠ mark := by
  rintro rfl
  have bounds := digit_bounds digit
  omega

theorem digit_not_whitespace {c : Char} (digit : c.isDigit = true) : c.isWhitespace = false := by
  have space := digit_ne digit (show ' '.toNat < 48 by decide)
  have tab := digit_ne digit (show '\t'.toNat < 48 by decide)
  have cr := digit_ne digit (show '\r'.toNat < 48 by decide)
  have lf := digit_ne digit (show '\n'.toNat < 48 by decide)
  simp [Char.isWhitespace, space, tab, cr, lf]

/-- The stripped status line: its last word is dropped where there is no reason. -/
theorem statusLine_eq (status : Nat) :
    statusLine status = "HTTP/1.1 ".toList ++ decimalText status ++
      (if reasonFor status = [] then [] else ' ' :: reasonFor status) := by
  have known : reasonFor status = [] ∨ ∃ entry ∈ reasons, reasonFor status = entry.2 := by
    unfold reasonFor
    cases found : reasons.lookup status with
    | none => exact Or.inl rfl
    | some reason =>
        obtain ⟨before, after, split, _⟩ := List.lookup_eq_some_iff.mp found
        exact Or.inr ⟨(status, reason), by rw [split]; simp, rfl⟩
  have ends : ∀ entry ∈ reasons, ∃ front last, entry.2 = front ++ [last] ∧
      last.isWhitespace = false := by
    intro entry member
    have nonempty : ∀ entry ∈ reasons, ∃ h : entry.2 ≠ [],
        (entry.2.getLast h).isWhitespace = false := by decide
    obtain ⟨h, plain⟩ := nonempty entry member
    exact ⟨_, _, (List.dropLast_append_getLast h).symm, plain⟩
  unfold statusLine
  by_cases empty : reasonFor status = []
  · rw [empty, if_pos rfl, List.append_nil, List.rdropWhile_concat_pos _ _ _ (by decide)]
    have digits : decimalText status ≠ [] := Nat.toDigits_ne_nil
    have last := digit_of_decimalText (List.getLast_mem digits)
    conv_lhs => rw [← List.dropLast_append_getLast digits, ← List.append_assoc]
    rw [List.rdropWhile_concat_neg _ _ _ (by rw [digit_not_whitespace last]; decide),
      List.append_assoc, List.dropLast_append_getLast digits]
  · rw [if_neg empty]
    obtain ⟨entry, member, same⟩ := known.resolve_left empty
    obtain ⟨front, last, split, plain⟩ := ends entry member
    rw [same, split, ← List.cons_append, ← List.append_assoc]
    exact List.rdropWhile_concat_neg _ _ _ (by rw [plain]; decide)

theorem status_of_statusLine (status : Nat) :
    ListScan.beforeMark ' ' (ListScan.afterMark ' ' (statusLine status)) =
      decimalText status := by
  have version : ' ' ∉ "HTTP/1.1".toList := by decide
  have digits : ' ' ∉ decimalText status := fun member =>
    digit_ne (digit_of_decimalText member) (show ' '.toNat < 48 by decide) rfl
  have line : statusLine status = "HTTP/1.1".toList ++ ' ' :: (decimalText status ++
      (if reasonFor status = [] then [] else ' ' :: reasonFor status)) := by
    rw [statusLine_eq]
    simp
  rw [line, ListScan.afterMark_append version]
  split
  · rw [List.append_nil]
    exact ListScan.beforeMark_of_not_mem digits
  · exact ListScan.beforeMark_append digits _

theorem statusLine_char {status : Nat} {c : Char} (member : c ∈ statusLine status) :
    c ≠ '\r' ∧ c.toNat ≤ 0xFF := by
  have reason : ∀ entry ∈ reasons, ∀ c ∈ entry.2, c ≠ '\r' ∧ c.toNat ≤ 0xFF := by
    have checked : ∀ entry ∈ reasons,
        entry.2.all (fun c => decide (c ≠ '\r' ∧ c.toNat ≤ 0xFF)) = true := by decide
    exact fun entry known => ListScan.forall_of_all (checked entry known)
  rw [statusLine_eq] at member
  rcases List.mem_append.mp member with front | last
  · rcases List.mem_append.mp front with version | digits
    · have fixed : ∀ c ∈ "HTTP/1.1 ".toList, c ≠ '\r' ∧ c.toNat ≤ 0xFF :=
        ListScan.forall_of_all (by decide)
      exact fixed c version
    · have digit := digit_of_decimalText digits
      have bounds := digit_bounds digit
      exact ⟨digit_ne digit (by decide), by omega⟩
  · split at last
    · cases last
    · rename_i named
      rcases List.mem_cons.mp last with rfl | inside
      · decide
      · unfold reasonFor at inside named
        cases found : reasons.lookup status with
        | none =>
            rw [found] at named
            exact absurd rfl named
        | some text =>
            rw [found] at inside
            obtain ⟨before, after, split, _⟩ := List.lookup_eq_some_iff.mp found
            exact reason (status, text) (by rw [split]; simp) c inside

theorem tokenChar_ascii {c : Char} (token : isTokenChar c = true) : c.toNat ≤ 0xFF := by
  rcases Bool.or_eq_true_iff.mp token with alphanumeric | mark
  · have classes : ((c.isUpper || c.isLower) || c.isDigit) = true := alphanumeric
    rcases Bool.or_eq_true_iff.mp classes with letter | digit
    · rcases Bool.or_eq_true_iff.mp letter with upper | lower
      · have bounds : c.val ≥ 'A'.val ∧ c.val ≤ 'Z'.val := of_decide_eq_true upper
        exact le_trans (UInt32.le_iff_toNat_le.mp bounds.2) (by decide)
      · have bounds := of_decide_eq_true (Bool.and_eq_true_iff.mp lower).2
        exact le_trans (UInt32.le_iff_toNat_le.mp bounds) (by decide)
    · have bounds := of_decide_eq_true (Bool.and_eq_true_iff.mp digit).2
      exact le_trans (UInt32.le_iff_toNat_le.mp bounds) (by decide)
  · have marks : ∀ c ∈ tokenMarks, c.toNat ≤ 0xFF :=
      ListScan.forall_of_all (by decide)
    exact marks c (List.contains_iff_mem.mp mark)

theorem valueChar_narrow {c : Char} (plain : isValueChar c = true) : c.toNat ≤ 0xFF := by
  rcases Bool.or_eq_true_iff.mp plain with tab | rest
  · rw [beq_iff_eq.mp tab]
    decide
  · simp only [Bool.not_eq_true', Bool.or_eq_false_iff, decide_eq_false_iff_not] at rest
    omega

structure LineField (field : Text × Text) : Prop where
  token : isToken field.1 = true
  plain : isPlainValue field.2 = true

theorem LineField.char {field : Text × Text} (valid : LineField field) {c : Char}
    (member : c ∈ fieldText field) : c ≠ '\r' ∧ c.toNat ≤ 0xFF := by
  have tokens := List.all_eq_true.mp (Bool.and_eq_true_iff.mp valid.token).2
  have values := List.all_eq_true.mp valid.plain
  rcases List.mem_append.mp member with name | rest
  · refine ⟨?_, tokenChar_ascii (tokens c name)⟩
    rintro rfl
    exact tokenChar_ne valid.token not_token_char_separators.1 name
  · rcases List.mem_append.mp rest with mark | value
    · have fixed : ∀ c ∈ separator, c ≠ '\r' ∧ c.toNat ≤ 0xFF :=
        ListScan.forall_of_all (by decide)
      exact fixed c mark
    · refine ⟨?_, valueChar_narrow (values c value)⟩
      rintro rfl
      exact valueChar_ne valid.plain cr_not_value_char value

theorem LineField.ne_nil (field : Text × Text) : fieldText field ≠ [] := by
  unfold fieldText separator
  simp

theorem LineField.read {field : Text × Text} (valid : LineField field) :
    readField (fieldText field) = field := by
  have colon : ':' ∉ field.1 := tokenChar_ne valid.token not_token_char_separators.2.1
  have found : ListScan.find separator (fieldText field) = some field.1.length := by
    have skipped : ListScan.find separator (field.1 ++ (separator ++ field.2)) =
        (ListScan.find separator (separator ++ field.2)).map (· + field.1.length) :=
      ListScan.find_skip colon
    have here : ListScan.find separator (separator ++ field.2) = some 0 := by
      simp [ListScan.find, separator]
    unfold fieldText
    rw [skipped, here]
    simp
  unfold readField
  rw [found]
  dsimp only
  unfold fieldText
  rw [List.take_left, ← List.drop_drop, List.drop_left]
  rfl

theorem writtenFields_valid (response : Response) :
    ∀ field ∈ writtenFields response, LineField field := by
  intro field member
  rcases List.mem_append.mp member with own | given
  · split at own
    · rw [List.mem_singleton.mp own]
      refine ⟨(by decide : isToken "Content-Length".toList = true),
        List.all_eq_true.mpr fun c inside => ?_⟩
      have bounds := digit_bounds (digit_of_decimalText inside)
      simp only [isValueChar, Bool.or_eq_true, Bool.not_eq_true', Bool.or_eq_false_iff,
        decide_eq_false_iff_not, beq_eq_false_iff_ne]
      exact Or.inr ⟨⟨by omega, by omega⟩, by omega⟩
    · cases own
  · exact ⟨response.headers.names_token field given, response.headers.values_plain field given⟩

theorem readMessage_lines {first : Text} {fields : List (Text × Text)} (body : Bytes)
    (firstChar : ∀ c ∈ first, c ≠ '\r' ∧ c.toNat ≤ 0xFF)
    (valid : ∀ field ∈ fields, LineField field) :
    ∃ head, encodeStrict (List.intercalate crlf (first :: fields.map fieldText) ++
        (crlf ++ crlf)) = .ok head ∧
      readMessage (head ++ body) = some {
        status := ListScan.beforeMark ' ' (ListScan.afterMark ' ' first)
        fields := fields
        body := body } := by
  let lines := fields.map fieldText
  let head := List.intercalate crlf (first :: lines)
  have lineChar : ∀ line ∈ first :: lines, ∀ c ∈ line, c ≠ '\r' ∧ c.toNat ≤ 0xFF := by
    intro line member c inside
    rcases List.mem_cons.mp member with rfl | later
    · exact firstChar c inside
    · obtain ⟨field, known, rfl⟩ := List.mem_map.mp later
      exact (valid field known).char inside
  have clean : ∀ line ∈ first :: lines, '\r' ∉ line :=
    fun line member inside => (lineChar line member _ inside).1 rfl
  have nonempty : ∀ line ∈ lines, line ≠ [] := by
    intro line member
    obtain ⟨field, _, rfl⟩ := List.mem_map.mp member
    exact LineField.ne_nil field
  have narrow : ∀ c ∈ head ++ (crlf ++ crlf), c.toNat ≤ 0xFF := by
    intro c member
    rcases List.mem_append.mp member with inHead | ending
    · rcases ListScan.mem_of_mem_intercalate inHead with mark | ⟨line, known, inside⟩
      · have fixed : ∀ c ∈ crlf, c.toNat ≤ 0xFF :=
          ListScan.forall_of_all (by decide)
        exact fixed c mark
      · exact (lineChar line known c inside).2
    · have fixed : ∀ c ∈ crlf ++ crlf, c.toNat ≤ 0xFF :=
        ListScan.forall_of_all (by decide)
      exact fixed c ending
  have encoded : encodeStrict (head ++ (crlf ++ crlf)) =
      .ok (encodeLatin1 (head ++ (crlf ++ crlf))) := by
    unfold encodeStrict
    rw [if_pos]
    exact List.all_eq_true.mpr fun c member => decide_eq_true (narrow c member)
  have spelled : decodeLatin1 (encodeLatin1 (head ++ (crlf ++ crlf)) ++ body) =
      head ++ (crlf ++ crlf) ++ decodeLatin1 body := by
    rw [decodeLatin1_append, decode_encodeLatin1 narrow]
  have found := find_terminator_spelled spelled clean nonempty
  have headBytes : (encodeLatin1 (head ++ (crlf ++ crlf)) ++ body).take head.length =
      encodeLatin1 head := by
    unfold encodeLatin1
    rw [List.map_append, List.append_assoc]
    exact List.take_left' (by rw [List.length_map])
  have bodyBytes : (encodeLatin1 (head ++ (crlf ++ crlf)) ++ body).drop
      (head.length + 4) = body := by
    refine List.drop_left' ?_
    unfold encodeLatin1
    rw [List.length_map, List.length_append]
    rfl
  have headNarrow : ∀ c ∈ head, c.toNat ≤ 0xFF := fun c member =>
    narrow c (List.mem_append_left _ member)
  refine ⟨_, encoded, ?_⟩
  unfold readMessage
  rw [found]
  dsimp only
  rw [headBytes, bodyBytes, decode_encodeLatin1 headNarrow]
  have pieces : ListScan.split crlf head = first :: lines :=
    ListScan.split_intercalate (by simp) clean
  rw [pieces]
  dsimp only
  rw [List.map_map]
  have same : fields.map (readField ∘ fieldText) = fields := by
    conv_rhs => rw [← List.map_id fields]
    exact List.map_congr_left fun field member => (valid field member).read
  rw [same]

/-- `to_http1` never fails, and what it writes reads back as the response. -/
theorem readMessage_toHttp1 (response : Response) :
    ∃ wire, toHttp1 response = .ok wire ∧
      readMessage wire = some {
        status := decimalText response.status
        fields := writtenFields response
        body := response.body } := by
  obtain ⟨head, encoded, reads⟩ := readMessage_lines response.body
    (fun c member => statusLine_char member) (writtenFields_valid response)
  refine ⟨head ++ response.body, ?_, ?_⟩
  · unfold toHttp1
    dsimp only
    rw [encoded]
  · rw [reads, status_of_statusLine]

end Reading

section Comparison

/-- The fields that say something about the response itself: hop-by-hop fields left out, names
in lower case. -/
def comparable (fields : List (Text × Text)) : List (Text × Text) :=
  (fields.map fun field => (lower field.1, field.2)).filter fun field =>
    !(teName :: forbiddenHeaders).contains field.1

def lengthValues (fields : List (Text × Text)) : List Text :=
  (fields.filter fun field => lower field.1 == contentLengthName).map Prod.snd

theorem lowerChar_lowerChar (c : Char) : lowerChar (lowerChar c) = lowerChar c := by
  by_cases changes : c.toNat ∈ List.range' 0x41 26 ∨
      (c.toNat ∈ List.range' 0xC0 31 ∧ c.toNat ≠ 0xD7)
  · have small : c.toNat < 0x100 := by
      simp only [List.mem_range'_1] at changes
      omega
    have valid : (c.toNat + 32).isValidChar := Or.inl (by omega)
    have number : (Char.ofNat (c.toNat + 32)).toNat = c.toNat + 32 := by
      rw [Char.ofNat, dif_pos valid]
      rfl
    have lowered : lowerChar c = Char.ofNat (c.toNat + 32) := if_pos changes
    rw [lowered]
    refine if_neg ?_
    rw [number]
    simp only [List.mem_range'_1] at changes ⊢
    omega
  · have kept : lowerChar c = c := if_neg changes
    rw [kept, kept]

theorem lower_lower (text : Text) : lower (lower text) = lower text := by
  unfold lower
  rw [List.map_map]
  exact List.map_congr_left fun c _ => lowerChar_lowerChar c

theorem comparable_append (left right : List (Text × Text)) :
    comparable (left ++ right) = comparable left ++ comparable right := by
  unfold comparable
  rw [List.map_append, List.filter_append]

theorem comparable_filter (fields : List (Text × Text)) (keep : Text → Bool)
    (drops : ∀ name, keep name = false → (teName :: forbiddenHeaders).contains name = true) :
    comparable (fields.filter fun field => keep (lower field.1)) = comparable fields := by
  induction fields with
  | nil => rfl
  | cons field fields induction =>
      have split : ∀ rest, comparable (field :: rest) = comparable [field] ++ comparable rest :=
        comparable_append [field]
      rw [List.filter_cons]
      cases kept : keep (lower field.1) with
      | true =>
          rw [if_pos rfl, split, induction]
          exact (split fields).symm
      | false =>
          have gone : comparable [field] = [] := by
            unfold comparable
            rw [List.map_singleton, List.filter_singleton, drops _ kept]
            rfl
          rw [if_neg Bool.false_ne_true, induction]
          exact (by rw [split fields, gone, List.nil_append] :
            comparable fields = comparable (field :: fields))

theorem comparable_lowered (fields : List (Text × Text)) :
    comparable (fields.map fun field => (lower field.1, field.2)) = comparable fields := by
  unfold comparable
  rw [List.map_map]
  congr 1
  exact List.map_congr_left fun field _ => Prod.ext (lower_lower field.1) rfl

theorem lengthValues_append (left right : List (Text × Text)) :
    lengthValues (left ++ right) = lengthValues left ++ lengthValues right := by
  unfold lengthValues
  rw [List.filter_append, List.map_append]

theorem lengthValues_filter (fields : List (Text × Text)) (keep : Text → Bool)
    (keeps : keep contentLengthName = true) :
    lengthValues (fields.filter fun field => keep (lower field.1)) = lengthValues fields := by
  unfold lengthValues
  rw [List.filter_filter]
  congr 1
  refine List.filter_congr fun field _ => ?_
  by_cases same : lower field.1 = contentLengthName
  · rw [same, keeps, Bool.and_true]
  · rw [beq_eq_false_iff_ne.mpr same, Bool.false_and]

theorem lengthValues_lowered (fields : List (Text × Text)) :
    lengthValues (fields.map fun field => (lower field.1, field.2)) = lengthValues fields := by
  unfold lengthValues
  rw [List.filter_map, List.map_map]
  congr 1
  exact List.filter_congr fun field _ => by rw [Function.comp_apply, lower_lower]

/-- The headers of a response name `content-length` at most once, and then truly. -/
theorem lengthValues_headers (response : Response) :
    lengthValues response.headers.items =
      if response.headers.get contentLengthName = none then []
      else [decimalText response.body.length] := by
  have known : lower contentLengthName = contentLengthName := by decide
  have agrees := response.length_agrees
  change ∀ value, response.headers.get contentLengthName = some value → _ at agrees
  have distinct := response.headers.names_distinct
  unfold Headers.get at agrees ⊢
  rw [known] at agrees ⊢
  generalize response.headers.items = fields at agrees distinct
  unfold lengthValues
  induction fields with
  | nil => rfl
  | cons field fields induction =>
      rw [List.map_cons, List.nodup_cons] at distinct
      rw [List.filter_cons, List.find?_cons] at *
      cases here : lower field.1 == contentLengthName with
      | true =>
          rw [here] at agrees
          have value := agrees field.2 rfl
          have others : (fields.filter fun other => lower other.1 == contentLengthName) = [] := by
            refine List.filter_eq_nil_iff.mpr fun other member same => distinct.1 ?_
            rw [eq_of_beq here, ← eq_of_beq same]
            exact List.mem_map_of_mem member
          simp [others, value]
      | false =>
          rw [here] at agrees
          exact induction agrees distinct.2

theorem get_contentLength (headers : Headers) :
    headers.get contentLengthName = (lengthValues headers.items).head? := by
  have known : lower contentLengthName = contentLengthName := by decide
  unfold Headers.get lengthValues
  rw [known, List.head?_map, List.head?_filter]

theorem lengthValues_closing (response : Response) :
    lengthValues (closingFields response) = lengthValues response.headers.items := by
  have last : lengthValues [("Connection".toList, "close".toList)] = [] := by decide
  have kept := lengthValues_filter response.headers.items
    (fun name => decide (name ≠ connectionName)) (by decide)
  unfold closingFields
  rw [lengthValues_append, last, List.append_nil]
  exact kept

theorem comparable_closing (response : Response) :
    comparable (closingFields response) = comparable response.headers.items := by
  have last : comparable [("Connection".toList, "close".toList)] = [] := by decide
  have kept := comparable_filter response.headers.items (fun name => decide (name ≠ connectionName))
    (by
      intro name same
      rw [decide_eq_false_iff_not, not_not] at same
      rw [same]
      decide)
  unfold closingFields
  rw [comparable_append, last, List.append_nil]
  exact kept

/-- `_send_response` builds a response of the same status and body, with the header fields it
means to. -/
theorem sendResponse_closing (response : Response) :
    ∃ closing : Response, sendResponse response = toHttp1 closing ∧
      closing.status = response.status ∧ closing.body = response.body ∧
        closing.headers.items = closingFields response := by
  have fromItems : ∀ field ∈ closingFields response, field ∈ response.headers.items ∨
      field = ("Connection".toList, "close".toList) := by
    intro field member
    rcases List.mem_append.mp member with given | last
    · exact Or.inl (List.mem_filter.mp given).1
    · exact Or.inr (List.mem_singleton.mp last)
  have names : ∀ field ∈ closingFields response, isToken field.1 = true := by
    intro field member
    rcases fromItems field member with given | rfl
    · exact response.headers.names_token field given
    · decide
  have values : ∀ field ∈ closingFields response, isPlainValue field.2 = true := by
    intro field member
    rcases fromItems field member with given | rfl
    · exact response.headers.values_plain field given
    · decide
  have distinct : ((closingFields response).map fun field => lower field.1).Nodup := by
    unfold closingFields
    rw [List.map_append, List.map_singleton]
    refine List.nodup_append.mpr ⟨?_, List.nodup_singleton _, ?_⟩
    · exact response.headers.names_distinct.sublist (List.filter_sublist.map _)
    · intro name member other last same
      obtain ⟨field, kept, rfl⟩ := List.mem_map.mp member
      rw [List.mem_singleton.mp last] at same
      have differs := (List.mem_filter.mp kept).2
      have connection : lower field.1 = connectionName :=
        same.trans (by decide : lower "Connection".toList = connectionName)
      exact absurd connection (of_decide_eq_true differs)
  let headers : Headers :=
    { items := closingFields response
      names_token := names
      values_plain := values
      names_distinct := distinct }
  have built : Headers.ofPairs (closingFields response) = .ok headers :=
    (Headers.ofPairs_eq_ok_iff _ _).mpr ⟨rfl, names, values, distinct⟩
  have agrees : ∀ value, headers.get "content-length".toList = some value →
      value = decimalText response.body.length := by
    intro value found
    have same : headers.get contentLengthName = response.headers.get contentLengthName := by
      rw [get_contentLength, get_contentLength]
      exact congrArg List.head? (lengthValues_closing response)
    exact response.length_agrees value (same.symm.trans found)
  refine ⟨⟨response.status, response.body, headers, response.status_range, agrees⟩, ?_, rfl, rfl,
    rfl⟩
  unfold sendResponse
  rw [built]
  dsimp only
  unfold Response.build
  rw [dif_pos response.status_range, dif_pos agrees]

/-- What `_start_response` leaves of a call that the engine took: the fields handed over and,
for a body, the record it is sent from. -/
def HandsOver {σ : Type} (engine : Engine σ) (config : HTTP2Config) (response : Response) : Prop :=
  ∀ (protocol : H2Protocol σ) (streamId : StreamId),
    (startResponse engine config protocol streamId response).connection =
        (engine.sendHeaders protocol.connection streamId (responseFields response)
          response.body.isEmpty).2 ∧
      ((engine.sendHeaders protocol.connection streamId (responseFields response)
          response.body.isEmpty).1 = .ok () → response.body ≠ [] →
        (startResponse engine config protocol streamId response).outbound.lookup
          streamId = some { body := response.body, offset := 0 })

theorem handsOver_of_small {σ : Type} (engine : Engine σ) {config : HTTP2Config}
    {response : Response}
    (small : headerSize (responseFields response) ≤ config.maxHeaderBytes) :
    HandsOver engine config response := by
  intro protocol streamId
  unfold startResponse
  dsimp only
  rw [if_neg (by omega)]
  rcases sent : engine.sendHeaders protocol.connection streamId
    (responseFields response) response.body.isEmpty with ⟨answer, connection⟩
  cases answer with
  | error raised =>
      dsimp only
      rw [dropStream_eq]
      exact ⟨rfl, fun accepted => by cases accepted⟩
  | ok done =>
      dsimp only
      by_cases empty : response.body = []
      · rw [if_pos empty]
        exact ⟨rfl, fun _ nonempty => absurd empty nonempty⟩
      · rw [if_neg empty]
        exact ⟨rfl, fun _ _ => OrderedDict.lookup_set _ _ _⟩

theorem comparable_length (value : Text) :
    comparable [("Content-Length".toList, value)] = comparable [(contentLengthName, value)] := by
  have same : lower "Content-Length".toList = lower contentLengthName := by decide
  unfold comparable
  rw [List.map_singleton, List.map_singleton, same]

theorem lengthValues_length (value : Text) :
    lengthValues [("Content-Length".toList, value)] = [value] ∧
      lengthValues [(contentLengthName, value)] = [value] := by
  have first : (lower "Content-Length".toList == contentLengthName) = true := by decide
  have second : (lower contentLengthName == contentLengthName) = true := by decide
  unfold lengthValues
  rw [List.filter_singleton, List.filter_singleton, first, second]
  exact ⟨rfl, rfl⟩

/-- Over both protocols a response has the same status, body and end-to-end fields, with its
true length exactly once. -/
theorem same_response {σ : Type} (engine : Engine σ) (config : HTTP2Config) (response : Response)
    (small : headerSize (responseFields response) ≤ config.maxHeaderBytes) :
    ∃ wire message, sendResponse response = .ok wire ∧ readMessage wire = some message ∧
      (responseFields response).head? = some (":status".toList, message.status) ∧
      message.body = response.body ∧
      (comparable message.fields).Perm
        (comparable (responseFields response).tail) ∧
      lengthValues message.fields = [decimalText message.body.length] ∧
      lengthValues (responseFields response).tail =
        [decimalText response.body.length] ∧
      HandsOver engine config response := by
  obtain ⟨closing, sent, status, body, items⟩ := sendResponse_closing response
  obtain ⟨wire, written, read⟩ := readMessage_toHttp1 closing
  have sameLength : closing.headers.get contentLengthName =
      response.headers.get contentLengthName := by
    rw [get_contentLength, get_contentLength, items, lengthValues_closing]
  have own := lengthValues_headers response
  have tail : (responseFields response).tail =
      ((response.headers.items.filter fun field =>
          !(teName :: forbiddenHeaders).contains (lower field.1)).map
        fun field => (lower field.1, field.2)) ++
      (if response.headers.get contentLengthName = none then
        [(contentLengthName, decimalText response.body.length)] else []) := rfl
  have kept : comparable (response.headers.items.filter fun field =>
      !(teName :: forbiddenHeaders).contains (lower field.1)) =
        comparable response.headers.items :=
    comparable_filter response.headers.items
      (fun name => !(teName :: forbiddenHeaders).contains name) fun name dropped => by
        rw [Bool.not_eq_eq_eq_not] at dropped
        exact dropped
  have keptLength : lengthValues (response.headers.items.filter fun field =>
      !(teName :: forbiddenHeaders).contains (lower field.1)) =
        lengthValues response.headers.items :=
    lengthValues_filter response.headers.items
      (fun name => !(teName :: forbiddenHeaders).contains name) (by decide)
  refine ⟨wire, _, sent.trans written, read, by rw [status]; rfl, body, ?_, ?_, ?_,
    handsOver_of_small engine small⟩
  · dsimp only
    unfold writtenFields
    rw [sameLength, items, body, tail, comparable_append, comparable_append, comparable_closing,
      comparable_lowered, kept]
    refine List.perm_append_comm.trans (List.Perm.of_eq (congrArg _ ?_))
    split
    · exact comparable_length _
    · rfl
  · dsimp only
    unfold writtenFields
    rw [sameLength, items, body, lengthValues_append, lengthValues_closing, own]
    split
    · exact congrArg (· ++ []) (lengthValues_length _).1
    · rfl
  · rw [tail, lengthValues_append, lengthValues_lowered, keptLength, own]
    split
    · exact (lengthValues_length _).2
    · rfl

end Comparison

section Samples

def sampleResponse : Response where
  status := 404
  body := [104, 105]
  headers := {
    items := [("Content-length".toList, ['2']), ("Keep-Alive".toList, "timeout=5".toList),
      ("X-A".toList, ['b'])]
    names_token := by decide
    values_plain := by decide
    names_distinct := by decide }
  status_range := by decide
  length_agrees value found := (Option.some.inj found).symm

theorem same_response_sample :
    ∃ wire message, sendResponse sampleResponse = .ok wire ∧ readMessage wire = some message ∧
      (responseFields sampleResponse).head? = some (":status".toList, message.status) ∧
      message.body = sampleResponse.body ∧
      (comparable message.fields).Perm (comparable (responseFields sampleResponse).tail) ∧
      lengthValues message.fields = [decimalText message.body.length] ∧
      lengthValues (responseFields sampleResponse).tail =
        [decimalText sampleResponse.body.length] ∧
      HandsOver (Http2Effects.scripted 20) HTTP2Config.standard sampleResponse :=
  same_response (Http2Effects.scripted 20) HTTP2Config.standard sampleResponse (by decide)

end Samples

end SmallServer.ResponseWire
