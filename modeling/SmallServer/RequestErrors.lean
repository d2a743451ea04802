import SmallServer.RequestSegmentation

/-!
# Which exceptions leave the request parser

Every conversion of the parser is total or wrapped, but for `int` on the declared
length: CPython refuses strings of more than 4300 digits with a plain `ValueError`.
The section `DigitLimit` says exactly which inputs reach that conversion.
-/

namespace SmallServer.RequestErrors

open SmallServer HttpValues RequestParser RequestGrammar RequestSegmentation

set_option autoImplicit false

def RaisesOnlyParseErrors (limits : Limits) (preserve : Bool) (chunks : List Bytes) : Prop :=
  ∀ fed chunk rest, chunks = fed ++ chunk :: rest → ∀ detail,
    (feed (feedRun (HTTPRequestParser.new limits preserve) fed) chunk).1 ≠
      .error (.valueError detail)

structure ServedLine (limits : Limits) (method target : Text) : Prop where
  method_clean : ' ' ∉ method
  target_rooted : target.head? = some '/'
  target_bounded : target.length ≤ limits.maxRequestTargetBytes
  target_no_fragment : '#' ∉ target
  target_visible : ∀ c ∈ target, isVisible c = true

/-- The fields pass every check made before the declared length is converted, and
declare it with more digits than `int` takes. -/
structure OversizedFields (limits : Limits) (fields : List Field) : Prop where
  counted : fields.length ≤ limits.maxHeaderCount
  names_token : ∀ field ∈ fields, isToken field.1 = true
  names_distinct : (fields.map fun field => lower field.1).Nodup
  no_transfer_encoding : ∀ field ∈ fields, lower field.1 ≠ transferEncodingName
  values_plain : ∀ field ∈ fields, isPlainValue (stripBlanks field.2) = true
  oversized : ∃ field ∈ fields, lower field.1 = contentLengthName ∧
    isAsciiDecimal (stripBlanks field.2) = true ∧ intMaxStrDigits < (stripBlanks field.2).length

def OversizedLength (limits : Limits) (s : Bytes) : Prop :=
  ∃ marker method target, ∃ fields : List Field,
    ListScan.find terminator s = some marker ∧ marker + 4 ≤ limits.maxHeaderBytes ∧
      ListScan.split crlf (decodeLatin1 (s.take marker)) =
        requestLine method target :: fields.map fieldLine ∧
      ServedLine limits method target ∧ OversizedFields limits fields

section DigitLimit

variable {limits : Limits}

theorem ofPairs_trimmed_iff {fields : List Field} :
    (∃ headers, Headers.ofPairs (fields.map trimmed) = .ok headers) ↔
      (∀ field ∈ fields, isToken field.1 = true) ∧
        (∀ field ∈ fields, isPlainValue (stripBlanks field.2) = true) ∧
          (fields.map fun field => lower field.1).Nodup := by
  constructor
  · rintro ⟨headers, built⟩
    obtain ⟨-, tokens, plain, distinct⟩ := (Headers.ofPairs_eq_ok_iff _ _).mp built
    rw [names_trimmed] at distinct
    exact ⟨fun field member => tokens (trimmed field) (List.mem_map_of_mem member),
      fun field member => plain (trimmed field) (List.mem_map_of_mem member), distinct⟩
  · rintro ⟨tokens, plain, distinct⟩
    have tokens' : ∀ pair ∈ fields.map trimmed, isToken pair.1 = true := by
      intro pair member
      obtain ⟨field, inside, rfl⟩ := List.mem_map.mp member
      exact tokens field inside
    have plain' : ∀ pair ∈ fields.map trimmed, isPlainValue pair.2 = true := by
      intro pair member
      obtain ⟨field, inside, rfl⟩ := List.mem_map.mp member
      exact plain field inside
    have distinct' : ((fields.map trimmed).map fun pair => lower pair.1).Nodup := by
      rw [names_trimmed]
      exact distinct
    exact ⟨⟨_, tokens', plain', distinct'⟩,
      (Headers.ofPairs_eq_ok_iff _ _).mpr ⟨rfl, tokens', plain', distinct'⟩⟩

theorem parseRequestLine_error {line : Text} {error : FeedError}
    (raised : parseRequestLine limits line = .error error) :
    ∃ status detail, error = .httpParseError status detail := by
  unfold parseRequestLine at raised
  split at raised
  · split at raised
    · cases raised
      exact ⟨_, _, rfl⟩
    · split at raised
      · cases raised
        exact ⟨_, _, rfl⟩
      · split at raised
        · cases raised
          exact ⟨_, _, rfl⟩
        · cases raised
  · cases raised
    exact ⟨_, _, rfl⟩

/-- The conversion of the declared length is the only step that raises anything else. -/
theorem parseContentLength_valueError (limits : Limits) {values : List Text} :
    (∃ detail, parseContentLength limits values = .error (.valueError detail)) ↔
      ∃ value rest, values = value :: rest ∧ isAsciiDecimal value = true ∧
        intMaxStrDigits < value.length := by
  cases values with
  | nil =>
      constructor
      · rintro ⟨detail, impossible⟩
        cases impossible
      · rintro ⟨value, rest, impossible, -⟩
        cases impossible
  | cons value rest =>
      unfold parseContentLength intOfDecimal
      by_cases decimal : isAsciiDecimal value = true
      · by_cases convertible : value.length ≤ intMaxStrDigits
        · have done : ∀ detail, (if decimalValue value > limits.maxBodyBytes then
              Except.error (FeedError.httpParseError 413 "request body is too large")
            else Except.ok (decimalValue value)) ≠ .error (.valueError detail) := by
            intro detail
            split <;> simp
          simp [decimal, convertible, Nat.not_lt.mpr convertible, bind, Except.bind, done]
        · simp [decimal, convertible, Nat.lt_of_not_le convertible, bind, Except.bind]
      · simp [decimal]

theorem parseFields_valueError {lines : List Text} :
    (∃ detail, parseFields limits lines = .error (.valueError detail)) ↔
      ∃ fields : List Field, lines = fields.map fieldLine ∧ OversizedFields limits fields := by
  constructor
  · rintro ⟨detail, raised⟩
    obtain ⟨fields, headers, rfl, counted, noEncoding, built⟩ :=
      parseFields_reaches_length limits lines (by simp [raised])
    obtain ⟨tokens, plain, distinct⟩ := ofPairs_trimmed_iff.mp ⟨headers, built⟩
    rw [parseFields_checked counted noEncoding built] at raised
    have conversion : ∃ detail, parseContentLength limits
        (contentLengths (fields.map trimmed)) = .error (.valueError detail) := by
      cases result : parseContentLength limits (contentLengths (fields.map trimmed)) with
      | error error =>
          rw [result] at raised
          cases raised
          exact ⟨_, rfl⟩
      | ok length =>
          rw [result] at raised
          simp only [Except.bind] at raised
          split at raised <;> cases raised
    obtain ⟨value, rest, values, decimal, long⟩ :=
      (parseContentLength_valueError limits).mp conversion
    rw [contentLengths_trimmed] at values
    have member : value ∈ (fields.filter fun field => lower field.1 == contentLengthName).map
        fun field => stripBlanks field.2 := by
      rw [values]
      exact List.mem_cons_self
    obtain ⟨field, inside, rfl⟩ := List.mem_map.mp member
    obtain ⟨inFields, named⟩ := List.mem_filter.mp inside
    exact ⟨fields, rfl, counted, tokens, distinct, noEncoding, plain, field, inFields,
      by simpa using named, decimal, long⟩
  · rintro ⟨fields, rfl, counted, tokens, distinct, noEncoding, plain, field, member, named,
      decimal, long⟩
    obtain ⟨headers, built⟩ := ofPairs_trimmed_iff.mpr ⟨tokens, plain, distinct⟩
    have values : contentLengths (fields.map trimmed) = [stripBlanks field.2] := by
      rw [contentLengths_trimmed, filter_name_of_mem distinct member named]
      rfl
    obtain ⟨detail, raised⟩ := (parseContentLength_valueError limits).mpr
      ⟨stripBlanks field.2, [], rfl, decimal, long⟩
    rw [parseFields_checked counted noEncoding built, values, raised]
    exact ⟨detail, rfl⟩

theorem parseHead_valueError {raw : Bytes} :
    (∃ detail, parseHead limits raw = .error (.valueError detail)) ↔
      ∃ line method target lines, ListScan.split crlf (decodeLatin1 raw) = line :: lines ∧
        parseRequestLine limits line = .ok (method, target) ∧
          ∃ detail, parseFields limits lines = .error (.valueError detail) := by
  cases pieces : ListScan.split crlf (decodeLatin1 raw) with
  | nil => exact absurd pieces (ListScan.splitFrom_ne_nil _ _ _)
  | cons line lines =>
      have unfolded : parseHead limits raw = (parseRequestLine limits line).bind fun parts =>
          (parseFields limits lines).bind fun outcome =>
            .ok ⟨parts.1, parts.2, outcome.1, outcome.2⟩ := by
        rw [parseHead, pieces]
        rfl
      cases lineResult : parseRequestLine limits line with
      | error error =>
          obtain ⟨status, detail, rfl⟩ := parseRequestLine_error lineResult
          rw [unfolded, lineResult]
          constructor
          · rintro ⟨_, impossible⟩
            cases impossible
          · rintro ⟨_, _, _, _, same, parsed, -⟩
            cases same
            rw [lineResult] at parsed
            cases parsed
      | ok parts =>
          obtain ⟨method, target⟩ := parts
          cases fieldsResult : parseFields limits lines with
          | error error =>
              rw [unfolded, lineResult, fieldsResult]
              constructor
              · rintro ⟨detail, raised⟩
                cases raised
                exact ⟨line, method, target, lines, rfl, lineResult, detail, fieldsResult⟩
              · rintro ⟨_, _, _, _, same, -, detail, raised⟩
                cases same
                rw [fieldsResult] at raised
                cases raised
                exact ⟨detail, rfl⟩
          | ok outcome =>
              rw [unfolded, lineResult, fieldsResult]
              constructor
              · rintro ⟨detail, raised⟩
                cases raised
              · rintro ⟨_, _, _, _, same, -, detail, raised⟩
                cases same
                rw [fieldsResult] at raised
                cases raised

theorem oversizedLength_iff {s : Bytes} :
    OversizedLength limits s ↔
      ∃ marker, ListScan.find terminator s = some marker ∧
        marker + 4 ≤ limits.maxHeaderBytes ∧
          ∃ detail, parseHead limits (s.take marker) = .error (.valueError detail) := by
  constructor
  · rintro ⟨marker, method, target, fields, found, short, pieces, line, oversized⟩
    refine ⟨marker, found, short, parseHead_valueError.mpr ?_⟩
    refine ⟨_, method, target, _, pieces, ?_, parseFields_valueError.mpr ⟨fields, rfl, oversized⟩⟩
    exact parseRequestLine_of_clean line.method_clean line.target_rooted line.target_bounded
      line.target_no_fragment line.target_visible
  · rintro ⟨marker, found, short, raised⟩
    obtain ⟨line, method, target, lines, pieces, lineParsed, fieldsRaised⟩ :=
      parseHead_valueError.mp raised
    obtain ⟨fields, rfl, oversized⟩ := parseFields_valueError.mp fieldsRaised
    obtain ⟨rfl, rooted, bounded, noFragment, visible⟩ := parseRequestLine_eq_ok lineParsed
    exact ⟨marker, method, target, fields, found, short, pieces,
      ⟨space_not_mem_method lineParsed, rooted, bounded, noFragment, visible⟩, oversized⟩

theorem oversizedLength_append {s : Bytes} (oversized : OversizedLength limits s)
    (later : Bytes) : OversizedLength limits (s ++ later) := by
  obtain ⟨marker, method, target, fields, found, short, pieces, checked⟩ := oversized
  have inside := ListScan.find_length_le found
  refine ⟨marker, method, target, fields, ListScan.find_append found later, short, ?_, checked⟩
  rw [List.take_append_of_le_length (by omega)]
  exact pieces

end DigitLimit

section Runs

variable {limits : Limits}

/-- How the parser's state relates to all the bytes it has been fed: it holds all of
them, or it has read the head they start with. -/
inductive Holds (limits : Limits) (s : Bytes) : HTTPRequestParser → Prop
  | awaiting (parser : HTTPRequestParser) (sameLimits : parser.limits = limits)
      (none : parser.requestHead = none) (all : parser.buffer = s) :
      Holds limits s parser
  | reading (parser : HTTPRequestParser) (marker : Nat) (head : RequestHead)
      (some : parser.requestHead = some head)
      (found : ListScan.find terminator s = Option.some marker)
      (parsed : parseHead limits (s.take marker) = .ok head) :
      Holds limits s parser

theorem feedBody_requestHead (parser : HTTPRequestParser) (head : RequestHead) :
    (feedBody parser head).2.requestHead = parser.requestHead := by
  have body := feedBody_cases parser head
  generalize feedBody parser head = outcome at body
  cases body <;> rfl

theorem feedBody_not_valueError (parser : HTTPRequestParser) (head : RequestHead)
    (detail : String) : (feedBody parser head).1 ≠ .error (.valueError detail) := by
  have body := feedBody_cases parser head
  generalize feedBody parser head = outcome at body
  cases body <;> simp

theorem feedHead_holds (parser : HTTPRequestParser) (awaiting : parser.requestHead = none) :
    Holds parser.limits parser.buffer (feedHead parser).2 ∧
      ((∃ detail, (feedHead parser).1 = .error (.valueError detail)) ↔
        OversizedLength parser.limits parser.buffer) := by
  rw [oversizedLength_iff]
  have head := feedHead_cases parser
  generalize feedHead parser = outcome at head
  cases head with
  | overlong absent | waiting absent =>
      refine ⟨.awaiting _ rfl awaiting rfl, ?_⟩
      constructor
      · rintro ⟨_, impossible⟩
        cases impossible
      · rintro ⟨marker, found, -⟩
        rw [absent] at found
        cases found
  | overlongHead marker found long =>
      refine ⟨.awaiting _ rfl awaiting rfl, ?_⟩
      constructor
      · rintro ⟨_, impossible⟩
        cases impossible
      · rintro ⟨other, otherFound, short, -⟩
        rw [found] at otherFound
        cases otherFound
        omega
  | rejected marker error found short parsed =>
      refine ⟨.awaiting _ rfl awaiting rfl, ?_⟩
      constructor
      · rintro ⟨detail, same⟩
        cases same
        exact ⟨marker, found, short, detail, parsed⟩
      · rintro ⟨other, otherFound, -, detail, raised⟩
        rw [found] at otherFound
        cases otherFound
        rw [parsed] at raised
        cases raised
        exact ⟨detail, rfl⟩
  | read marker requestHead found short parsed =>
      refine ⟨.reading _ marker requestHead (feedBody_requestHead _ _) found parsed, ?_⟩
      constructor
      · rintro ⟨detail, raised⟩
        exact absurd raised (feedBody_not_valueError _ _ _)
      · rintro ⟨other, otherFound, -, detail, raised⟩
        rw [found] at otherFound
        cases otherFound
        rw [parsed] at raised
        cases raised

/-- One call: the state goes on describing the bytes, and a `ValueError` leaves it
exactly when they have an oversized length. -/
theorem feed_holds {s : Bytes} {parser : HTTPRequestParser}
    (holds : Holds limits s parser) (data : Bytes) :
    Holds limits (s ++ data) (feed parser data).2 ∧
      ((∃ detail, (feed parser data).1 = .error (.valueError detail)) ↔
        OversizedLength limits (s ++ data)) := by
  cases holds with
  | awaiting sameLimits awaiting all =>
      subst sameLimits
      subst all
      have step := feedHead_holds { parser with buffer := parser.buffer ++ data } awaiting
      unfold feed
      rw [awaiting] at step ⊢
      exact step
  | reading marker head current found parsed =>
      have inside := ListScan.find_length_le found
      have later := ListScan.find_append found data
      have parsedLater : parseHead limits ((s ++ data).take marker) = .ok head := by
        rw [List.take_append_of_le_length (by omega)]
        exact parsed
      rw [oversizedLength_iff]
      unfold feed
      rw [current]
      refine ⟨.reading _ marker head (feedBody_requestHead _ _) later parsedLater, ?_⟩
      constructor
      · rintro ⟨detail, raised⟩
        exact absurd raised (feedBody_not_valueError _ _ _)
      · rintro ⟨other, otherFound, -, detail, raised⟩
        rw [later] at otherFound
        cases otherFound
        rw [parsedLater] at raised
        cases raised

theorem feedRun_holds (limits : Limits) (preserve : Bool) (chunks : List Bytes) :
    Holds limits chunks.flatten
      (feedRun (HTTPRequestParser.new limits preserve) chunks) := by
  have general : ∀ (s : Bytes) (parser : HTTPRequestParser), Holds limits s parser →
      Holds limits (s ++ chunks.flatten) (feedRun parser chunks) := by
    induction chunks with
    | nil =>
        intro s parser holds
        rw [List.flatten_nil, List.append_nil]
        exact holds
    | cons chunk rest induction =>
        intro s parser holds
        have step := induction (s ++ chunk) _ (feed_holds holds chunk).1
        rw [List.append_assoc] at step
        exact step
  simpa using general [] _ (.awaiting _ rfl rfl rfl)

/-- A run raises nothing but the parser's own error exactly when the bytes it is fed
have no oversized length. -/
theorem raises_only_parse_errors_iff (limits : Limits) (preserve : Bool)
    (chunks : List Bytes) :
    RaisesOnlyParseErrors limits preserve chunks ↔ ¬ OversizedLength limits chunks.flatten := by
  constructor
  · intro clean oversized
    -- The head is complete at the latest with the last chunk, and there the call raises.
    rcases List.eq_nil_or_concat chunks with rfl | ⟨fed, chunk, rfl⟩
    · obtain ⟨marker, -, -, -, found, -⟩ := oversized
      exact absurd found (by simp [ListScan.find, terminator])
    · have step := feed_holds (feedRun_holds limits preserve fed) chunk
      rw [List.concat_eq_append, List.flatten_append, List.flatten_singleton] at oversized
      obtain ⟨detail, raised⟩ := step.2.mpr oversized
      exact clean fed chunk [] (by rw [List.concat_eq_append]) detail raised
  · rintro small fed chunk rest rfl detail raised
    have step := feed_holds (feedRun_holds limits preserve fed) chunk
    have oversized := oversizedLength_append (step.2.mp ⟨detail, raised⟩) rest.flatten
    refine small ?_
    rw [List.flatten_append, List.flatten_cons, ← List.append_assoc]
    exact oversized

def defaultLimits : Limits where
  maxHeaderBytes := 16 * 1024
  maxHeaderCount := 100
  maxBodyBytes := 1024 * 1024
  maxRequestTargetBytes := 8 * 1024

def lengthFields (digits : Text) : List Field :=
  [("Host".toList, " a".toList), ("Content-Length".toList, digits)]

def lengthRequest (digits : Text) : Bytes :=
  encodeLatin1 (headText "POST".toList ['/'] (lengthFields digits))

theorem stripBlanks_ones {digits : Text} (ones : ∀ c ∈ digits, c = '1') :
    stripBlanks digits = digits := by
  have keep : ∀ c ∈ digits, ¬ isBlank c = true := by
    intro c member
    rw [ones c member]
    decide
  have front : digits.dropWhile isBlank = digits :=
    List.dropWhile_eq_self_iff.mpr fun nonempty => keep _ (List.getElem_mem nonempty)
  rw [stripBlanks, ListScan.strip, front]
  exact List.rdropWhile_eq_self_iff.mpr fun nonempty => keep _ (List.getLast_mem nonempty)

theorem lengthFields_oversized {digits : Text} (ones : ∀ c ∈ digits, c = '1')
    (long : intMaxStrDigits < digits.length) :
    OversizedFields defaultLimits (lengthFields digits) := by
  have names : (lengthFields digits).map Prod.fst = ["Host".toList, "Content-Length".toList] := rfl
  have lowered : ((lengthFields digits).map fun field => lower field.1) =
      [hostName, contentLengthName] := by
    change [lower "Host".toList, lower "Content-Length".toList] = _
    decide
  have named : ∀ field ∈ lengthFields digits,
      field.1 = "Host".toList ∨ field.1 = "Content-Length".toList := by
    intro field member
    have inNames : field.1 ∈ (lengthFields digits).map Prod.fst := List.mem_map_of_mem member
    rw [names] at inNames
    simpa only [List.mem_cons, List.not_mem_nil, or_false] using inNames
  have digitsPlain : isPlainValue digits = true := by
    refine List.all_eq_true.mpr ?_
    intro c member
    rw [ones c member]
    decide
  have digitsDecimal : isAsciiDecimal digits = true := by
    have nonempty : digits ≠ [] := by
      rintro rfl
      cases long
    have all : digits.all Char.isDigit = true := by
      refine List.all_eq_true.mpr ?_
      intro c member
      rw [ones c member]
      decide
    simp [isAsciiDecimal, nonempty, all]
  refine ⟨show 2 ≤ 100 by decide, ?_, by rw [lowered]; decide, ?_, ?_, ?_⟩
  · intro field member
    rcases named field member with same | same <;> rw [same] <;> decide
  · intro field member
    rcases named field member with same | same <;> rw [same] <;> decide
  · intro field member
    rcases List.mem_cons.mp member with rfl | later
    · decide
    · rw [List.mem_singleton.mp later, stripBlanks_ones ones]
      exact digitsPlain
  · refine ⟨("Content-Length".toList, digits), List.mem_cons_of_mem _ List.mem_cons_self,
      (by decide : lower "Content-Length".toList = contentLengthName), ?_⟩
    rw [stripBlanks_ones ones]
    exact ⟨digitsDecimal, long⟩

theorem narrow_of_all {text : Text} (all : (text.all fun c => decide (c.toNat ≤ 0xFF)) = true) :
    ∀ c ∈ text, c.toNat ≤ 0xFF := by
  intro c member
  exact of_decide_eq_true (List.all_eq_true.mp all c member)

theorem lengthRequest_oversized {digits : Text} (ones : ∀ c ∈ digits, c = '1')
    (long : intMaxStrDigits < digits.length) (fits : digits.length ≤ 16000) :
    OversizedLength defaultLimits (lengthRequest digits) := by
  have narrow : ∀ c ∈ headText "POST".toList ['/'] (lengthFields digits), c.toNat ≤ 0xFF := by
    have lineNarrow : ∀ c ∈ requestLine "POST".toList ['/'], c.toNat ≤ 0xFF :=
      narrow_of_all (by decide)
    have crlfNarrow : ∀ c ∈ crlf, c.toNat ≤ 0xFF :=
      narrow_of_all (by decide)
    have hostNarrow : ∀ c ∈ fieldLine ("Host".toList, " a".toList), c.toNat ≤ 0xFF :=
      narrow_of_all (by decide)
    have nameNarrow : ∀ c ∈ "Content-Length".toList, c.toNat ≤ 0xFF :=
      narrow_of_all (by decide)
    have digitsNarrow : ∀ c ∈ digits, c.toNat ≤ 0xFF := by
      intro c member
      rw [ones c member]
      decide
    intro c member
    simp only [headText, lengthFields, fieldLine, List.flatMap_cons, List.flatMap_nil,
      List.mem_append, List.mem_cons] at member hostNarrow
    grind
  have spelled : decodeLatin1 (lengthRequest digits) =
      List.intercalate crlf
        (requestLine "POST".toList ['/'] :: (lengthFields digits).map fieldLine) ++
          (crlf ++ crlf) := by
    rw [lengthRequest, decode_encodeLatin1 narrow, headText_eq_intercalate]
  have clean : ∀ line ∈ requestLine "POST".toList ['/'] :: (lengthFields digits).map fieldLine,
      '\r' ∉ line := by
    intro line member
    rcases List.mem_cons.mp member with rfl | later
    · decide
    · obtain ⟨field, inside, rfl⟩ := List.mem_map.mp later
      have checked := lengthFields_oversized ones long
      exact cr_not_mem_fieldLine (checked.names_token field inside)
        (checked.values_plain field inside)
  have nonempty : ∀ line ∈ (lengthFields digits).map fieldLine, line ≠ [] := by
    intro line member
    obtain ⟨field, -, rfl⟩ := List.mem_map.mp member
    exact fieldLine_ne_nil field
  have found := find_terminator_spelled ((spelled.trans (List.append_nil _).symm)) clean nonempty
  refine ⟨_, "POST".toList, ['/'], lengthFields digits, found, ?_, ?_, ?_,
    lengthFields_oversized ones long⟩
  · have lineLength : (requestLine "POST".toList ['/']).length = 15 := by decide
    have hostLength : (fieldLine ("Host".toList, " a".toList)).length = 7 := by decide
    have lengthLength : (fieldLine ("Content-Length".toList, digits)).length =
        14 + (1 + digits.length) := by
      rw [fieldLine, List.length_append, List.length_cons, Nat.add_comm digits.length]
      rfl
    have limit : defaultLimits.maxHeaderBytes = 16384 := rfl
    rw [lengthFields, List.map_cons, List.map_cons, List.map_nil, List.intercalate_cons_cons,
      List.intercalate_cons_cons, List.intercalate_singleton, limit]
    simp only [List.length_append, lineLength, hostLength, lengthLength,
      show crlf.length = 2 from rfl]
    omega
  · have text : decodeLatin1 ((lengthRequest digits).take (List.intercalate crlf
        (requestLine "POST".toList ['/'] :: (lengthFields digits).map fieldLine)).length) =
        List.intercalate crlf
          (requestLine "POST".toList ['/'] :: (lengthFields digits).map fieldLine) := by
      rw [decodeLatin1, List.map_take, ← decodeLatin1, spelled, List.take_left]
    rw [text]
    exact ListScan.split_intercalate (by simp) clean
  · have visible : ∀ c ∈ ['/'], isVisible c = true :=
      List.all_eq_true.mp (by decide)
    exact ⟨by decide, rfl, show 1 ≤ 8 * 1024 by decide, by decide, visible⟩

def oversizedRequest : Bytes := lengthRequest (List.replicate 4301 '1')

theorem oversizedRequest_oversized : OversizedLength defaultLimits oversizedRequest := by
  refine lengthRequest_oversized (fun c member => List.eq_of_mem_replicate member) ?_ ?_
  · rw [List.length_replicate]
    decide
  · rw [List.length_replicate]
    decide

/-- A plain `ValueError` leaves the parser of a default server. -/
theorem oversized_request_escapes :
    defaultLimits.Positive ∧ ¬ RaisesOnlyParseErrors defaultLimits true [oversizedRequest] := by
  refine ⟨by decide, ?_⟩
  intro clean
  have step := feed_holds (feedRun_holds defaultLimits true []) oversizedRequest
  obtain ⟨detail, raised⟩ := step.2.mpr oversizedRequest_oversized
  exact clean [] oversizedRequest [] rfl detail raised

end Runs

end SmallServer.RequestErrors
