import SmallServer.RequestParser

/-!
# The grammar the request parser accepts

The grammar is stated on the Latin-1 text of the received bytes and names none of
the parser's functions except trimming and case folding. The parser enforces it in
four places; each gets one lemma saying exactly when it succeeds, and the main
result assembles them.
-/

namespace SmallServer.RequestGrammar

open SmallServer HttpValues RequestParser

set_option autoImplicit false

/-- A header field as it stands on its line: the value is not yet trimmed. -/
abbrev Field := Text × Text

def fieldLine (field : Field) : Text := field.1 ++ ':' :: field.2

def trimmed (field : Field) : Field := (field.1, stripBlanks field.2)

def requestLine (method target : Text) : Text := method ++ ' ' :: (target ++ ' ' :: http11)

def headText (method target : Text) (fields : List Field) : Text :=
  requestLine method target ++ crlf ++
    (fields.flatMap fun field => fieldLine field ++ crlf) ++ crlf

/-- Controls of the HTTP grammar; the Latin-1 range above DEL is `obs-text`. -/
def isControl (c : Char) : Bool := c.toNat < 0x20 || c.toNat == 0x7F

def declaredLength (fields : List Field) : Nat :=
  match fields.find? fun field => lower field.1 == contentLengthName with
  | none => 0
  | some field => decimalValue (stripBlanks field.2)

structure WellFormedFields (limits : Limits) (fields : List Field) : Prop where
  counted : fields.length ≤ limits.maxHeaderCount
  names_token : ∀ field ∈ fields, isToken field.1 = true
  names_distinct : (fields.map fun field => lower field.1).Nodup
  no_transfer_encoding : ∀ field ∈ fields, lower field.1 ≠ transferEncodingName
  values_plain : ∀ field ∈ fields, ∀ c ∈ stripBlanks field.2, c = '\t' ∨ isControl c = false
  host_present : ∃ field ∈ fields, lower field.1 = hostName ∧ stripBlanks field.2 ≠ []
  length_decimal : ∀ field ∈ fields, lower field.1 = contentLengthName →
    isAsciiDecimal (stripBlanks field.2) = true ∧
      decimalValue (stripBlanks field.2) ≤ limits.maxBodyBytes
  length_convertible : ∀ field ∈ fields, lower field.1 = contentLengthName →
    (stripBlanks field.2).length ≤ intMaxStrDigits

structure WellFormedHead (limits : Limits) (method target : Text) (fields : List Field) :
    Prop where
  method_token : isToken method = true
  target_rooted : target.head? = some '/'
  target_visible : ∀ c ∈ target, isVisible c = true
  target_no_fragment : '#' ∉ target
  target_bounded : target.length ≤ limits.maxRequestTargetBytes
  fields_well_formed : WellFormedFields limits fields

/-- `s` starts with a well-formed head within the size limit, followed by at least
the declared body. -/
def Grammatical (limits : Limits) (s : Bytes) : Prop :=
  ∃ method target fields body rest,
    decodeLatin1 s = headText method target fields ++ decodeLatin1 (body ++ rest) ∧
      WellFormedHead limits method target fields ∧
        (headText method target fields).length ≤ limits.maxHeaderBytes ∧
          body.length = declaredLength fields

section Blocks

theorem not_token_char_separators :
    isTokenChar '\r' = false ∧ isTokenChar ':' = false ∧ isTokenChar ' ' = false := by
  decide

theorem cr_not_value_char : isValueChar '\r' = false := by decide

theorem cr_not_visible {target : Text} (visible : ∀ c ∈ target, isVisible c = true) :
    '\r' ∉ target := by
  intro member
  exact absurd (visible _ member) (by decide)

theorem space_not_visible {target : Text} (visible : ∀ c ∈ target, isVisible c = true) :
    ' ' ∉ target := by
  intro member
  exact absurd (visible _ member) (by decide)

theorem mem_strip_of_not_blank {c : Char} {value : Text} (member : c ∈ value)
    (kept : isBlank c = false) : c ∈ stripBlanks value := by
  have split := List.takeWhile_append_dropWhile (p := isBlank) (l := value)
  have inner : c ∈ value.dropWhile isBlank := by
    rw [← split] at member
    refine (List.mem_append.mp member).resolve_left ?_
    intro leading
    rw [List.mem_takeWhile_imp leading] at kept
    cases kept
  rw [stripBlanks, ListScan.strip, List.rdropWhile, List.mem_reverse]
  have reversed := List.takeWhile_append_dropWhile (p := isBlank)
    (l := (value.dropWhile isBlank).reverse)
  rw [← List.mem_reverse, ← reversed] at inner
  refine (List.mem_append.mp inner).resolve_left ?_
  intro trailing
  rw [List.mem_takeWhile_imp trailing] at kept
  cases kept

theorem cr_not_mem_fieldLine {field : Field} (token : isToken field.1 = true)
    (plain : isPlainValue (stripBlanks field.2) = true) : '\r' ∉ fieldLine field := by
  intro member
  rcases List.mem_append.mp member with inName | inValue
  · exact tokenChar_ne token not_token_char_separators.1 inName
  · have cr : '\r' ∈ field.2 := (List.mem_cons.mp inValue).resolve_left (by decide)
    exact valueChar_ne plain cr_not_value_char (mem_strip_of_not_blank cr (by decide))

theorem cr_not_mem_requestLine {method target : Text} (token : isToken method = true)
    (visible : ∀ c ∈ target, isVisible c = true) : '\r' ∉ requestLine method target := by
  intro member
  rcases List.mem_append.mp member with inMethod | rest
  · exact tokenChar_ne token not_token_char_separators.1 inMethod
  · have later := (List.mem_cons.mp rest).resolve_left (by decide)
    rcases List.mem_append.mp later with inTarget | inVersion
    · exact cr_not_visible visible inTarget
    · exact absurd inVersion (by decide)

theorem headText_eq_intercalate (method target : Text) (fields : List Field) :
    headText method target fields =
      List.intercalate crlf (requestLine method target :: fields.map fieldLine) ++
        (crlf ++ crlf) := by
  have general : ∀ first : Text,
      first ++ crlf ++ (fields.flatMap fun field => fieldLine field ++ crlf) ++ crlf =
        List.intercalate crlf (first :: fields.map fieldLine) ++ (crlf ++ crlf) := by
    induction fields with
    | nil => intro first; simp
    | cons field fields induction =>
        intro first
        have step := induction (fieldLine field)
        rw [List.flatMap_cons, List.map_cons, List.intercalate_cons_cons]
        simp only [List.append_assoc] at step ⊢
        rw [step]
  exact general _

/-- A block of non-empty lines without carriage returns holds no blank line, so the
first one is the one that ends it. -/
theorem find_terminator_lines (first : Text) (lines : List Text) (rest : Text)
    (clean : ∀ line ∈ first :: lines, '\r' ∉ line) (nonempty : ∀ line ∈ lines, line ≠ []) :
    ListScan.find (crlf ++ crlf)
        (List.intercalate crlf (first :: lines) ++ (crlf ++ crlf) ++ rest) =
      some (List.intercalate crlf (first :: lines)).length := by
  induction lines generalizing first with
  | nil =>
      have skipped : ListScan.find (crlf ++ crlf) (first ++ (crlf ++ crlf ++ rest)) =
          (ListScan.find (crlf ++ crlf) (crlf ++ crlf ++ rest)).map (· + first.length) :=
        ListScan.find_skip (clean first (by simp))
      have here : ListScan.find (crlf ++ crlf) (crlf ++ crlf ++ rest) = some 0 := by
        simp [ListScan.find, crlf]
      rw [List.intercalate_singleton, List.append_assoc]
      rw [skipped, here]
      simp
  | cons next lines induction =>
      have later := induction next (fun line member => clean line (by simp [member]))
        (fun line member => nonempty line (by simp [member]))
      have skipped : ListScan.find (crlf ++ crlf) (first ++ (crlf ++
          (List.intercalate crlf (next :: lines) ++ (crlf ++ crlf) ++ rest))) =
          (ListScan.find (crlf ++ crlf) (crlf ++
            (List.intercalate crlf (next :: lines) ++ (crlf ++ crlf) ++ rest))).map
              (· + first.length) :=
        ListScan.find_skip (clean first (by simp))
      have nextClean : '\r' ∉ next := clean next (by simp)
      obtain ⟨c, line, rfl⟩ := List.exists_cons_of_ne_nil (nonempty next (by simp))
      have different : '\r' ≠ c := by
        rintro rfl
        exact nextClean (by simp)
      have head : ∃ block, List.intercalate crlf ((c :: line) :: lines) = c :: block := by
        cases lines <;> simp
      obtain ⟨block, blockEq⟩ := head
      rw [List.intercalate_cons_cons, List.append_assoc, List.append_assoc, List.append_assoc]
      rw [List.append_assoc] at skipped
      refine skipped.trans ?_
      rw [List.append_assoc] at later
      have pass : ListScan.find (crlf ++ crlf) (crlf ++
          (List.intercalate crlf ((c :: line) :: lines) ++ (crlf ++ crlf ++ rest))) =
          (ListScan.find (crlf ++ crlf)
            (List.intercalate crlf ((c :: line) :: lines) ++ (crlf ++ crlf ++ rest))).map
              (· + 2) := by
        rw [blockEq]
        simp [ListScan.find, crlf, different, Function.comp_def]
      rw [pass, later]
      simp only [Option.map_some, Option.some.injEq, List.length_append]
      simp [crlf]
      omega

end Blocks

section RequestLine

theorem splitOn_three {line method target version : Text}
    (split : line.splitOn ' ' = [method, target, version]) :
    line = method ++ ' ' :: (target ++ ' ' :: version) := by
  have joined : List.intercalate [' '] (line.splitOn ' ') = line := List.intercalate_splitOn ' '
  rw [split] at joined
  simpa using joined.symm

theorem splitOn_requestLine {method target : Text} (methodClean : ' ' ∉ method)
    (targetClean : ' ' ∉ target) :
    (requestLine method target).splitOn ' ' = [method, target, http11] := by
  have joined : List.intercalate [' '] [method, target, http11] = requestLine method target := by
    simp [requestLine]
  rw [← joined]
  refine List.splitOn_intercalate ' ' ?_ (by simp)
  intro piece member
  simp only [List.mem_cons, List.not_mem_nil, or_false] at member
  rcases member with rfl | rfl | rfl
  · exact methodClean
  · exact targetClean
  · decide

theorem parseRequestLine_eq_ok {limits : Limits} {line method target : Text}
    (parsed : parseRequestLine limits line = .ok (method, target)) :
    line = requestLine method target ∧ target.head? = some '/' ∧
      target.length ≤ limits.maxRequestTargetBytes ∧ '#' ∉ target ∧
        ∀ c ∈ target, isVisible c = true := by
  unfold parseRequestLine at parsed
  split at parsed
  · rename_i methodText targetText version pieces
    split at parsed
    · cases parsed
    · split at parsed
      · cases parsed
      · split at parsed
        · cases parsed
        · rename_i origin bounded form
          cases parsed
          have http : version = http11 := by
            by_contra other
            exact origin (Or.inl other)
          have rooted : target.head? = some '/' := by
            by_contra other
            exact origin (Or.inr other)
          refine ⟨?_, rooted, Nat.le_of_not_lt bounded, ?_, ?_⟩
          · rw [splitOn_three pieces, http]
            rfl
          · exact fun fragment => form (Or.inl fragment)
          · by_contra hidden
            exact form (Or.inr (by simpa using hidden))
  · cases parsed

theorem parseRequestLine_of_clean {limits : Limits} {method target : Text}
    (methodClean : ' ' ∉ method) (rooted : target.head? = some '/')
    (bounded : target.length ≤ limits.maxRequestTargetBytes) (noFragment : '#' ∉ target)
    (visible : ∀ c ∈ target, isVisible c = true) :
    parseRequestLine limits (requestLine method target) = .ok (method, target) := by
  have form : ¬ ('#' ∈ target ∨ ¬ target.all isVisible = true) := by
    rintro (fragment | hidden)
    · exact noFragment fragment
    · exact hidden (List.all_eq_true.mpr visible)
  simp only [parseRequestLine, splitOn_requestLine methodClean (space_not_visible visible)]
  rw [if_neg (by simp [rooted]), if_neg (by omega), if_neg form]

theorem space_not_mem_method {limits : Limits} {line method target : Text}
    (parsed : parseRequestLine limits line = .ok (method, target)) : ' ' ∉ method := by
  unfold parseRequestLine at parsed
  split at parsed
  · rename_i pieces
    split at parsed
    · cases parsed
    · split at parsed
      · cases parsed
      · split at parsed
        · cases parsed
        · cases parsed
          intro member
          have piece : method ∈ line.splitOn ' ' := by simp [pieces]
          exact ListScan.mark_not_mem_of_mem_splitOn piece member
  · cases parsed

end RequestLine

section Fields

theorem headerField_fieldLine {field : Field} (clean : ':' ∉ field.1) :
    headerField (fieldLine field) = trimmed field := by
  simp only [headerField, fieldLine, trimmed, ListScan.beforeMark_append clean,
    ListScan.afterMark_append clean]

theorem exists_fieldLine {line : Text} (colon : ':' ∈ line) :
    ∃ field : Field, ':' ∉ field.1 ∧ fieldLine field = line :=
  ⟨(ListScan.beforeMark ':' line, ListScan.afterMark ':' line),
    ListScan.mark_not_mem_beforeMark _ _, ListScan.beforeMark_append_afterMark colon⟩

theorem readHeaderLines_eq_ok_iff (lines : List Text) (pairs : List Field) :
    readHeaderLines lines = .ok pairs ↔
      ∃ fields : List Field, lines = fields.map fieldLine ∧ pairs = fields.map trimmed ∧
        ∀ field ∈ fields, ':' ∉ field.1 ∧ lower field.1 ≠ transferEncodingName := by
  induction lines generalizing pairs with
  | nil =>
      simp only [readHeaderLines, Except.ok.injEq]
      constructor
      · intro same
        exact ⟨[], rfl, same.symm, by simp⟩
      · rintro ⟨fields, none, same, _⟩
        rw [List.map_eq_nil_iff.mp none.symm] at same
        exact same.symm
  | cons line lines induction =>
      constructor
      · intro read
        unfold readHeaderLines at read
        split at read
        · cases read
        · rename_i colon
          split at read
          · cases read
          · rename_i encoding
            obtain ⟨field, clean, rfl⟩ := exists_fieldLine (not_not.mp colon)
            rw [headerField_fieldLine clean] at read encoding
            cases rest : readHeaderLines lines with
            | error error =>
                rw [rest] at read
                cases read
            | ok tail =>
                rw [rest] at read
                cases read
                obtain ⟨fields, linesEq, tailEq, good⟩ := (induction tail).mp rest
                refine ⟨field :: fields, by rw [linesEq]; rfl, by rw [tailEq]; rfl, ?_⟩
                intro other member
                rcases List.mem_cons.mp member with rfl | old
                · exact ⟨clean, encoding⟩
                · exact good other old
      · rintro ⟨fields, linesEq, rfl, good⟩
        cases fields with
        | nil => cases linesEq
        | cons field fields =>
            rw [List.map_cons, List.cons.injEq] at linesEq
            obtain ⟨rfl, linesEq⟩ := linesEq
            obtain ⟨clean, encoding⟩ := good field (by simp)
            have rest := (induction (fields.map trimmed)).mpr
              ⟨fields, linesEq, rfl, fun other member => good other (by simp [member])⟩
            unfold readHeaderLines
            rw [if_neg (by simp [fieldLine]), headerField_fieldLine clean,
              if_neg (show lower (trimmed field).1 ≠ _ from encoding), rest]
            rfl

theorem readHeaderLines_error {lines : List Text} {error : FeedError}
    (read : readHeaderLines lines = .error error) :
    ∃ status detail, error = .httpParseError status detail := by
  induction lines with
  | nil => cases read
  | cons line lines induction =>
      unfold readHeaderLines at read
      split at read
      · cases read
        exact ⟨_, _, rfl⟩
      · split at read
        · cases read
          exact ⟨_, _, rfl⟩
        · cases rest : readHeaderLines lines with
          | error inner =>
              rw [rest] at read
              cases read
              exact induction rest
          | ok tail =>
              rw [rest] at read
              cases read

theorem contentLengths_trimmed (fields : List Field) :
    contentLengths (fields.map trimmed) =
      (fields.filter fun field => lower field.1 == contentLengthName).map
        fun field => stripBlanks field.2 := by
  simp [contentLengths, List.filter_map, Function.comp_def, trimmed]

theorem filter_name_of_mem {fields : List Field} {field : Field} {name : Text}
    (distinct : (fields.map fun field => lower field.1).Nodup) (member : field ∈ fields)
    (named : lower field.1 = name) :
    (fields.filter fun field => lower field.1 == name) = [field] := by
  induction fields with
  | nil => cases member
  | cons other fields induction =>
      rw [List.map_cons, List.nodup_cons] at distinct
      rcases List.mem_cons.mp member with rfl | later
      · have none : (fields.filter fun field => lower field.1 == name) = [] := by
          refine List.filter_eq_nil_iff.mpr ?_
          intro item inside
          rw [beq_iff_eq]
          intro same
          exact distinct.1 (List.mem_map.mpr ⟨item, inside, same.trans named.symm⟩)
        rw [List.filter_cons_of_pos (by simpa using named), none]
      · have different : lower other.1 ≠ name := by
          intro same
          exact distinct.1 (List.mem_map.mpr ⟨field, later, named.trans same.symm⟩)
        rw [List.filter_cons_of_neg (by simpa using different), induction distinct.2 later]

theorem filter_name_of_absent {fields : List Field} {name : Text}
    (absent : ∀ field ∈ fields, lower field.1 ≠ name) :
    (fields.filter fun field => lower field.1 == name) = [] := by
  refine List.filter_eq_nil_iff.mpr ?_
  intro field member
  simpa using absent field member

theorem find?_name_eq_head? (fields : List Field) (name : Text) :
    (fields.find? fun field => lower field.1 == name) =
      (fields.filter fun field => lower field.1 == name).head? := by
  rw [List.head?_filter]

theorem declaredLength_of_mem {fields : List Field} {field : Field}
    (distinct : (fields.map fun field => lower field.1).Nodup) (member : field ∈ fields)
    (named : lower field.1 = contentLengthName) :
    declaredLength fields = decimalValue (stripBlanks field.2) := by
  rw [declaredLength, find?_name_eq_head?, filter_name_of_mem distinct member named]
  rfl

theorem declaredLength_of_absent {fields : List Field}
    (absent : ∀ field ∈ fields, lower field.1 ≠ contentLengthName) :
    declaredLength fields = 0 := by
  rw [declaredLength, find?_name_eq_head?, filter_name_of_absent absent]
  rfl

theorem parseContentLength_singleton (limits : Limits) (value : Text) (length : Nat) :
    parseContentLength limits [value] = .ok length ↔
      isAsciiDecimal value = true ∧ value.length ≤ intMaxStrDigits ∧
        decimalValue value ≤ limits.maxBodyBytes ∧ length = decimalValue value := by
  unfold parseContentLength intOfDecimal
  by_cases decimal : isAsciiDecimal value = true
  · by_cases convertible : value.length ≤ intMaxStrDigits
    · by_cases bounded : decimalValue value ≤ limits.maxBodyBytes
      · simp [decimal, convertible, bounded, Nat.not_lt.mpr bounded, bind, Except.bind, eq_comm]
      · simp [decimal, convertible, bounded, Nat.lt_of_not_le bounded, bind, Except.bind]
    · simp [decimal, convertible, bind, Except.bind]
  · simp [decimal]

end Fields

section Heads

theorem contentLengths_length_le {fields : List Field}
    (distinct : (fields.map fun field => lower field.1).Nodup) :
    (contentLengths (fields.map trimmed)).length ≤ 1 := by
  rw [contentLengths_trimmed, List.length_map]
  cases found : (fields.filter fun field => lower field.1 == contentLengthName) with
  | nil => simp
  | cons field rest =>
      have member : field ∈ fields.filter fun field => lower field.1 == contentLengthName := by
        simp [found]
      obtain ⟨inside, named⟩ := List.mem_filter.mp member
      rw [filter_name_of_mem distinct inside (by simpa using named)] at found
      rw [← found]
      simp

theorem names_trimmed (fields : List Field) :
    ((fields.map trimmed).map fun field => lower field.1) =
      fields.map fun field => lower field.1 := by
  simp [Function.comp_def, trimmed]

theorem colon_not_mem_of_token {field : Field} (token : isToken field.1 = true) :
    ':' ∉ field.1 :=
  tokenChar_ne token not_token_char_separators.2.1

/-- With acceptable names and values, what is left of `_parse_head` is the declared
length and the Host check. -/
theorem parseFields_checked {limits : Limits} {fields : List Field} {headers : Headers}
    (counted : fields.length ≤ limits.maxHeaderCount)
    (noEncoding : ∀ field ∈ fields, lower field.1 ≠ transferEncodingName)
    (built : Headers.ofPairs (fields.map trimmed) = .ok headers) :
    parseFields limits (fields.map fieldLine) =
      (parseContentLength limits (contentLengths (fields.map trimmed))).bind fun length =>
        if (headers.get hostName).getD [] = [] then
          .error (.httpParseError 400 "HTTP/1.1 requests require a Host header")
        else .ok (headers, length) := by
  obtain ⟨-, tokens, -, distinct⟩ := (Headers.ofPairs_eq_ok_iff _ _).mp built
  rw [names_trimmed] at distinct
  have read : readHeaderLines (fields.map fieldLine) = .ok (fields.map trimmed) := by
    refine (readHeaderLines_eq_ok_iff _ _).mpr ⟨fields, rfl, rfl, ?_⟩
    intro field member
    refine ⟨colon_not_mem_of_token ?_, noEncoding field member⟩
    exact tokens (trimmed field) (List.mem_map_of_mem member)
  have single := contentLengths_length_le distinct
  unfold parseFields
  rw [if_neg (by rw [List.length_map]; omega), read]
  simp only [bind, Except.bind, built, if_neg (Nat.not_lt.mpr single)]

/-- Unless `_parse_head` raises its own error, the names and values are acceptable. -/
theorem parseFields_reaches_length (limits : Limits) (lines : List Text)
    (passed : ∀ status detail,
      parseFields limits lines ≠ .error (.httpParseError status detail)) :
    ∃ (fields : List Field) (headers : Headers),
      lines = fields.map fieldLine ∧ fields.length ≤ limits.maxHeaderCount ∧
      (∀ field ∈ fields, lower field.1 ≠ transferEncodingName) ∧
        Headers.ofPairs (fields.map trimmed) = .ok headers := by
  unfold parseFields at passed
  split at passed
  · exact absurd rfl (passed _ _)
  · rename_i counted
    cases read : readHeaderLines lines with
    | error error =>
        obtain ⟨status, detail, rfl⟩ := readHeaderLines_error read
        rw [read] at passed
        exact absurd rfl (passed _ _)
    | ok pairs =>
        obtain ⟨fields, rfl, rfl, good⟩ := (readHeaderLines_eq_ok_iff _ _).mp read
        rw [List.length_map] at counted
        rw [read] at passed
        simp only [bind, Except.bind] at passed
        split at passed
        · exact absurd rfl (passed _ _)
        · split at passed
          · exact absurd rfl (passed _ _)
          · rename_i headers built
            exact ⟨fields, headers, rfl, by omega, fun field member => (good field member).2,
              built⟩

theorem host_present_iff {fields : List Field} {headers : Headers}
    (built : Headers.ofPairs (fields.map trimmed) = .ok headers) :
    (headers.get hostName).getD [] ≠ [] ↔
      ∃ field ∈ fields, lower field.1 = hostName ∧ stripBlanks field.2 ≠ [] := by
  obtain ⟨items, -, -, distinct⟩ := (Headers.ofPairs_eq_ok_iff _ _).mp built
  rw [names_trimmed] at distinct
  have lowered : lower hostName = hostName := by decide
  have get : headers.get hostName =
      ((fields.filter fun field => lower field.1 == hostName).head?).map
        fun field => stripBlanks field.2 := by
    rw [← find?_name_eq_head?, Headers.get, items, lowered, List.find?_map, Option.map_map]
    rfl
  rw [get]
  constructor
  · intro present
    cases found : (fields.filter fun field => lower field.1 == hostName) with
    | nil => simp [found] at present
    | cons field rest =>
        have member : field ∈ fields.filter fun field => lower field.1 == hostName := by
          simp [found]
        obtain ⟨inside, named⟩ := List.mem_filter.mp member
        refine ⟨field, inside, by simpa using named, ?_⟩
        simpa [found] using present
  · rintro ⟨field, member, named, value⟩
    rw [filter_name_of_mem distinct member named]
    simpa using value

theorem plain_iff {value : Text} (narrow : ∀ c ∈ value, c.toNat ≤ 0xFF) :
    isPlainValue value = true ↔ ∀ c ∈ value, c = '\t' ∨ isControl c = false := by
  rw [isPlainValue, List.all_eq_true]
  refine forall₂_congr ?_
  intro c member
  have bound := narrow c member
  have fits : ¬ 255 < c.toNat := by omega
  simp [isValueChar, isControl, fits]

theorem parseFields_eq_ok_iff {limits : Limits} {lines : List Text} {headers : Headers}
    {length : Nat} (narrow : ∀ line ∈ lines, ∀ c ∈ line, c.toNat ≤ 0xFF) :
    parseFields limits lines = .ok (headers, length) ↔
      ∃ fields, lines = fields.map fieldLine ∧ WellFormedFields limits fields ∧
        headers.items = fields.map trimmed ∧ length = declaredLength fields := by
  have narrowValue : ∀ {fields : List Field}, lines = fields.map fieldLine →
      ∀ field ∈ fields, ∀ c ∈ stripBlanks field.2, c.toNat ≤ 0xFF := by
    intro fields linesEq field member c inside
    refine narrow (fieldLine field) (linesEq ▸ List.mem_map_of_mem member) c ?_
    exact List.mem_append_right _ (List.mem_cons_of_mem _ (ListScan.strip_subset _ _ inside))
  constructor
  · intro parsed
    obtain ⟨fields, built, rfl, counted, noEncoding, ofPairs⟩ :=
      parseFields_reaches_length limits lines (by simp [parsed])
    obtain ⟨items, tokens, plain, distinct⟩ := (Headers.ofPairs_eq_ok_iff _ _).mp ofPairs
    rw [names_trimmed] at distinct
    rw [parseFields_checked counted noEncoding ofPairs] at parsed
    cases lengthResult : parseContentLength limits (contentLengths (fields.map trimmed)) with
    | error error =>
        rw [lengthResult] at parsed
        cases parsed
    | ok declared =>
        rw [lengthResult] at parsed
        simp only [Except.bind] at parsed
        split at parsed
        · cases parsed
        · rename_i host
          cases parsed
          have single : ∀ field ∈ fields, lower field.1 = contentLengthName →
              isAsciiDecimal (stripBlanks field.2) = true ∧
                (stripBlanks field.2).length ≤ intMaxStrDigits ∧
                  decimalValue (stripBlanks field.2) ≤ limits.maxBodyBytes ∧
                    length = decimalValue (stripBlanks field.2) := by
            intro field member named
            rw [contentLengths_trimmed, filter_name_of_mem distinct member named] at lengthResult
            exact (parseContentLength_singleton _ _ _).mp lengthResult
          refine ⟨fields, rfl, ?_, items, ?_⟩
          · exact {
              counted := counted
              names_token := fun field member =>
                tokens (trimmed field) (List.mem_map_of_mem member)
              names_distinct := distinct
              no_transfer_encoding := noEncoding
              values_plain := fun field member =>
                (plain_iff (narrowValue rfl field member)).mp
                  (plain (trimmed field) (List.mem_map_of_mem member))
              host_present := (host_present_iff ofPairs).mp host
              length_decimal := fun field member named =>
                ⟨(single field member named).1, (single field member named).2.2.1⟩
              length_convertible := fun field member named =>
                (single field member named).2.1 }
          · by_cases declares : ∃ field ∈ fields, lower field.1 = contentLengthName
            · obtain ⟨field, member, named⟩ := declares
              rw [declaredLength_of_mem distinct member named]
              exact (single field member named).2.2.2
            · have absent : ∀ field ∈ fields, lower field.1 ≠ contentLengthName :=
                fun field member named => declares ⟨field, member, named⟩
              rw [contentLengths_trimmed, filter_name_of_absent absent] at lengthResult
              cases lengthResult
              rw [declaredLength_of_absent absent]
  · rintro ⟨fields, rfl, formed, items, rfl⟩
    have ofPairs : Headers.ofPairs (fields.map trimmed) = .ok headers := by
      refine (Headers.ofPairs_eq_ok_iff _ _).mpr ⟨items, ?_, ?_, ?_⟩
      · intro pair member
        obtain ⟨field, inside, rfl⟩ := List.mem_map.mp member
        exact formed.names_token field inside
      · intro pair member
        obtain ⟨field, inside, rfl⟩ := List.mem_map.mp member
        exact (plain_iff (narrowValue rfl field inside)).mpr (formed.values_plain field inside)
      · rw [names_trimmed]
        exact formed.names_distinct
    have host := (host_present_iff ofPairs).mpr formed.host_present
    have declared : parseContentLength limits (contentLengths (fields.map trimmed)) =
        .ok (declaredLength fields) := by
      rw [contentLengths_trimmed]
      by_cases declares : ∃ field ∈ fields, lower field.1 = contentLengthName
      · obtain ⟨field, member, named⟩ := declares
        rw [filter_name_of_mem formed.names_distinct member named,
          declaredLength_of_mem formed.names_distinct member named]
        exact (parseContentLength_singleton _ _ _).mpr
          ⟨(formed.length_decimal field member named).1,
            formed.length_convertible field member named,
            (formed.length_decimal field member named).2, rfl⟩
      · have absent : ∀ field ∈ fields, lower field.1 ≠ contentLengthName :=
          fun field member named => declares ⟨field, member, named⟩
        rw [filter_name_of_absent absent, declaredLength_of_absent absent]
        rfl
    rw [parseFields_checked formed.counted formed.no_transfer_encoding ofPairs, declared]
    simp only [Except.bind]
    rw [if_neg host]

end Heads

section Acceptance

theorem narrow_pieces {raw : Bytes} {line : Text}
    (member : line ∈ ListScan.split crlf (decodeLatin1 raw)) :
    ∀ c ∈ line, c.toNat ≤ 0xFF := by
  intro c inside
  obtain ⟨byte, -, rfl⟩ := List.mem_map.mp (ListScan.mem_of_mem_splitFrom member inside)
  rw [decodeByte_toNat]
  have small := byte.toNat_lt
  omega

theorem parseHead_eq_ok {limits : Limits} {raw : Bytes} {head : RequestHead}
    (parsed : parseHead limits raw = .ok head) :
    ∃ fields, decodeLatin1 raw ++ (crlf ++ crlf) = headText head.method head.rawTarget fields ∧
      head.rawTarget.head? = some '/' ∧ (∀ c ∈ head.rawTarget, isVisible c = true) ∧
        '#' ∉ head.rawTarget ∧ head.rawTarget.length ≤ limits.maxRequestTargetBytes ∧
          WellFormedFields limits fields ∧ head.headers.items = fields.map trimmed ∧
            head.contentLength = declaredLength fields := by
  unfold parseHead at parsed
  split at parsed
  · cases parsed
  · rename_i line lines pieces
    cases lineResult : parseRequestLine limits line with
    | error error =>
        rw [lineResult] at parsed
        cases parsed
    | ok parts =>
        cases fieldsResult : parseFields limits lines with
        | error error =>
            rw [lineResult, fieldsResult] at parsed
            cases parsed
        | ok outcome =>
            rw [lineResult, fieldsResult] at parsed
            cases parsed
            obtain ⟨rfl, rooted, bounded, noFragment, visible⟩ :=
              parseRequestLine_eq_ok lineResult
            have narrow : ∀ line ∈ lines, ∀ c ∈ line, c.toNat ≤ 0xFF := fun line member =>
              narrow_pieces (pieces ▸ List.mem_cons_of_mem _ member)
            obtain ⟨fields, rfl, formed, items, length⟩ :=
              (parseFields_eq_ok_iff narrow).mp fieldsResult
            refine ⟨fields, ?_, rooted, visible, noFragment, bounded, formed, items, length⟩
            rw [headText_eq_intercalate, ← pieces, ListScan.intercalate_split (by decide)]

theorem parseHead_wellFormed {limits : Limits} {raw : Bytes} {method target : Text}
    {fields : List Field} (formed : WellFormedHead limits method target fields)
    (spelled : decodeLatin1 raw ++ (crlf ++ crlf) = headText method target fields) :
    ∃ headers, headers.items = fields.map trimmed ∧
      parseHead limits raw = .ok ⟨method, target, headers, declaredLength fields⟩ := by
  have fieldsFormed := formed.fields_well_formed
  rw [headText_eq_intercalate] at spelled
  have text := List.append_cancel_right spelled
  have narrowText : ∀ c ∈ decodeLatin1 raw, c.toNat ≤ 0xFF := by
    intro c member
    obtain ⟨byte, -, rfl⟩ := List.mem_map.mp member
    rw [decodeByte_toNat]
    have small := byte.toNat_lt
    omega
  have narrowLine : ∀ line ∈ fields.map fieldLine, ∀ c ∈ line, c.toNat ≤ 0xFF := by
    intro line member c inside
    refine narrowText c ?_
    rw [text]
    exact ListScan.mem_intercalate_of_mem (List.mem_cons_of_mem _ member) inside
  have narrowValue : ∀ field ∈ fields, ∀ c ∈ stripBlanks field.2, c.toNat ≤ 0xFF := by
    intro field member c inside
    refine narrowLine (fieldLine field) (List.mem_map_of_mem member) c ?_
    exact List.mem_append_right _ (List.mem_cons_of_mem _ (ListScan.strip_subset _ _ inside))
  have plain : ∀ field ∈ fields, isPlainValue (stripBlanks field.2) = true :=
    fun field member =>
      (plain_iff (narrowValue field member)).mpr (fieldsFormed.values_plain field member)
  have clean : ∀ line ∈ requestLine method target :: fields.map fieldLine, '\r' ∉ line := by
    intro line member
    rcases List.mem_cons.mp member with rfl | later
    · exact cr_not_mem_requestLine formed.method_token formed.target_visible
    · obtain ⟨field, inside, rfl⟩ := List.mem_map.mp later
      exact cr_not_mem_fieldLine (fieldsFormed.names_token field inside) (plain field inside)
  have pieces : ListScan.split crlf (decodeLatin1 raw) =
      requestLine method target :: fields.map fieldLine := by
    rw [text]
    exact ListScan.split_intercalate (by simp) clean
  have ofPairs : ∃ headers, Headers.ofPairs (fields.map trimmed) = .ok headers := by
    refine ⟨⟨fields.map trimmed, ?_, ?_, ?_⟩, (Headers.ofPairs_eq_ok_iff _ _).mpr
      ⟨rfl, ?_, ?_, ?_⟩⟩
    all_goals first
      | (intro pair member
         obtain ⟨field, inside, rfl⟩ := List.mem_map.mp member
         first
           | exact fieldsFormed.names_token field inside
           | exact plain field inside)
      | (rw [names_trimmed]
         exact fieldsFormed.names_distinct)
  obtain ⟨headers, built⟩ := ofPairs
  have items := ((Headers.ofPairs_eq_ok_iff _ _).mp built).1
  have fieldsOk : parseFields limits (fields.map fieldLine) =
      .ok (headers, declaredLength fields) :=
    (parseFields_eq_ok_iff narrowLine).mpr ⟨fields, rfl, fieldsFormed, items, rfl⟩
  refine ⟨headers, items, ?_⟩
  unfold parseHead
  rw [pieces]
  simp only [parseRequestLine_of_clean
    (tokenChar_ne formed.method_token not_token_char_separators.2.2) formed.target_rooted
    formed.target_bounded formed.target_no_fragment formed.target_visible, fieldsOk,
    bind, Except.bind]

/-- `feed` builds a request from a head exactly when the method is a token. -/
theorem buildRequest_eq_ok (head : RequestHead) (body : Bytes)
    (token : isToken head.method = true) (rooted : head.rawTarget.head? = some '/') :
    ∃ request, buildRequest head body = .ok request ∧ request.method = head.method ∧
      request.rawTarget = head.rawTarget ∧ request.headers = head.headers ∧
        request.body = body := by
  refine ⟨_, Request.build_eq_ok token ?_ ?_, rfl, rfl, rfl, rfl⟩
  · exact rooted
  · simp [Request.fieldsAgree, Request.resolveTarget]

theorem token_of_buildRequest {head : RequestHead} {body : Bytes} {request : Request}
    (built : buildRequest head body = .ok request) : isToken head.method = true := by
  unfold buildRequest Request.build at built
  by_contra other
  rw [dif_neg other] at built
  cases built

theorem find_terminator_spelled {s : Bytes} {first rest : Text} {lines : List Text}
    (spelled : decodeLatin1 s = List.intercalate crlf (first :: lines) ++ (crlf ++ crlf) ++ rest)
    (clean : ∀ line ∈ first :: lines, '\r' ∉ line) (nonempty : ∀ line ∈ lines, line ≠ []) :
    ListScan.find terminator s = some (List.intercalate crlf (first :: lines)).length := by
  have bytes : terminator.map decodeByte = crlf ++ crlf := by decide
  rw [← ListScan.find_map decodeByte decodeByte_injective, bytes]
  change ListScan.find (crlf ++ crlf) (decodeLatin1 s) = _
  rw [spelled, find_terminator_lines first lines rest clean nonempty]

theorem fieldLine_ne_nil (field : Field) : fieldLine field ≠ [] := by
  simp [fieldLine]

theorem find_terminator_headText {limits : Limits} {method target : Text}
    {fields : List Field} {s : Bytes} {rest : Text}
    (formed : WellFormedHead limits method target fields)
    (plain : ∀ field ∈ fields, isPlainValue (stripBlanks field.2) = true)
    (spelled : decodeLatin1 s = headText method target fields ++ rest) :
    ListScan.find terminator s = some ((headText method target fields).length - 4) := by
  rw [headText_eq_intercalate] at spelled ⊢
  rw [find_terminator_spelled spelled]
  · simp [crlf]
  · intro line member
    rcases List.mem_cons.mp member with rfl | later
    · exact cr_not_mem_requestLine formed.method_token formed.target_visible
    · obtain ⟨field, inside, rfl⟩ := List.mem_map.mp later
      exact cr_not_mem_fieldLine (formed.fields_well_formed.names_token field inside)
        (plain field inside)
  · intro line member
    obtain ⟨field, -, rfl⟩ := List.mem_map.mp member
    exact fieldLine_ne_nil field

end Acceptance

section Feed

/-- What a successful `feed` of a fresh parser tells about the bytes: the request, the
spelling of its head and the body that follows. -/
theorem feed_request_spells {limits : Limits} {s : Bytes} {request : Request}
    (fed : (feed (HTTPRequestParser.new limits true) s).1 = .ok (some request)) :
    ∃ fields rest,
      decodeLatin1 s =
        headText request.method request.rawTarget fields ++ decodeLatin1 (request.body ++ rest) ∧
      WellFormedHead limits request.method request.rawTarget fields ∧
      (headText request.method request.rawTarget fields).length ≤ limits.maxHeaderBytes ∧
      request.body.length = declaredLength fields ∧
      request.headers.items = fields.map trimmed := by
  rw [feed_new] at fed
  have fresh := feedHead_cases (HTTPRequestParser.awaitingHead limits true s)
  generalize feedHead (HTTPRequestParser.awaitingHead limits true s) = outcome at fresh fed
  cases fresh with
  | overlong | waiting | overlongHead | rejected => cases fed
  | read marker head found short parsed =>
      simp only [awaitingHead_limits, awaitingHead_buffer] at found short parsed
      obtain ⟨fields, spelled, rooted, visible, noFragment, targetBounded, formed, items,
        length⟩ := parseHead_eq_ok parsed
      have body := feedBody_cases
        ((HTTPRequestParser.awaitingHead limits true s).readHead head (marker + 4)) head
      generalize feedBody
        ((HTTPRequestParser.awaitingHead limits true s).readHead head (marker + 4)) head =
          bodyOutcome at body fed
      cases body with
      | pipelined | waiting | rejected => cases fed
      | completed built complete builtEq =>
          cases fed
          simp only [readHead_buffer, awaitingHead_buffer] at complete builtEq
          have token := token_of_buildRequest builtEq
          obtain ⟨other, otherBuilt, methodEq, targetEq, headersEq, bodyEq⟩ :=
            buildRequest_eq_ok head ((s.drop (marker + 4)).take head.contentLength) token rooted
          rw [builtEq] at otherBuilt
          cases otherBuilt
          have cut := ListScan.find_split found
          have whole : decodeLatin1 s = headText head.method head.rawTarget fields ++
              decodeLatin1 (s.drop (marker + 4)) := by
            rw [← spelled]
            conv_lhs => rw [cut]
            rw [decodeLatin1_append, decodeLatin1_append]
            rfl
          have headLength : (headText head.method head.rawTarget fields).length =
              marker + 4 := by
            have fits := ListScan.find_length_le found
            have four : terminator.length = 4 := rfl
            rw [← spelled]
            simp only [List.length_append, decodeLatin1_length, List.length_take]
            rw [four] at fits
            simp [crlf]
            omega
          rw [methodEq, targetEq, headersEq, bodyEq]
          refine ⟨fields, (s.drop (marker + 4)).drop head.contentLength, ?_, ?_, ?_, ?_, items⟩
          · rw [List.take_append_drop]
            exact whole
          · exact ⟨token, rooted, visible, noFragment, targetBounded, formed⟩
          · rw [headLength]
            exact short
          · rw [← length, List.length_take]
            exact Nat.min_eq_left complete

theorem feed_spelled {limits : Limits} {s body rest : Bytes} {method target : Text}
    {fields : List Field} (formed : WellFormedHead limits method target fields)
    (spelled : decodeLatin1 s = headText method target fields ++ decodeLatin1 (body ++ rest))
    (bounded : (headText method target fields).length ≤ limits.maxHeaderBytes)
    (length : body.length = declaredLength fields) :
    ∃ request, (feed (HTTPRequestParser.new limits true) s).1 = .ok (some request) ∧
      request.method = method ∧ request.rawTarget = target ∧ request.body = body := by
  have textBytes : ∃ headBytes, s = headBytes ++ (body ++ rest) ∧
      decodeLatin1 headBytes = headText method target fields := by
    obtain ⟨left, right, cut, leftEq, rightEq⟩ := List.map_eq_append_iff.mp spelled
    exact ⟨left, by rw [cut, decodeLatin1_injective rightEq], leftEq⟩
  obtain ⟨headBytes, rfl, headEq⟩ := textBytes
  have headLength : (headText method target fields).length = headBytes.length := by
    rw [← headEq, decodeLatin1_length]
  have ending : ∃ raw, headBytes = raw ++ terminator ∧
      decodeLatin1 raw ++ (crlf ++ crlf) = headText method target fields := by
    rw [headText_eq_intercalate] at headEq ⊢
    obtain ⟨raw, blank, cut, rawEq, blankEq⟩ := List.map_eq_append_iff.mp headEq
    have blankBytes : blank = terminator :=
      decodeLatin1_injective (blankEq.trans (by decide : crlf ++ crlf = decodeLatin1 terminator))
    refine ⟨raw, by rw [cut, blankBytes], ?_⟩
    rw [← rawEq]
    rfl
  obtain ⟨raw, rfl, rawSpelled⟩ := ending
  obtain ⟨headers, items, parsed⟩ := parseHead_wellFormed formed rawSpelled
  have plain : ∀ field ∈ fields, isPlainValue (stripBlanks field.2) = true := by
    intro field member
    have built := headers.values_plain
    rw [items] at built
    exact built (trimmed field) (List.mem_map_of_mem member)
  have four : terminator.length = 4 := rfl
  have found := find_terminator_headText formed plain spelled
  rw [headLength, List.length_append, four, Nat.add_sub_cancel] at found
  rw [headLength, List.length_append, four] at bounded
  obtain ⟨request, built, methodEq, targetEq, -, bodyEq⟩ :=
    buildRequest_eq_ok ⟨method, target, headers, declaredLength fields⟩ body
      formed.method_token formed.target_rooted
  have takeHead : (raw ++ terminator ++ (body ++ rest)).take raw.length = raw := by
    rw [List.append_assoc, List.take_left]
  have dropHead : (raw ++ terminator ++ (body ++ rest)).drop (raw.length + 4) = body ++ rest := by
    rw [List.drop_left' (by rw [List.length_append, four])]
  have takeBody : (body ++ rest).take (declaredLength fields) = body := by
    rw [← length, List.take_left]
  refine ⟨request, ?_, methodEq, targetEq, bodyEq⟩
  have headParsed : parseHead limits ((raw ++ terminator ++ (body ++ rest)).take raw.length) =
      .ok ⟨method, target, headers, declaredLength fields⟩ := by
    rw [takeHead, parsed]
  have complete : declaredLength fields ≤
      ((raw ++ terminator ++ (body ++ rest)).drop (raw.length + 4)).length := by
    rw [dropHead, List.length_append, ← length]
    exact Nat.le_add_right _ _
  have completed : buildRequest ⟨method, target, headers, declaredLength fields⟩
      (((raw ++ terminator ++ (body ++ rest)).drop (raw.length + 4)).take
        (declaredLength fields)) = .ok request := by
    rw [dropHead, takeBody]
    exact built
  rw [feed_new, feedHead_read found bounded headParsed, feedBody_completed rfl complete completed]

/-- Feeding `s` to a fresh parser yields a request exactly when `s` is grammatical. -/
theorem feed_yields_request_iff_grammatical (limits : Limits) (s : Bytes) :
    (∃ request, (feed (HTTPRequestParser.new limits true) s).1 = .ok (some request)) ↔
      Grammatical limits s := by
  constructor
  · rintro ⟨request, fed⟩
    obtain ⟨fields, rest, spelled, formed, bounded, length, -⟩ := feed_request_spells fed
    exact ⟨_, _, fields, request.body, rest, spelled, formed, bounded, length⟩
  · rintro ⟨method, target, fields, body, rest, spelled, formed, bounded, length⟩
    obtain ⟨request, fed, -⟩ := feed_spelled formed spelled bounded length
    exact ⟨request, fed⟩

end Feed

end SmallServer.RequestGrammar
