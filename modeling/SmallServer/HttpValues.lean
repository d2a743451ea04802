import SmallServer.ListScan
import Mathlib.Data.List.Nodup

/-!
# Request and response values

The immutable `Headers`, `Request` and `Response` values shared by both
protocols, with the checks of their constructors. Texts are lists of
characters and bodies lists of bytes. A constructor returns the message of the
`ValueError` it raises; argument types are enforced by Lean, so the
`TypeError` branches have no counterpart.
-/

namespace SmallServer.HttpValues

open SmallServer

set_option autoImplicit false

abbrev Bytes := List UInt8

abbrev Text := List Char

def decodeByte (byte : UInt8) : Char := Char.ofNat byte.toNat

def decodeLatin1 (bytes : Bytes) : Text := bytes.map decodeByte

theorem decodeByte_toNat (byte : UInt8) : (decodeByte byte).toNat = byte.toNat := by
  have small : byte.toNat < 256 := byte.toNat_lt
  have valid : byte.toNat.isValidChar := Or.inl (by omega)
  rw [decodeByte, Char.ofNat, dif_pos valid]
  rfl

theorem decodeByte_injective : Function.Injective decodeByte := by
  intro left right same
  have numbers := congrArg Char.toNat same
  rw [decodeByte_toNat, decodeByte_toNat] at numbers
  exact UInt8.toNat_inj.mp numbers

theorem decodeLatin1_injective : Function.Injective decodeLatin1 :=
  List.map_injective_iff.mpr decodeByte_injective

@[simp] theorem decodeLatin1_append (left right : Bytes) :
    decodeLatin1 (left ++ right) = decodeLatin1 left ++ decodeLatin1 right := by
  simp [decodeLatin1]

@[simp] theorem decodeLatin1_length (bytes : Bytes) :
    (decodeLatin1 bytes).length = bytes.length := by
  simp [decodeLatin1]

def encodeLatin1 (text : Text) : Bytes := text.map fun c => UInt8.ofNat c.toNat

theorem decode_encodeLatin1 {text : Text} (narrow : ∀ c ∈ text, c.toNat ≤ 0xFF) :
    decodeLatin1 (encodeLatin1 text) = text := by
  rw [decodeLatin1, encodeLatin1, List.map_map]
  conv_rhs => rw [← List.map_id text]
  refine List.map_congr_left ?_
  intro c member
  have bound := narrow c member
  have number : (UInt8.ofNat c.toNat).toNat = c.toNat := by
    rw [UInt8.toNat_ofNat']
    omega
  rw [Function.comp_apply, decodeByte, number, Char.ofNat_toNat]
  rfl

/-- `str.lower` on one character of the Latin-1 range. Wider characters are left
alone: the constructors below refuse them in header names in any case. -/
def lowerChar (c : Char) : Char :=
  if c.toNat ∈ List.range' 0x41 26 ∨ (c.toNat ∈ List.range' 0xC0 31 ∧ c.toNat ≠ 0xD7) then
    Char.ofNat (c.toNat + 32)
  else c

def lower (text : Text) : Text := text.map lowerChar

def tokenMarks : List Char :=
  ['!', '#', '$', '%', '&', '\x27', '*', '+', '.', '^', '_', '\x60', '|', '~', '-']

def isTokenChar (c : Char) : Bool := c.isAlphanum || tokenMarks.contains c

def isToken (text : Text) : Bool := !text.isEmpty && text.all isTokenChar

/-- The characters `Headers` refuses in a value: controls other than HTAB, DEL,
and whatever Latin-1 cannot encode. -/
def isValueChar (c : Char) : Bool :=
  c == '\t' || !(c.toNat < 0x20 || c.toNat == 0x7F || c.toNat > 0xFF)

def isPlainValue (text : Text) : Bool := text.all isValueChar

theorem tokenChar_ne {c : Char} {text : Text} (token : isToken text = true)
    (foreign : isTokenChar c = false) : c ∉ text := by
  intro member
  have admitted := List.all_eq_true.mp (Bool.and_eq_true_iff.mp token).2 c member
  rw [foreign] at admitted
  cases admitted

theorem valueChar_ne {c : Char} {text : Text} (plain : isPlainValue text = true)
    (foreign : isValueChar c = false) : c ∉ text := by
  intro member
  have admitted := List.all_eq_true.mp plain c member
  rw [foreign] at admitted
  cases admitted

/-- Validated header fields in insertion order; lookups ignore case. -/
structure Headers where
  items : List (Text × Text)
  names_token : ∀ item ∈ items, isToken item.1 = true
  values_plain : ∀ item ∈ items, isPlainValue item.2 = true
  names_distinct : (items.map fun item => lower item.1).Nodup
deriving DecidableEq

namespace Headers

def empty : Headers where
  items := []
  names_token := by simp
  values_plain := by simp
  names_distinct := by simp

def add (headers : Headers) (field : Text × Text) : Except String Headers :=
  if token : isToken field.1 = true then
    if plain : isPlainValue field.2 = true then
      if fresh : lower field.1 ∉ headers.items.map (fun item => lower item.1) then
        .ok {
          items := headers.items ++ [field]
          names_token := by
            intro item member
            rcases List.mem_append.mp member with old | new
            · exact headers.names_token item old
            · rw [List.mem_singleton.mp new]
              exact token
          values_plain := by
            intro item member
            rcases List.mem_append.mp member with old | new
            · exact headers.values_plain item old
            · rw [List.mem_singleton.mp new]
              exact plain
          names_distinct := by
            rw [List.map_append, List.map_singleton, List.nodup_append_comm]
            exact List.nodup_cons.mpr ⟨fresh, headers.names_distinct⟩ }
      else .error ("duplicate HTTP header: " ++ String.ofList field.1)
    else .error "invalid HTTP header value"
  else .error "invalid HTTP header name"

def ofPairs (pairs : List (Text × Text)) : Except String Headers :=
  pairs.foldlM add empty

def get (headers : Headers) (name : Text) : Option Text :=
  (headers.items.find? fun item => lower item.1 == lower name).map Prod.snd

theorem add_eq_ok_iff (headers next : Headers) (field : Text × Text) :
    headers.add field = .ok next ↔
      isToken field.1 = true ∧ isPlainValue field.2 = true ∧
        lower field.1 ∉ headers.items.map (fun item => lower item.1) ∧
          next.items = headers.items ++ [field] := by
  unfold add
  constructor
  · intro added
    split at added
    · split at added
      · split at added
        · cases added
          exact ⟨‹_›, ‹_›, ‹_›, rfl⟩
        · cases added
      · cases added
    · cases added
  · rintro ⟨token, plain, fresh, same⟩
    rw [dif_pos token, dif_pos plain, dif_pos fresh]
    cases next
    cases same
    rfl

/-- The constructor accepts exactly the lists of valid fields with distinct names,
and keeps them as given. -/
theorem ofPairs_eq_ok_iff (pairs : List (Text × Text)) (headers : Headers) :
    ofPairs pairs = .ok headers ↔
      headers.items = pairs ∧ (∀ field ∈ pairs, isToken field.1 = true) ∧
        (∀ field ∈ pairs, isPlainValue field.2 = true) ∧
          (pairs.map fun field => lower field.1).Nodup := by
  have general : ∀ start : Headers, pairs.foldlM add start = .ok headers ↔
      headers.items = start.items ++ pairs ∧ (∀ field ∈ pairs, isToken field.1 = true) ∧
        (∀ field ∈ pairs, isPlainValue field.2 = true) ∧
          ((start.items ++ pairs).map fun field => lower field.1).Nodup := by
    induction pairs with
    | nil =>
        intro start
        rw [List.foldlM_nil]
        constructor
        · intro same
          cases same
          simp [headers.names_distinct]
        · rintro ⟨same, -⟩
          rw [List.append_nil] at same
          cases start
          cases headers
          cases same
          rfl
    | cons field pairs induction =>
        intro start
        rw [List.foldlM_cons]
        cases added : start.add field with
        | error message =>
            constructor
            · intro impossible
              cases impossible
            · rintro ⟨same, tokens, plain, distinct⟩
              rw [List.map_append, List.map_cons] at distinct
              have fresh : lower field.1 ∉ start.items.map (fun item => lower item.1) := by
                intro member
                exact (List.nodup_append.mp distinct).2.2 _ member _ (by simp) rfl
              unfold add at added
              rw [dif_pos (tokens field (by simp)), dif_pos (plain field (by simp)),
                dif_pos fresh] at added
              cases added
        | ok next =>
            obtain ⟨token, value, fresh, items⟩ := (add_eq_ok_iff _ _ _).mp added
            change pairs.foldlM add next = .ok headers ↔ _
            rw [induction next, items]
            simp only [List.append_assoc, List.singleton_append, List.mem_cons,
              forall_eq_or_imp, token, value, true_and]
  simpa [ofPairs, empty] using general empty

end Headers

/-- A constructed request. `path` and `queryString` are the two sides of the first
`?` of `rawTarget`. -/
structure Request where
  method : Text
  path : Text
  headers : Headers
  body : Bytes
  version : Text
  rawTarget : Text
  queryString : Text
  pathParams : List (Text × Text)
  routePattern : Option Text
  method_token : isToken method = true
  target_rooted : rawTarget.head? = some '/'
  path_split : path = ListScan.beforeMark '?' rawTarget
  query_split : queryString = ListScan.afterMark '?' rawTarget
deriving DecidableEq

namespace Request

def resolveTarget (path : Text) (rawTarget : Option Text) (queryString : Text) : Text :=
  match rawTarget with
  | some target => target
  | none => if '?' ∉ path ∧ queryString ≠ [] then path ++ '?' :: queryString else path

/-- The consistency check of `Request.__post_init__`: separate fields may only
repeat what the target says. -/
def fieldsAgree (path : Text) (rawTarget : Option Text) (queryString target : Text) : Bool :=
  match rawTarget with
  | some _ => path == ListScan.beforeMark '?' target && queryString == ListScan.afterMark '?' target
  | none => queryString.isEmpty || queryString == ListScan.afterMark '?' target

/-- `Request(...)`. The last check of the source, that the path starts with `/`,
repeats the check on the target: the part before the first `?` keeps its head. -/
def build (method path : Text) (headers : Headers) (body : Bytes) (version : Text)
    (rawTarget : Option Text) (queryString : Text) (pathParams : List (Text × Text))
    (routePattern : Option Text) : Except String Request :=
  let target := resolveTarget path rawTarget queryString
  if token : isToken method = true then
    if rooted : target.head? = some '/' then
      if fieldsAgree path rawTarget queryString target then
        if (ListScan.beforeMark '?' target).head? = some '/' then
          .ok {
            method, headers, body, version, pathParams, routePattern
            path := ListScan.beforeMark '?' target
            rawTarget := target
            queryString := ListScan.afterMark '?' target
            method_token := token
            target_rooted := rooted
            path_split := rfl
            query_split := rfl }
        else .error "request path must start with '/'"
      else .error "request target fields are inconsistent"
    else .error "request path/target must start with '/'"
  else .error "invalid HTTP method"

theorem build_body {method path : Text} {headers : Headers} {body : Bytes} {version : Text}
    {rawTarget : Option Text} {queryString : Text} {pathParams : List (Text × Text)}
    {routePattern : Option Text} {request : Request}
    (built : build method path headers body version rawTarget queryString pathParams
      routePattern = .ok request) : request.body = body := by
  unfold build at built
  dsimp only at built
  split at built
  · split at built
    · split at built
      · split at built
        · cases built
          rfl
        · cases built
      · cases built
    · cases built
  · cases built

theorem beforeMark_rooted {target : Text} (rooted : target.head? = some '/') :
    (ListScan.beforeMark '?' target).head? = some '/' := by
  cases target with
  | nil => cases rooted
  | cons first rest =>
      cases rooted
      simp [ListScan.beforeMark]

/-- What both front ends rely on: a token method and a rooted target, given either
as the path or with its own two sides, always construct. -/
theorem build_eq_ok {method path : Text} {headers : Headers} {body : Bytes} {version : Text}
    {rawTarget : Option Text} {queryString : Text} {pathParams : List (Text × Text)}
    {routePattern : Option Text} (token : isToken method = true)
    (rooted : (resolveTarget path rawTarget queryString).head? = some '/')
    (agree : fieldsAgree path rawTarget queryString
      (resolveTarget path rawTarget queryString) = true) :
    build method path headers body version rawTarget queryString pathParams routePattern =
      .ok {
        method, headers, body, version, pathParams, routePattern
        path := ListScan.beforeMark '?' (resolveTarget path rawTarget queryString)
        rawTarget := resolveTarget path rawTarget queryString
        queryString := ListScan.afterMark '?' (resolveTarget path rawTarget queryString)
        method_token := token
        target_rooted := rooted
        path_split := rfl
        query_split := rfl } := by
  simp only [build, token, rooted, agree, beforeMark_rooted rooted, dite_true, if_true]

/-- `dataclasses.replace(request, path_params=…, route_pattern=…)`: every other field is
passed to the constructor again. -/
def replaceContext (request : Request) (pathParams : List (Text × Text))
    (routePattern : Option Text) : Except String Request :=
  build request.method request.path request.headers request.body request.version
    (some request.rawTarget) request.queryString pathParams routePattern

theorem replaceContext_eq_ok (request : Request) (pathParams : List (Text × Text))
    (routePattern : Option Text) :
    request.replaceContext pathParams routePattern =
      .ok { request with pathParams := pathParams, routePattern := routePattern } := by
  obtain ⟨method, path, headers, body, version, rawTarget, queryString, oldParams, oldPattern,
    token, rooted, split, query⟩ := request
  subst split query
  have kept : (resolveTarget (ListScan.beforeMark '?' rawTarget) (some rawTarget)
      (ListScan.afterMark '?' rawTarget)).head? = some '/' := rooted
  exact build_eq_ok token kept (by simp [fieldsAgree, resolveTarget])

end Request

def decimalText (number : Nat) : Text := Nat.toDigits 10 number

/-- A constructed response: an explicit content-length is the body length. -/
structure Response where
  status : Nat
  body : Bytes
  headers : Headers
  status_range : 100 ≤ status ∧ status ≤ 599
  length_agrees : ∀ value, headers.get "content-length".toList = some value →
    value = decimalText body.length
deriving DecidableEq

def Response.build (status : Nat) (body : Bytes) (headers : Headers) : Except String Response :=
  if range : 100 ≤ status ∧ status ≤ 599 then
    if agrees : ∀ value, headers.get "content-length".toList = some value →
        value = decimalText body.length then
      .ok { status, body, headers, status_range := range, length_agrees := agrees }
    else .error "content-length does not match response body"
  else .error "response status must be between 100 and 599"

def utf8Bytes (value : Text) : Bytes := value.flatMap String.utf8EncodeChar

def contentTypeText : Text × Text := ("Content-Type".toList, "text/plain; charset=utf-8".toList)

def Response.text (value : Text) (status : Nat) (headers : List (Text × Text)) :
    Except String Response :=
  let combined := if headers.any fun field => field.1 == contentTypeText.1 then headers
    else headers ++ [contentTypeText]
  match Headers.ofPairs combined with
  | .error message => .error message
  | .ok fields => Response.build status (utf8Bytes value) fields

end SmallServer.HttpValues
