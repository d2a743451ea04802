import SmallServer.Base64
import SmallServer.Sha1
import SmallServer.ResponseFraming
import SmallServer.RoutingDispatch

/-!
# The WebSocket opening handshake

`_is_upgrade_attempt` and `_validate_upgrade` on a parsed request, and the response of
`_WebSocketState.accept` with the headers of the application. Header values hold Latin-1
characters only, so `str.strip` and `str.lower` are written for that range.
-/

namespace SmallServer.WebSocketUpgrade

open SmallServer HttpValues RequestParser RequestGrammar ResponseWire

set_option autoImplicit false

section Checks

def httpTokenCharacters : List Char :=
  "!#$%&\x27*+-.^_\x60|~0123456789ABCDEFGHIJKLMNOPQRSTUVWXYZabcdefghijklmnopqrstuvwxyz".toList

def isHttpToken (value : Text) : Bool :=
  !value.isEmpty && value.all fun c => httpTokenCharacters.contains c

/-- `str.isspace` on one character of the Latin-1 range. -/
def isSpace (c : Char) : Bool :=
  c.toNat ∈ [0x09, 0x0A, 0x0B, 0x0C, 0x0D, 0x1C, 0x1D, 0x1E, 0x1F, 0x20, 0x85, 0xA0]

def tokenList : Option Text → List Text
  | none => []
  | some value => ((value.splitOn ',').map (ListScan.strip isSpace)).filter fun token =>
      !token.isEmpty

def upgradeName : Text := "upgrade".toList

def keyName : Text := "sec-websocket-key".toList

def versionName : Text := "sec-websocket-version".toList

def protocolName : Text := "sec-websocket-protocol".toList

def originName : Text := "origin".toList

def given (headers : Headers) (name : Text) : Bool :=
  match headers.get name with
  | none => false
  | some value => !value.isEmpty

def isUpgradeAttempt (request : Request) : Bool :=
  given request.headers upgradeName || given request.headers keyName ||
    given request.headers versionName ||
      (tokenList (request.headers.get connectionName)).any fun token => lower token == upgradeName

def validWebsocketKey : Option Text → Bool
  | none => false
  | some key =>
      match Base64.decode key with
      | none => false
      | some nonce => nonce.length == 16

variable {Handler : Type}

structure WebSocketRoute (Handler : Type) where
  handler : Handler
  origins : Option (List Text)
  subprotocols : List Text

/-- The arguments of the `Response.text` a refused upgrade is answered with. -/
structure Refusal where
  detail : Text
  status : Nat
  headers : List (Text × Text) := []

def Refusal.response (refusal : Refusal) : Except String Response :=
  Response.text refusal.detail refusal.status refusal.headers

def validateUpgrade (request : Request) (route : WebSocketRoute Handler) : Option Refusal :=
  let headers := request.headers
  let offered := tokenList (headers.get protocolName)
  if Routing.upper request.method ≠ "GET".toList then
    some { detail := "WebSocket upgrade requires GET".toList, status := 400 }
  else if request.version ≠ http11 then
    some { detail := "WebSocket upgrade requires HTTP/1.1".toList, status := 400 }
  else if request.body ≠ [] then
    some { detail := "WebSocket upgrade must not include a body".toList, status := 400 }
  else if lower ((headers.get upgradeName).getD []) ≠ "websocket".toList then
    some { detail := "invalid WebSocket Upgrade header".toList, status := 400 }
  else if upgradeName ∉ (tokenList (headers.get connectionName)).map lower then
    some { detail := "invalid WebSocket Connection header".toList, status := 400 }
  else if headers.get versionName ≠ some "13".toList then
    some {
      detail := "unsupported WebSocket version".toList
      status := 426
      headers := [("Sec-WebSocket-Version".toList, "13".toList)] }
  else if validWebsocketKey (headers.get keyName) = false then
    some { detail := "invalid WebSocket key".toList, status := 400 }
  else if headers.get protocolName ≠ none ∧
      (offered.isEmpty || offered.any fun token => !isHttpToken token) = true then
    some { detail := "invalid WebSocket subprotocol".toList, status := 400 }
  else
    match route.origins with
    | none => none
    | some origins =>
        if (headers.get originName).all fun origin => !origins.contains origin then
          some { detail := "WebSocket origin is not allowed".toList, status := 403 }
        else none

end Checks

section Acceptance

def guid : Bytes := encodeLatin1 "258EAFA5-E914-47DA-95CA-C5AB0DC85B11".toList

def acceptValue (key : Text) : Text := Base64.encode (Sha1.digest (encodeLatin1 key ++ guid))

def reservedNames : List Text :=
  [connectionName, upgradeName, "sec-websocket-accept".toList, protocolName,
    "sec-websocket-extensions".toList, contentLengthName]

inductive AcceptError where
  | state (detail : String)
  | value (detail : String)
  | missingKey
deriving DecidableEq

variable {Handler : Type}

def handshakeFields (key : Text) (subprotocol : Option Text) : List (Text × Text) :=
  [("Upgrade".toList, "websocket".toList), ("Connection".toList, "Upgrade".toList),
      ("Sec-WebSocket-Accept".toList, acceptValue key)] ++
    (subprotocol.map fun name => ("Sec-WebSocket-Protocol".toList, name)).toList

/-- The checks of `accept` on its arguments, and the payload it sends. -/
def acceptPayload (route : WebSocketRoute Handler) (request : Request)
    (subprotocol : Option Text) (headers : List (Text × Text)) : Except AcceptError Bytes :=
  if (subprotocol.all fun name => route.subprotocols.contains name) = false then
    .error (.state "selected subprotocol is not allowed by the route")
  else if (subprotocol.all fun name =>
      (tokenList (request.headers.get protocolName)).contains name) = false then
    .error (.state "selected subprotocol was not offered by the client")
  else
    match Headers.ofPairs headers with
    | .error detail => .error (.value detail)
    | .ok extra =>
        if extra.items.any fun field => reservedNames.contains (lower field.1) then
          .error (.value "handshake headers contain a reserved field")
        else
          match request.headers.get keyName with
          | none => .error .missingKey
          | some key =>
              if key.any fun c => decide (128 ≤ c.toNat) then
                .error (.value "ordinal not in range(128)")
              else
                match encodeStrict (List.intercalate crlf
                    ("HTTP/1.1 101 Switching Protocols".toList ::
                      (handshakeFields key subprotocol ++ extra.items).map fieldText) ++
                    (crlf ++ crlf)) with
                | .error detail => .error (.value detail)
                | .ok payload => .ok payload

end Acceptance

section Grammar

/-- A list header names a token: it stands, with white space around it, between two commas or
ends of the value. -/
def Listed (value token : Text) : Prop :=
  token ≠ [] ∧ ',' ∉ token ∧
    (∀ c, token.head? = some c → isSpace c = false) ∧
    (∀ c, token.getLast? = some c → isSpace c = false) ∧
    ∃ before left right after, value = before ++ (left ++ token ++ right) ++ after ∧
      (∀ c ∈ left, isSpace c = true) ∧ (∀ c ∈ right, isSpace c = true) ∧
      (before = [] ∨ ∃ front, before = front ++ [',']) ∧
      (after = [] ∨ ∃ back, after = ',' :: back)

theorem mem_tokenList {value token : Text} :
    token ∈ tokenList (some value) ↔ Listed value token := by
  unfold tokenList Listed
  rw [List.mem_filter, List.mem_map]
  constructor
  · rintro ⟨⟨piece, member, stripped⟩, visible⟩
    have nonempty : token ≠ [] := by
      rintro rfl
      cases visible
    obtain ⟨clean, before, after, split, opened, closed⟩ := ListScan.mem_splitOn_iff.mp member
    obtain ⟨⟨left, right, rfl, leftSpaces, rightSpaces⟩, first, last⟩ :=
      (ListScan.strip_eq_iff nonempty).mp stripped
    exact ⟨nonempty, fun comma => clean (by simp [comma]), first, last, before, left, right, after,
      split, leftSpaces, rightSpaces, opened, closed⟩
  · rintro ⟨nonempty, clean, first, last, before, left, right, after, split, leftSpaces,
      rightSpaces, opened, closed⟩
    have comma : isSpace ',' = false := by decide
    have noComma : ',' ∉ left ++ token ++ right := by
      intro member
      rcases List.mem_append.mp member with front | back
      · rcases List.mem_append.mp front with space | inside
        · rw [leftSpaces _ space] at comma
          cases comma
        · exact clean inside
      · rw [rightSpaces _ back] at comma
        cases comma
    refine ⟨⟨left ++ token ++ right, ListScan.mem_splitOn_iff.mpr
      ⟨noComma, before, after, split, opened, closed⟩, (ListScan.strip_eq_iff nonempty).mpr
        ⟨⟨left, right, rfl, leftSpaces, rightSpaces⟩, first, last⟩⟩, ?_⟩
    cases token with
    | nil => exact absurd rfl nonempty
    | cons c rest => rfl

theorem validWebsocketKey_iff (value : Option Text) :
    validWebsocketKey value = true ↔ ∃ front, value = some (front ++ "==".toList) ∧
      front.length = 22 ∧ ∀ c ∈ front, c ∈ Base64.alphabet := by
  have digits : ∀ c, (Base64.value c).isSome = true ↔ c ∈ Base64.alphabet := by
    intro c
    unfold Base64.value
    rw [List.isSome_idxOf?]
  cases value with
  | none =>
      constructor
      · intro impossible
        cases impossible
      · rintro ⟨front, impossible, -⟩
        cases impossible
  | some key =>
      have shape := Base64.decode_padded_iff 5 key
      unfold validWebsocketKey
      constructor
      · intro valid
        cases decoded : Base64.decode key with
        | none =>
            dsimp only at valid
            rw [decoded] at valid
            cases valid
        | some nonce =>
            dsimp only at valid
            rw [decoded] at valid
            obtain ⟨front, rfl, size, read⟩ := shape.mp ⟨nonce, decoded, beq_iff_eq.mp valid⟩
            exact ⟨front, rfl, size, fun c member => (digits c).mp (read c member)⟩
      · rintro ⟨front, same, size, read⟩
        cases same
        obtain ⟨nonce, decoded, long⟩ := shape.mpr
          ⟨front, rfl, size, fun c member => (digits c).mpr (read c member)⟩
        dsimp only
        rw [show Base64.decode (front ++ "==".toList) = some nonce from decoded]
        exact beq_iff_eq.mpr long

theorem validWebsocketKey_encode {nonce : Bytes} (size : nonce.length = 16) :
    validWebsocketKey (some (Base64.encode nonce)) = true := by
  unfold validWebsocketKey
  dsimp only
  rw [Base64.decode_encode]
  exact beq_iff_eq.mpr size

/-- What a request offers when it opens a WebSocket, whatever the route. -/
structure Offer (request : Request) : Prop where
  get : Routing.upper request.method = "GET".toList
  version : request.version = http11
  bodyless : request.body = []
  upgrade : ∃ value, request.headers.get upgradeName = some value ∧
    lower value = "websocket".toList
  connection : ∃ value token, request.headers.get connectionName = some value ∧
    Listed value token ∧ lower token = upgradeName
  protocolVersion : request.headers.get versionName = some "13".toList
  key : ∃ front, request.headers.get keyName = some (front ++ "==".toList) ∧
    front.length = 22 ∧ ∀ c ∈ front, c ∈ Base64.alphabet
  subprotocols : ∀ value, request.headers.get protocolName = some value →
    (∃ token, Listed value token) ∧ ∀ token, Listed value token → isHttpToken token = true

variable {Handler : Type}

/-- The route does not ask for an origin, or it lists the one of the request. -/
def OriginAllowed (route : WebSocketRoute Handler) (request : Request) : Prop :=
  ∀ origins, route.origins = some origins →
    ∃ origin ∈ origins, request.headers.get originName = some origin

theorem upgrade_iff (value : Option Text) :
    lower (value.getD []) = "websocket".toList ↔
      ∃ text, value = some text ∧ lower text = "websocket".toList := by
  cases value with
  | none =>
      constructor
      · intro impossible
        cases impossible
      · rintro ⟨text, impossible, -⟩
        cases impossible
  | some text =>
      constructor
      · exact fun named => ⟨text, rfl, named⟩
      · rintro ⟨other, same, named⟩
        cases same
        exact named

theorem connection_iff (value : Option Text) :
    upgradeName ∈ (tokenList value).map lower ↔
      ∃ text token, value = some text ∧ Listed text token ∧ lower token = upgradeName := by
  rw [List.mem_map]
  cases value with
  | none =>
      constructor
      · rintro ⟨token, member, -⟩
        cases member
      · rintro ⟨text, token, impossible, -⟩
        cases impossible
  | some text =>
      constructor
      · rintro ⟨token, member, named⟩
        exact ⟨text, token, rfl, mem_tokenList.mp member, named⟩
      · rintro ⟨other, token, same, listed, named⟩
        cases same
        exact ⟨token, mem_tokenList.mpr listed, named⟩

theorem subprotocols_iff (value : Option Text) :
    ¬(value ≠ none ∧ ((tokenList value).isEmpty ||
        (tokenList value).any fun token => !isHttpToken token) = true) ↔
      ∀ text, value = some text →
        (∃ token, Listed text token) ∧ ∀ token, Listed text token → isHttpToken token = true := by
  cases value with
  | none => exact ⟨fun _ _ impossible => (nomatch impossible), fun _ both => both.1 rfl⟩
  | some text =>
      rw [not_and]
      constructor
      · rintro fine other same
        cases same
        have checked := fine nofun
        rw [Bool.or_eq_true_iff, not_or, List.isEmpty_iff, List.any_eq_true] at checked
        refine ⟨?_, fun token listed => ?_⟩
        · obtain ⟨token, member⟩ := List.exists_mem_of_ne_nil _ checked.1
          exact ⟨token, mem_tokenList.mp member⟩
        · by_contra invalid
          refine checked.2 ⟨token, mem_tokenList.mpr listed, ?_⟩
          rw [Bool.eq_false_iff.mpr invalid]
          rfl
      · rintro valid - failed
        obtain ⟨⟨token, listed⟩, tokens⟩ := valid text rfl
        rcases Bool.or_eq_true_iff.mp failed with none_offered | invalid
        · have member := mem_tokenList.mpr listed
          rw [List.isEmpty_iff.mp none_offered] at member
          cases member
        · obtain ⟨other, member, foreign⟩ := List.any_eq_true.mp invalid
          rw [tokens other (mem_tokenList.mp member)] at foreign
          cases foreign

theorem origin_iff (route : WebSocketRoute Handler) (request : Request) :
    (match route.origins with
      | none => none
      | some origins =>
          if (request.headers.get originName).all fun origin => !origins.contains origin then
            some { detail := "WebSocket origin is not allowed".toList, status := 403 : Refusal }
          else none) = none ↔ OriginAllowed route request := by
  unfold OriginAllowed
  cases route.origins with
  | none => exact ⟨fun _ _ impossible => (nomatch impossible), fun _ => rfl⟩
  | some origins =>
      dsimp only
      cases request.headers.get originName with
      | none =>
          constructor
          · intro impossible
            cases impossible
          · intro allowed
            obtain ⟨origin, -, impossible⟩ := allowed origins rfl
            cases impossible
      | some origin =>
          rw [Option.all_some]
          constructor
          · intro passed other same
            cases same
            split at passed
            · cases passed
            · rename_i known
              have listed : origins.contains origin = true := by simpa using known
              exact ⟨origin, List.contains_iff_mem.mp listed, rfl⟩
          · intro allowed
            obtain ⟨other, member, same⟩ := allowed origins rfl
            cases same
            rw [if_neg]
            rw [List.contains_iff_mem.mpr member]
            decide

end Grammar

section Decision

variable {Handler : Type} (request : Request) (route : WebSocketRoute Handler)

structure Answers (refusal : Refusal) : Prop where
  constructed : ∃ response, refusal.response = .ok response ∧ response.status = refusal.status ∧
    (refusal.status = 426 → response.headers.get versionName = some "13".toList)
  known : refusal.status = 400 ∨ refusal.status = 403 ∨ refusal.status = 426

theorem answers_plain {detail : Text} {status : Nat} (known : status = 400 ∨ status = 403) :
    Answers { detail, status } where
  constructed := by
    have range : 100 ≤ status ∧ status ≤ 599 := by omega
    obtain ⟨response, built, same, -⟩ := RoutingDispatch.text_ok detail range (Or.inl rfl)
    exact ⟨response, built, same, fun upgrade => by
      have other : status = 426 := upgrade
      omega⟩
  known := known.elim Or.inl fun forbidden => Or.inr (Or.inl forbidden)

theorem answers_version (detail : Text) :
    Answers { detail, status := 426, headers := [("Sec-WebSocket-Version".toList, "13".toList)] }
    where
  constructed := by
    let fields : Headers :=
      { items := [("Sec-WebSocket-Version".toList, "13".toList), contentTypeText]
        names_token := by decide
        values_plain := by decide
        names_distinct := by decide }
    have built : Headers.ofPairs
        [("Sec-WebSocket-Version".toList, "13".toList), contentTypeText] = .ok fields :=
      (Headers.ofPairs_eq_ok_iff _ _).mpr ⟨rfl, by decide, by decide, by decide⟩
    have noLength : fields.get "content-length".toList = none := by decide
    have version : fields.get versionName = some "13".toList := by decide
    have agrees : ∀ length, fields.get "content-length".toList = some length →
        length = decimalText (utf8Bytes detail).length := by
      intro length present
      rw [noLength] at present
      cases present
    refine ⟨⟨426, utf8Bytes detail, fields, by decide, agrees⟩, ?_, rfl, fun _ => version⟩
    have combined : (if [("Sec-WebSocket-Version".toList, "13".toList)].any
        (fun field => field.1 == contentTypeText.1) then
          [("Sec-WebSocket-Version".toList, "13".toList)]
        else [("Sec-WebSocket-Version".toList, "13".toList)] ++ [contentTypeText]) =
        [("Sec-WebSocket-Version".toList, "13".toList), contentTypeText] := rfl
    unfold Refusal.response Response.text
    dsimp only
    rw [combined, built]
    dsimp only
    unfold Response.build
    rw [dif_pos (by decide), dif_pos agrees]
  known := Or.inr (Or.inr rfl)

/-- Either the request makes no offer and is refused, or the origin decides. -/
theorem validateUpgrade_cases :
    (¬Offer request ∧ ∃ refusal, validateUpgrade request route = some refusal ∧
      Answers refusal ∧ refusal.status ≠ 403) ∨
    (Offer request ∧ validateUpgrade request route =
      match route.origins with
      | none => none
      | some origins =>
          if (request.headers.get originName).all fun origin => !origins.contains origin then
            some { detail := "WebSocket origin is not allowed".toList, status := 403 }
          else none) := by
  have plain : ∀ detail, Answers { detail, status := 400 } := fun detail =>
    answers_plain (Or.inl rfl)
  unfold validateUpgrade
  dsimp only
  split
  · rename_i other
    exact Or.inl ⟨fun offer => other offer.get, _, rfl, plain _, nofun⟩
  · rename_i get
    split
    · rename_i other
      exact Or.inl ⟨fun offer => other offer.version, _, rfl, plain _, nofun⟩
    · rename_i version
      split
      · rename_i body
        exact Or.inl ⟨fun offer => body offer.bodyless, _, rfl, plain _, nofun⟩
      · rename_i bodyless
        split
        · rename_i other
          exact Or.inl ⟨fun offer => other ((upgrade_iff _).mpr offer.upgrade), _, rfl, plain _,
            nofun⟩
        · rename_i upgrade
          split
          · rename_i absent
            exact Or.inl ⟨fun offer => absent ((connection_iff _).mpr offer.connection), _, rfl,
              plain _, nofun⟩
          · rename_i connection
            split
            · rename_i other
              exact Or.inl ⟨fun offer => other offer.protocolVersion, _, rfl, answers_version _,
                nofun⟩
            · rename_i protocolVersion
              split
              · rename_i invalid
                refine Or.inl ⟨fun offer => ?_, _, rfl, plain _, nofun⟩
                rw [(validWebsocketKey_iff _).mpr offer.key] at invalid
                cases invalid
              · rename_i key
                split
                · rename_i failed
                  exact Or.inl ⟨fun offer => (subprotocols_iff _).mpr offer.subprotocols failed, _,
                    rfl, plain _, nofun⟩
                · rename_i fine
                  exact Or.inr ⟨{
                    get := not_not.mp get
                    version := not_not.mp version
                    bodyless := not_not.mp bodyless
                    upgrade := (upgrade_iff _).mp (not_not.mp upgrade)
                    connection := (connection_iff _).mp (not_not.mp connection)
                    protocolVersion := not_not.mp protocolVersion
                    key := (validWebsocketKey_iff _).mp (Bool.not_eq_false _ ▸ key)
                    subprotocols := (subprotocols_iff _).mp fine }, rfl⟩

theorem attempt_of_offer {request : Request} (offer : Offer request) :
    isUpgradeAttempt request = true := by
  unfold isUpgradeAttempt given
  rw [offer.protocolVersion]
  simp

theorem admitted_iff :
    validateUpgrade request route = none ↔ Offer request ∧ OriginAllowed route request := by
  have origins := origin_iff route request
  rcases validateUpgrade_cases request route with ⟨unoffered, refusal, refused, -⟩ |
    ⟨offer, decided⟩
  · rw [refused]
    constructor
    · intro impossible
      cases impossible
    · intro both
      exact absurd both.1 unoffered
  · rw [decided]
    exact origins.trans ⟨fun allowed => ⟨offer, allowed⟩, And.right⟩

theorem refused_response {refusal : Refusal}
    (refused : validateUpgrade request route = some refusal) :
    ∃ response, refusal.response = .ok response ∧
      (response.status = 400 ∨ response.status = 403 ∨ response.status = 426) ∧
      (response.status = 403 ↔ Offer request ∧ ¬OriginAllowed route request) ∧
      (response.status = 426 →
        response.headers.get versionName = some "13".toList) := by
  have origins := origin_iff route request
  rcases validateUpgrade_cases request route with ⟨unoffered, other, same, answers, notOrigin⟩ |
    ⟨offer, decided⟩
  · rw [refused] at same
    cases same
    obtain ⟨response, built, status, version⟩ := answers.constructed
    rw [← status] at version notOrigin
    refine ⟨response, built, status ▸ answers.known, ?_, version⟩
    exact ⟨fun forbidden => absurd forbidden notOrigin, fun both => absurd both.1 unoffered⟩
  · have disallowed : ¬OriginAllowed route request := by
      intro allowed
      have admitted := decided.trans (origins.mpr allowed)
      rw [refused] at admitted
      cases admitted
    have same : refusal =
        { detail := "WebSocket origin is not allowed".toList, status := 403 } := by
      rw [refused] at decided
      split at decided
      · cases decided
      · split at decided
        · exact Option.some.inj decided
        · cases decided
    obtain ⟨response, built, status, version⟩ :=
      (answers_plain (Or.inr rfl) : Answers
        { detail := "WebSocket origin is not allowed".toList, status := 403 }).constructed
    rw [same]
    refine ⟨response, built, Or.inr (Or.inl status), ⟨fun _ => ⟨offer, disallowed⟩,
      fun _ => status⟩, fun upgrade => ?_⟩
    rw [status] at upgrade
    cases upgrade

/-- **The upgrade decision.** A request is admitted exactly if it makes a well-formed offer and
its origin is allowed; a request that makes an offer is always taken for an upgrade attempt. Any
other attempt is answered: with 403 exactly where only the origin is at fault, with the version
the server speaks where the status is 426, and with 400 otherwise. -/
theorem upgrade_decided :
    (validateUpgrade request route = none ↔ Offer request ∧ OriginAllowed route request) ∧
    (Offer request → isUpgradeAttempt request = true) ∧
    ∀ refusal, validateUpgrade request route = some refusal →
      ∃ response, refusal.response = .ok response ∧
        (response.status = 400 ∨ response.status = 403 ∨ response.status = 426) ∧
        (response.status = 403 ↔ Offer request ∧ ¬OriginAllowed route request) ∧
        (response.status = 426 →
          response.headers.get versionName = some "13".toList) :=
  ⟨admitted_iff request route, attempt_of_offer, fun _ => refused_response request route⟩

end Decision

section Response

variable {Handler : Type} {request : Request} {route : WebSocketRoute Handler}
variable {subprotocol : Option Text} {headers : List (Text × Text)}

structure Acceptable (route : WebSocketRoute Handler) (request : Request)
    (subprotocol : Option Text) (headers : List (Text × Text)) : Prop where
  selected : ∀ name, subprotocol = some name → name ∈ route.subprotocols ∧
    ∃ value, request.headers.get protocolName = some value ∧ Listed value name
  tokens : ∀ field ∈ headers, isToken field.1 = true
  plain : ∀ field ∈ headers, isPlainValue field.2 = true
  distinct : (headers.map fun field => lower field.1).Nodup
  unreserved : ∀ field ∈ headers, lower field.1 ∉ reservedNames

theorem tokenList_some {value : Option Text} {token : Text} (member : token ∈ tokenList value) :
    ∃ text, value = some text ∧ Listed text token := by
  cases value with
  | none => cases member
  | some text => exact ⟨text, rfl, mem_tokenList.mp member⟩

theorem plain_of_httpToken {token : Text} (valid : isHttpToken token = true) :
    isPlainValue token = true := by
  have all : ∀ c ∈ httpTokenCharacters, isValueChar c = true :=
    ListScan.forall_of_all (by decide)
  refine List.all_eq_true.mpr fun c member => all c ?_
  exact List.contains_iff_mem.mp (List.all_eq_true.mp (Bool.and_eq_true_iff.mp valid).2 c member)

theorem plain_acceptValue (key : Text) : isPlainValue (acceptValue key) = true := by
  have all : ∀ c ∈ Base64.alphabet, isValueChar c = true := ListScan.forall_of_all (by decide)
  refine List.all_eq_true.mpr fun c member => ?_
  rcases Base64.mem_encode member with digit | padding
  · exact all c digit
  · rw [padding]
    decide

theorem acceptValue_length (key : Text) : (acceptValue key).length = 28 := by
  unfold acceptValue
  rw [Base64.encode_length, Sha1.digest_length]

theorem handshakeFields_valid (key : Text)
    (valid : ∀ name, subprotocol = some name → isHttpToken name = true) :
    ∀ field ∈ handshakeFields key subprotocol, LineField field := by
  intro field member
  rcases List.mem_append.mp member with fixed | chosen
  · simp only [List.mem_cons, List.not_mem_nil, or_false] at fixed
    rcases fixed with rfl | rfl | rfl
    · exact ⟨by decide, by decide⟩
    · exact ⟨by decide, by decide⟩
    · exact ⟨(by decide : isToken "Sec-WebSocket-Accept".toList = true), plain_acceptValue key⟩
  · cases subprotocol with
    | none => cases chosen
    | some name =>
        have same : field = ("Sec-WebSocket-Protocol".toList, name) := by simpa using chosen
        rw [same]
        exact ⟨(by decide : isToken "Sec-WebSocket-Protocol".toList = true),
          plain_of_httpToken (valid name rfl)⟩

theorem handshakeFields_names (key : Text) :
    ((handshakeFields key subprotocol).map fun field => lower field.1).Nodup ∧
      ∀ field ∈ handshakeFields key subprotocol, lower field.1 ∈ reservedNames := by
  cases subprotocol with
  | none =>
      refine ⟨(by decide : [lower "Upgrade".toList, lower "Connection".toList,
        lower "Sec-WebSocket-Accept".toList].Nodup), fun field member => ?_⟩
      have names : ∀ name ∈ ["Upgrade".toList, "Connection".toList,
          "Sec-WebSocket-Accept".toList], lower name ∈ reservedNames :=
        ListScan.forall_of_all (by decide)
      exact names field.1 (List.mem_map_of_mem member)
  | some chosen =>
      refine ⟨(by decide : [lower "Upgrade".toList, lower "Connection".toList,
        lower "Sec-WebSocket-Accept".toList, lower "Sec-WebSocket-Protocol".toList].Nodup),
        fun field member => ?_⟩
      have names : ∀ name ∈ ["Upgrade".toList, "Connection".toList,
          "Sec-WebSocket-Accept".toList, "Sec-WebSocket-Protocol".toList],
          lower name ∈ reservedNames := ListScan.forall_of_all (by decide)
      exact names field.1 (List.mem_map_of_mem member)

theorem key_ascii {front : Text} (digits : ∀ c ∈ front, c ∈ Base64.alphabet) :
    (front ++ "==".toList).any (fun c => decide (128 ≤ c.toNat)) = false := by
  have all : ∀ c ∈ Base64.alphabet, ¬128 ≤ c.toNat := ListScan.forall_of_all (by decide)
  have marks : ∀ c ∈ "==".toList, ¬128 ≤ c.toNat := ListScan.forall_of_all (by decide)
  refine List.any_eq_false.mpr fun c member => ?_
  rw [decide_eq_true_eq]
  rcases List.mem_append.mp member with digit | mark
  · exact all c (digits c digit)
  · exact marks c mark

theorem acceptPayload_checks (route : WebSocketRoute Handler) (request : Request)
    (subprotocol : Option Text) (headers : List (Text × Text)) :
    (¬Acceptable route request subprotocol headers ∧
      ∃ error, acceptPayload route request subprotocol headers = .error error) ∨
    (Acceptable route request subprotocol headers ∧
      acceptPayload route request subprotocol headers =
        match request.headers.get keyName with
        | none => .error .missingKey
        | some key =>
            if key.any fun c => decide (128 ≤ c.toNat) then
              .error (.value "ordinal not in range(128)")
            else
              match encodeStrict (List.intercalate crlf
                  ("HTTP/1.1 101 Switching Protocols".toList ::
                    (handshakeFields key subprotocol ++ headers).map fieldText) ++
                  (crlf ++ crlf)) with
              | .error detail => .error (.value detail)
              | .ok payload => .ok payload) := by
  unfold acceptPayload
  split
  · rename_i unlisted
    refine Or.inl ⟨fun acceptable => ?_, _, rfl⟩
    cases subprotocol with
    | none => cases unlisted
    | some name =>
        rw [Option.all_some, List.contains_iff_mem.mpr (acceptable.selected name rfl).1] at unlisted
        cases unlisted
  · rename_i listed
    split
    · rename_i unoffered
      refine Or.inl ⟨fun acceptable => ?_, _, rfl⟩
      cases subprotocol with
      | none => cases unoffered
      | some name =>
          obtain ⟨value, present, offered⟩ := (acceptable.selected name rfl).2
          rw [Option.all_some, present,
            List.contains_iff_mem.mpr (mem_tokenList.mpr offered)] at unoffered
          cases unoffered
    · rename_i offered
      cases built : Headers.ofPairs headers with
      | error detail =>
          refine Or.inl ⟨fun acceptable => ?_, _, rfl⟩
          have fine := (Headers.ofPairs_eq_ok_iff headers
            ⟨headers, acceptable.tokens, acceptable.plain, acceptable.distinct⟩).mpr
              ⟨rfl, acceptable.tokens, acceptable.plain, acceptable.distinct⟩
          rw [built] at fine
          cases fine
      | ok extra =>
          obtain ⟨items, tokens, plain, distinct⟩ := (Headers.ofPairs_eq_ok_iff _ _).mp built
          dsimp only
          split
          · rename_i reserved
            refine Or.inl ⟨fun acceptable => ?_, _, rfl⟩
            obtain ⟨field, member, named⟩ := List.any_eq_true.mp reserved
            rw [items] at member
            exact acceptable.unreserved field member (List.contains_iff_mem.mp named)
          · rename_i unreserved
            refine Or.inr ⟨{
              selected := ?_
              tokens := tokens
              plain := plain
              distinct := distinct
              unreserved := ?_ }, ?_⟩
            · rintro name rfl
              have inRoute : route.subprotocols.contains name = true := by simpa using listed
              have inOffer : (tokenList (request.headers.get protocolName)).contains name =
                  true := by simpa using offered
              exact ⟨List.contains_iff_mem.mp inRoute,
                tokenList_some (List.contains_iff_mem.mp inOffer)⟩
            · intro field member named
              refine unreserved (List.any_eq_true.mpr ⟨field, items ▸ member, ?_⟩)
              exact List.contains_iff_mem.mpr named
            · rw [items]

/-- **The accepting response.** On an upgrade that was admitted, `accept` sends exactly if its
arguments are acceptable. What it sends reads back, in front of whatever frames follow, as a 101
response that answers the client's key, with the server's fields first, those of the application
behind them, and no name twice. -/
theorem accept_reads_back (admitted : validateUpgrade request route = none) :
    ((∃ payload, acceptPayload route request subprotocol headers = .ok payload) ↔
      Acceptable route request subprotocol headers) ∧
    ∀ payload, acceptPayload route request subprotocol headers = .ok payload →
      ∃ key, request.headers.get keyName = some key ∧ (acceptValue key).length = 28 ∧
        (∀ frames, readMessage (payload ++ frames) = some {
          status := "101".toList
          fields := handshakeFields key subprotocol ++ headers
          body := frames }) ∧
        ((handshakeFields key subprotocol ++ headers).map fun field => lower field.1).Nodup := by
  have offer := (admitted_iff request route).mp admitted
  obtain ⟨front, keyed, -, digits⟩ := offer.1.key
  have sends : Acceptable route request subprotocol headers →
      ∃ payload, acceptPayload route request subprotocol headers = .ok payload ∧
        ∀ frames, readMessage (payload ++ frames) = some {
          status := "101".toList
          fields := handshakeFields (front ++ "==".toList) subprotocol ++ headers
          body := frames } := by
    intro acceptable
    have chosen : ∀ name, subprotocol = some name → isHttpToken name = true := by
      intro name same
      obtain ⟨value, present, listed⟩ := (acceptable.selected name same).2
      exact (offer.1.subprotocols value present).2 name listed
    have valid : ∀ field ∈ handshakeFields (front ++ "==".toList) subprotocol ++ headers,
        LineField field := by
      intro field member
      rcases List.mem_append.mp member with own | extra
      · exact handshakeFields_valid _ chosen field own
      · exact ⟨acceptable.tokens field extra, acceptable.plain field extra⟩
    have firstChar : ∀ c ∈ "HTTP/1.1 101 Switching Protocols".toList,
        c ≠ '\r' ∧ c.toNat ≤ 0xFF := ListScan.forall_of_all (by decide)
    rcases acceptPayload_checks route request subprotocol headers with ⟨refused, -⟩ | ⟨-, same⟩
    · exact absurd acceptable refused
    · obtain ⟨payload, encoded, -⟩ := readMessage_lines [] firstChar valid
      refine ⟨payload, ?_, fun frames => ?_⟩
      · rw [same, keyed]
        dsimp only
        rw [key_ascii digits, encoded]
        rfl
      · obtain ⟨other, encodedOther, reads⟩ := readMessage_lines frames firstChar valid
        rw [encoded] at encodedOther
        cases encodedOther
        exact reads
  constructor
  · constructor
    · rintro ⟨payload, sent⟩
      rcases acceptPayload_checks route request subprotocol headers with
        ⟨-, error, raised⟩ | ⟨acceptable, -⟩
      · rw [sent] at raised
        cases raised
      · exact acceptable
    · intro acceptable
      obtain ⟨payload, sent, -⟩ := sends acceptable
      exact ⟨payload, sent⟩
  · intro payload sent
    rcases acceptPayload_checks route request subprotocol headers with
      ⟨-, error, raised⟩ | ⟨acceptable, -⟩
    · rw [sent] at raised
      cases raised
    · obtain ⟨other, same, reads⟩ := sends acceptable
      rw [sent] at same
      cases same
      refine ⟨_, keyed, acceptValue_length _, reads, ?_⟩
      obtain ⟨ownDistinct, ownReserved⟩ :=
        @handshakeFields_names subprotocol (front ++ "==".toList)
      rw [List.map_append]
      refine List.nodup_append.mpr ⟨ownDistinct, acceptable.distinct, ?_⟩
      intro name own other extra same
      obtain ⟨field, member, rfl⟩ := List.mem_map.mp own
      obtain ⟨given, givenMember, rfl⟩ := List.mem_map.mp extra
      exact acceptable.unreserved given givenMember (same ▸ ownReserved field member)

end Response

section Samples

def sampleKey : Text := "dGhlIHNhbXBsZSBub25jZQ==".toList

/-- The example of RFC 6455. -/
example : acceptValue sampleKey = "s3pPLMBiTxaQ9kYGzzhZRbK+xOo=".toList := by decide +kernel

def sampleHeaders : Headers where
  items :=
    [("Host".toList, "server.example.com".toList), ("Upgrade".toList, "websocket".toList),
      ("Connection".toList, "keep-alive, Upgrade".toList), ("Sec-WebSocket-Key".toList, sampleKey),
      ("Sec-WebSocket-Protocol".toList, "chat, superchat".toList),
      ("Sec-WebSocket-Version".toList, "13".toList)]
  names_token := by decide
  values_plain := by decide
  names_distinct := by decide

theorem sampleMethod_token : isToken "GET".toList = true := by decide

def sampleRequest : Request where
  method := "GET".toList
  path := "/chat".toList
  headers := sampleHeaders
  body := []
  version := http11
  rawTarget := "/chat".toList
  queryString := []
  pathParams := []
  routePattern := none
  method_token := sampleMethod_token
  target_rooted := rfl
  path_split := by decide
  query_split := by decide

def sampleRoute : WebSocketRoute Nat where
  handler := 0
  origins := none
  subprotocols := ["superchat".toList]

theorem sampleAdmitted : validateUpgrade sampleRequest sampleRoute = none := by decide +kernel

theorem accept_reads_back_sample :
    ((∃ payload, acceptPayload sampleRoute sampleRequest (some "superchat".toList) [] =
        .ok payload) ↔ Acceptable sampleRoute sampleRequest (some "superchat".toList) []) ∧
    ∀ payload, acceptPayload sampleRoute sampleRequest (some "superchat".toList) [] =
        .ok payload →
      ∃ key, sampleRequest.headers.get keyName = some key ∧ (acceptValue key).length = 28 ∧
        (∀ frames, readMessage (payload ++ frames) = some {
          status := "101".toList
          fields := handshakeFields key (some "superchat".toList) ++ []
          body := frames }) ∧
        ((handshakeFields key (some "superchat".toList) ++ []).map
          fun field : Text × Text => lower field.1).Nodup :=
  accept_reads_back sampleAdmitted

end Samples

end SmallServer.WebSocketUpgrade
