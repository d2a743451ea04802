import SmallServer.WebSocketTasks

/-!
# Mail

The inbox and the outbox with the byte counters that are kept beside them: what it is for
them to be accounted, and that each move of a letter keeps them so.
-/

namespace SmallServer.WebSocketMailboxes

open SmallServer HttpValues WebSocket WebSocketState

set_option autoImplicit false

section Mail

/-- The mailboxes. A letter is the event of a command with its size. -/
structure Mail where
  config : WebSocketConfig
  inbox : List Payload
  inboxBytes : Nat
  outbox : List CommandId
  outboxBytes : Nat
  letters : List (Event × Nat)

def letter (command : OutboundCommand) : Event × Nat := (command.event, command.size)

def mail {engine : Engine} (state : WebSocketState engine) : Mail where
  config := state.config
  inbox := state.inbox
  inboxBytes := state.inboxBytes
  outbox := state.outbox
  outboxBytes := state.outboxBytes
  letters := state.commands.map letter

/-- The bytes of the payload that an event carries. A Close without a code, which is 1005,
has none, and cannot have a reason either. -/
def payloadSize : Event → Option Nat
  | .textMessage data _ => some (encodeUtf8 data).length
  | .bytesMessage data _ => some data.length
  | .ping payload => some payload.length
  | .pong payload => some payload.length
  | .closeConnection code reason =>
      if code = 1005 then if closeReason reason = "" then some 0 else none
      else some (2 + (encodeUtf8 (closeReason reason)).length)

def Sized (letter : Event × Nat) : Prop := ∀ bytes ∈ payloadSize letter.1, letter.2 = bytes

namespace Mail

def size (mail : Mail) (id : CommandId) : Nat := (mail.letters[id]?).elim 0 Prod.snd

/-- The counters are the sums, the bounds are kept and the sizes are true. -/
structure Accounted (mail : Mail) (config : WebSocketConfig) : Prop where
  configured : mail.config = config
  known : ∀ id ∈ mail.outbox, id < mail.letters.length
  outboxBytes : mail.outboxBytes = (mail.outbox.map mail.size).sum
  inboxBytes : mail.inboxBytes = (mail.inbox.map messageSize).sum
  outboxBound : mail.outbox.length ≤ config.maxOutboundCommands ∧
    mail.outboxBytes ≤ config.maxOutboundBytes
  inboxBound : mail.inbox.length ≤ config.maxInboundMessages ∧
    mail.inboxBytes ≤ config.maxInboundBytes
  sized : ∀ letter ∈ mail.letters, Sized letter

namespace Accounted

variable {mail : Mail} {config : WebSocketConfig}

theorem appended (accounted : mail.Accounted config) (event : Event) (size : Nat)
    (short : mail.outbox.length < mail.config.maxOutboundCommands)
    (fits : mail.outboxBytes + size ≤ mail.config.maxOutboundBytes)
    (sized : Sized (event, size)) :
    { mail with
      outbox := mail.outbox ++ [mail.letters.length]
      outboxBytes := mail.outboxBytes + size
      letters := mail.letters ++ [(event, size)] : Mail }.Accounted config := by
  let after : Mail := { mail with
    outbox := mail.outbox ++ [mail.letters.length]
    outboxBytes := mail.outboxBytes + size
    letters := mail.letters ++ [(event, size)] }
  have sizes : mail.outbox.map after.size = mail.outbox.map mail.size := by
    refine List.map_congr_left fun id queued => ?_
    show ((mail.letters ++ [(event, size)])[id]?).elim 0 Prod.snd = _
    rw [List.getElem?_append_left (accounted.known id queued)]
    rfl
  have last : after.size mail.letters.length = size := by
    show ((mail.letters ++ [(event, size)])[mail.letters.length]?).elim 0 Prod.snd = size
    rw [List.getElem?_concat_length]
    rfl
  have configured := accounted.configured
  refine ⟨configured, ?_, ?_, accounted.inboxBytes, ⟨?_, configured ▸ fits⟩,
    accounted.inboxBound, ?_⟩
  · intro id queued
    rw [List.length_append, List.length_singleton]
    rcases List.mem_append.mp queued with before | here
    · exact Nat.lt_succ_of_lt (accounted.known id before)
    · exact List.mem_singleton.mp here ▸ Nat.lt_succ_self _
  · show mail.outboxBytes + size = ((mail.outbox ++ [mail.letters.length]).map after.size).sum
    rw [List.map_append, List.sum_append, sizes, ← accounted.outboxBytes, List.map_singleton,
      List.sum_singleton, last]
  · rw [List.length_append, List.length_singleton]
    exact configured ▸ short
  · intro letter member
    rcases List.mem_append.mp member with before | here
    · exact accounted.sized letter before
    · exact List.mem_singleton.mp here ▸ sized

theorem popped (accounted : mail.Accounted config) {id : CommandId} {rest : List CommandId}
    (queued : mail.outbox = id :: rest) :
    { mail with
      outbox := rest
      outboxBytes := mail.outboxBytes - mail.size id : Mail }.Accounted config := by
  have total := accounted.outboxBytes
  rw [queued, List.map_cons, List.sum_cons] at total
  obtain ⟨short, fits⟩ := accounted.outboxBound
  rw [queued, List.length_cons] at short
  refine ⟨accounted.configured, ?_, ?_, accounted.inboxBytes, ⟨?_, ?_⟩, accounted.inboxBound,
    accounted.sized⟩
  · exact fun other member => accounted.known other (queued ▸ List.mem_cons_of_mem id member)
  · show mail.outboxBytes - mail.size id = (rest.map mail.size).sum
    omega
  · exact Nat.le_of_succ_le short
  · exact (Nat.sub_le _ _).trans fits

theorem cleared (accounted : mail.Accounted config) :
    { mail with outbox := [], outboxBytes := 0 : Mail }.Accounted config :=
  ⟨accounted.configured, fun _ queued => absurd queued List.not_mem_nil, rfl, accounted.inboxBytes,
    ⟨Nat.zero_le _, Nat.zero_le _⟩, accounted.inboxBound, accounted.sized⟩

theorem delivered (accounted : mail.Accounted config) (payload : Payload)
    (short : mail.inbox.length < mail.config.maxInboundMessages)
    (fits : mail.inboxBytes + messageSize payload ≤ mail.config.maxInboundBytes) :
    { mail with
      inbox := mail.inbox ++ [payload]
      inboxBytes := mail.inboxBytes + messageSize payload : Mail }.Accounted config := by
  have configured := accounted.configured
  refine ⟨configured, accounted.known, accounted.outboxBytes, ?_, accounted.outboxBound,
    ⟨?_, configured ▸ fits⟩, accounted.sized⟩
  · rw [List.map_append, List.sum_append, ← accounted.inboxBytes, List.map_singleton,
      List.sum_singleton]
  · rw [List.length_append, List.length_singleton]
    exact configured ▸ short

theorem received (accounted : mail.Accounted config) {payload : Payload} {rest : List Payload}
    (waits : mail.inbox = payload :: rest) :
    { mail with
      inbox := rest
      inboxBytes := mail.inboxBytes - messageSize payload : Mail }.Accounted config := by
  have total := accounted.inboxBytes
  rw [waits, List.map_cons, List.sum_cons] at total
  obtain ⟨short, fits⟩ := accounted.inboxBound
  rw [waits, List.length_cons] at short
  refine ⟨accounted.configured, accounted.known, accounted.outboxBytes, ?_,
    accounted.outboxBound, ⟨?_, ?_⟩, accounted.sized⟩
  · show mail.inboxBytes - messageSize payload = (rest.map messageSize).sum
    omega
  · exact Nat.le_of_succ_le short
  · exact (Nat.sub_le _ _).trans fits

end Accounted

end Mail

end Mail

section Letters

variable {engine : Engine}

theorem letters_modify (commands : List OutboundCommand) (id : CommandId)
    (mark : OutboundCommand → OutboundCommand)
    (same : ∀ command, letter (mark command) = letter command) :
    (commands.modify id mark).map letter = commands.map letter := by
  refine List.ext_getElem? fun place => ?_
  rw [List.getElem?_map, List.getElem?_map, List.getElem?_modify]
  cases commands[place]? with
  | none => rfl
  | some command =>
      by_cases here : id = place
      · simp [here, same]
      · simp [here]

theorem letters_settle (ids : List CommandId) (error : Fault) (commands : List OutboundCommand) :
    (settle ids error commands).map letter = commands.map letter := by
  unfold settle
  refine List.ext_getElem? fun place => ?_
  rw [List.getElem?_map, List.getElem?_map, List.getElem?_mapIdx]
  cases commands[place]? with
  | none => rfl
  | some command =>
      by_cases here : place ∈ ids
      · simp [here, letter]
      · simp [here]

/-- What `_run_writer` takes off the counter is the size of the command it takes. -/
theorem size_mail (state : WebSocketState engine) (command : CommandId) :
    (mail state).size command = state.commands[command]?.elim 0 fun c => c.size := by
  show ((state.commands.map letter)[command]?).elim 0 Prod.snd = _
  rw [List.getElem?_map]
  cases state.commands[command]? with
  | none => rfl
  | some command => rfl

end Letters

section Sizes

theorem sized_close {code size : Nat} {reason : String} (coded : code ≠ 1005)
    (measured : 2 + (encodeUtf8 reason).length = size) :
    Sized (.closeConnection code (some reason), size) := by
  intro bytes carried
  rw [payloadSize, if_neg coded] at carried
  exact measured.symm.trans (Option.some.inj carried)

theorem sized_closeEvent (code : Nat) (reason : Option String) :
    Sized (.closeConnection code reason, closeEventSize code reason) := by
  intro bytes carried
  rw [payloadSize] at carried
  show closeEventSize code reason = bytes
  rw [closeEventSize]
  split at carried
  next uncoded =>
      rw [if_pos uncoded]
      split at carried
      · exact Option.some.inj carried
      · exact nomatch carried
  next coded =>
      rw [if_neg coded]
      exact Option.some.inj carried

theorem sized_shutdown (code : Nat) :
    Sized (.closeConnection code (some "server shutdown"), 17) := by
  by_cases coded : code = 1005
  · subst coded
    exact fun _ carried => nomatch carried
  · exact sized_close coded (by decide +kernel)

theorem sized_message (payload : Payload) : Sized (messageEvent payload, messageSize payload) := by
  cases payload with
  | text value => exact fun _ carried => Option.some.inj carried
  | bytes value => exact fun _ carried => Option.some.inj carried

theorem sized_ping (payload : Bytes) : Sized (.ping payload, payload.length) := fun _ carried =>
  Option.some.inj carried

theorem sized_pong (payload : Bytes) : Sized (.pong payload, payload.length) := fun _ carried =>
  Option.some.inj carried

/-- 1005 is not a code that `close` lets pass. -/
theorem coded_of_valid {code : Nat} (valid : validCloseCode code = true) : code ≠ 1005 := by
  rintro rfl
  exact absurd valid (by decide)

end Sizes

end SmallServer.WebSocketMailboxes
