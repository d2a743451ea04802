import SmallServer.WebSocketMoves
import SmallServer.WebSocketSteps

/-!
# The mailboxes of a WebSocket connection

Every move keeps the mail accounted, and so does every run.
-/

namespace SmallServer.WebSocketMailboxes

open SmallServer HttpValues KernelTransport WebSocket WebSocketState WebSocketTasks
  WebSocketMoves WebSocketSteps Runs

set_option autoImplicit false

section Runs

variable {engine : Engine} {config : WebSocketConfig} {state after : WebSocketState engine}

theorem move_accounted {about : Occasion} {exchange later : Exchange}
    (accounted : exchange.mail.Accounted config) (move : Move about exchange later) :
    later.mail.Accounted config := by
  cases move with
  | appended event size short fits sized => exact accounted.appended event size short fits sized
  | taken id rest queued => exact accounted.popped queued
  | cleared => exact accounted.cleared
  | assembled event asked data kind buffer bytes => exact accounted
  | delivered event asked data payload short fits => exact accounted.delivered payload short fits
  | received caller payload rest waits => exact accounted.received waits
  | called caller call other => exact accounted
  | answered caller outcome other => exact accounted
  | pingArmed caller command payload deadline free => exact accounted
  | pingRefused free => exact accounted
  | pingFailed caller command generation was =>
      have same : (if exchange.pendingPingGeneration = some generation then exchange.clearPing
          else exchange).mail = exchange.mail := by
        split
        · rfl
        · rfl
      exact same.symm ▸ accounted
  | ponged payload asked same => exact accounted
  | deadlineMoved deadline rejects => exact accounted

theorem next_accounted (accounted : (mail state).Accounted config) (step : Step)
    (taken : next state step = some after) : (mail after).Accounted config := by
  have initially : (exchange state).mail.Accounted config := accounted
  exact (next_moves step taken).keeps (fun move kept => move_accounted kept move) initially

theorem run_accounted {start : WebSocketState engine} {steps : List Step}
    (initially : (mail start).Accounted config) (run : Run Steps start steps state) :
    (mail state).Accounted config := by
  induction run with
  | nil => exact initially
  | snoc step _ taken hypothesis => exact next_accounted hypothesis step taken

theorem accounted_initial (engine : Engine) (config : WebSocketConfig)
    (subprotocols offered : List Text) (trailingData : Bytes) (now : Nat) :
    (mail (initial engine config subprotocols offered trailingData now)).Accounted config where
  configured := rfl
  known := fun _ queued => absurd queued List.not_mem_nil
  outboxBytes := rfl
  inboxBytes := rfl
  outboxBound := ⟨Nat.zero_le _, Nat.zero_le _⟩
  inboxBound := ⟨Nat.zero_le _, Nat.zero_le _⟩
  sized := fun _ member => absurd member List.not_mem_nil

def queued (state : WebSocketState engine) : List OutboundCommand :=
  state.outbox.filterMap fun id => state.commands[id]?

/-- All places in the outbox are places of commands, and the sizes of these are counted. -/
theorem queued_accounted (accounted : (mail state).Accounted config) :
    (state.outbox.map fun id => state.commands[id]?) = (queued state).map some ∧
      state.outboxBytes = ((queued state).map OutboundCommand.size).sum := by
  have known : ∀ id ∈ state.outbox, id < state.commands.length := fun id member =>
    List.length_map letter ▸ accounted.known id member
  have total : state.outboxBytes = (state.outbox.map (mail state).size).sum := accounted.outboxBytes
  rw [total]
  unfold queued
  clear total accounted
  generalize state.outbox = outbox at known
  induction outbox with
  | nil => exact ⟨rfl, rfl⟩
  | cons id outbox hypothesis =>
      obtain ⟨places, sizes⟩ := hypothesis fun other member =>
        known other (List.mem_cons_of_mem id member)
      have is : state.commands[id]? = some (state.commands.get ⟨id, known id List.mem_cons_self⟩) :=
        List.getElem?_eq_getElem _
      have size : (mail state).size id =
          (state.commands.get ⟨id, known id List.mem_cons_self⟩).size := by
        rw [size_mail, is]
        rfl
      rw [List.filterMap_cons_some is, List.map_cons, List.map_cons, List.map_cons, List.map_cons,
        places, is, List.sum_cons, List.sum_cons, sizes, size]
      exact ⟨rfl, rfl⟩

/-- In every state that a connection reaches both byte counters are the sums of what is queued,
both mailboxes keep to their bounds, and the size of every command is that of its payload. -/
theorem mailboxes_accounted (engine : Engine) (config : WebSocketConfig)
    (subprotocols offered : List Text) (trailingData : Bytes) (now : Nat) (steps : List Step)
    (state : WebSocketState engine)
    (run : Run Steps (initial engine config subprotocols offered trailingData now) steps state) :
    (state.outbox.map fun id => state.commands[id]?) = (queued state).map some ∧
      state.outboxBytes = ((queued state).map OutboundCommand.size).sum ∧
      state.inboxBytes = (state.inbox.map messageSize).sum ∧
      (state.outbox.length ≤ config.maxOutboundCommands ∧
        state.outboxBytes ≤ config.maxOutboundBytes) ∧
      (state.inbox.length ≤ config.maxInboundMessages ∧
        state.inboxBytes ≤ config.maxInboundBytes) ∧
      ∀ command ∈ state.commands, ∀ bytes ∈ payloadSize command.event, command.size = bytes := by
  have accounted : (mail state).Accounted config :=
    run_accounted (accounted_initial engine config subprotocols offered trailingData now) run
  obtain ⟨places, total⟩ := queued_accounted accounted
  refine ⟨places, total, accounted.inboxBytes, accounted.outboxBound, accounted.inboxBound, ?_⟩
  intro command member
  exact accounted.sized (letter command) (List.mem_map_of_mem member)

end Runs

section Samples

def exchanges : List Step :=
  sampleOpening ++ [.readerReceives (clientFrame 2 [7] ++ clientFrame 9 [1, 2]) sampleCancel,
    .sendsMessage .handler (.bytes [3]), .sendsMessage (.other 0) (.text "no"),
    .writerTakes sampleCancel]

def exchanged : WebSocketState sampleEngine := endOf next sampleStart exchanges

theorem mailboxes_accounted_sample :
    (exchanged.outbox = [1, 2] ∧ exchanged.outboxBytes = 3 ∧ exchanged.inboxBytes = 1) ∧
    (exchanged.outbox.map fun id => exchanged.commands[id]?) = (queued exchanged).map some ∧
      exchanged.outboxBytes = ((queued exchanged).map OutboundCommand.size).sum ∧
      exchanged.inboxBytes = (exchanged.inbox.map messageSize).sum ∧
      (exchanged.outbox.length ≤ ({} : WebSocketConfig).maxOutboundCommands ∧
        exchanged.outboxBytes ≤ ({} : WebSocketConfig).maxOutboundBytes) ∧
      (exchanged.inbox.length ≤ ({} : WebSocketConfig).maxInboundMessages ∧
        exchanged.inboxBytes ≤ ({} : WebSocketConfig).maxInboundBytes) ∧
      ∀ command ∈ exchanged.commands, ∀ bytes ∈ payloadSize command.event,
        command.size = bytes :=
  ⟨by decide +kernel, mailboxes_accounted sampleEngine {} [] [] [] 0 exchanges exchanged
    (run_endOf (fun _ _ _ => id) (by decide +kernel))⟩

end Samples

end SmallServer.WebSocketMailboxes
