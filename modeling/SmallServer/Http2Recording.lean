import SmallServer.Http2Effects

/-!
# What an HTTP/2 engine is asked to send

`recording engine` is the engine with a log of the calls that send something and of the windows
it reported. It answers as the engine does, and a protocol over it does what it does over the
engine.
-/

namespace SmallServer.Http2Recording

open SmallServer HttpValues Http2Frames Http2Protocol Http2Effects

set_option autoImplicit false

section Recording

/-- A window as the engine reported it, with the frame size it then allowed. -/
structure Report where
  streamId : StreamId
  window : Int
  maxFrame : Int
deriving DecidableEq

inductive Sending where
  | headers (streamId : StreamId) (fields : List (Text × Text)) (endStream succeeded : Bool)
  | data (streamId : StreamId) (chunk : Bytes) (endStream : Bool) (report : Option Report)
      (succeeded : Bool)
  | reset (streamId : StreamId)
deriving DecidableEq

namespace Sending

def streamId : Sending → StreamId
  | .headers streamId _ _ _ => streamId
  | .data streamId _ _ _ _ => streamId
  | .reset streamId => streamId

def payload : Sending → Bytes
  | .data _ chunk _ _ _ => chunk
  | _ => []

def ends : Sending → Bool
  | .headers _ _ endStream _ => endStream
  | .data _ _ endStream _ _ => endStream
  | .reset _ => false

def isReset : Sending → Bool
  | .reset _ => true
  | _ => false

def succeeded : Sending → Bool
  | .headers _ _ _ succeeded => succeeded
  | .data _ _ _ _ succeeded => succeeded
  | .reset _ => true

/-- Nothing may follow the call but a reset. -/
def stops (sending : Sending) : Bool := sending.isReset || !sending.succeeded || sending.ends

end Sending

structure Recorded (σ : Type) where
  connection : σ
  sent : List Sending := []
  reports : List Report := []
deriving DecidableEq

variable {σ : Type}

def Recorded.moved {α : Type} (recorded : Recorded σ) (answer : α × σ) : α × Recorded σ :=
  (answer.1, { recorded with connection := answer.2 })

def recording (engine : Engine σ) : Engine (Recorded σ) where
  initiateConnection recorded :=
    { recorded with connection := engine.initiateConnection recorded.connection }
  receiveData recorded data := recorded.moved (engine.receiveData recorded.connection data)
  dataToSend recorded := recorded.moved (engine.dataToSend recorded.connection)
  acknowledgeReceivedData recorded length streamId :=
    recorded.moved (engine.acknowledgeReceivedData recorded.connection length streamId)
  localFlowControlWindow recorded streamId :=
    match engine.localFlowControlWindow recorded.connection streamId with
    | (.error error, connection) => (.error error, { recorded with connection })
    | (.ok window, connection) =>
        (.ok window, { recorded with
          connection
          reports := recorded.reports ++
            [⟨streamId, window, engine.maxOutboundFrameSize connection⟩] })
  maxOutboundFrameSize recorded := engine.maxOutboundFrameSize recorded.connection
  sendHeaders recorded streamId fields endStream :=
    let answer := engine.sendHeaders recorded.connection streamId fields endStream
    (answer.1, { recorded with
      connection := answer.2
      sent := recorded.sent ++ [.headers streamId fields endStream answer.1.isOk] })
  sendData recorded streamId chunk endStream :=
    let answer := engine.sendData recorded.connection streamId chunk endStream
    (answer.1, { recorded with
      connection := answer.2
      sent := recorded.sent ++
        [.data streamId chunk endStream recorded.reports.getLast? answer.1.isOk] })
  resetStream recorded streamId errorCode :=
    let answer := engine.resetStream recorded.connection streamId errorCode
    (answer.1, { recorded with
      connection := answer.2
      sent := recorded.sent ++ [.reset streamId] })
  closeConnection recorded errorCode lastStreamId :=
    recorded.moved (engine.closeConnection recorded.connection errorCode lastStreamId)

end Recording

section Commands

variable {σ : Type} (engine : Engine σ) (config : HTTP2Config) {protocol : H2Protocol σ}

theorem dropStream_commands (streamId : StreamId) (none : protocol.commands = []) :
    (dropStream protocol streamId).commands = [] := by
  rw [dropStream_eq]
  show protocol.commands.filter _ = []
  rw [none]
  rfl

theorem captureControlOutput_commands :
    (captureControlOutput engine config protocol).2.commands = protocol.commands := by
  unfold captureControlOutput
  dsimp only
  split
  · rfl
  · rfl

theorem runCommand_commands (command : Command) (none : protocol.commands = []) :
    (runCommand engine config protocol command).commands = [] := by
  cases command with
  | reset streamId => exact dropStream_commands streamId none
  | response streamId response =>
      unfold runCommand startResponse
      dsimp only
      split
      · exact dropStream_commands streamId none
      · split
        · exact dropStream_commands streamId none
        · split
          · exact none
          · exact none

theorem runCommands_commands (commands : List Command) (none : protocol.commands = []) :
    (runCommands engine config protocol commands).2.commands = [] := by
  induction commands generalizing protocol with
  | nil => exact none
  | cons command commands hypothesis =>
      have ran := (captureControlOutput_commands engine config).trans
        (runCommand_commands engine config command none)
      unfold runCommands
      split
      · rename_i raised next result
        rw [result] at ran
        exact ran
      · rename_i next result
        rw [result] at ran
        exact hypothesis ran

theorem sendBody_commands (streamId : StreamId) (outbound : OutboundStream) (output : Bytes)
    (none : protocol.commands = []) :
    (sendBody engine config protocol streamId outbound output).2.commands = [] := by
  unfold sendBody sendChunk
  dsimp only
  split
  · exact none
  · split
    · exact dropStream_commands streamId none
    · split
      · exact none
      · split
        · exact dropStream_commands streamId none
        · split
          · exact none
          · split
            · exact none
            · exact none

theorem sendBodies_commands (entries : List (Sigma fun _ : StreamId => OutboundStream))
    (output : Bytes) (none : protocol.commands = []) :
    (sendBodies engine config protocol output entries).2.commands = [] := by
  induction entries generalizing protocol output with
  | nil => exact none
  | cons entry entries hypothesis =>
      have sent := sendBody_commands engine config entry.1 entry.2 output none
      unfold sendBodies
      split
      · rename_i raised next result
        rw [result] at sent
        exact sent
      · rename_i returned next result
        rw [result] at sent
        exact hypothesis returned sent

theorem drainEngine_commands (output : Bytes) :
    (drainEngine engine config protocol output).2.commands = protocol.commands := by
  unfold drainEngine
  dsimp only
  split
  · rfl
  · rfl

theorem flush_commands (protocol : H2Protocol σ) :
    (flush engine config protocol).2.commands = [] := by
  have none : { protocol with commands := [] : H2Protocol σ }.commands = [] := rfl
  have ran := runCommands_commands engine config protocol.commands none
  unfold flush
  split
  · rename_i raised next result
    rw [result] at ran
    exact ran
  · rename_i started result
    rw [result] at ran
    have moved : { started with controlOutput := [] : H2Protocol σ }.commands = [] := ran
    have sent := sendBodies_commands engine config started.outbound.entries started.controlOutput
      moved
    split
    · rename_i raised next returned
      rw [returned] at sent
      exact sent
    · rename_i output next returned
      rw [returned] at sent
      exact (drainEngine_commands engine config output).trans sent

end Commands

section Streams

variable {σ : Type}

def sentOn (streamId : StreamId) (protocol : H2Protocol (Recorded σ)) : List Sending :=
  protocol.connection.sent.filter fun sending => sending.streamId == streamId

def commandsOn (streamId : StreamId) (commands : List Command) : List Command :=
  commands.filter fun command => command.streamId == streamId

/-- Nothing of a response is left, neither its command nor its body. -/
def Gone (streamId : StreamId) (protocol : H2Protocol σ) : Prop :=
  (∀ command ∈ protocol.commands, command.isResponseOn streamId = false) ∧
    streamId ∉ protocol.outbound

theorem dropStream_gone (protocol : H2Protocol σ) (streamId : StreamId) :
    Gone streamId (dropStream protocol streamId) := by
  rw [dropStream_eq]
  refine ⟨fun command kept => ?_, fun present => (AList.mem_erase.mp present).1 rfl⟩
  have keeps := (List.mem_filter.mp kept).2
  exact (Bool.not_eq_true' _).mp keeps

end Streams

end SmallServer.Http2Recording
