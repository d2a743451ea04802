import SmallServer.WebSocketSteps

/-!
# The tasks that wait for a command

A command is completed by the writer, or by the deadline task when it aborts the writer. The
invariant is that a command with a waiter is queued or being written until it is done, and
that none is queued once both of these tasks have ended.
-/

namespace SmallServer.WebSocketSenders

open SmallServer HttpValues KernelTransport WebSocket WebSocketState WebSocketTasks
  WebSocketEffects WebSocketSteps Runs

set_option autoImplicit false

section Pending

def Pending (commands : List OutboundCommand) (id : CommandId) : Prop :=
  ∃ command, commands[id]? = some command ∧ command.waiter.isSome = true ∧ command.done = false

variable {commands : List OutboundCommand} {id : CommandId}

theorem pending_append {last : OutboundCommand} (pending : Pending (commands ++ [last]) id) :
    Pending commands id ∨ (id = commands.length ∧ last.waiter.isSome = true) := by
  obtain ⟨command, is, waits, undone⟩ := pending
  rw [List.getElem?_append] at is
  split at is
  · exact .inl ⟨command, is, waits, undone⟩
  · rename_i past
    rw [List.getElem?_singleton] at is
    split at is
    · rename_i first
      cases is
      exact .inr ⟨Nat.le_antisymm (Nat.sub_eq_zero_iff_le.mp first) (Nat.not_lt.mp past), waits⟩
    · cases is

end Pending

section Attended

/-- Who completes the commands that tasks wait for. -/
structure Attended (core : Core) : Prop where
  engaged : Engaged core
  queued : ∀ id, Pending core.commands id → id ∈ core.outbox ∨ core.activeCommand = some id
  orphaned : core.Orphaned → ¬core.Waits

variable {before after : Core}

/-- Outside a write every command somebody waits for is queued. -/
theorem Attended.waits (attended : Attended before)
    (outside : ∀ id send rest, before.writer ≠ .sends id send rest) {id : CommandId}
    (pending : Pending before.commands id) : id ∈ before.outbox := by
  refine (attended.queued id pending).resolve_right fun active => ?_
  rw [attended.engaged.inactive outside] at active
  cases active

theorem Attended.same (attended : Attended before) (engaged : Engaged after)
    (commands : after.commands = before.commands) (outbox : after.outbox = before.outbox)
    (activeCommand : after.activeCommand = before.activeCommand)
    (orphaned : after.Orphaned → before.Orphaned) : Attended after := by
  refine ⟨engaged, ?_, fun alone => ?_⟩
  · rw [commands, outbox, activeCommand]
    exact attended.queued
  · unfold Core.Waits
    rw [outbox, commands]
    exact attended.orphaned (orphaned alone)

/-- A command is appended, and somebody is left to complete it if a task waits for it. -/
theorem Attended.appended (attended : Attended before) (engaged : Engaged after)
    {last : OutboundCommand} (commands : after.commands = before.commands ++ [last])
    (outbox : after.outbox = before.outbox ++ [before.commands.length])
    (activeCommand : after.activeCommand = before.activeCommand)
    (orphaned : after.Orphaned → before.Orphaned ∧ last.waiter.isSome = false) :
    Attended after := by
  refine ⟨engaged, fun id pending => ?_, fun alone => ?_⟩
  · rw [commands] at pending
    rw [outbox, activeCommand]
    obtain former | ⟨is, -⟩ := pending_append pending
    · exact (attended.queued id former).imp_left (List.mem_append_left _)
    · exact .inl (List.mem_append_right _ (List.mem_singleton.mpr is))
  · obtain ⟨formerly, silent⟩ := orphaned alone
    rintro ⟨id, -, pending⟩
    have waiting : Pending after.commands id := pending
    rw [commands] at waiting
    obtain former | ⟨-, waits⟩ := pending_append waiting
    · refine attended.orphaned formerly ⟨id, attended.waits ?_ former, former⟩
      intro other send rest sends
      exact nomatch formerly.1.symm.trans sends
    · exact Bool.noConfusion (silent.symm.trans waits)

/-- While a command is being written, the others somebody waits for are queued. -/
theorem Attended.others (attended : Attended before) {command : CommandId} {send : SendAll}
    {rest : Bytes} (sends : before.writer = .sends command send rest) (id : CommandId)
    (other : id ≠ command) (pending : Pending before.commands id) : id ∈ before.outbox := by
  refine (attended.queued id pending).resolve_right fun active => other ?_
  exact Option.some.inj (active.symm.trans (attended.engaged.sends command send rest sends))

end Attended

section Samples

def attendedBy (state : WebSocketState sampleEngine) (_ : Step) : Bool :=
  decide (state.writer ≠ .ended ∧ state.deadline ≠ .ended)

/-- The kernel blocks a frame until the write times out, which ends both tasks. -/
def timesOut : List Step :=
  sampleOpening ++ [.deadlineStarts, .sendsMessage .handler (.bytes [1]),
    .writerTakes sampleCancel, .writerSends (.raised (some .write)) false sampleCancel,
    .passes 40000, .deadlineWakes sampleResponse sampleCancel sampleCancel]

def timedOut : WebSocketState sampleEngine := endOf (nextWhere attendedBy) sampleStart timesOut

end Samples

end SmallServer.WebSocketSenders
