import SmallServer.WebSocketSteps

/-!
# The bytes of the writer

`frames` lists what the engine serialized for the commands the writer took, and `wire` what the
kernel has taken. The writer takes the commands in the order in which they were enqueued and
sends one frame after the other, as long as it stops at a frame that was not sent: behind a
write that failed, and behind commands that an abort has dropped.
-/

namespace SmallServer.WebSocketWire

open SmallServer HttpValues KernelTransport WebSocket WebSocketState WebSocketTasks
  WebSocketEffects WebSocketSteps Runs

set_option autoImplicit false

section Errors

def errorOf (commands : List OutboundCommand) (id : CommandId) : Option Fault :=
  commands[id]?.bind fun command => command.error

variable {commands : List OutboundCommand} {id : CommandId}

theorem errorOf_eq_some {fault : Fault} : errorOf commands id = some fault ↔
    ∃ command, commands[id]? = some command ∧ command.error = some fault :=
  Option.bind_eq_some_iff

theorem errorOf_append {last : OutboundCommand} (fresh : last.error = none) (id : CommandId) :
    errorOf (commands ++ [last]) id = errorOf commands id := by
  unfold errorOf
  rw [List.getElem?_append]
  split
  · rfl
  · rename_i past
    rw [List.getElem?_eq_none (Nat.not_lt.mp past), List.getElem?_singleton]
    split
    · exact fresh
    · rfl

theorem errorOf_modify {target : CommandId} {change : OutboundCommand → OutboundCommand}
    (keeps : ∀ command, (change command).error = command.error) (id : CommandId) :
    errorOf (commands.modify target change) id = errorOf commands id := by
  unfold errorOf
  rw [List.getElem?_modify]
  cases commands[id]? with
  | none => rfl
  | some command =>
      by_cases here : target = id
      · simp [here, keeps command]
      · simp [here]

theorem errorOf_modify_of_ne {target : CommandId} {change : OutboundCommand → OutboundCommand}
    (other : id ≠ target) :
    errorOf (commands.modify target change) id = errorOf commands id := by
  unfold errorOf
  rw [List.getElem?_modify]
  cases commands[id]? with
  | none => rfl
  | some command => simp [Ne.symm other]

theorem errorOf_modify_self {change : OutboundCommand → OutboundCommand} {fault : Fault}
    (sets : ∀ command, (change command).error = some fault) (inside : id < commands.length) :
    errorOf (commands.modify id change) id = some fault := by
  unfold errorOf
  rw [List.getElem?_modify, List.getElem?_eq_getElem inside]
  simp [sets]

theorem errorOf_settle_of_mem {ids : List CommandId} {error : Fault} (member : id ∈ ids)
    (inside : id < commands.length) : errorOf (settle ids error commands) id = some error := by
  unfold errorOf settle
  rw [List.getElem?_mapIdx, List.getElem?_eq_getElem inside]
  simp [member]

theorem errorOf_settle_of_not_mem {ids : List CommandId} {error : Fault} (member : id ∉ ids) :
    errorOf (settle ids error commands) id = errorOf commands id := by
  unfold errorOf settle
  rw [List.getElem?_mapIdx]
  cases commands[id]? with
  | none => rfl
  | some command => simp [member]

theorem settle_length (ids : List CommandId) (error : Fault) (commands : List OutboundCommand) :
    (settle ids error commands).length = commands.length :=
  List.length_mapIdx

theorem errorOf_settle {ids : List CommandId} {error fault : Fault}
    (is : errorOf (settle ids error commands) id = some fault) :
    fault = error ∨ (errorOf commands id = some fault ∧ id ∉ ids) := by
  by_cases member : id ∈ ids
  · by_cases inside : id < commands.length
    · rw [errorOf_settle_of_mem member inside] at is
      exact .inl (Option.some.inj is).symm
    · unfold errorOf at is
      rw [List.getElem?_eq_none] at is
      · cases is
      · rw [settle_length]
        exact Nat.not_lt.mp inside
  · rw [errorOf_settle_of_not_mem member] at is
    exact .inr ⟨is, member⟩

end Errors

section Order

/-- The writer takes the commands in order, and what an abort drops has an error. -/
structure Queued (core : Core) : Prop where
  taken : core.frames.map Prod.fst = List.range core.frames.length
  bound : core.frames.length ≤ core.commands.length
  ahead : ∀ id ∈ core.outbox, core.frames.length ≤ id ∧ id < core.commands.length
  increasing : core.outbox.Pairwise (· < ·)
  clean : ∀ id ∈ core.outbox, errorOf core.commands id = none
  kept : ∀ id, core.frames.length ≤ id → id < core.commands.length →
    id ∈ core.outbox ∨ (errorOf core.commands id).isSome = true

variable {before after : Core}

theorem Queued.member (queued : Queued before) {id : CommandId} {frame : Option Bytes}
    (member : (id, frame) ∈ before.frames) : id < before.frames.length := by
  have named : id ∈ before.frames.map Prod.fst := List.mem_map.mpr ⟨(id, frame), member, rfl⟩
  rw [queued.taken] at named
  exact List.mem_range.mp named

/-- In a sound queue the next command is the first the writer has not taken. -/
theorem Queued.next (queued : Queued before) (sound : ¬before.Broken) {command : CommandId}
    {outbox : List CommandId} (is : before.outbox = command :: outbox) :
    command = before.frames.length := by
  have first : command ∈ before.outbox := by
    rw [is]
    exact List.mem_cons_self
  have bounds := queued.ahead command first
  obtain member | wrong := queued.kept before.frames.length (Nat.le_refl _)
    (Nat.lt_of_le_of_lt bounds.1 bounds.2)
  · rw [is] at member
    obtain same | later := List.mem_cons.mp member
    · exact same.symm
    · have increasing := queued.increasing
      rw [is] at increasing
      have smaller := List.rel_of_pairwise_cons increasing later
      exact absurd bounds.1 (Nat.not_le.mpr smaller)
  · obtain ⟨fault, wrong⟩ := Option.isSome_iff_exists.mp wrong
    obtain ⟨command, present, error⟩ := errorOf_eq_some.mp wrong
    refine absurd ⟨before.frames.length, command, fault, present, error, .inr ?_⟩ sound
    exact fun frame member => Nat.lt_irrefl _ (queued.member member)

theorem Queued.same (queued : Queued before) (frames : after.frames = before.frames)
    (length : after.commands.length = before.commands.length)
    (outbox : after.outbox = before.outbox)
    (clean : ∀ id ∈ before.outbox, errorOf before.commands id = none →
      errorOf after.commands id = none)
    (kept : ∀ id, (errorOf before.commands id).isSome = true →
      (errorOf after.commands id).isSome = true) : Queued after := by
  refine ⟨?_, ?_, ?_, ?_, ?_, ?_⟩
  · rw [frames]
    exact queued.taken
  · rw [frames, length]
    exact queued.bound
  · rw [frames, length, outbox]
    exact queued.ahead
  · rw [outbox]
    exact queued.increasing
  · rw [outbox]
    exact fun id member => clean id member (queued.clean id member)
  · rw [frames, length, outbox]
    exact fun id past inside => (queued.kept id past inside).imp_right (kept id)

theorem Queued.appended (queued : Queued before) {last : OutboundCommand}
    (fresh : last.error = none) (frames : after.frames = before.frames)
    (commands : after.commands = before.commands ++ [last])
    (outbox : after.outbox = before.outbox ++ [before.commands.length]) : Queued after := by
  have length : after.commands.length = before.commands.length + 1 := by
    rw [commands]
    exact List.length_append
  refine ⟨?_, ?_, fun id member => ?_, ?_, fun id member => ?_, fun id past inside => ?_⟩
  · rw [frames]
    exact queued.taken
  · rw [frames, length]
    exact Nat.le_succ_of_le queued.bound
  · rw [frames, length]
    rw [outbox] at member
    obtain former | new := List.mem_append.mp member
    · exact ⟨(queued.ahead id former).1, Nat.lt_succ_of_lt (queued.ahead id former).2⟩
    · rw [List.mem_singleton.mp new]
      exact ⟨queued.bound, Nat.lt_succ_self _⟩
  · rw [outbox]
    refine List.pairwise_append.mpr ⟨queued.increasing, List.pairwise_singleton _ _, ?_⟩
    intro id former last new
    rw [List.mem_singleton.mp new]
    exact (queued.ahead id former).2
  · rw [commands, errorOf_append fresh]
    rw [outbox] at member
    obtain former | new := List.mem_append.mp member
    · exact queued.clean id former
    · rw [List.mem_singleton.mp new]
      unfold errorOf
      rw [List.getElem?_eq_none (Nat.le_refl _)]
      rfl
  · rw [frames] at past
    rw [length] at inside
    rw [outbox, commands, errorOf_append fresh]
    obtain smaller | same := Nat.lt_succ_iff_lt_or_eq.mp inside
    · exact (queued.kept id past smaller).imp_left (List.mem_append_left _)
    · exact .inl (List.mem_append_right _ (List.mem_singleton.mpr same))

/-- The writer takes the next command; `error` is about the commands behind it. -/
theorem Queued.advance (queued : Queued before) (sound : ¬before.Broken) {command : CommandId}
    {outbox : List CommandId} {frame : Option Bytes} (is : before.outbox = command :: outbox)
    (frames : after.frames = before.frames ++ [(command, frame)])
    (length : after.commands.length = before.commands.length) (rest : after.outbox = outbox)
    (errors : ∀ id, id ≠ command → errorOf after.commands id = errorOf before.commands id) :
    Queued after := by
  have next := queued.next sound is
  have increasing := queued.increasing
  rw [is] at increasing
  have longer : after.frames.length = before.frames.length + 1 := by
    rw [frames]
    exact List.length_append
  have later : ∀ id ∈ outbox, command < id := fun id member =>
    List.rel_of_pairwise_cons increasing member
  have behind : ∀ id ∈ outbox, id ∈ before.outbox := fun id member => by
    rw [is]
    exact List.mem_cons_of_mem _ member
  refine ⟨?_, ?_, fun id member => ?_, ?_, fun id member => ?_, fun id past inside => ?_⟩
  · rw [longer, frames, List.map_append, queued.taken, List.range_succ, next]
    rfl
  · rw [longer, length, ← next]
    exact (queued.ahead command (by rw [is]; exact List.mem_cons_self)).2
  · rw [rest] at member
    rw [longer, length, ← next]
    exact ⟨later id member, (queued.ahead id (behind id member)).2⟩
  · rw [rest]
    exact increasing.of_cons
  · rw [rest] at member
    rw [errors id (Nat.ne_of_gt (later id member))]
    exact queued.clean id (behind id member)
  · rw [longer, ← next] at past
    rw [length] at inside
    have other : id ≠ command := Nat.ne_of_gt past
    rw [rest, errors id other]
    refine (queued.kept id ?_ inside).imp_left fun member => ?_
    · rw [← next]
      exact Nat.le_of_lt past
    · rw [is] at member
      exact (List.mem_cons.mp member).resolve_left other

theorem Queued.settled (queued : Queued before) {ids : List CommandId} {error : Fault}
    (all : ∀ id ∈ before.outbox, id ∈ ids) (frames : after.frames = before.frames)
    (commands : after.commands = settle ids error before.commands)
    (outbox : after.outbox = []) : Queued after := by
  have length : after.commands.length = before.commands.length := by
    rw [commands]
    exact settle_length ids error before.commands
  refine ⟨?_, ?_, ?_, ?_, ?_, fun id past inside => .inr ?_⟩
  · rw [frames]
    exact queued.taken
  · rw [frames, length]
    exact queued.bound
  · rw [outbox]
    exact nofun
  · rw [outbox]
    exact .nil
  · rw [outbox]
    exact nofun
  · rw [frames] at past
    rw [length] at inside
    rw [commands]
    by_cases member : id ∈ ids
    · rw [errorOf_settle_of_mem member inside]
      rfl
    · rw [errorOf_settle_of_not_mem member]
      exact (queued.kept id past inside).resolve_left fun waiting => member (all id waiting)

end Order

section Frames

def written (frames : List (CommandId × Option Bytes)) : Bytes :=
  (frames.map fun frame => frame.2.getD []).flatten

theorem written_append (frames : List (CommandId × Option Bytes)) (command : CommandId)
    (frame : Option Bytes) :
    written (frames ++ [(command, frame)]) = written frames ++ frame.getD [] := by
  unfold written
  rw [List.map_append, List.flatten_append]
  exact congrArg _ (List.append_nil _)

def WriteFailed (core : Core) : Prop :=
  ∃ id command fault payload, core.commands[id]? = some command ∧ command.error = some fault ∧
    fromWrite fault = true ∧ (id, some payload) ∈ core.frames

theorem writeFailed_iff (core : Core) : WriteFailed core ↔
    ∃ id fault payload, errorOf core.commands id = some fault ∧ fromWrite fault = true ∧
      (id, some payload) ∈ core.frames := by
  constructor
  · rintro ⟨id, command, fault, payload, is, error, written, member⟩
    exact ⟨id, fault, payload, errorOf_eq_some.mpr ⟨command, is, error⟩, written, member⟩
  · rintro ⟨id, fault, payload, error, written, member⟩
    obtain ⟨command, is, error⟩ := errorOf_eq_some.mp error
    exact ⟨id, command, fault, payload, is, error, written, member⟩

theorem WriteFailed.broken {core : Core} (failed : WriteFailed core) : core.Broken := by
  obtain ⟨id, command, fault, payload, is, error, written, member⟩ := failed
  exact ⟨id, command, fault, is, error, .inl ⟨written, payload, member⟩⟩

/-- The kernel has taken all frames but the last whole, and the writer, outside a write, owes
nothing or stands behind a write that failed. -/
structure Written (core : Core) : Prop where
  writes : ∀ id send rest, core.writer = .sends id send rest →
    (∃ payload, (id, some payload) ∈ core.frames) ∧
      core.wire ++ (send.offer ++ rest) = written core.frames
  between : core.writer = .looping ∨ core.writer = .absent →
    core.wire = written core.frames ∨ WriteFailed core
  stopped : WriteFailed core → ∀ id send rest, core.writer ≠ .sends id send rest
  begins : core.wire <+: written core.frames
  whole : written core.frames.dropLast <+: core.wire

variable {before after : Core}

theorem Written.same (held : Written before) (frames : after.frames = before.frames)
    (wire : after.wire = before.wire) (writer : after.writer = before.writer)
    (failed : WriteFailed after ↔ WriteFailed before) : Written after := by
  obtain ⟨writes, between, stopped, begins, whole⟩ := held
  refine ⟨?_, ?_, ?_, ?_, ?_⟩
  · rw [writer, frames, wire]
    exact writes
  · rw [writer, frames, wire, failed]
    exact between
  · rw [failed, writer]
    exact stopped
  · rw [frames, wire]
    exact begins
  · rw [frames, wire]
    exact whole

theorem Written.leaves (held : Written before) (frames : after.frames = before.frames)
    (wire : after.wire = before.wire)
    (outside : ∀ id send rest, after.writer ≠ .sends id send rest)
    (between : after.writer = .looping ∨ after.writer = .absent →
      after.wire = written after.frames ∨ WriteFailed after) : Written after := by
  refine ⟨fun id send rest sends => absurd sends (outside id send rest), between,
    fun _ => outside, ?_, ?_⟩
  · rw [frames, wire]
    exact held.begins
  · rw [frames, wire]
    exact held.whole

theorem Written.complete (held : Written before) (sound : ¬before.Broken)
    (loops : before.writer = .looping) : before.wire = written before.frames :=
  (held.between (.inl loops)).resolve_right fun failed => sound failed.broken

structure InOrder (core : Core) : Prop where
  engaged : Engaged core
  queued : Queued core
  written : Written core

theorem writeFailed_append {last : OutboundCommand} (fresh : last.error = none)
    (frames : after.frames = before.frames)
    (commands : after.commands = before.commands ++ [last]) :
    WriteFailed after ↔ WriteFailed before := by
  rw [writeFailed_iff, writeFailed_iff, frames, commands]
  simp only [errorOf_append fresh]

theorem WriteFailed.appended (failed : WriteFailed before) {last : OutboundCommand}
    (fresh : last.error = none) (frames : after.frames = before.frames)
    (commands : after.commands = before.commands ++ [last]) : WriteFailed after :=
  (writeFailed_append fresh frames commands).mpr failed

theorem InOrder.appended (held : InOrder before) (engaged : Engaged after)
    {last : OutboundCommand} (fresh : last.error = none) (frames : after.frames = before.frames)
    (commands : after.commands = before.commands ++ [last])
    (outbox : after.outbox = before.outbox ++ [before.commands.length])
    (wire : after.wire = before.wire) (writer : after.writer = before.writer) : InOrder after :=
  ⟨engaged, held.queued.appended fresh frames commands outbox,
    held.written.same frames wire writer (writeFailed_append fresh frames commands)⟩

theorem sound_of_broken {core : Core} (broken : core.Broken → Defect.brokenWire ≠ .brokenWire) :
    ¬core.Broken := fun broke => broken broke rfl

theorem frameTaken_inOrder (held : InOrder before) {command : CommandId}
    {outbox : List CommandId} {payload : Bytes} {send : SendAll} {rest : Bytes}
    (loops : before.writer = .looping) (queue : before.outbox = command :: outbox)
    (whole : send.offer ++ rest = payload) (sound : ¬before.Broken) :
    Queued { before with
        outbox
        activeCommand := some command
        frames := before.frames ++ [(command, some payload)]
        writer := .sends command send rest } ∧
      Written { before with
        outbox
        activeCommand := some command
        frames := before.frames ++ [(command, some payload)]
        writer := .sends command send rest } := by
  have complete := held.written.complete sound loops
  have grown := written_append before.frames command (some payload)
  refine ⟨held.queued.advance sound queue rfl rfl rfl fun _ _ => rfl, ?_⟩
  refine ⟨fun id other last sends => ?_, fun outside => outside.elim nofun nofun,
    fun failed => ?_, ?_, ?_⟩
  · cases sends
    refine ⟨⟨payload, List.mem_append_right _ (List.mem_singleton.mpr rfl)⟩, ?_⟩
    rw [grown, whole, complete]
    rfl
  · obtain ⟨id, fault, other, error, fails, member⟩ := (writeFailed_iff _).mp failed
    obtain former | new := List.mem_append.mp member
    · exact absurd ((writeFailed_iff before).mpr ⟨id, fault, other, error, fails, former⟩).broken
        sound
    · cases List.mem_singleton.mp new
      have clean := held.queued.clean command (by rw [queue]; exact List.mem_cons_self)
      exact nomatch clean.symm.trans error
  · change before.wire <+: _
    rw [grown, complete]
    exact List.prefix_append _ _
  · change written (before.frames ++ [_]).dropLast <+: before.wire
    rw [List.dropLast_concat, complete]

theorem commandPassed_inOrder (fault : Option Fault) (held : InOrder before)
    {command : CommandId} {outbox : List CommandId} {frame : Option Bytes} {writer : WriterTask}
    (loops : before.writer = .looping) (queue : before.outbox = command :: outbox)
    (silent : frame.getD [] = []) (sound : ¬before.Broken)
    (goes : writer = .looping ∨ writer = .ended) :
    Queued { before with
        outbox
        activeCommand := none
        frames := before.frames ++ [(command, frame)]
        commands := before.commands.modify command fun command =>
          { command with done := true, error := fault <|> command.error }
        writer } ∧
      Written { before with
        outbox
        activeCommand := none
        frames := before.frames ++ [(command, frame)]
        commands := before.commands.modify command fun command =>
          { command with done := true, error := fault <|> command.error }
        writer } := by
  have complete := held.written.complete sound loops
  have grown := written_append before.frames command frame
  rw [silent, List.append_nil] at grown
  have outside : ∀ id send rest, writer ≠ .sends id send rest := by
    intro id send rest sends
    obtain loops | ends := goes
    · exact nomatch loops.symm.trans sends
    · exact nomatch ends.symm.trans sends
  refine ⟨held.queued.advance sound queue rfl (List.length_modify _ _ _) rfl
    fun id other => errorOf_modify_of_ne other, ?_⟩
  refine ⟨fun id send rest sends => absurd sends (outside id send rest), fun _ => .inl ?_,
    fun _ => outside, ?_, ?_⟩
  · exact complete.trans grown.symm
  · change before.wire <+: _
    rw [grown, complete]
  · change written (before.frames ++ [_]).dropLast <+: before.wire
    rw [List.dropLast_concat, complete]

end Frames

section Changes

variable {before after : Core}

theorem Queued.behind (queued : Queued before) {id : CommandId} {frame : Option Bytes}
    (member : (id, frame) ∈ before.frames) : id ∉ before.outbox := fun waiting =>
  Nat.lt_irrefl _ (Nat.lt_of_lt_of_le (queued.member member) (queued.ahead id waiting).1)

theorem frameTurned_written (held : Written before) {command : CommandId} {send later : SendAll}
    {rest laterRest accepted : Bytes} (sends : before.writer = .sends command send rest)
    (whole : accepted ++ (later.offer ++ laterRest) = send.offer ++ rest) :
    Written { before with
      wire := before.wire ++ accepted
      writer := .sends command later laterRest } := by
  obtain ⟨member, divided⟩ := held.writes command send rest sends
  have still : before.wire ++ accepted ++ (later.offer ++ laterRest) = written before.frames := by
    rw [List.append_assoc, whole]
    exact divided
  refine ⟨fun id other last is => ?_, fun outside => outside.elim nofun nofun, fun failed => ?_,
    ⟨_, still⟩, held.whole.trans (List.prefix_append _ _)⟩
  · cases is
    exact ⟨member, still⟩
  · exact absurd sends (held.stopped failed command send rest)

theorem frameFinished_written (held : Written before) {command : CommandId} {send : SendAll}
    {rest accepted : Bytes} (sends : before.writer = .sends command send rest)
    (whole : accepted = send.offer ++ rest) :
    Written { before with
      wire := before.wire ++ accepted
      activeCommand := none
      commands := before.commands.modify command fun command => { command with done := true }
      writer := .looping } := by
  obtain ⟨-, divided⟩ := held.writes command send rest sends
  have complete : before.wire ++ accepted = written before.frames := by
    rw [whole]
    exact divided
  refine ⟨nofun, fun _ => .inl complete, fun _ => nofun, ?_,
    held.whole.trans (List.prefix_append _ _)⟩
  change before.wire ++ accepted <+: _
  rw [complete]

theorem frameFailed_inOrder (held : InOrder before) {command : CommandId} {send : SendAll}
    {rest : Bytes} {fault : Fault} {writer : WriterTask}
    (sends : before.writer = .sends command send rest) (fails : fromWrite fault = true)
    (goes : writer = .looping ∨ writer = .ended) :
    Queued { before with
        activeCommand := none
        commands := before.commands.modify command fun command =>
          { command with done := true, error := some fault }
        writer } ∧
      Written { before with
        activeCommand := none
        commands := before.commands.modify command fun command =>
          { command with done := true, error := some fault }
        writer } := by
  obtain ⟨⟨payload, member⟩, -⟩ := held.written.writes command send rest sends
  have inside : command < before.commands.length :=
    Nat.lt_of_lt_of_le (held.queued.member member) held.queued.bound
  have set : errorOf (before.commands.modify command fun command =>
      { command with done := true, error := some fault }) command = some fault :=
    errorOf_modify_self (fun _ => rfl) inside
  refine ⟨held.queued.same rfl (List.length_modify _ _ _) rfl ?_ ?_,
    held.written.leaves rfl rfl ?_ fun _ => .inr ?_⟩
  · intro id waiting clean
    have other : id ≠ command := by
      rintro rfl
      exact held.queued.behind member waiting
    exact (errorOf_modify_of_ne other).trans clean
  · intro id had
    by_cases same : id = command
    · subst same
      exact Option.isSome_iff_exists.mpr ⟨fault, set⟩
    · exact (congrArg Option.isSome (errorOf_modify_of_ne same)).trans had
  · intro id other last is
    obtain loops | ends := goes
    · exact nomatch loops.symm.trans is
    · exact nomatch ends.symm.trans is
  · exact (writeFailed_iff _).mpr ⟨command, fault, payload, set, fails, member⟩

/-- An abort drops the queue and says nothing about the wire. -/
theorem outboundFailed_writeFailed (held : InOrder before) (disconnect : Disconnect) :
    WriteFailed { before with
        commands := settle (before.activeCommand.toList ++ before.outbox)
          (.disconnect disconnect) before.commands
        outbox := [] } ↔ WriteFailed before := by
  rw [writeFailed_iff, writeFailed_iff]
  constructor
  · rintro ⟨id, fault, payload, error, fails, member⟩
    obtain rfl | ⟨former, -⟩ := errorOf_settle error
    · cases fails
    · exact ⟨id, fault, payload, former, fails, member⟩
  · rintro ⟨id, fault, payload, error, fails, member⟩
    have failed := (writeFailed_iff before).mpr ⟨id, fault, payload, error, fails, member⟩
    have inactive := held.engaged.inactive (held.written.stopped failed)
    refine ⟨id, fault, payload, ?_, fails, member⟩
    refine (errorOf_settle_of_not_mem ?_).trans error
    rw [inactive]
    exact held.queued.behind member

theorem change_inOrder (change : Change (· ≠ .brokenWire) before after)
    (held : InOrder before) : InOrder after := by
  have engaged := change_engaged change held.engaged
  cases change with
  | enqueued event size waiter other asked stranded =>
      exact held.appended engaged rfl rfl rfl rfl rfl rfl
  | closeEnqueued event size waiter closes repeats stranded =>
      exact held.appended engaged rfl rfl rfl rfl rfl rfl
  | coordinatorCloses event size closes unsent repeats stranded stays =>
      exact held.appended engaged rfl rfl rfl rfl rfl rfl
  | writerSpawned decides =>
      have absent := held.engaged.unspawned (.inr decides)
      refine ⟨engaged, held.queued.same rfl rfl rfl (fun _ _ => id) fun _ => id,
        held.written.leaves rfl rfl nofun fun _ => ?_⟩
      exact held.written.between (.inr absent)
  | frameTaken command outbox payload send rest loops queue whole broken =>
      have moved := frameTaken_inOrder held loops queue whole (sound_of_broken broken)
      exact ⟨engaged, moved.1, moved.2⟩
  | commandPassed command outbox frame fault writer loops queue passed broken goes =>
      have silent : frame.getD [] = [] := by
        obtain ⟨rfl, -⟩ | ⟨rfl, -⟩ := passed
        · rfl
        · rfl
      have moved := commandPassed_inOrder fault held loops queue silent
        (sound_of_broken broken) (goes.imp_right And.left)
      exact ⟨engaged, moved.1, moved.2⟩
  | frameTurned command send later rest laterRest accepted sends whole =>
      exact ⟨engaged, held.queued.same rfl rfl rfl (fun _ _ => id) fun _ => id,
        frameTurned_written held.written sends whole⟩
  | frameFinished command send rest accepted sends whole =>
      have errors : ∀ id, errorOf (before.commands.modify command fun command =>
          { command with done := true }) id = errorOf before.commands id :=
        errorOf_modify fun _ => rfl
      exact ⟨engaged, held.queued.same rfl (List.length_modify _ _ _) rfl
        (fun id _ => (errors id).trans) fun id => (congrArg Option.isSome (errors id)).trans,
        frameFinished_written held.written sends whole⟩
  | frameFailed command send rest fault writer sends fails goes =>
      have moved := frameFailed_inOrder held sends fails (goes.imp_right And.left)
      exact ⟨engaged, moved.1, moved.2⟩
  | frameClosed command send rest sends idle =>
      have errors : ∀ id, errorOf (before.commands.modify command fun command =>
          { command with done := true }) id = errorOf before.commands id :=
        errorOf_modify fun _ => rfl
      exact ⟨engaged, held.queued.same rfl (List.length_modify _ _ _) rfl
        (fun id _ => (errors id).trans) fun id => (congrArg Option.isSome (errors id)).trans,
        held.written.leaves rfl rfl nofun fun outside => outside.elim nofun nofun⟩
  | writerEnded loops idle =>
      exact ⟨engaged, held.queued.same rfl rfl rfl (fun _ _ => id) fun _ => id,
        held.written.leaves rfl rfl nofun fun outside => outside.elim nofun nofun⟩
  | outboundFailed disconnect =>
      exact ⟨engaged, held.queued.settled (fun _ => List.mem_append_right _) rfl rfl rfl,
        held.written.same rfl rfl rfl (outboundFailed_writeFailed held disconnect)⟩
  | _ =>
      exact ⟨engaged, held.queued.same rfl rfl rfl (fun _ _ => id) fun _ => id,
        held.written.same rfl rfl rfl Iff.rfl⟩

end Changes

theorem change_stopped {before after : Core} (change : Change (· ≠ .brokenWire) before after)
    (held : InOrder before) (failed : WriteFailed before) :
    WriteFailed after ∧ after.wire = before.wire := by
  have stopped := held.written.stopped failed
  cases change with
  | enqueued event size waiter other asked stranded =>
      exact ⟨failed.appended rfl rfl rfl, rfl⟩
  | closeEnqueued event size waiter closes repeats stranded =>
      exact ⟨failed.appended rfl rfl rfl, rfl⟩
  | coordinatorCloses event size closes unsent repeats stranded stays =>
      exact ⟨failed.appended rfl rfl rfl, rfl⟩
  | frameTaken command outbox payload send rest loops queue whole broken =>
      exact absurd failed.broken (sound_of_broken broken)
  | commandPassed command outbox frame fault writer loops queue passed broken goes =>
      exact absurd failed.broken (sound_of_broken broken)
  | frameTurned command send later rest laterRest accepted sends whole =>
      exact absurd sends (stopped command send rest)
  | frameFinished command send rest accepted sends whole =>
      exact absurd sends (stopped command send rest)
  | frameFailed command send rest fault writer sends fails goes =>
      exact absurd sends (stopped command send rest)
  | frameClosed command send rest sends idle => exact absurd sends (stopped command send rest)
  | outboundFailed disconnect =>
      exact ⟨(outboundFailed_writeFailed held disconnect).mpr failed, rfl⟩
  | _ => exact ⟨failed, rfl⟩

section Runs

variable {engine : Engine} {start state : WebSocketState engine} {labels : List Step}

theorem inOrder_initial (config : WebSocketConfig) (subprotocols offered : List Text)
    (trailingData : Bytes) (now : Nat) :
    InOrder (core (initial engine config subprotocols offered trailingData now)) where
  engaged := engaged_initial engine config subprotocols offered trailingData now
  queued := {
    taken := rfl
    bound := Nat.le_refl _
    ahead := nofun
    increasing := .nil
    clean := nofun
    kept := fun _ _ inside => absurd inside (Nat.not_lt_zero _) }
  written := {
    writes := nofun
    between := fun _ => .inl rfl
    stopped := fun ⟨_, _, _, _, _, _, _, member⟩ => nomatch member
    begins := List.prefix_refl _
    whole := List.prefix_refl _ }

theorem run_inOrder (run : Run (Avoids .brokenWire) start labels state)
    (held : InOrder (core start)) : InOrder (core state) :=
  run_invariant (fun _ _ => change_inOrder) held run

theorem changes_stopped {before after : Core} (changes : Changes (· ≠ .brokenWire) before after)
    (held : InOrder before) (failed : WriteFailed before) :
    WriteFailed after ∧ after.wire = before.wire := by
  induction changes with
  | refl => exact ⟨failed, rfl⟩
  | tail earlier change hypothesis =>
      have middle := changes_invariant (fun _ _ => change_inOrder) held earlier
      have stays := change_stopped change middle hypothesis.1
      exact ⟨stays.1, stays.2.trans hypothesis.2⟩

theorem run_stopped (run : Run (Avoids .brokenWire) start labels state)
    (held : InOrder (core start)) (failed : WriteFailed (core start)) :
    WriteFailed (core state) ∧ state.wire = start.wire := by
  induction run with
  | nil => exact ⟨failed, rfl⟩
  | snoc step earlier avoids hypothesis =>
      have middle := run_inOrder earlier held
      have stays := changes_stopped avoids.changes middle hypothesis.1
      exact ⟨stays.1, stays.2.trans hypothesis.2⟩

end Runs

/-- In every run in which the writer does not go on behind a frame that was not sent, it takes
the commands in order, the kernel has taken a prefix of their frames and all but the last of
them whole, and where a write has failed it takes nothing more. -/
theorem frames_in_order (engine : Engine) (config : WebSocketConfig)
    (subprotocols offered : List Text) (trailingData : Bytes) (now : Nat)
    (earlier later : List Step) (state last : WebSocketState engine)
    (reached : Run (Avoids .brokenWire)
      (initial engine config subprotocols offered trailingData now) earlier state)
    (goesOn : Run (Avoids .brokenWire) state later last) :
    state.frames.map Prod.fst = List.range state.frames.length ∧
      state.wire <+: written state.frames ∧
      written state.frames.dropLast <+: state.wire ∧
      (WriteFailed (core state) → last.wire = state.wire) := by
  have held := run_inOrder reached (inOrder_initial config subprotocols offered trailingData now)
  exact ⟨held.queued.taken, held.written.begins, held.written.whole,
    fun failed => (run_stopped goesOn held failed).2⟩

section Samples

def errorFree (state : WebSocketState sampleEngine) (_ : Step) : Bool :=
  state.commands.all fun command => command.error.isNone

theorem errorFree_sound (state : WebSocketState sampleEngine) (step : Step)
    (test : errorFree state step = true) : ¬Commits state .brokenWire step := by
  have sound : ¬(core state).Broken := by
    rintro ⟨id, command, fault, is, error, -⟩
    have free := List.all_eq_true.mp test command (List.mem_of_getElem? is)
    rw [error] at free
    cases free
  cases step with
  | writerTakes cancel => exact fun goesOn => sound goesOn.2
  | _ => exact id

def sendsTwo : List Step :=
  sampleOpening ++ [.sendsMessage .handler (.bytes [1]), .sendsMessage (.other 0) (.bytes [2]),
    .writerTakes sampleCancel, .writerSends (.sent 3) false sampleCancel,
    .writerTakes sampleCancel, .writerSends (.sent 1) false sampleCancel]

def sentTwo : WebSocketState sampleEngine := endOf (nextWhere errorFree) sampleStart sendsTwo

def failsSecond : List Step := [.writerSends (.raised none) false sampleCancel]

def failedSecond : WebSocketState sampleEngine := endOf (nextWhere errorFree) sentTwo failsSecond

theorem frames_in_order_sample :
    sentTwo.frames.map Prod.fst = List.range sentTwo.frames.length ∧
      sentTwo.wire <+: written sentTwo.frames ∧
      written sentTwo.frames.dropLast <+: sentTwo.wire ∧
      (WriteFailed (core sentTwo) → failedSecond.wire = sentTwo.wire) :=
  frames_in_order sampleEngine {} [] [] [] 0 sendsTwo failsSecond sentTwo failedSecond
    (run_endOf (avoids_nextWhere errorFree_sound) (by decide +kernel))
    (run_endOf (avoids_nextWhere errorFree_sound) (by decide +kernel))

/-- The write of the first message fails after one byte, and the writer takes the second. -/
def splices : List Step :=
  sampleOpening ++ [.sendsMessage .handler (.bytes [1]), .sendsMessage (.other 0) (.bytes [2]),
    .writerTakes sampleCancel, .writerSends (.sent 1) false sampleCancel,
    .writerSends (.raised none) false sampleCancel, .writerTakes sampleCancel,
    .writerSends (.sent 3) false sampleCancel]

def spliced : WebSocketState sampleEngine := endOf next sampleStart splices

theorem frame_spliced :
    Run Steps sampleStart splices spliced ∧
      written spliced.frames = [130, 1, 1, 130, 1, 2] ∧ spliced.wire = [130, 130, 1, 2] ∧
      ¬spliced.wire <+: written spliced.frames :=
  ⟨run_endOf (fun _ _ _ => id) (by decide +kernel), by decide +kernel, by decide +kernel,
    by decide +kernel⟩

end Samples

end SmallServer.WebSocketWire
