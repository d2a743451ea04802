import SmallServer.WebSocketListening

/-!
# Messages and the cuts of the stream

What the reader delivers and the code it ends with, as a function of the octets that the client
sends. The guard keeps back what it lets through in the call that refuses a header, so there
the frames in front of that header must not matter.
-/

namespace SmallServer.WebSocketSegmentation

open SmallServer HttpValues WebSocket WebSocketState WebSocketTasks WebSocketFrames
  WebSocketGuard WebSocketSources WebSocketHearing WebSocketListening Feeding Runs
open SmallServer.WebSocketEffects (readerResult)
open SmallServer.WebSocketHandshake (consistent_initial)
open SmallServer.WebSocketMoves (Occasion Exchange Move next_moves)
open SmallServer.WebSocketSteps (SampleBuffer clientFrame eventOf takeFrame takeFrames
  sampleEngine sampleCancel sampleStart sampleOpening nextWhere)

set_option autoImplicit false

section Streams

variable {engine : Engine} {chunkless : Chunkless engine} {settings : WebSocketConfig}
  {state : WebSocketState engine}

def octetsTaken (trailing : Bytes) (steps : List Step) : Bytes :=
  steps.flatMap (octetsOf trailing)

theorem opening_initial (chunkless : Chunkless engine) (settings : WebSocketConfig)
    (subprotocols offered : List Text) (trailing : Bytes) (now : Nat) :
    Opening chunkless settings trailing
      (initial engine settings subprotocols offered trailing now) where
  config := rfl
  guard := rfl
  trailing := rfl
  heard := nofun
  keeps := ⟨rfl, rfl, rfl, rfl, Nat.zero_le _⟩
  connected := rfl
  running := rfl
  unfailed := nofun
  consistent := consistent_initial settings subprotocols offered trailing now
  reader := .inl rfl

theorem position_run {start : WebSocketState engine} {trailing taken : Bytes} {finished : Bool}
    {steps : List Step} (position : Position chunkless settings trailing taken finished start)
    (run : Run Reads start steps state) :
    Position chunkless settings trailing (taken ++ octetsTaken trailing steps)
      (finished || steps.any isEnd) state := by
  induction run with
  | nil =>
      rw [octetsTaken, List.flatMap_nil, List.append_nil, List.any_nil, Bool.or_false]
      exact position
  | snoc step _ reads hypothesis =>
      have next := position_next hypothesis reads
      rw [octetsTaken, List.flatMap_append, List.flatMap_singleton, List.any_append,
        ← List.append_assoc, ← Bool.or_assoc]
      rw [List.any_cons, List.any_nil, Bool.or_false]
      exact next

/-- A connection whose client sends this stream, the first part of it behind the request, up to
where the reader has ended or has read all of it. `closes` says whether the client then ends its
side. -/
inductive Reaches (engine : Engine) (settings : WebSocketConfig) (stream : Bytes) (closes : Bool)
    (trailing : Bytes) : WebSocketState engine → Prop
  | waits (subprotocols offered : List Text) (now : Nat) (steps : List Step)
      (state : WebSocketState engine)
      (run : Run Reads (initial engine settings subprotocols offered trailing now) steps state)
      (receives : state.reader = .receiving) (whole : octetsTaken trailing steps = stream)
      (keeps : closes = false) :
      Reaches engine settings stream closes trailing state
  | ended (subprotocols offered : List Text) (rest : Bytes) (now : Nat)
      (steps : List Step) (state : WebSocketState engine)
      (run : Run Reads (initial engine settings subprotocols offered trailing now) steps state)
      (stopped : state.reader = .ended) (cut : octetsTaken trailing steps ++ rest = stream)
      (last : steps.any isEnd = true → rest = [] ∧ closes = true) :
      Reaches engine settings stream closes trailing state

def Alike (first second : WebSocketState engine) : Prop :=
  first.delivered = second.delivered ∧
    first.disconnect.map Disconnect.code = second.disconnect.map Disconnect.code

/-- What the stream alone says is delivered, and with which code the reader ends. -/
def verdict (chunkless : Chunkless engine) (settings : WebSocketConfig) (stream : Bytes)
    (closes : Bool) : List Payload × Option Nat :=
  match run (octet settings.maxFramePayloadBytes) {} stream with
  | (.error error, _) => ([], some (faultCode (guardFault error)))
  | (.ok _, progress) =>
      let heard := hearing settings.maxMessageBytes (chunkless.decode progress.forwarded ++
        if closes then chunkless.atEnd progress.forwarded else [])
      (heard.messages, if closes then some (heard.code.getD 1006) else heard.code)

/-- The frames in front of a refused header deliver nothing, and if they end the reader then
with the code of the refusal. -/
structure Harmless (chunkless : Chunkless engine) (settings : WebSocketConfig)
    (frames : List Bytes) (header : Bytes) : Prop where
  messages : (hearing settings.maxMessageBytes (chunkless.decode frames.flatten)).messages = []
  code : ∀ code error,
    (hearing settings.maxMessageBytes (chunkless.decode frames.flatten)).code = some code →
      checkHeader settings.maxFramePayloadBytes header = .error error →
        code = faultCode (guardFault error)

theorem run_refused {stream : Bytes} {error : GuardError} {progress : Progress}
    (ran : run (octet settings.maxFramePayloadBytes) {} stream = (.error error, progress)) :
    ∃ frames header, BadAt settings.maxFramePayloadBytes stream frames header ∧
      checkHeader settings.maxFramePayloadBytes header = .error error ∧
      progress.forwarded = frames.flatten := by
  obtain ⟨frames, header, badAt⟩ := run_raises ran
  obtain ⟨same, refused, whole⟩ := run_badAt badAt
  rw [ran] at whole
  cases whole
  exact ⟨frames, header, badAt, refused, rfl⟩

theorem ended_verdict {taken rest stream : Bytes} {finished closes : Bool}
    {messages : List Payload} {code : Nat}
    (harmless : ∀ frames header, BadAt settings.maxFramePayloadBytes stream frames header →
      Harmless chunkless settings frames header)
    (ended : Ended chunkless settings taken finished messages code)
    (cut : taken ++ rest = stream) (last : finished = true → rest = [] ∧ closes = true) :
    (messages, some code) = verdict chunkless settings stream closes := by
  subst cut
  unfold verdict
  cases ended with
  | refused octets lost phase error ran silent =>
      have whole : run (octet settings.maxFramePayloadBytes) {} (taken ++ rest) = _ :=
        run_append_error ran
      obtain ⟨frames, header, badAt, _, same⟩ := run_refused whole
      have grows : (hearing settings.maxMessageBytes (chunkless.decode octets)).messages <+: _ :=
        messages_of_prefix (chunkless.decode_append octets lost)
      rw [show octets ++ lost = frames.flatten from same,
        (harmless frames header badAt).messages] at grows
      rw [whole, List.prefix_nil.mp grows]
  | told octets phase _ ran ended =>
      have whole : run (octet settings.maxFramePayloadBytes) {} (taken ++ rest) = _ :=
        run_append_ok ran
      have forwards : octets <+:
          (run (octet settings.maxFramePayloadBytes) ⟨phase, octets⟩ rest).2.forwarded :=
        forwarded_run ⟨phase, octets⟩ rest
      rw [← whole] at forwards
      rcases all : run (octet settings.maxFramePayloadBytes) {} (taken ++ rest) with
        ⟨error | _, progress⟩
      · rw [all] at forwards
        obtain ⟨frames, header, badAt, refused, same⟩ := run_refused all
        obtain ⟨lost, more⟩ := forwards
        have said := hearing_of_prefix (chunkless.decode_append octets lost) ended
        rw [show octets ++ lost = frames.flatten from more.trans same] at said
        have quiet := harmless frames header badAt
        have known := quiet.code code error (by rw [said]; exact ended) refused
        rw [← said, quiet.messages, known]
      · rw [all] at forwards
        obtain ⟨later, more⟩ := forwards
        have grows := (chunkless.decode_append octets later).trans (List.prefix_append _
          (if closes = true then chunkless.atEnd (octets ++ later) else []))
        have said := hearing_of_prefix grows ended
        rw [show octets ++ later = progress.forwarded from more] at said
        dsimp only
        rw [said, ended]
        cases closes with
        | true => rfl
        | false => rfl
  | finished octets phase ran =>
      obtain ⟨none, true⟩ := last rfl
      subst none true
      rw [List.append_nil, ran]
      rfl

theorem reaches_verdict {stream trailing : Bytes} {closes : Bool}
    (harmless : ∀ frames header, BadAt settings.maxFramePayloadBytes stream frames header →
      Harmless chunkless settings frames header)
    (reaches : Reaches engine settings stream closes trailing state) :
    (state.delivered, state.disconnect.map Disconnect.code) =
      verdict chunkless settings stream closes := by
  cases reaches with
  | waits subprotocols offered now steps _ run receives whole keeps =>
      have position := position_run
        (.opening _ (opening_initial chunkless settings subprotocols offered trailing now)) run
      rw [List.nil_append, whole] at position
      generalize (false || steps.any isEnd) = finished at position
      cases position with
      | opening _ opening =>
          rcases opening.reader with absent | ⟨spawned, _⟩
          · cases absent.symm.trans receives
          · cases spawned.symm.trans receives
      | ended _ _ messages code reason _ stopped verdict delivered told =>
          cases stopped.symm.trans receives
      | reading _ octets _ receives settled listens =>
          obtain ⟨phase, ran, _, _⟩ := listens.guarded
          unfold verdict
          rw [ran, keeps]
          dsimp only
          rw [if_neg Bool.false_ne_true, if_neg Bool.false_ne_true, List.append_nil,
            listens.silent, listens.connected]
          exact Prod.ext listens.keeps.delivered rfl
  | ended subprotocols offered rest now steps _ run stopped cut last =>
      have position := position_run
        (.opening _ (opening_initial chunkless settings subprotocols offered trailing now)) run
      rw [List.nil_append, Bool.false_or] at position
      generalize steps.any isEnd = finished at position last
      generalize octetsTaken trailing steps = taken at position cut
      cases position with
      | opening _ opening =>
          rcases opening.reader with absent | ⟨spawned, _⟩
          · cases absent.symm.trans stopped
          · cases spawned.symm.trans stopped
      | reading _ octets _ receives settled listens => cases receives.symm.trans stopped
      | ended _ _ messages code reason _ stopped verdict delivered told =>
          rw [delivered, told]
          exact ended_verdict harmless verdict cut last

inductive Started (chunkless : Chunkless engine) (settings : WebSocketConfig) (trailing : Bytes)
    (state : WebSocketState engine) : Prop
  | intro (cancel : Cancel) (middle : WebSocketState engine) (rest : List Step)
      (opening : Opening chunkless settings trailing middle) (spawned : middle.reader = .spawned)
      (starts : Reads middle (.readerStarts cancel) (readerStarts middle cancel))
      (run : Run Reads (readerStarts middle cancel) rest state)

theorem run_starts {trailing : Bytes} {start : WebSocketState engine} {steps : List Step}
    (opening : Opening chunkless settings trailing start) (run : Run Reads start steps state) :
    Opening chunkless settings trailing state ∨ Started chunkless settings trailing state := by
  induction run with
  | nil => exact .inl opening
  | snoc step _ reads hypothesis =>
      obtain still | ⟨cancel, middle, rest, before, spawned, starts, later⟩ := hypothesis
      · obtain ⟨_, later⟩ | ⟨cancel, rfl, spawned, rfl⟩ := opening_cases still reads
        · exact .inl later
        · exact .inr ⟨cancel, _, [], still, spawned, reads, .nil⟩
      · exact .inr ⟨cancel, middle, rest ++ [step], before, spawned, starts,
          .snoc step later reads⟩

theorem run_over {start : WebSocketState engine} {steps : List Step}
    (stopped : start.reader = .ended) (run : Run Reads start steps state) : state = start := by
  cases steps with
  | nil => exact run.eq_of_nil
  | cons step steps =>
      obtain ⟨_, reads, _⟩ := run.uncons
      exact absurd stopped reads.runs

theorem delivered_run {start : WebSocketState engine} {steps : List Step}
    (run : Run Reads start steps state) : start.delivered <+: state.delivered := by
  induction run with
  | nil => exact List.prefix_refl _
  | snoc step _ reads hypothesis =>
      have kept : ∀ {about : Occasion} {left right : Exchange}, Move about left right →
          start.delivered <+: left.delivered → start.delivered <+: right.delivered := by
        intro about left right move was
        cases move with
        | delivered event asked data payload short fits =>
            exact was.trans (List.prefix_append _ _)
        | pingFailed caller command generation waits =>
            split
            · exact was
            · exact was
        | _ => exact was
      exact (next_moves step reads.taken).keeps kept hypothesis

theorem position_heard {trailing taken octets : Bytes} {phase : Phase}
    (position : Position chunkless settings trailing taken false state)
    (ran : run (octet settings.maxFramePayloadBytes) {} taken = (.ok (), ⟨phase, octets⟩)) :
    (hearing settings.maxMessageBytes (chunkless.decode octets)).messages = state.delivered ∧
      ∀ code, (hearing settings.maxMessageBytes (chunkless.decode octets)).code = some code →
        state.reader = .ended ∧ state.disconnect.map Disconnect.code = some code := by
  cases position with
  | opening _ opening =>
      cases ran
      rw [chunkless.decode_nil]
      exact ⟨opening.keeps.delivered.symm, nofun⟩
  | reading _ _ _ receives settled listens =>
      obtain ⟨phase, same, _, _⟩ := listens.guarded
      rw [ran] at same
      cases same
      refine ⟨listens.keeps.delivered.symm, fun code ended => ?_⟩
      rw [listens.silent] at ended
      cases ended
  | ended _ _ messages code reason _ stopped verdict delivered told =>
      cases verdict with
      | refused _ lost phase error same silent =>
          rw [ran] at same
          cases same
      | told _ phase _ same ended =>
          rw [ran] at same
          cases same
          refine ⟨delivered.symm, fun other is => ⟨stopped, ?_⟩⟩
          rw [told, ← is, ended]
          rfl

theorem reaches_started {stream trailing : Bytes} {closes : Bool} (chunkless : Chunkless engine)
    (reaches : Reaches engine settings stream closes trailing state) :
    Started chunkless settings trailing state := by
  have started : ∀ {subprotocols offered : List Text} {now : Nat} {steps : List Step},
      Run Reads (initial engine settings subprotocols offered trailing now) steps state →
        state.reader = .receiving ∨ state.reader = .ended →
          Started chunkless settings trailing state := by
    intro subprotocols offered now steps run runs
    refine (run_starts (opening_initial chunkless settings subprotocols offered trailing now)
      run).resolve_left fun opening => ?_
    rcases opening.reader with absent | ⟨spawned, _⟩
    · rw [absent] at runs
      rcases runs with runs | runs
      · cases runs
      · cases runs
    · rw [spawned] at runs
      rcases runs with runs | runs
      · cases runs
      · cases runs
  cases reaches with
  | waits subprotocols offered now steps _ run receives whole keeps =>
      exact started run (.inl receives)
  | ended subprotocols offered rest now steps _ run stopped cut last =>
      exact started run (.inr stopped)

/-- The frames in front of a refused header are harmless if it makes no difference whether the
stream is cut between the two. -/
theorem harmless_of_alike {stream header : Bytes} {closes : Bool} {frames : List Bytes}
    {first second : WebSocketState engine}
    (badAt : BadAt settings.maxFramePayloadBytes stream frames header)
    (whole : Reaches engine settings stream closes stream first)
    (cut : Reaches engine settings stream closes frames.flatten second)
    (delivered : first.delivered = second.delivered)
    (code : first.disconnect.map Disconnect.code = second.disconnect.map Disconnect.code) :
    Harmless chunkless settings frames header := by
  obtain ⟨error, refused, ran⟩ := run_badAt badAt
  have passes : run (octet settings.maxFramePayloadBytes) {} frames.flatten = _ :=
    run_frames badAt.whole []
  rw [List.nil_append] at passes
  -- in one piece the refusal is all there is
  obtain ⟨cancel, middle, rest, opening, spawned, _, later⟩ := reaches_started chunkless whole
  obtain ⟨stopped, nothing, told⟩ := readerStarts_refused opening spawned cancel ran
  rw [run_over stopped later, nothing] at delivered
  rw [run_over stopped later, told] at code
  -- in two pieces the frames are drained first
  obtain ⟨cancel, middle, rest, opening, spawned, starts, later⟩ := reaches_started chunkless cut
  obtain ⟨messages, ends⟩ :=
    position_heard (starts_position opening starts spawned rfl) passes
  refine ⟨?_, fun other raised is checked => ?_⟩
  · have kept := delivered_run later
    rw [← messages, ← delivered] at kept
    exact List.prefix_nil.mp kept
  · obtain ⟨stopped, told⟩ := ends other is
    rw [run_over stopped later, told] at code
    rw [refused] at checked
    cases checked
    exact (Option.some.inj code).symm

/-- **Delivery does not depend on the cuts of the stream, if the frames in front of a refused
header are harmless.** If they are not, it depends on whether the stream is cut there. -/
theorem delivery_unsegmented (engine : Engine) (chunkless : Chunkless engine)
    (settings : WebSocketConfig) (stream : Bytes) (closes : Bool) :
    ((∀ frames header, BadAt settings.maxFramePayloadBytes stream frames header →
        Harmless chunkless settings frames header) →
      ∀ front back (first second : WebSocketState engine),
        Reaches engine settings stream closes front first →
          Reaches engine settings stream closes back second → Alike first second) ∧
    ∀ frames header (whole cut : WebSocketState engine),
      BadAt settings.maxFramePayloadBytes stream frames header →
        Reaches engine settings stream closes stream whole →
          Reaches engine settings stream closes frames.flatten cut → Alike whole cut →
            Harmless chunkless settings frames header := by
  refine ⟨fun harmless front back first second one other => ?_,
    fun frames header whole cut badAt one other alike =>
      harmless_of_alike badAt one other alike.1 alike.2⟩
  have same := (reaches_verdict harmless one).trans (reaches_verdict harmless other).symm
  exact ⟨congrArg Prod.fst same, congrArg Prod.snd same⟩

end Streams

section Samples

def sampleDecode (octets : Bytes) : List Event :=
  (takeFrames octets.length octets).map Prod.fst

theorem takeFrame_shorter {bytes rest : Bytes} {event : Event}
    (taken : takeFrame bytes = some (event, rest)) : rest.length < bytes.length := by
  unfold takeFrame at taken
  split at taken
  · rename_i first second body
    dsimp only at taken
    split at taken
    · cases taken
    · obtain ⟨_, _, is⟩ := Option.map_eq_some_iff.mp taken
      cases is
      rw [List.length_drop, List.length_cons, List.length_cons]
      omega
  · cases taken

theorem takeFrame_append {bytes rest : Bytes} {event : Event}
    (taken : takeFrame bytes = some (event, rest)) (more : Bytes) :
    takeFrame (bytes ++ more) = some (event, rest ++ more) := by
  unfold takeFrame at taken
  split at taken
  · rename_i first second body
    dsimp only at taken
    split at taken
    · cases taken
    · rename_i enough
      obtain ⟨_, known, is⟩ := Option.map_eq_some_iff.mp taken
      cases is
      have long : ¬(body ++ more).length < 4 + second.toNat % 128 := by
        rw [List.length_append]
        omega
      have payload : ((body ++ more).drop 4).take (second.toNat % 128) =
          (body.drop 4).take (second.toNat % 128) := by
        rw [List.drop_append_of_le_length (by omega),
          List.take_append_of_le_length (by rw [List.length_drop]; omega)]
      show (if (body ++ more).length < 4 + second.toNat % 128 then none
        else (eventOf (first.toNat % 16) (((body ++ more).drop 4).take (second.toNat % 128))).map
          fun event => (event, (body ++ more).drop (4 + second.toNat % 128))) = _
      rw [if_neg long, payload, known, List.drop_append_of_le_length (by omega)]
      rfl
  · cases taken

theorem takeFrames_enough {bound : Nat} {bytes : Bytes} (enough : bytes.length ≤ bound) :
    takeFrames bound bytes = takeFrames bytes.length bytes := by
  induction bound using Nat.strong_induction_on generalizing bytes with
  | _ bound induction =>
      rcases bound with _ | bound
      · rw [Nat.le_zero.mp enough]
      · cases taken : takeFrame bytes with
        | none =>
            have stuck : ∀ fuel, takeFrames fuel bytes = [] := by
              intro fuel
              cases fuel with
              | zero => rfl
              | succ fuel =>
                  unfold takeFrames
                  rw [taken]
            rw [stuck, stuck]
        | some both =>
            obtain ⟨event, rest⟩ := both
            have shorter := takeFrame_shorter taken
            obtain ⟨length, is⟩ : ∃ length, bytes.length = length + 1 :=
              ⟨bytes.length - 1, by omega⟩
            rw [is]
            unfold takeFrames
            rw [taken]
            dsimp only
            rw [induction bound (Nat.lt_succ_self bound) (by omega),
              induction length (by omega) (by omega)]

theorem decode_none {octets : Bytes} (stuck : takeFrame octets = none) :
    sampleDecode octets = [] := by
  unfold sampleDecode
  cases octets.length with
  | zero => rfl
  | succ length =>
      unfold takeFrames
      rw [stuck]
      rfl

theorem decode_some {octets rest : Bytes} {event : Event}
    (taken : takeFrame octets = some (event, rest)) :
    sampleDecode octets = event :: sampleDecode rest := by
  have shorter := takeFrame_shorter taken
  obtain ⟨length, is⟩ : ∃ length, octets.length = length + 1 := ⟨octets.length - 1, by omega⟩
  unfold sampleDecode
  rw [is]
  conv_lhs => unfold takeFrames
  rw [taken]
  dsimp only
  rw [takeFrames_enough (by omega : rest.length ≤ length), List.map_cons]

theorem sampleDecode_append (octets more : Bytes) :
    sampleDecode octets <+: sampleDecode (octets ++ more) := by
  induction length : octets.length using Nat.strong_induction_on generalizing octets with
  | _ bound induction =>
      cases taken : takeFrame octets with
      | none =>
          rw [decode_none taken]
          exact List.nil_prefix
      | some both =>
          obtain ⟨event, rest⟩ := both
          rw [decode_some taken, decode_some (takeFrame_append taken more)]
          have shorter := takeFrame_shorter taken
          exact List.cons_prefix_cons.mpr
            ⟨rfl, induction rest.length (by omega) rest rfl⟩

def sampleHeard (buffer : SampleBuffer) (octets : Bytes) (events : List Event) : Prop :=
  buffer.ends = false ∧
    ∀ more, sampleDecode (octets ++ more) = events ++ sampleDecode (buffer.bytes ++ more)

theorem sampleTracks (bound : Nat) {octets bytes : Bytes} {events : List Event}
    (heard : ∀ more, sampleDecode (octets ++ more) = events ++ sampleDecode (bytes ++ more)) :
    Tracks (fun next => sampleHeard next octets) events (takeFrames bound bytes) := by
  induction bound generalizing bytes events with
  | zero => trivial
  | succ bound induction =>
      unfold takeFrames
      cases taken : takeFrame bytes with
      | none => trivial
      | some both =>
          obtain ⟨event, rest⟩ := both
          intro _
          have later : ∀ more, sampleDecode (octets ++ more) =
              (events ++ [event]) ++ sampleDecode (rest ++ more) := by
            intro more
            rw [heard, decode_some (takeFrame_append taken more), List.append_assoc]
            rfl
          exact ⟨⟨rfl, later⟩, induction later⟩

theorem sampleEvents {buffer : SampleBuffer} {octets : Bytes} {events : List Event}
    (heard : sampleHeard buffer octets events) :
    sampleEngine.events buffer = takeFrames buffer.bytes.length buffer.bytes ∧
      events ++ sampleDecode buffer.bytes = sampleDecode octets := by
  obtain ⟨runs, same⟩ := heard
  have whole := same []
  rw [List.append_nil, List.append_nil] at whole
  refine ⟨?_, whole.symm⟩
  show takeFrames buffer.bytes.length buffer.bytes ++ (if buffer.ends then _ else []) = _
  rw [runs, if_neg Bool.false_ne_true]
  exact List.append_nil _

def sampleChunkless : Chunkless sampleEngine where
  decode := sampleDecode
  atEnd _ := [.closeConnection 1006 none]
  heard := sampleHeard
  decode_nil := rfl
  decode_append := sampleDecode_append
  created := ⟨rfl, fun _ => rfl⟩
  sent := fun heard sends => by
    cases sends
    exact heard
  received := fun {buffer octets events} chunk heard => by
    refine ⟨_, rfl, heard.1, fun more => ?_⟩
    rw [List.append_assoc, heard.2, ← List.append_assoc]
  yielded := fun {buffer octets events} heard => by
    obtain ⟨yields, whole⟩ := sampleEvents heard
    rw [yields]
    exact ⟨whole, sampleTracks _ heard.2⟩
  ended := fun {buffer octets} heard => by
    have drained : sampleDecode buffer.bytes = [] :=
      List.append_right_eq_self.mp (sampleEvents heard).2
    refine ⟨{ buffer with ends := true }, rfl, ?_⟩
    show (takeFrames buffer.bytes.length buffer.bytes ++
      [(Event.closeConnection 1006 none, ({} : SampleBuffer))]).map Prod.fst = _
    rw [List.map_append]
    exact congrArg (· ++ _) drained

def undisturbed (state : WebSocketState sampleEngine) (step : Step) : Bool :=
  decide (state.reader ≠ .ended) &&
    (match readerResult state step with
      | some (.error fault, _) => decide (¬(fault =
          .capacity "WebSocket inbound queue is full" ∨ fault = queueFull))
      | _ => true) &&
    (match step with
      | .readerRaises _ _ => false
      | _ => true) &&
    (ofReader step || (next state step).all fun after =>
      after.disconnect.isNone && !after.shutdown)

theorem reads_of_test (state : WebSocketState sampleEngine) (step : Step)
    (after : WebSocketState sampleEngine) (taken : nextWhere undisturbed state step = some after) :
    Reads state step after := by
  unfold nextWhere at taken
  split at taken
  · rename_i test
    unfold undisturbed at test
    rw [Bool.and_eq_true, Bool.and_eq_true, Bool.and_eq_true] at test
    obtain ⟨⟨⟨runs, room⟩, arrives⟩, calm⟩ := test
    refine ⟨taken, of_decide_eq_true runs, fun fault last raised full => ?_, ?_, fun other => ?_⟩
    · rw [raised] at room
      exact of_decide_eq_true room full
    · rintro interrupt cancel rfl
      cases arrives
    · rw [other, Bool.false_or, taken, Option.all_some, Bool.and_eq_true] at calm
      rintro (told | shut)
      · exact told (Option.isNone_iff_eq_none.mp calm.1)
      · rw [shut] at calm
        cases calm.2
  · cases taken

def sampleRun (chunks : List Bytes) : List Step :=
  sampleOpening ++ chunks.map fun chunk => .readerReceives chunk sampleCancel

def sampleReached (trailing : Bytes) (chunks : List Bytes) : WebSocketState sampleEngine :=
  endOf (nextWhere undisturbed)
    (initial sampleEngine sampleStart.config [] [] trailing 0) (sampleRun chunks)

theorem reaches_sample {stream : Bytes} (trailing rest : Bytes) (chunks : List Bytes)
    (executes : (takeAll (nextWhere undisturbed)
      (initial sampleEngine sampleStart.config [] [] trailing 0) (sampleRun chunks)).isSome = true)
    (stopped : (sampleReached trailing chunks).reader = .ended)
    (cut : octetsTaken trailing (sampleRun chunks) ++ rest = stream)
    (goesOn : (sampleRun chunks).any isEnd = false) :
    Reaches sampleEngine sampleStart.config stream false trailing
      (sampleReached trailing chunks) :=
  .ended [] [] rest 0 (sampleRun chunks) _ (run_endOf reads_of_test executes) stopped cut
    fun ends => absurd ends (by rw [goesOn]; exact Bool.false_ne_true)

def messageStream : Bytes := clientFrame 2 [7] ++ clientFrame 8 [3, 232]

def refusedStream : Bytes := clientFrame 9 [1] ++ clientFrame 8 [3, 234] ++ [130, 1]

theorem messageStream_harmless (frames : List Bytes) (header : Bytes)
    (badAt : BadAt sampleStart.config.maxFramePayloadBytes messageStream frames header) :
    Harmless sampleChunkless sampleStart.config frames header := by
  have accepted : (run (octet sampleStart.config.maxFramePayloadBytes) {} messageStream).1 =
      .ok () := by
    decide +kernel
  obtain ⟨error, _, refused⟩ := run_badAt badAt
  rw [refused] at accepted
  cases accepted

theorem refusedStream_harmless (frames : List Bytes) (header : Bytes)
    (badAt : BadAt sampleStart.config.maxFramePayloadBytes refusedStream frames header) :
    Harmless sampleChunkless sampleStart.config frames header := by
  have stops : run (octet sampleStart.config.maxFramePayloadBytes) {} refusedStream =
      (.error .unmasked, ⟨.header [130, 1], clientFrame 9 [1] ++ clientFrame 8 [3, 234]⟩) := by
    decide +kernel
  obtain ⟨error, raises, refused⟩ := run_badAt badAt
  have same := refused.symm.trans stops
  have forwarded : frames.flatten = clientFrame 9 [1] ++ clientFrame 8 [3, 234] :=
    congrArg (fun outcome => outcome.2.forwarded) same
  have unmasked : error = .unmasked := Except.error.inj (congrArg Prod.fst same)
  have heard : hearing sampleStart.config.maxMessageBytes
      (sampleDecode (clientFrame 9 [1] ++ clientFrame 8 [3, 234])) = ⟨[], none, some 1002⟩ := by
    decide +kernel
  refine ⟨?_, fun code other is checked => ?_⟩
  · show (hearing _ (sampleDecode frames.flatten)).messages = []
    rw [forwarded, heard]
  · change (hearing _ (sampleDecode frames.flatten)).code = some code at is
    rw [forwarded, heard] at is
    rw [raises, unmasked] at checked
    cases is
    cases checked
    rfl

theorem delivery_unsegmented_sample :
    ((sampleReached messageStream []).delivered = [.bytes [7]] ∧
      Alike (sampleReached messageStream []) (sampleReached (messageStream.take 1)
        [(messageStream.drop 1).take 3, messageStream.drop 4])) ∧
    Alike (sampleReached [] [refusedStream]) (sampleReached [] [refusedStream.take 15]) :=
  ⟨⟨by decide +kernel,
      (delivery_unsegmented sampleEngine sampleChunkless sampleStart.config messageStream false).1
        messageStream_harmless _ _ _ _
        (reaches_sample messageStream [] [] (by decide +kernel) (by decide +kernel)
          (by decide +kernel) (by decide +kernel))
        (reaches_sample (messageStream.take 1) [] [(messageStream.drop 1).take 3,
          messageStream.drop 4] (by decide +kernel) (by decide +kernel) (by decide +kernel)
          (by decide +kernel))⟩,
    (delivery_unsegmented sampleEngine sampleChunkless sampleStart.config refusedStream false).1
      refusedStream_harmless _ _ _ _
      (reaches_sample [] [] [refusedStream] (by decide +kernel) (by decide +kernel)
        (by decide +kernel) (by decide +kernel))
      (reaches_sample [] (refusedStream.drop 15) [refusedStream.take 15] (by decide +kernel)
        (by decide +kernel) (by decide +kernel) (by decide +kernel))⟩

def lossyStream : Bytes := clientFrame 2 [7] ++ [130, 1]

/-- In one piece the stream loses its message. -/
theorem message_lost_in_one_piece :
    ¬ ∀ (engine : Engine) (_ : Chunkless engine) (settings : WebSocketConfig) (stream : Bytes)
      (closes : Bool) (front back : Bytes) (first second : WebSocketState engine),
      Reaches engine settings stream closes front first →
        Reaches engine settings stream closes back second → Alike first second := by
  intro always
  have same := always sampleEngine sampleChunkless sampleStart.config lossyStream false _ _ _ _
    (reaches_sample [] [] [lossyStream] (by decide +kernel) (by decide +kernel)
      (by decide +kernel) (by decide +kernel))
    (reaches_sample [] [] [lossyStream.take 7, lossyStream.drop 7] (by decide +kernel)
      (by decide +kernel) (by decide +kernel) (by decide +kernel))
  exact absurd same.1 (by decide +kernel)

end Samples

end SmallServer.WebSocketSegmentation
