import SmallServer.Feeding
import SmallServer.Http2Frames
import Mathlib.Algebra.Ring.Nat

/-!
# Cutting received bytes into frames

`_FrameBudget.feed` does with a whole piece what its octets do one by one. So the chunks it
makes ready do not depend on how the input was cut into calls, no octet is lost, and the
sizes it checks bound every frame and every header block.
-/

namespace SmallServer.Http2Splitting

open SmallServer HttpValues Http2Frames Feeding

set_option autoImplicit false

def frameOctet (config : HTTP2Config) (frames : FrameBudget) (octet : UInt8) :
    Except String Unit × FrameBudget :=
  if short : frames.header.length < 9 then
    let grown := frames.extendHeader [octet] short
    if grown.header.length < 9 then (.ok (), grown)
    else
      andThen (FrameBudget.startFrame config grown (frames.payload_after_header short))
        fun started => (.ok (), if started.frameLength = 0 then started.finishFrame else started)
  else (.ok (), frames.feedPayload [octet] short)

def octet (config : HTTP2Config) (frames : FrameBudget) (received : UInt8) :
    Except String Unit × FrameBudget :=
  if frames.prefaceReceived then frameOctet config frames received
  else
    let grown := { frames with preface := frames.preface ++ [received] }
    if grown.preface ≠ clientPreface.take grown.preface.length then
      (.error "invalid HTTP/2 client preface", grown)
    else if grown.preface.length < clientPreface.length then (.ok (), grown)
    else
      (.ok (), { grown with
        ready := grown.ready ++ [grown.preface]
        preface := []
        prefaceReceived := true })

/-- Between two octets no frame is complete that has not been finished. -/
structure Waiting (frames : FrameBudget) : Prop where
  header_le : frames.header.length ≤ 9
  unfinished : frames.header.length = 9 → frames.payload.length < frames.frameLength

section Headers

def lengthOf (frame : Bytes) : Nat := bigEndian (frame.take 3)

def kindOf (frame : Bytes) : Nat := (frame.getD 3 0).toNat

def flagsOf (frame : Bytes) : Nat := (frame.getD 4 0).toNat

def streamOf (frame : Bytes) : Nat := bigEndian ((frame.drop 5).take 4) % 2 ^ 31

/-- An open header block: its stream and the lengths that its frames declared. -/
structure Block where
  stream : Nat
  lengths : List Nat
deriving DecidableEq

/-- The block with the frame in it. HEADERS opens one and CONTINUATION extends it. -/
def withFrame (block : Option Block) (frame : Bytes) : Option Block :=
  if kindOf frame = 1 then some ⟨streamOf frame, [lengthOf frame]⟩
  else if kindOf frame = 9 then
    block.map fun block => { block with lengths := block.lengths ++ [lengthOf frame] }
  else block

def endsBlock (frame : Bytes) : Bool :=
  (kindOf frame == 1 || kindOf frame == 9) && flagsOf frame &&& 4 != 0

def afterFrame (block : Option Block) (frame : Bytes) : Option Block :=
  if endsBlock frame then none else withFrame block frame

def openBlock (frames : List Bytes) : Option Block := frames.foldl afterFrame none

/-- What a frame must be to follow frames that leave this block open. -/
structure Admitted (config : HTTP2Config) (block : Option Block) (frame : Bytes) : Prop where
  size : lengthOf frame ≤ config.maxFrameSize
  starts : kindOf frame = 1 → block = none
  continues : kindOf frame = 9 → ∃ current, block = some current ∧ current.stream = streamOf frame
  bounded : ∀ grown, withFrame block frame = some grown →
    grown.lengths.sum ≤ config.maxCompressedHeaderBytes

structure Tracks (frames : FrameBudget) (block : Option Block) : Prop where
  stream : frames.headerStream = block.map Block.stream
  total : frames.headerBytes = (block.map fun block => block.lengths.sum).getD 0

structure Started (frames : FrameBudget) (block : Option Block) : Prop where
  frameLength : frames.frameLength = lengthOf frames.header
  frameType : frames.frameType = kindOf frames.header
  frameFlags : frames.frameFlags = flagsOf frames.header
  tracks : Tracks frames (withFrame block frames.header)

variable {config : HTTP2Config} {frames : FrameBudget} {block : Option Block}

/-- `_start_frame` admits the frame, or raises on one that may not follow. -/
inductive Starts (config : HTTP2Config) (frames : FrameBudget) (block : Option Block) :
    Except String Unit × FrameBudget → Prop
  | admits (started : FrameBudget) (admitted : Admitted config block frames.header)
      (here : Started started block) : Starts config frames block (.ok (), started)
  | refuses (message : String) (refused : FrameBudget)
      (rejected : ¬ Admitted config block frames.header) :
      Starts config frames block (.error message, refused)

theorem startFrame_headers (tracks : Tracks frames block) (fresh : frames.payload = [])
    (fits : ¬ bigEndian (frames.header.take 3) > config.maxFrameSize)
    (headers : kindOf frames.header = 1) :
    Starts config frames block (FrameBudget.startFrame config frames fresh) := by
  have is : (frames.header.getD 3 0).toNat = 1 := headers
  have grown : withFrame block frames.header =
      some ⟨streamOf frames.header, [lengthOf frames.header]⟩ := if_pos headers
  unfold FrameBudget.startFrame
  dsimp only
  rw [if_neg fits, if_pos is, tracks.stream]
  cases block with
  | some current =>
      refine .refuses _ _ fun admitted => ?_
      cases admitted.starts headers
  | none =>
      rw [if_neg (not_not.mpr (Option.map_none ..))]
      dsimp only
      split
      · rename_i large
        refine .refuses _ _ fun admitted => ?_
        have bounded := admitted.bounded _ grown
        rw [List.sum_singleton] at bounded
        exact absurd bounded (Nat.not_le.mpr large)
      · rename_i small
        refine .admits _ ?_ ⟨rfl, rfl, rfl, ?_⟩
        · refine ⟨Nat.not_lt.mp fits, fun _ => rfl, fun continuation => ?_, ?_⟩
          · rw [headers] at continuation
            cases continuation
          · intro next same
            rw [grown] at same
            cases same
            rw [List.sum_singleton]
            exact Nat.not_lt.mp small
        · refine ⟨?_, ?_⟩
          · rw [grown]
            rfl
          · rw [grown, Option.map_some, Option.getD_some, List.sum_singleton]
            rfl

theorem startFrame_continuation (tracks : Tracks frames block) (fresh : frames.payload = [])
    (fits : ¬ bigEndian (frames.header.take 3) > config.maxFrameSize)
    (continuation : kindOf frames.header = 9) :
    Starts config frames block (FrameBudget.startFrame config frames fresh) := by
  have is : (frames.header.getD 3 0).toNat = 9 := continuation
  have isNot : ¬ (frames.header.getD 3 0).toNat = 1 := by
    rw [is]
    decide
  unfold FrameBudget.startFrame
  dsimp only
  rw [if_neg fits, if_neg isNot, if_pos is, tracks.stream]
  by_cases same : block.map Block.stream =
      some (bigEndian ((frames.header.drop 5).take 4) % 2 ^ 31)
  · obtain ⟨current, rfl, stays⟩ := Option.map_eq_some_iff.mp same
    have grown : withFrame (some current) frames.header =
        some { current with lengths := current.lengths ++ [lengthOf frames.header] } :=
      (if_neg isNot).trans (if_pos is)
    have sum : (current.lengths ++ [lengthOf frames.header]).sum =
        frames.headerBytes + lengthOf frames.header := by
      rw [List.sum_append, List.sum_singleton, tracks.total]
      rfl
    rw [if_neg (not_not.mpr same)]
    dsimp only
    split
    · rename_i large
      refine .refuses _ _ fun admitted => ?_
      have bounded := admitted.bounded _ grown
      rw [sum] at bounded
      exact absurd bounded (Nat.not_le.mpr large)
    · rename_i small
      refine .admits _ ?_ ⟨rfl, rfl, rfl, ?_⟩
      · refine ⟨Nat.not_lt.mp fits, fun here => absurd here isNot,
          fun _ => ⟨current, rfl, stays⟩, ?_⟩
        intro next here
        rw [grown] at here
        cases here
        rw [sum]
        exact Nat.not_lt.mp small
      · refine ⟨?_, ?_⟩
        · rw [grown]
          rfl
        · rw [grown]
          exact sum.symm
  · rw [if_pos same]
    refine .refuses _ _ fun admitted => ?_
    obtain ⟨current, rfl, stays⟩ := admitted.continues continuation
    exact same (congrArg some stays)

theorem startFrame_other (tracks : Tracks frames block) (fresh : frames.payload = [])
    (fits : ¬ bigEndian (frames.header.take 3) > config.maxFrameSize)
    (noHeaders : kindOf frames.header ≠ 1) (noContinuation : kindOf frames.header ≠ 9) :
    Starts config frames block (FrameBudget.startFrame config frames fresh) := by
  have isNot : ¬ (frames.header.getD 3 0).toNat = 1 := noHeaders
  have norIs : ¬ (frames.header.getD 3 0).toNat = 9 := noContinuation
  have grown : withFrame block frames.header = block := (if_neg isNot).trans (if_neg norIs)
  unfold FrameBudget.startFrame
  dsimp only
  rw [if_neg fits, if_neg isNot, if_neg norIs]
  dsimp only
  split
  · rename_i large
    refine .refuses _ _ fun admitted => ?_
    rw [tracks.total] at large
    cases block with
    | none => exact absurd large (Nat.not_lt_zero _)
    | some current => exact absurd (admitted.bounded current grown) (Nat.not_le.mpr large)
  · rename_i small
    rw [tracks.total] at small
    refine .admits _ ?_ ⟨rfl, rfl, rfl, ?_⟩
    · refine ⟨Nat.not_lt.mp fits, fun here => absurd here noHeaders,
        fun here => absurd here noContinuation, ?_⟩
      intro next here
      rw [grown] at here
      subst here
      exact Nat.not_lt.mp small
    · rw [grown]
      exact ⟨tracks.stream, tracks.total⟩

/-- `_start_frame` raises exactly on a frame that may not follow. -/
theorem startFrame_starts (config : HTTP2Config) (tracks : Tracks frames block)
    (fresh : frames.payload = []) :
    Starts config frames block (FrameBudget.startFrame config frames fresh) := by
  by_cases large : lengthOf frames.header > config.maxFrameSize
  · have raised : FrameBudget.startFrame config frames fresh =
        (.error "HTTP/2 frame exceeds configured maximum", frames) := if_pos large
    rw [raised]
    exact .refuses _ _ fun admitted =>
      absurd admitted.size (Nat.not_le.mpr large)
  · by_cases headers : kindOf frames.header = 1
    · exact startFrame_headers tracks fresh large headers
    · by_cases continuation : kindOf frames.header = 9
      · exact startFrame_continuation tracks fresh large continuation
      · exact startFrame_other tracks fresh large headers continuation

end Headers

section Octets

variable {config : HTTP2Config} {frames : FrameBudget} {data : Bytes}

theorem extendHeader_nil (short : frames.header.length < 9) :
    frames.extendHeader [] short = frames := by
  unfold FrameBudget.extendHeader
  simp only [List.append_nil]

theorem extendHeader_append {first second : Bytes} (short : frames.header.length < 9)
    (still : (frames.extendHeader first short).header.length < 9) :
    (frames.extendHeader first short).extendHeader second still =
      frames.extendHeader (first ++ second) short := by
  unfold FrameBudget.extendHeader
  simp only [List.append_assoc]

theorem extendPayload_nil (complete : ¬ frames.header.length < 9) :
    frames.extendPayload [] complete = frames := by
  unfold FrameBudget.extendPayload
  simp only [List.take_nil, List.append_nil]

theorem run_header {octets : Bytes} (short : frames.header.length < 9)
    (incomplete : frames.header.length + octets.length < 9) :
    run (frameOctet config) frames octets = (.ok (), frames.extendHeader octets short) := by
  induction octets generalizing frames with
  | nil => rw [run_nil, extendHeader_nil]
  | cons octet octets induction =>
      rw [List.length_cons] at incomplete
      have still : (frames.extendHeader [octet] short).header.length < 9 := by
        rw [FrameBudget.extendHeader, List.length_append, List.length_singleton]
        omega
      have one : frameOctet config frames octet =
          (.ok (), frames.extendHeader [octet] short) := by
        unfold frameOctet
        rw [dif_pos short]
        exact if_pos still
      rw [run_cons, one, andThen_ok, induction still, extendHeader_append]
      · rfl
      · rw [FrameBudget.extendHeader, List.length_append, List.length_singleton]
        omega

theorem run_start (short : frames.header.length < 9)
    (enough : 9 - frames.header.length ≤ data.length) :
    run (frameOctet config) frames data =
      andThen (FrameBudget.startFrame config
          (frames.extendHeader (data.take (9 - frames.header.length)) short)
          (frames.payload_after_header short)) fun started =>
        run (frameOctet config)
          (if started.frameLength = 0 then started.finishFrame else started)
          (data.drop (9 - frames.header.length)) := by
  obtain ⟨missing, needed⟩ : ∃ missing, 9 - frames.header.length = missing + 1 :=
    ⟨8 - frames.header.length, by omega⟩
  rw [needed] at enough ⊢
  have cut : data = data.take missing ++ data[missing] :: data.drop (missing + 1) := by
    rw [← List.drop_eq_getElem_cons, List.take_append_drop]
  have front : (data.take missing).length = missing := by
    rw [List.length_take]
    omega
  have still : (frames.extendHeader (data.take missing) short).header.length < 9 := by
    rw [FrameBudget.extendHeader, List.length_append, front]
    omega
  have before : run (frameOctet config) frames (data.take missing) =
      (.ok (), frames.extendHeader (data.take missing) short) :=
    run_header short (by omega)
  conv_lhs => rw [cut]
  rw [run_append_ok before, run_cons]
  unfold frameOctet
  rw [dif_pos still]
  simp only [extendHeader_append]
  have whole : data.take missing ++ [data[missing]] = data.take (missing + 1) := by
    rw [List.take_add_one, List.getElem?_eq_getElem, Option.toList_some]
  have complete : ¬ (frames.extendHeader (data.take missing ++ [data[missing]])
      short).header.length < 9 := by
    rw [FrameBudget.extendHeader, List.length_append, List.length_append, front,
      List.length_singleton]
    omega
  rw [if_neg complete, andThen_assoc]
  simp only [whole, andThen_ok]

theorem run_payload {octets : Bytes} (complete : ¬ frames.header.length < 9)
    (incomplete : frames.payload.length + octets.length < frames.frameLength) :
    run (frameOctet config) frames octets = (.ok (), frames.extendPayload octets complete) := by
  induction octets generalizing frames with
  | nil => rw [run_nil, extendPayload_nil]
  | cons octet octets induction =>
      rw [List.length_cons] at incomplete
      have room : [octet].take (frames.frameLength - frames.payload.length) = [octet] := by
        apply List.take_of_length_le
        rw [List.length_singleton]
        omega
      have grown : (frames.extendPayload [octet] complete).payload.length =
          frames.payload.length + 1 := by
        rw [FrameBudget.extendPayload, List.length_append, room, List.length_singleton]
      have one : frameOctet config frames octet =
          (.ok (), frames.extendPayload [octet] complete) := by
        unfold frameOctet
        rw [dif_neg complete]
        unfold FrameBudget.feedPayload
        dsimp only
        rw [if_neg]
        omega
      have still : (frames.extendPayload [octet] complete).payload.length + octets.length <
          (frames.extendPayload [octet] complete).frameLength := by
        rw [grown]
        change _ < frames.frameLength
        omega
      have rest : run (frameOctet config) (frames.extendPayload [octet] complete) octets =
          (.ok (), (frames.extendPayload [octet] complete).extendPayload octets complete) := by
        apply induction
        exact still
      rw [run_cons, one, andThen_ok, rest]
      unfold FrameBudget.extendPayload
      have more : (octet :: octets).take (frames.frameLength - frames.payload.length) =
          octet :: octets := by
        apply List.take_of_length_le
        rw [List.length_cons]
        omega
      have left : octets.take (frames.frameLength - (frames.payload ++ [octet]).length) =
          octets := by
        apply List.take_of_length_le
        rw [List.length_append, List.length_singleton]
        omega
      simp only [room, more, left, List.append_assoc, List.singleton_append]

theorem run_feedPayload (complete : ¬ frames.header.length < 9)
    (unfinished : frames.payload.length < frames.frameLength) :
    run (frameOctet config) frames data =
      run (frameOctet config) (frames.feedPayload data complete) (frames.afterPayload data) := by
  rcases Nat.lt_or_ge (frames.payload.length + data.length) frames.frameLength with short | enough
  · have room : data.take (frames.frameLength - frames.payload.length) = data := by
      apply List.take_of_length_le
      omega
    have used : frames.afterPayload data = [] := by
      apply List.drop_eq_nil_of_le
      omega
    have grown : frames.feedPayload data complete = frames.extendPayload data complete := by
      unfold FrameBudget.feedPayload
      dsimp only
      rw [if_neg]
      rw [FrameBudget.extendPayload, List.length_append, room]
      omega
    rw [run_payload complete short, used, run_nil, grown]
  · obtain ⟨missing, needed⟩ :
        ∃ missing, frames.frameLength - frames.payload.length = missing + 1 :=
      ⟨frames.frameLength - frames.payload.length - 1, by omega⟩
    have within : missing < data.length := by omega
    have cut : data = data.take missing ++ data[missing] :: data.drop (missing + 1) := by
      rw [← List.drop_eq_getElem_cons, List.take_append_drop]
    have front : (data.take missing).length = missing := by
      rw [List.length_take]
      omega
    have before : run (frameOctet config) frames (data.take missing) =
        (.ok (), frames.extendPayload (data.take missing) complete) :=
      run_payload complete (by omega)
    have kept : (frames.extendPayload (data.take missing) complete).payload =
        frames.payload ++ data.take missing := by
      have short : (data.take missing).take (frames.frameLength - frames.payload.length) =
          data.take missing := by
        rw [needed, List.take_take, Nat.min_eq_right (Nat.le_succ _)]
      exact congrArg (frames.payload ++ ·) short
    have one : [data[missing]].take
        ((frames.extendPayload (data.take missing) complete).frameLength -
          (frames.extendPayload (data.take missing) complete).payload.length) =
        [data[missing]] := by
      apply List.take_of_length_le
      rw [kept, List.length_append, front, List.length_singleton]
      change 1 ≤ frames.frameLength - _
      omega
    have whole : data.take missing ++ [data[missing]] = data.take (missing + 1) := by
      rw [List.take_add_one, List.getElem?_eq_getElem, Option.toList_some]
    have last : (frames.extendPayload (data.take missing) complete).extendPayload
        [data[missing]] complete = frames.extendPayload data complete := by
      have paid : (frames.extendPayload (data.take missing) complete).payload ++
          [data[missing]].take
            ((frames.extendPayload (data.take missing) complete).frameLength -
              (frames.extendPayload (data.take missing) complete).payload.length) =
          frames.payload ++ data.take (frames.frameLength - frames.payload.length) := by
        rw [one, kept, needed, List.append_assoc, whole]
      unfold FrameBudget.extendPayload
      simp only [FrameBudget.mk.injEq, true_and, and_true]
      exact paid
    have step : frameOctet config (frames.extendPayload (data.take missing) complete)
        data[missing] = (.ok (), frames.feedPayload data complete) := by
      have held : ¬ (frames.extendPayload (data.take missing) complete).header.length < 9 :=
        complete
      unfold frameOctet
      rw [dif_neg held]
      unfold FrameBudget.feedPayload
      rw [last]
      rfl
    conv_lhs => rw [cut]
    rw [run_append_ok before, run_cons, step, andThen_ok, FrameBudget.afterPayload, needed]

theorem waiting_finishFrame (frames : FrameBudget) : Waiting frames.finishFrame where
  header_le := Nat.zero_le 9
  unfinished := fun complete => absurd complete (Nat.zero_ne_add_one 8)

theorem waiting_feedPayload (waiting : Waiting frames) (complete : ¬ frames.header.length < 9) :
    Waiting (frames.feedPayload data complete) := by
  unfold FrameBudget.feedPayload
  dsimp only
  split
  · exact waiting_finishFrame _
  · rename_i unfinished
    exact ⟨waiting.header_le, fun _ =>
      lt_of_le_of_ne (frames.extendPayload data complete).payload_bounded unfinished⟩

/-- The loop does what the octets do one by one. -/
theorem feedFrames_eq_run (config : HTTP2Config) (frames : FrameBudget) (data : Bytes)
    (waiting : Waiting frames) :
    FrameBudget.feedFrames config frames data = run (frameOctet config) frames data := by
  fun_induction FrameBudget.feedFrames config frames data with
  | case1 frames => rfl
  | case2 frames data nonempty short grown incomplete =>
      have atMost : frames.header.length + data.length < 9 := by
        have length : grown.header.length =
            frames.header.length + min (9 - frames.header.length) data.length := by
          rw [← List.length_take]
          exact List.length_append
        omega
      have all : data.take (9 - frames.header.length) = data := by
        apply List.take_of_length_le
        omega
      rw [run_header short atMost]
      simp only [grown, all]
  | case3 frames data nonempty short grown incomplete message started outcome =>
      have length : grown.header.length =
          frames.header.length + min (9 - frames.header.length) data.length := by
        rw [← List.length_take]
        exact List.length_append
      rw [run_start short (by omega), outcome, andThen_error]
  | case4 frames data nonempty short grown rest incomplete started outcome empty induction =>
      have length : grown.header.length =
          frames.header.length + min (9 - frames.header.length) data.length := by
        rw [← List.length_take]
        exact List.length_append
      rw [run_start short (by omega), outcome, andThen_ok, if_pos empty,
        induction (waiting_finishFrame started)]
  | case5 frames data nonempty short grown rest incomplete started outcome some complete
      induction =>
      have length : grown.header.length =
          frames.header.length + min (9 - frames.header.length) data.length := by
        rw [← List.length_take]
        exact List.length_append
      have kept := FrameBudget.startFrame_kept config grown (frames.payload_after_header short)
      rw [outcome] at kept
      have payload : started.payload = [] :=
        kept.payload.trans (frames.payload_after_header short)
      have fresh : started.payload.length < started.frameLength := by
        rw [payload]
        exact Nat.pos_of_ne_zero some
      have waits : Waiting started := ⟨by rw [kept.header]; omega, fun _ => fresh⟩
      rw [run_start short (by omega), outcome, andThen_ok, if_neg some,
        run_feedPayload complete fresh, induction (waiting_feedPayload waits complete)]
  | case6 frames data nonempty short induction =>
      have header := waiting.header_le
      rw [run_feedPayload short (waiting.unfinished (by omega)),
        induction (waiting_feedPayload waiting short)]

end Octets

section Frames

variable {config : HTTP2Config} {frames : FrameBudget} {block : Option Block}
  {fed : Bytes} {whole : List Bytes}

/-- Whole frames, each of which may follow the ones before it. -/
def WellFormed (config : HTTP2Config) (whole : List Bytes) : Prop :=
  ∀ earlier frame later, whole = earlier ++ frame :: later →
    frame.length = 9 + lengthOf frame ∧ Admitted config (openBlock earlier) frame

theorem wellFormed_nil (config : HTTP2Config) : WellFormed config [] := by
  intro earlier frame later same
  cases earlier <;> cases same

theorem wellFormed_snoc {frame : Bytes} (before : WellFormed config whole)
    (length : frame.length = 9 + lengthOf frame)
    (admitted : Admitted config (openBlock whole) frame) :
    WellFormed config (whole ++ [frame]) := by
  intro earlier other later same
  rcases List.eq_nil_or_concat later with rfl | ⟨front, last, rfl⟩
  · obtain ⟨rfl, here⟩ := List.append_inj' same rfl
    cases here
    exact ⟨length, admitted⟩
  · rw [List.concat_eq_append, ← List.cons_append, ← List.append_assoc] at same
    obtain ⟨here, _⟩ := List.append_inj' same rfl
    exact before earlier other front here

theorem declared_append {header : Bytes} (complete : header.length = 9) (payload : Bytes) :
    lengthOf (header ++ payload) = lengthOf header ∧
      kindOf (header ++ payload) = kindOf header ∧
      flagsOf (header ++ payload) = flagsOf header ∧
      streamOf (header ++ payload) = streamOf header := by
  refine ⟨?_, ?_, ?_, ?_⟩
  · unfold lengthOf
    rw [List.take_append_of_le_length (by omega)]
  · unfold kindOf
    rw [List.getD_eq_getElem?_getD, List.getElem?_append_left (by omega),
      ← List.getD_eq_getElem?_getD]
  · unfold flagsOf
    rw [List.getD_eq_getElem?_getD, List.getElem?_append_left (by omega),
      ← List.getD_eq_getElem?_getD]
  · unfold streamOf
    rw [List.drop_append_of_le_length (by omega),
      List.take_append_of_le_length (by rw [List.length_drop]; omega)]

theorem withFrame_append {header : Bytes} (complete : header.length = 9) (payload : Bytes)
    (block : Option Block) : withFrame block (header ++ payload) = withFrame block header := by
  obtain ⟨length, kind, flags, stream⟩ := declared_append complete payload
  unfold withFrame
  rw [length, kind, stream]

theorem admitted_append {header : Bytes} (complete : header.length = 9) (payload : Bytes)
    (admitted : Admitted config block header) : Admitted config block (header ++ payload) := by
  obtain ⟨length, kind, flags, stream⟩ := declared_append complete payload
  refine ⟨?_, ?_, ?_, ?_⟩
  · rw [length]
    exact admitted.size
  · rw [kind]
    exact admitted.starts
  · rw [kind, stream]
    exact admitted.continues
  · rw [withFrame_append complete]
    exact admitted.bounded

/-- The frame that `_finish_frame` makes ready closes the block or leaves it open. -/
theorem tracks_finishFrame (complete : frames.header.length = 9) (started : Started frames block) :
    Tracks frames.finishFrame (afterFrame block (frames.header ++ frames.payload)) := by
  obtain ⟨length, kind, flags, stream⟩ := declared_append complete frames.payload
  have ends : endsBlock (frames.header ++ frames.payload) =
      ((frames.frameType == 1 || frames.frameType == 9) && frames.frameFlags &&& 4 != 0) := by
    unfold endsBlock
    rw [kind, flags, started.frameType, started.frameFlags]
  unfold afterFrame
  rw [ends, withFrame_append complete]
  unfold FrameBudget.finishFrame
  split
  · rename_i closes
    refine ⟨?_, ?_⟩
    · dsimp only
      rw [if_pos closes]
      rfl
    · dsimp only
      rw [if_pos closes]
      rfl
  · rename_i stays
    refine ⟨?_, ?_⟩
    · dsimp only
      rw [if_neg stays]
      exact started.tracks.stream
    · dsimp only
      rw [if_neg stays]
      exact started.tracks.total

/-- Behind the preface: what was fed is what is ready and what is kept. -/
structure Behind (config : HTTP2Config) (fed : Bytes) (whole : List Bytes)
    (frames : FrameBudget) : Prop where
  received : frames.prefaceReceived = true
  preface : frames.preface = []
  ready : frames.ready = clientPreface :: whole
  wellFormed : WellFormed config whole
  lossless : clientPreface ++ whole.flatten ++ (frames.header ++ frames.payload) = fed

structure Between (config : HTTP2Config) (fed : Bytes) (whole : List Bytes)
    (frames : FrameBudget) : Prop extends Behind config fed whole frames where
  short : frames.header.length < 9
  tracks : Tracks frames (openBlock whole)

structure Inside (config : HTTP2Config) (fed : Bytes) (whole : List Bytes)
    (frames : FrameBudget) : Prop extends Behind config fed whole frames where
  complete : frames.header.length = 9
  started : Started frames (openBlock whole)
  admitted : Admitted config (openBlock whole) frames.header
  unfinished : frames.payload.length < lengthOf frames.header

structure Refused (config : HTTP2Config) (fed : Bytes) (whole : List Bytes)
    (frames : FrameBudget) : Prop extends Behind config fed whole frames where
  complete : frames.header.length = 9
  empty : frames.payload = []
  rejected : ¬ Admitted config (openBlock whole) frames.header

theorem between_finishFrame (behind : Behind config fed whole frames)
    (complete : frames.header.length = 9) (started : Started frames (openBlock whole))
    (admitted : Admitted config (openBlock whole) frames.header)
    (finished : frames.payload.length = lengthOf frames.header) :
    Between config fed (whole ++ [frames.header ++ frames.payload]) frames.finishFrame where
  received := behind.received
  preface := behind.preface
  ready := by
    unfold FrameBudget.finishFrame
    rw [behind.ready, List.cons_append]
  wellFormed := by
    refine wellFormed_snoc behind.wellFormed ?_ (admitted_append complete _ admitted)
    rw [(declared_append complete frames.payload).1, List.length_append, complete, finished]
  lossless := by
    have emptied : frames.finishFrame.header ++ frames.finishFrame.payload = [] := rfl
    rw [emptied, List.append_nil, List.flatten_append, List.flatten_singleton,
      ← List.append_assoc]
    exact behind.lossless
  short := by
    change 0 < 9
    decide
  tracks := by
    rw [openBlock, List.foldl_append]
    exact tracks_finishFrame complete started

end Frames

section Steps

variable {config : HTTP2Config} {frames next : FrameBudget} {fed : Bytes} {whole : List Bytes}
  {received : UInt8} {message : String}

structure Opening (fed : Bytes) (frames : FrameBudget) : Prop where
  waits : frames.prefaceReceived = false
  preface : frames.preface = fed
  matching : fed = clientPreface.take fed.length
  short : fed.length < clientPreface.length
  ready : frames.ready = []
  header : frames.header = []
  payload : frames.payload = []
  tracks : Tracks frames none

/-- What the octets fed so far have left, as long as none of them raised. -/
inductive Split (config : HTTP2Config) (fed : Bytes) (frames : FrameBudget) : Prop
  | opening (here : Opening fed frames)
  | between (whole : List Bytes) (here : Between config fed whole frames)
  | inside (whole : List Bytes) (here : Inside config fed whole frames)

inductive Failed (config : HTTP2Config) (fed : Bytes) (frames : FrameBudget) : Prop
  | preface (waits : frames.prefaceReceived = false)
      (mismatch : fed ≠ clientPreface.take fed.length) (ready : frames.ready = [])
      (header : frames.header = []) (payload : frames.payload = [])
  | frame (whole : List Bytes) (here : Refused config fed whole frames)

inductive Outcome (config : HTTP2Config) (fed : Bytes) : Except String Unit × FrameBudget → Prop
  | ok (next : FrameBudget) (here : Split config fed next) : Outcome config fed (.ok (), next)
  | error (message : String) (next : FrameBudget) (here : Failed config fed next) :
      Outcome config fed (.error message, next)

/-- A header that is complete starts its frame, and an empty frame is finished at once. -/
theorem start_outcome (behind : Behind config fed whole frames)
    (complete : frames.header.length = 9) (fresh : frames.payload = [])
    (tracks : Tracks frames (openBlock whole)) :
    Outcome config fed (andThen (FrameBudget.startFrame config frames fresh) fun started =>
      (.ok (), if started.frameLength = 0 then started.finishFrame else started)) := by
  have kept := FrameBudget.startFrame_kept config frames fresh
  have starts := startFrame_starts config tracks fresh
  revert kept starts
  generalize FrameBudget.startFrame config frames fresh = outcome
  intro kept starts
  have same : ∀ started, FrameBudget.Kept frames started → Behind config fed whole started := by
    intro started kept
    refine ⟨?_, ?_, ?_, behind.wellFormed, ?_⟩
    · rw [kept.prefaceReceived, behind.received]
    · rw [kept.preface, behind.preface]
    · rw [kept.ready, behind.ready]
    · rw [kept.header, kept.payload, behind.lossless]
  cases starts with
  | refuses message refused rejected =>
      rw [andThen_error]
      refine .error message refused (.frame whole ⟨same refused kept, ?_, ?_, ?_⟩)
      · rw [kept.header, complete]
      · rw [kept.payload, fresh]
      · rw [kept.header]
        exact rejected
  | admits started admitted here =>
      rw [andThen_ok]
      have length : started.header.length = 9 := by rw [kept.header, complete]
      have empty : started.payload = [] := by rw [kept.payload, fresh]
      have follows : Admitted config (openBlock whole) started.header := by
        rw [kept.header]
        exact admitted
      split
      · rename_i none
        refine .ok _ (.between _ (between_finishFrame (same started kept) length here follows ?_))
        rw [empty, ← here.frameLength, none]
        rfl
      · rename_i some
        refine .ok _ (.inside whole ⟨same started kept, length, here, follows, ?_⟩)
        rw [empty, ← here.frameLength]
        exact Nat.pos_of_ne_zero some

theorem frameOctet_between (between : Between config fed whole frames) :
    Outcome config (fed ++ [received]) (frameOctet config frames received) := by
  have short := between.short
  have fresh := frames.payload_after_header short
  have behind : Behind config (fed ++ [received]) whole
      (frames.extendHeader [received] short) := by
    refine ⟨between.received, between.preface, between.ready, between.wellFormed, ?_⟩
    change clientPreface ++ whole.flatten ++ (frames.header ++ [received] ++ frames.payload) = _
    rw [← between.lossless, fresh]
    simp only [List.append_assoc, List.append_nil]
  have tracks : Tracks (frames.extendHeader [received] short) (openBlock whole) :=
    ⟨between.tracks.stream, between.tracks.total⟩
  have length : (frames.extendHeader [received] short).header.length =
      frames.header.length + 1 := List.length_append
  unfold frameOctet
  rw [dif_pos short]
  dsimp only
  split
  · rename_i still
    exact .ok _ (.between whole ⟨behind, still, tracks⟩)
  · exact start_outcome behind (by omega) _ tracks

theorem frameOctet_inside (inside : Inside config fed whole frames) :
    Outcome config (fed ++ [received]) (frameOctet config frames received) := by
  have complete : ¬ frames.header.length < 9 := by
    rw [inside.complete]
    decide
  have room : [received].take (frames.frameLength - frames.payload.length) = [received] := by
    apply List.take_of_length_le
    have unfinished := inside.unfinished
    rw [inside.started.frameLength, List.length_singleton]
    omega
  have payload : (frames.extendPayload [received] complete).payload =
      frames.payload ++ [received] := congrArg (frames.payload ++ ·) room
  have behind : Behind config (fed ++ [received]) whole
      (frames.extendPayload [received] complete) := by
    refine ⟨inside.received, inside.preface, inside.ready, inside.wellFormed, ?_⟩
    rw [payload, ← inside.lossless]
    change _ ++ (frames.header ++ _) = _
    simp only [List.append_assoc]
  have started : Started (frames.extendPayload [received] complete) (openBlock whole) :=
    ⟨inside.started.frameLength, inside.started.frameType, inside.started.frameFlags,
      inside.started.tracks.stream, inside.started.tracks.total⟩
  unfold frameOctet
  rw [dif_neg complete]
  unfold FrameBudget.feedPayload
  dsimp only
  split
  · rename_i finished
    refine .ok _ (.between _ (between_finishFrame behind inside.complete started
      inside.admitted ?_))
    rw [finished]
    exact inside.started.frameLength
  · rename_i unfinished
    refine .ok _ (.inside whole ⟨behind, inside.complete, started, inside.admitted, ?_⟩)
    have bounded := (frames.extendPayload [received] complete).payload_bounded
    have declared : (frames.extendPayload [received] complete).frameLength =
        lengthOf frames.header := inside.started.frameLength
    have other : (frames.extendPayload [received] complete).payload.length ≠
        lengthOf frames.header := fun same => unfinished (same.trans declared.symm)
    change _ < lengthOf frames.header
    omega

theorem octet_mismatch (opening : Opening fed frames)
    (mismatch : fed ++ [received] ≠ clientPreface.take (fed ++ [received]).length) :
    octet config frames received =
      (.error "invalid HTTP/2 client preface", { frames with preface := fed ++ [received] }) := by
  unfold octet
  rw [if_neg (by rw [opening.waits]; decide), opening.preface]
  exact if_pos mismatch

theorem octet_matches (config : HTTP2Config) (opening : Opening fed frames)
    (matching : fed ++ [received] = clientPreface.take (fed ++ [received]).length) :
    ∃ next, octet config frames received = (.ok (), next) ∧
      Split config (fed ++ [received]) next := by
  unfold octet
  rw [if_neg (by rw [opening.waits]; decide), opening.preface]
  dsimp only
  rw [if_neg (not_not.mpr matching)]
  split
  · rename_i short
    exact ⟨_, rfl, .opening ⟨opening.waits, rfl, matching, short, opening.ready, opening.header,
      opening.payload, opening.tracks.stream, opening.tracks.total⟩⟩
  · rename_i long
    have short := opening.short
    have length : (fed ++ [received]).length = clientPreface.length := by
      rw [List.length_append, List.length_singleton] at long ⊢
      omega
    have all : fed ++ [received] = clientPreface := by
      rw [matching, length, List.take_length]
    refine ⟨_, rfl, .between [] ⟨⟨rfl, rfl, ?_, wellFormed_nil config, ?_⟩, ?_, ?_⟩⟩
    · change frames.ready ++ [fed ++ [received]] = _
      rw [opening.ready, all]
      rfl
    · change _ ++ _ ++ (frames.header ++ frames.payload) = _
      rw [opening.header, opening.payload, all]
      simp only [List.flatten_nil, List.append_nil]
    · change frames.header.length < 9
      rw [opening.header]
      decide
    · exact ⟨opening.tracks.stream, opening.tracks.total⟩

theorem octet_opening (opening : Opening fed frames) :
    Outcome config (fed ++ [received]) (octet config frames received) := by
  by_cases matching : fed ++ [received] = clientPreface.take (fed ++ [received]).length
  · obtain ⟨next, stepped, split⟩ := octet_matches config opening matching
    rw [stepped]
    exact .ok next split
  · rw [octet_mismatch opening matching]
    exact .error _ _ (.preface opening.waits matching opening.ready opening.header
      opening.payload)

theorem octet_outcome (split : Split config fed frames) (symbol : UInt8) :
    Outcome config (fed ++ [symbol]) (octet config frames symbol) := by
  cases split with
  | opening here => exact octet_opening here
  | between whole here =>
      unfold octet
      rw [if_pos here.received]
      exact frameOctet_between here
  | inside whole here =>
      unfold octet
      rw [if_pos here.received]
      exact frameOctet_inside here

theorem split_new (config : HTTP2Config) : Split config [] FrameBudget.new :=
  .opening ⟨rfl, rfl, rfl, by decide, rfl, rfl, rfl, rfl, rfl⟩

end Steps

section Pieces

variable {config : HTTP2Config} {frames : FrameBudget} {fed : Bytes}

/-- Equal, but for a preface that did not match. -/
structure Alike (first second : FrameBudget) : Prop where
  rest : first = { second with preface := first.preface }
  preface : second.prefaceReceived = true → first.preface = second.preface

theorem started_received (outcome : Except String Unit × FrameBudget) :
    (andThen outcome fun started => (.ok (),
        if started.frameLength = 0 then started.finishFrame else started)).2.prefaceReceived =
      outcome.2.prefaceReceived := by
  obtain ⟨_ | _, started⟩ := outcome
  · rfl
  · rw [andThen_ok]
    split
    · rfl
    · rfl

theorem frameOctet_received (config : HTTP2Config) (frames : FrameBudget) (received : UInt8) :
    (frameOctet config frames received).2.prefaceReceived = frames.prefaceReceived := by
  unfold frameOctet
  split
  · rename_i short
    dsimp only
    split
    · rfl
    · have same := FrameBudget.startFrame_prefaceReceived config
        (frames.extendHeader [received] short) (frames.payload_after_header short)
      exact (started_received _).trans same
  · exact FrameBudget.feedPayload_prefaceReceived ..

theorem run_octet_received {data : Bytes} (behind : frames.prefaceReceived = true) :
    run (octet config) frames data = run (frameOctet config) frames data := by
  induction data generalizing frames with
  | nil => rfl
  | cons received data induction =>
      have same := frameOctet_received config frames received
      have one : octet config frames received = frameOctet config frames received :=
        if_pos behind
      rw [run_cons, run_cons, one]
      revert same
      generalize frameOctet config frames received = outcome
      intro same
      obtain ⟨_ | _, next⟩ := outcome
      · rfl
      · exact induction (same.trans behind)

theorem Split.waiting (split : Split config fed frames) : Waiting frames := by
  cases split with
  | opening here =>
      refine ⟨?_, fun complete => ?_⟩
      · rw [here.header]
        exact Nat.zero_le 9
      · rw [here.header] at complete
        cases complete
  | between whole here =>
      have short := here.short
      exact ⟨by omega, fun complete => by omega⟩
  | inside whole here =>
      refine ⟨by rw [here.complete], fun _ => ?_⟩
      rw [here.started.frameLength]
      exact here.unfinished

theorem Opening.settled (opening : Opening fed frames) : frames.Settled := by
  refine Or.inr ⟨?_, ?_⟩
  · rw [opening.preface]
    exact opening.matching
  · rw [opening.preface]
    exact opening.short

theorem feed_cons (opening : Opening fed frames) {received : UInt8} {data : Bytes}
    (matching : fed ++ [received] = clientPreface.take (fed ++ [received]).length) :
    FrameBudget.feed config frames (received :: data) =
      FrameBudget.feed config (octet config frames received).2 data := by
  have short := opening.short
  have waits : ¬ frames.prefaceReceived = true := by
    rw [opening.waits]
    decide
  obtain ⟨missing, needed⟩ : ∃ missing, clientPreface.length - fed.length = missing + 1 :=
    ⟨clientPreface.length - fed.length - 1, by omega⟩
  have length : (fed ++ [received]).length = fed.length + 1 := List.length_append
  unfold octet
  rw [if_neg waits, opening.preface]
  dsimp only
  rw [if_neg (not_not.mpr matching)]
  conv_lhs => unfold FrameBudget.feed
  rw [if_neg waits, opening.preface, needed]
  dsimp only
  rw [List.take_succ_cons, List.drop_succ_cons]
  by_cases incomplete : (fed ++ [received]).length < clientPreface.length
  · have fewer : clientPreface.length - (fed ++ [received]).length = missing := by omega
    rw [if_pos incomplete]
    conv_rhs => unfold FrameBudget.feed
    dsimp only
    rw [if_neg waits, fewer]
    simp only [List.append_assoc, List.singleton_append]
  · have none : missing = 0 := by omega
    rw [if_neg incomplete]
    conv_rhs => unfold FrameBudget.feed
    dsimp only
    rw [if_pos rfl]
    subst none
    rw [List.take_zero, List.drop_zero, if_neg (not_not.mpr matching), if_neg incomplete]

section Alike

variable {first second : FrameBudget} (alike : Alike first second)

include alike

theorem Alike.header : first.header = second.header := by
  rw [alike.rest]

theorem Alike.payload : first.payload = second.payload := by
  rw [alike.rest]

theorem Alike.ready : first.ready = second.ready := by
  rw [alike.rest]

theorem Alike.received : first.prefaceReceived = second.prefaceReceived := by
  rw [alike.rest]

theorem Alike.eq (behind : second.prefaceReceived = true) : first = second := by
  rw [alike.rest, alike.preface behind]

end Alike

theorem Alike.refl (frames : FrameBudget) : Alike frames frames := ⟨rfl, fun _ => rfl⟩

theorem agree_self (outcome : Except String Unit × FrameBudget) :
    Agree Eq Alike outcome outcome :=
  ⟨rfl, fun _ => rfl, fun _ _ => Alike.refl _⟩

theorem feed_received (split : Split config fed frames) (behind : frames.prefaceReceived = true)
    (data : Bytes) : FrameBudget.feed config frames data = run (octet config) frames data := by
  rw [run_octet_received behind, ← feedFrames_eq_run config frames data split.waiting]
  exact if_pos behind

/-- An octet that does not match makes the piece raise, whatever comes behind it. -/
theorem feed_mismatch (config : HTTP2Config) {received : UInt8} (data : Bytes)
    (opening : Opening fed frames)
    (mismatch : fed ++ [received] ≠ clientPreface.take (fed ++ [received]).length) :
    Agree Eq Alike (FrameBudget.feed config frames (received :: data))
      (octet config frames received) := by
  have short := opening.short
  have waits : ¬ frames.prefaceReceived = true := by
    rw [opening.waits]
    decide
  obtain ⟨missing, needed⟩ : ∃ missing, clientPreface.length - fed.length = missing + 1 :=
    ⟨clientPreface.length - fed.length - 1, by omega⟩
  have longer : fed ++ received :: data.take missing ≠
      clientPreface.take (fed ++ received :: data.take missing).length := by
    intro agrees
    apply mismatch
    have cut := congrArg (List.take (fed ++ [received]).length) agrees
    rw [List.take_take, Nat.min_eq_left] at cut
    · rw [← cut]
      have joined : fed ++ received :: data.take missing =
          (fed ++ [received]) ++ data.take missing := by
        rw [List.append_assoc, List.singleton_append]
      rw [joined, List.take_left]
    · rw [List.length_append, List.length_singleton, List.length_append, List.length_cons]
      omega
  unfold FrameBudget.feed octet
  rw [if_neg waits, if_neg waits, opening.preface, needed]
  dsimp only
  rw [List.take_succ_cons, if_pos longer, if_pos mismatch]
  refine Agree.error ⟨rfl, fun received => absurd received waits⟩

/-- A piece does what its octets do one by one. -/
theorem feed_agrees (split : Split config fed frames) (data : Bytes) :
    Agree Eq Alike (FrameBudget.feed config frames data) (run (octet config) frames data) := by
  induction data generalizing frames fed with
  | nil =>
      have settled : frames.Settled := by
        cases split with
        | opening here => exact here.settled
        | between whole here => exact Or.inl here.received
        | inside whole here => exact Or.inl here.received
      rw [FrameBudget.feed_nil config settled]
      exact agree_self _
  | cons received data induction =>
      cases split with
      | between whole here =>
          rw [feed_received (.between whole here) here.received]
          exact agree_self _
      | inside whole here =>
          rw [feed_received (.inside whole here) here.received]
          exact agree_self _
      | opening here =>
          by_cases matching :
              fed ++ [received] = clientPreface.take (fed ++ [received]).length
          · obtain ⟨next, stepped, split⟩ := octet_matches config here matching
            rw [run_cons, feed_cons here matching, stepped, andThen_ok]
            exact induction split
          · have raises := feed_mismatch config data here matching
            rw [octet_mismatch here matching] at raises
            rw [run_cons, octet_mismatch here matching, andThen_error]
            exact raises

end Pieces

section Calls

def putBack (taken : List Bytes) (frames : FrameBudget) : FrameBudget :=
  { frames with ready := taken ++ frames.ready }

structure Session where
  taken : List Bytes := []
  frames : FrameBudget := .new

namespace Session

def chunks (session : Session) : List Bytes := session.taken ++ session.frames.ready

def whole (session : Session) : FrameBudget := putBack session.taken session.frames

end Session

inductive Call where
  | feed (data : Bytes)
  | take (limit : Nat)
deriving DecidableEq

def Call.data : Call → Bytes
  | .feed data => data
  | .take _ => []

def call (config : HTTP2Config) (session : Session) : Call → Except String Unit × Session
  | .feed data =>
      let (outcome, frames) := FrameBudget.feed config session.frames data
      (outcome, { session with frames })
  | .take limit =>
      let (chunks, frames) := session.frames.take limit
      (.ok (), { taken := session.taken ++ chunks, frames })

variable {config : HTTP2Config} {frames : FrameBudget} {fed : Bytes} {taken : List Bytes}

theorem startFrame_putBack (config : HTTP2Config) (taken : List Bytes) (frames : FrameBudget)
    (fresh : frames.payload = []) :
    FrameBudget.startFrame config (putBack taken frames) fresh =
      ((FrameBudget.startFrame config frames fresh).1,
        putBack taken (FrameBudget.startFrame config frames fresh).2) := by
  unfold FrameBudget.startFrame putBack
  dsimp only
  by_cases large : bigEndian (frames.header.take 3) > config.maxFrameSize
  · rw [if_pos large, if_pos large]
  · rw [if_neg large, if_neg large]
    by_cases headers : (frames.header.getD 3 0).toNat = 1
    · rw [if_pos headers, if_pos headers]
      by_cases busy : frames.headerStream ≠ none
      · rw [if_pos busy, if_pos busy]
      · rw [if_neg busy, if_neg busy]
        dsimp only
        split
        · rfl
        · rfl
    · rw [if_neg headers, if_neg headers]
      by_cases continuation : (frames.header.getD 3 0).toNat = 9
      · rw [if_pos continuation, if_pos continuation]
        by_cases other : frames.headerStream ≠
            some (bigEndian ((frames.header.drop 5).take 4) % 2 ^ 31)
        · rw [if_pos other, if_pos other]
        · rw [if_neg other, if_neg other]
          dsimp only
          split
          · rfl
          · rfl
      · rw [if_neg continuation, if_neg continuation]
        dsimp only
        split
        · rfl
        · rfl

theorem finishFrame_putBack (taken : List Bytes) (frames : FrameBudget) :
    (putBack taken frames).finishFrame = putBack taken frames.finishFrame := by
  unfold FrameBudget.finishFrame putBack
  simp only [List.append_assoc]

theorem started_putBack (taken : List Bytes) (outcome : Except String Unit × FrameBudget) :
    andThen (outcome.1, putBack taken outcome.2) (fun started =>
        (.ok (), if started.frameLength = 0 then started.finishFrame else started)) =
      ((andThen outcome fun started =>
          (.ok (), if started.frameLength = 0 then started.finishFrame else started)).1,
        putBack taken (andThen outcome fun started =>
          (.ok (), if started.frameLength = 0 then started.finishFrame else started)).2) := by
  obtain ⟨_ | _, started⟩ := outcome
  · rfl
  · rw [andThen_ok, andThen_ok]
    by_cases empty : started.frameLength = 0
    · have same : (putBack taken started).frameLength = 0 := empty
      rw [if_pos empty, if_pos same, finishFrame_putBack]
    · have same : ¬ (putBack taken started).frameLength = 0 := empty
      rw [if_neg empty, if_neg same]

theorem frameOctet_putBack (config : HTTP2Config) (taken : List Bytes) (frames : FrameBudget)
    (received : UInt8) :
    frameOctet config (putBack taken frames) received =
      ((frameOctet config frames received).1,
        putBack taken (frameOctet config frames received).2) := by
  unfold frameOctet
  by_cases short : frames.header.length < 9
  · have still : (putBack taken frames).header.length < 9 := short
    rw [dif_pos short, dif_pos still]
    by_cases incomplete : (frames.extendHeader [received] short).header.length < 9
    · have here : ((putBack taken frames).extendHeader [received] still).header.length < 9 :=
        incomplete
      dsimp only
      rw [if_pos incomplete, if_pos here]
      rfl
    · have here : ¬ ((putBack taken frames).extendHeader [received] still).header.length < 9 :=
        incomplete
      have starts := startFrame_putBack config taken (frames.extendHeader [received] short)
        (frames.payload_after_header short)
      change FrameBudget.startFrame config ((putBack taken frames).extendHeader [received] still)
        _ = _ at starts
      dsimp only
      rw [if_neg incomplete, if_neg here, starts]
      exact started_putBack taken _
  · have long : ¬ (putBack taken frames).header.length < 9 := short
    rw [dif_neg short, dif_neg long]
    unfold FrameBudget.feedPayload
    by_cases finished :
        (frames.extendPayload [received] short).payload.length = frames.frameLength
    · have same : ((putBack taken frames).extendPayload [received] long).payload.length =
          (putBack taken frames).frameLength := finished
      dsimp only
      rw [if_pos finished, if_pos same, ← finishFrame_putBack]
      rfl
    · have same : ¬ ((putBack taken frames).extendPayload [received] long).payload.length =
          (putBack taken frames).frameLength := finished
      dsimp only
      rw [if_neg finished, if_neg same]
      rfl

theorem feed_putBack (config : HTTP2Config) (taken : List Bytes) (waiting : Waiting frames)
    (data : Bytes) :
    FrameBudget.feed config (putBack taken frames) data =
      ((FrameBudget.feed config frames data).1,
        putBack taken (FrameBudget.feed config frames data).2) := by
  have loop : ∀ frames data, Waiting frames →
      FrameBudget.feedFrames config (putBack taken frames) data =
        ((FrameBudget.feedFrames config frames data).1,
          putBack taken (FrameBudget.feedFrames config frames data).2) := by
    intro frames data waiting
    have same : Waiting (putBack taken frames) := ⟨waiting.header_le, waiting.unfinished⟩
    rw [feedFrames_eq_run config _ data same, feedFrames_eq_run config _ data waiting]
    exact run_map (frameOctet_putBack config taken) frames data
  by_cases behind : frames.prefaceReceived = true
  · have same : (putBack taken frames).prefaceReceived = true := behind
    unfold FrameBudget.feed
    rw [if_pos behind, if_pos same, loop frames data waiting]
  · have same : ¬ (putBack taken frames).prefaceReceived = true := behind
    unfold FrameBudget.feed
    rw [if_neg behind, if_neg same]
    dsimp only
    have preface : (putBack taken frames).preface = frames.preface := rfl
    rw [preface]
    generalize data.take (clientPreface.length - frames.preface.length) = start
    by_cases mismatch :
        frames.preface ++ start ≠ clientPreface.take (frames.preface ++ start).length
    · rw [if_pos mismatch, if_pos mismatch]
      rfl
    · rw [if_neg mismatch, if_neg mismatch]
      by_cases short : (frames.preface ++ start).length < clientPreface.length
      · rw [if_pos short, if_pos short]
        rfl
      · rw [if_neg short, if_neg short]
        have joined := loop
          { frames with
            ready := frames.ready ++ [frames.preface ++ start]
            preface := []
            prefaceReceived := true }
          (data.drop (clientPreface.length - frames.preface.length))
          ⟨waiting.header_le, waiting.unfinished⟩
        unfold putBack at joined ⊢
        dsimp only at joined ⊢
        rw [List.append_assoc]
        exact joined

/-- The splitter with its chunks put back has done what the octets fed so far do. -/
def Follows (config : HTTP2Config) (session : Session) (frames : FrameBudget) : Prop :=
  session.whole = frames ∧ ∃ fed, Split config fed frames

theorem run_split {data : Bytes} {last : FrameBudget} (split : Split config fed frames)
    (reached : run (octet config) frames data = (.ok (), last)) :
    Split config (fed ++ data) last := by
  refine run_invariant ?_ split reached
  intro fed frames received next split stepped
  have outcome := octet_outcome split received
  rw [stepped] at outcome
  cases outcome with
  | ok next here => exact here

theorem call_agrees (config : HTTP2Config) (session : Session) (frames : FrameBudget)
    (one : Call) (follows : Follows config session frames) :
    Agree (Follows config) (fun session frames => Alike session.whole frames)
      (call config session one) (run (octet config) frames one.data) := by
  obtain ⟨rfl, fed, split⟩ := follows
  cases one with
  | take limit =>
      refine Agree.ok ⟨?_, fed, split⟩
      unfold Session.whole putBack
      simp only [List.append_assoc, List.take_append_drop]
  | feed data =>
      have agrees := feed_agrees split data
      have waiting : Waiting session.frames := by
        have whole := split.waiting
        exact ⟨whole.header_le, whole.unfinished⟩
      have joined := feed_putBack config session.taken waiting data
      change FrameBudget.feed config session.whole data = _ at joined
      rw [joined] at agrees
      refine ⟨agrees.sameOutcome, fun reached => ⟨agrees.reached reached, ?_⟩, agrees.raised⟩
      refine ⟨fed ++ data, run_split split (Prod.ext reached rfl)⟩

/-- One by one the octets leave a split of the input, or of the part up to the octet that
raises. -/
inductive Fate (config : HTTP2Config) (data : Bytes) : Except String Unit × FrameBudget → Prop
  | split (last : FrameBudget) (here : Split config data last) : Fate config data (.ok (), last)
  | failed (message : String) (front back : Bytes) (last : FrameBudget)
      (cut : data = front ++ back) (here : Failed config front last) :
      Fate config data (.error message, last)

theorem octets_fate (config : HTTP2Config) (data : Bytes) :
    Fate config data (run (octet config) .new data) := by
  rcases reached : run (octet config) .new data with ⟨message | _, last⟩
  · obtain ⟨front, bad, back, middle, rfl, before, raised⟩ := run_eq_error reached
    have split := run_split (split_new config) before
    rw [List.nil_append] at split
    have outcome := octet_outcome split bad
    rw [raised] at outcome
    cases outcome with
    | error message last here =>
        refine .failed message (front ++ [bad]) back last ?_ here
        rw [List.append_assoc, List.singleton_append]
  · have split := run_split (split_new config) reached
    exact .split last split

/-- Nothing is lost or cut differently as long as no call raises. -/
structure Lossless (config : HTTP2Config) (data : Bytes) (session : Session) : Prop where
  octets : session.chunks.flatten ++ session.frames.preface ++ session.frames.header ++
    session.frames.payload = data
  chunks : session.chunks = [] ∨ ∃ whole, session.chunks = clientPreface :: whole ∧
    WellFormed config whole ∧ (session.frames.header.length = 9 →
      Admitted config (openBlock whole) session.frames.header)

/-- The input was refused in the preface, or behind the header of a frame that may not
follow the whole frames before it. -/
inductive Rejected (config : HTTP2Config) (data : Bytes) (session : Session) : Prop
  | preface (waits : session.frames.prefaceReceived = false)
      (mismatch : ∃ front back, data = front ++ back ∧ front ≠ clientPreface.take front.length)
      (chunks : session.chunks = [])
  | frame (whole : List Bytes) (back : Bytes)
      (chunks : session.chunks = clientPreface :: whole) (wellFormed : WellFormed config whole)
      (octets : session.chunks.flatten ++ session.frames.header ++ back = data)
      (complete : session.frames.header.length = 9)
      (rejected : ¬ Admitted config (openBlock whole) session.frames.header)

/-- What any cut of the input into calls has in common with feeding it at once. -/
structure SplitsAlike (config : HTTP2Config) (data : Bytes)
    (once : Except String Unit × FrameBudget) (cut : Except String Unit × Session) : Prop where
  sameOutcome : cut.1 = once.1
  samePhase : cut.2.frames.prefaceReceived = once.2.prefaceReceived
  sameChunks : cut.2.chunks = once.2.ready
  sameState : cut.1 = .ok () ∨ once.2.prefaceReceived = true → cut.2.whole = once.2
  returned : cut.1 = .ok () → Lossless config data cut.2
  raised : cut.1 ≠ .ok () → cut.2.frames.payload = [] ∧ Rejected config data cut.2
  bounded : (∀ chunk ∈ cut.2.chunks, chunk.length ≤ 9 + config.maxFrameSize) ∧
    cut.2.frames.header.length + cut.2.frames.payload.length ≤ 9 + config.maxFrameSize

theorem lossless_of_split {data : Bytes} {session : Session}
    (split : Split config data session.whole) : Lossless config data session := by
  cases split with
  | opening here =>
      refine ⟨?_, Or.inl here.ready⟩
      have chunks : session.chunks = [] := here.ready
      have preface : session.frames.preface = data := here.preface
      have header : session.frames.header = [] := here.header
      have payload : session.frames.payload = [] := here.payload
      rw [chunks, preface, header, payload]
      simp only [List.flatten_nil, List.nil_append, List.append_nil]
  | between whole here =>
      have chunks : session.chunks = clientPreface :: whole := here.ready
      have preface : session.frames.preface = [] := here.preface
      refine ⟨?_, Or.inr ⟨whole, chunks, here.wellFormed, fun complete => ?_⟩⟩
      · rw [chunks, preface, List.append_nil, List.append_assoc]
        exact here.lossless
      · have short : session.frames.header.length < 9 := here.short
        omega
  | inside whole here =>
      have chunks : session.chunks = clientPreface :: whole := here.ready
      have preface : session.frames.preface = [] := here.preface
      refine ⟨?_, Or.inr ⟨whole, chunks, here.wellFormed, fun _ => here.admitted⟩⟩
      rw [chunks, preface, List.append_nil, List.append_assoc]
      exact here.lossless

theorem rejected_of_failed {front back : Bytes} {session : Session} {last : FrameBudget}
    (failed : Failed config front last) (alike : Alike session.whole last) :
    session.frames.payload = [] ∧ Rejected config (front ++ back) session := by
  have header : session.frames.header = last.header := alike.header
  have payload : session.frames.payload = last.payload := alike.payload
  have ready : session.chunks = last.ready := alike.ready
  have received : session.frames.prefaceReceived = last.prefaceReceived := alike.received
  cases failed with
  | preface waits mismatch chunks noHeader noPayload =>
      refine ⟨payload.trans noPayload, .preface (received.trans waits) ?_ (ready.trans chunks)⟩
      exact ⟨front, back, rfl, mismatch⟩
  | frame whole here =>
      refine ⟨payload.trans here.empty, .frame whole back (ready.trans here.ready)
        here.wellFormed ?_ ?_ ?_⟩
      · rw [ready, header, here.ready, ← here.lossless, here.empty, List.append_nil]
        rfl
      · rw [header]
        exact here.complete
      · rw [header]
        exact here.rejected

theorem chunk_bounded {whole : List Bytes} (wellFormed : WellFormed config whole)
    {chunk : Bytes} (member : chunk ∈ clientPreface :: whole) :
    chunk.length ≤ 9 + config.maxFrameSize := by
  rcases List.mem_cons.mp member with rfl | member
  · have allowed := config.frame_size_le
    have length : clientPreface.length = 24 := by decide
    omega
  · obtain ⟨earlier, later, rfl⟩ := List.append_of_mem member
    obtain ⟨length, admitted⟩ := wellFormed earlier chunk later rfl
    have size := admitted.size
    omega

/-- No chunk and no partial frame is longer than a header and the largest payload. -/
theorem split_bounded (split : Split config fed frames) :
    (∀ chunk ∈ frames.ready, chunk.length ≤ 9 + config.maxFrameSize) ∧
      frames.header.length + frames.payload.length ≤ 9 + config.maxFrameSize := by
  cases split with
  | opening here =>
      rw [here.ready, here.header, here.payload]
      exact ⟨fun chunk member => (List.not_mem_nil member).elim, Nat.zero_le _⟩
  | between whole here =>
      have short := here.short
      rw [here.ready, frames.payload_after_header short]
      refine ⟨fun chunk member => chunk_bounded here.wellFormed member, ?_⟩
      rw [List.length_nil]
      omega
  | inside whole here =>
      have size := here.admitted.size
      have unfinished := here.unfinished
      rw [here.ready, here.complete]
      exact ⟨fun chunk member => chunk_bounded here.wellFormed member, by omega⟩

theorem failed_bounded (failed : Failed config fed frames) :
    (∀ chunk ∈ frames.ready, chunk.length ≤ 9 + config.maxFrameSize) ∧
      frames.header.length + frames.payload.length ≤ 9 + config.maxFrameSize := by
  cases failed with
  | preface waits mismatch ready header payload =>
      rw [ready, header, payload]
      exact ⟨fun chunk member => (List.not_mem_nil member).elim, Nat.zero_le _⟩
  | frame whole here =>
      rw [here.ready, here.complete, here.empty]
      exact ⟨fun chunk member => chunk_bounded here.wellFormed member, Nat.le_add_right ..⟩

/-- **Cutting is lossless, independent of the calls and bounded.** -/
theorem splits_alike (config : HTTP2Config) (calls : List Call) :
    SplitsAlike config (calls.flatMap Call.data)
      (FrameBudget.feed config .new (calls.flatMap Call.data)) (run (call config) {} calls) := by
  have fresh : Follows config {} .new := ⟨rfl, [], split_new config⟩
  have pieces := run_pieces (call_agrees config) fresh calls
  have together := feed_agrees (split_new config) (calls.flatMap Call.data)
  have fate := octets_fate config (calls.flatMap Call.data)
  revert pieces together fate
  generalize calls.flatMap Call.data = data
  generalize run (octet config) .new data = octets
  generalize FrameBudget.feed config .new data = once
  generalize run (call config) {} calls = cut
  intro pieces together fate
  cases fate with
  | split last here =>
      obtain ⟨same, -⟩ := pieces.reached rfl
      have whole : once.2 = last := together.reached rfl
      subst whole
      have chunks : cut.2.chunks = once.2.ready := congrArg FrameBudget.ready same
      have phase : cut.2.whole.prefaceReceived = once.2.prefaceReceived :=
        congrArg FrameBudget.prefaceReceived same
      refine ⟨pieces.sameOutcome.trans together.sameOutcome.symm, phase, chunks, fun _ => same,
        fun _ => ?_, fun raised => absurd pieces.sameOutcome raised, ?_⟩
      · rw [← same] at here
        exact lossless_of_split here
      · rw [← same] at here
        exact split_bounded here
  | failed message front back last joined here =>
      have alike := pieces.raised message rfl
      have onceAlike := together.raised message rfl
      have bounded := failed_bounded here
      rw [← alike.ready, ← alike.header, ← alike.payload] at bounded
      refine ⟨pieces.sameOutcome.trans together.sameOutcome.symm,
        alike.received.trans onceAlike.received.symm, alike.ready.trans onceAlike.ready.symm,
        ?_, ?_, fun _ => ?_, bounded⟩
      · rintro (reached | behind)
        · rw [pieces.sameOutcome] at reached
          cases reached
        · rw [onceAlike.received] at behind
          rw [alike.eq behind, onceAlike.eq behind]
      · intro reached
        rw [pieces.sameOutcome] at reached
        cases reached
      · rw [joined]
        exact rejected_of_failed here alike

end Calls

end SmallServer.Http2Splitting
