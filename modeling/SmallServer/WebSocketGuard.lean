import SmallServer.Feeding
import SmallServer.WebSocketFrames

/-!
# What the frame guard lets through

The guard as a machine on single octets, which does not know where a call ends. It accepts a
sequence of well-formed frames, forwards their octets in order, and stops for good behind the
first complete header that is not allowed.
-/

namespace SmallServer.WebSocketGuard

open SmallServer HttpValues WebSocketFrames Feeding

set_option autoImplicit false

section Headers

/-- The octet with the mask bit and the length marker. -/
def secondOf (header : Bytes) : UInt8 := header.getD 1 0

/-- A header whose length is still unknown or not yet reached. -/
def Incomplete (header : Bytes) : Prop :=
  header.length < 2 ∨ header.length < declaredLength (secondOf header)

instance instDecidableIncomplete (header : Bytes) : Decidable (Incomplete header) :=
  inferInstanceAs (Decidable (_ ∨ _))

structure Complete (header : Bytes) : Prop where
  two : 2 ≤ header.length
  length : header.length = declaredLength (secondOf header)

def marker (header : Bytes) : Nat := (secondOf header).toNat % 128

def payloadLength (header : Bytes) : Nat :=
  if marker header = 126 then bigEndian ((header.drop 2).take 2)
  else if marker header = 127 then bigEndian ((header.drop 2).take 8)
  else marker header

def firstOf (header : Bytes) : Nat := (header.getD 0 0).toNat

/-- What makes a complete header one that is not allowed. -/
inductive Bad (maxPayloadBytes : Nat) (header : Bytes) : Prop
  | unmasked (bit : (secondOf header).toNat < 128)
  | nonMinimal (two : marker header = 126) (small : payloadLength header < 126)
  | nonMinimalLong (eight : marker header = 127) (small : payloadLength header < 65536)
  | topBit (eight : marker header = 127) (large : 2 ^ 63 ≤ payloadLength header)
  | fragmentedControl (control : 8 ≤ firstOf header % 16) (unfinished : firstOf header < 128)
  | longControl (control : 8 ≤ firstOf header % 16) (long : 125 < payloadLength header)
  | tooLarge (large : maxPayloadBytes < payloadLength header)

variable {maxPayloadBytes : Nat} {header more : Bytes}

theorem checkHeader_eq (maxPayloadBytes : Nat) (header : Bytes) :
    checkHeader maxPayloadBytes header =
      if (secondOf header).toNat < 128 then .error .unmasked
      else if marker header = 126 ∧ payloadLength header < 126 then .error .nonMinimalLength
      else if marker header = 127 ∧
          (payloadLength header < 65536 ∨ 2 ^ 63 ≤ payloadLength header) then
        .error .invalidLength
      else if 8 ≤ firstOf header % 16 ∧
          (firstOf header < 128 ∨ 125 < payloadLength header) then
        .error .invalidControlFrame
      else if maxPayloadBytes < payloadLength header then .error .payloadTooLarge
      else .ok (payloadLength header) := rfl

theorem checkHeader_cases (maxPayloadBytes : Nat) (header : Bytes) :
    (checkHeader maxPayloadBytes header = .ok (payloadLength header) ∧
        ¬ Bad maxPayloadBytes header) ∨
      ∃ error, checkHeader maxPayloadBytes header = .error error ∧
        Bad maxPayloadBytes header := by
  rw [checkHeader_eq]
  split
  · rename_i bit
    exact Or.inr ⟨_, rfl, .unmasked bit⟩
  · rename_i masked
    split
    · rename_i small
      exact Or.inr ⟨_, rfl, .nonMinimal small.1 small.2⟩
    · rename_i minimal
      split
      · rename_i invalid
        rcases invalid.2 with small | large
        · exact Or.inr ⟨_, rfl, .nonMinimalLong invalid.1 small⟩
        · exact Or.inr ⟨_, rfl, .topBit invalid.1 large⟩
      · rename_i valid
        split
        · rename_i control
          rcases control.2 with unfinished | long
          · exact Or.inr ⟨_, rfl, .fragmentedControl control.1 unfinished⟩
          · exact Or.inr ⟨_, rfl, .longControl control.1 long⟩
        · rename_i sound
          split
          · rename_i large
            exact Or.inr ⟨_, rfl, .tooLarge large⟩
          · rename_i fits
            refine Or.inl ⟨rfl, fun bad => ?_⟩
            cases bad with
            | unmasked bit => exact masked bit
            | nonMinimal two small => exact minimal ⟨two, small⟩
            | nonMinimalLong eight small => exact valid ⟨eight, Or.inl small⟩
            | topBit eight large => exact valid ⟨eight, Or.inr large⟩
            | fragmentedControl control unfinished => exact sound ⟨control, Or.inl unfinished⟩
            | longControl control long => exact sound ⟨control, Or.inr long⟩
            | tooLarge large => exact fits large

theorem extension_le (marker : Nat) : extension marker ≤ 8 := by
  unfold extension
  split
  · decide
  · split
    · decide
    · decide

theorem declaredLength_le (second : UInt8) : declaredLength second ≤ 14 := by
  have bounded := extension_le (second.toNat % 128)
  unfold declaredLength
  split
  · omega
  · omega

theorem two_le_declaredLength (second : UInt8) : 2 ≤ declaredLength second := by
  unfold declaredLength
  omega

theorem secondOf_append (two : 2 ≤ header.length) :
    secondOf (header ++ more) = secondOf header := by
  unfold secondOf
  rw [List.getD_eq_getElem?_getD, List.getElem?_append_left (by omega),
    ← List.getD_eq_getElem?_getD]

theorem Incomplete.length_le (incomplete : Incomplete header) : header.length ≤ 13 := by
  have bounded := declaredLength_le (secondOf header)
  rcases incomplete with short | short
  · omega
  · omega

theorem Incomplete.of_append (incomplete : Incomplete (header ++ more)) : Incomplete header := by
  by_cases two : 2 ≤ header.length
  · refine Or.inr ?_
    rcases incomplete with short | short
    · rw [List.length_append] at short
      omega
    · rw [secondOf_append two, List.length_append] at short
      omega
  · exact Or.inl (Nat.lt_of_not_le two)

theorem Complete.not_incomplete (complete : Complete header) : ¬ Incomplete header := by
  intro incomplete
  have two := complete.two
  have length := complete.length
  rcases incomplete with short | short
  · omega
  · omega

theorem Complete.incomplete_of_append (complete : Complete (header ++ more))
    (nonempty : more ≠ []) : Incomplete header := by
  have some : 0 < more.length := List.length_pos_iff.mpr nonempty
  by_cases two : 2 ≤ header.length
  · have length := complete.length
    rw [secondOf_append two, List.length_append] at length
    exact Or.inr (by omega)
  · exact Or.inl (Nat.lt_of_not_le two)

/-- The octet behind an incomplete header leaves it incomplete or completes it. -/
theorem complete_of_snoc {received : UInt8} (before : Incomplete header)
    (now : ¬ Incomplete (header ++ [received])) : Complete (header ++ [received]) := by
  have length : (header ++ [received]).length = header.length + 1 := List.length_append
  have two : 2 ≤ (header ++ [received]).length := by
    by_contra short
    exact now (Or.inl (Nat.lt_of_not_le short))
  refine ⟨two, ?_⟩
  have enough : ¬ (header ++ [received]).length <
      declaredLength (secondOf (header ++ [received])) := fun short => now (Or.inr short)
  have least := two_le_declaredLength (secondOf (header ++ [received]))
  by_cases long : 2 ≤ header.length
  · rw [secondOf_append long] at enough ⊢
    rcases before with short | short
    · omega
    · omega
  · omega

end Headers

/-- Where in a frame the guard is: in its header, or in its payload with this much of it
still to come and the header's length kept from before. -/
inductive Phase where
  | header (octets : Bytes)
  | payload (headerLength : Option Nat) (remaining : Nat)
deriving DecidableEq

structure Progress where
  phase : Phase := .header []
  forwarded : Bytes := []
deriving DecidableEq

/-- The length of the header, once its second octet is there. -/
def measure (header : Bytes) : Option Nat :=
  if header.length < 2 then none else some (declaredLength (secondOf header))

def enter (header : Bytes) (length : Nat) : Phase :=
  if length = 0 then .header [] else .payload (measure header) length

def octet (maxPayloadBytes : Nat) (progress : Progress) (received : UInt8) :
    Except GuardError Unit × Progress :=
  match progress.phase with
  | .payload headerLength remaining =>
      (.ok (), {
        phase := if remaining = 1 then .header [] else .payload headerLength (remaining - 1)
        forwarded := progress.forwarded ++ [received] })
  | .header octets =>
      let header := octets ++ [received]
      if Incomplete header then (.ok (), { progress with phase := .header header })
      else
        match checkHeader maxPayloadBytes header with
        | .error error => (.error error, { progress with phase := .header header })
        | .ok length =>
            (.ok (), { phase := enter header length, forwarded := progress.forwarded ++ header })

section Octets

variable {maxPayloadBytes : Nat} {header octets more out : Bytes}

theorem run_incomplete (incomplete : Incomplete (octets ++ more)) :
    run (octet maxPayloadBytes) ⟨.header octets, out⟩ more =
      (.ok (), ⟨.header (octets ++ more), out⟩) := by
  induction more generalizing octets with
  | nil => rw [run_nil, List.append_nil]
  | cons received more induction =>
      have joined : octets ++ received :: more = (octets ++ [received]) ++ more := by
        rw [List.append_assoc, List.singleton_append]
      rw [joined] at incomplete ⊢
      have one : octet maxPayloadBytes ⟨.header octets, out⟩ received =
          (.ok (), ⟨.header (octets ++ [received]), out⟩) := if_pos incomplete.of_append
      rw [run_cons, one, andThen_ok, induction incomplete]

theorem run_complete (nonempty : more ≠ []) (complete : Complete (octets ++ more)) :
    run (octet maxPayloadBytes) ⟨.header octets, out⟩ more =
      match checkHeader maxPayloadBytes (octets ++ more) with
      | .error error => (.error error, ⟨.header (octets ++ more), out⟩)
      | .ok length => (.ok (), ⟨enter (octets ++ more) length, out ++ (octets ++ more)⟩) := by
  obtain ⟨front, last, rfl⟩ := List.eq_nil_or_concat more |>.resolve_left nonempty
  rw [List.concat_eq_append] at complete ⊢
  rw [← List.append_assoc] at complete ⊢
  have before : Incomplete (octets ++ front) :=
    complete.incomplete_of_append (List.cons_ne_nil last [])
  rw [run_append_ok (run_incomplete before), run_singleton]
  unfold octet
  dsimp only
  rw [if_neg complete.not_incomplete]

theorem octet_payload {headerLength : Option Nat} {remaining : Nat} {received : UInt8} :
    octet maxPayloadBytes ⟨.payload headerLength (remaining + 1), out⟩ received =
      (.ok (), ⟨if remaining = 0 then .header [] else .payload headerLength remaining,
        out ++ [received]⟩) := by
  unfold octet
  dsimp only
  rw [Nat.add_sub_cancel]
  simp only [Nat.add_eq_right]

theorem run_payload {headerLength : Option Nat} {remaining : Nat} (few : more.length ≤ remaining)
    (nonempty : more ≠ []) :
    run (octet maxPayloadBytes) ⟨.payload headerLength remaining, out⟩ more =
      (.ok (), ⟨if remaining = more.length then .header []
        else .payload headerLength (remaining - more.length), out ++ more⟩) := by
  induction more generalizing remaining out with
  | nil => exact absurd rfl nonempty
  | cons received more induction =>
      obtain ⟨left, rfl⟩ : ∃ left, remaining = left + 1 :=
        ⟨remaining - 1, by rw [List.length_cons] at few; omega⟩
      rw [List.length_cons] at few ⊢
      rw [run_cons, octet_payload, andThen_ok]
      simp only [Nat.add_right_cancel_iff, Nat.add_sub_add_right]
      rcases more with _ | ⟨next, more⟩
      · rw [run_nil]
        rfl
      · have some : left ≠ 0 := by
          rw [List.length_cons] at few
          omega
        rw [if_neg some, induction (by omega) (List.cons_ne_nil next more), List.append_assoc,
          List.singleton_append]

end Octets

def guardOf (maxPayloadBytes : Nat) : Phase → FrameGuard
  | .header octets =>
      { maxPayloadBytes, header := octets, headerLength := measure octets, payloadRemaining := 0 }
  | .payload headerLength remaining =>
      { maxPayloadBytes, header := [], headerLength, payloadRemaining := remaining }

/-- Between two octets no header is complete and no payload is. -/
def Phase.Waits : Phase → Prop
  | .header octets => Incomplete octets
  | .payload _ remaining => 0 < remaining

section Turns

variable {maxPayloadBytes : Nat} {phase : Phase} {octets data : Bytes}

/-- A turn of the loop does what the octets that it uses up do one by one. -/
inductive Turned (maxPayloadBytes : Nat) (phase : Phase) (data : Bytes) :
    FrameGuard.Turn × FrameGuard → Prop
  | next (consumed rest : Bytes) (chunk : Option Bytes) (after : Phase)
      (cut : data = consumed ++ rest) (nonempty : consumed ≠ []) (waits : after.Waits)
      (ran : ∀ out, run (octet maxPayloadBytes) ⟨phase, out⟩ consumed =
        (.ok (), ⟨after, out ++ chunk.toList.flatten⟩)) :
      Turned maxPayloadBytes phase data (.next chunk rest, guardOf maxPayloadBytes after)
  | raised (consumed rest : Bytes) (error : GuardError) (header : Bytes)
      (cut : data = consumed ++ rest) (complete : Complete header)
      (bad : checkHeader maxPayloadBytes header = .error error)
      (ran : ∀ out, run (octet maxPayloadBytes) ⟨phase, out⟩ consumed =
        (.error error, ⟨.header header, out⟩)) :
      Turned maxPayloadBytes phase data
        (.raised error, guardOf maxPayloadBytes (.header header))

theorem turn_payload {headerLength : Option Nat} {remaining : Nat} (left : 0 < remaining)
    (nonempty : data ≠ []) :
    Turned maxPayloadBytes (.payload headerLength remaining) data
      ((guardOf maxPayloadBytes (.payload headerLength remaining)).turn data) := by
  have received : 0 < data.length := List.length_pos_iff.mpr nonempty
  have turned : (guardOf maxPayloadBytes (.payload headerLength remaining)).turn data =
      (.next (some (data.take (min remaining data.length)))
        (data.drop (min remaining data.length)), guardOf maxPayloadBytes
          (if remaining = min remaining data.length then .header []
            else .payload headerLength (remaining - min remaining data.length))) := by
    have inside :
        0 < (guardOf maxPayloadBytes (.payload headerLength remaining)).payloadRemaining := left
    unfold FrameGuard.turn
    rw [if_pos inside]
    by_cases all : remaining = min remaining data.length
    · have here : (guardOf maxPayloadBytes (.payload headerLength remaining)).payloadRemaining =
          min (guardOf maxPayloadBytes (.payload headerLength remaining)).payloadRemaining
            data.length := all
      have used : remaining - min remaining data.length = 0 := by omega
      dsimp only
      rw [if_pos here, if_pos all]
      exact Prod.ext rfl (congrArg (FrameGuard.mk maxPayloadBytes [] none) used)
    · have here : ¬ (guardOf maxPayloadBytes (.payload headerLength remaining)).payloadRemaining =
          min (guardOf maxPayloadBytes (.payload headerLength remaining)).payloadRemaining
            data.length := all
      dsimp only
      rw [if_neg here, if_neg all]
      rfl
  have length : (data.take (min remaining data.length)).length = min remaining data.length := by
    rw [List.length_take, Nat.min_assoc, Nat.min_self]
  rw [turned]
  refine .next _ _ _ _ (List.take_append_drop _ data).symm ?_ ?_ fun out => ?_
  · rw [← List.length_pos_iff, length]
    omega
  · split
    · exact Or.inl (by decide)
    · change 0 < remaining - _
      omega
  · rw [run_payload (by rw [length]; omega) (by rw [← List.length_pos_iff, length]; omega), length]
    simp only [Option.toList_some, List.flatten_singleton]

theorem measure_append {more : Bytes} (two : 2 ≤ octets.length) :
    measure (octets ++ more) = some (declaredLength (secondOf octets)) := by
  unfold measure
  rw [if_neg (by rw [List.length_append]; omega), secondOf_append two]

def settle (filled : FrameGuard) (rest : Bytes) : FrameGuard.Turn × FrameGuard :=
  if filled.header.length < filled.headerLength.getD 0 then (.next none rest, filled)
  else
    match filled.completeHeader with
    | (.error error, guard) => (.raised error, guard)
    | (.ok chunk, guard) => (.next (some chunk) rest, guard)

def fill (known : FrameGuard) (left : Bytes) : FrameGuard.Turn × FrameGuard :=
  let missing := known.headerLength.getD 0 - known.header.length
  settle { known with header := known.header ++ left.take missing } (left.drop missing)

theorem completeHeader_eq (maxPayloadBytes : Nat) (header : Bytes) :
    (guardOf maxPayloadBytes (.header header)).completeHeader =
      match checkHeader maxPayloadBytes header with
      | .error error => (.error error, guardOf maxPayloadBytes (.header header))
      | .ok length => (.ok header, guardOf maxPayloadBytes (enter header length)) := by
  rcases checked : checkHeader maxPayloadBytes header with error | length
  · have here : checkHeader (guardOf maxPayloadBytes (.header header)).maxPayloadBytes
        (guardOf maxPayloadBytes (.header header)).header = .error error := checked
    unfold FrameGuard.completeHeader
    rw [here]
  · have here : checkHeader (guardOf maxPayloadBytes (.header header)).maxPayloadBytes
        (guardOf maxPayloadBytes (.header header)).header = .ok length := checked
    unfold FrameGuard.completeHeader enter
    rw [here]
    by_cases empty : length = 0
    · subst empty
      rfl
    · dsimp only
      rw [if_neg empty, if_neg empty]
      rfl

theorem settle_eq (maxPayloadBytes : Nat) (header rest : Bytes) :
    settle (guardOf maxPayloadBytes (.header header)) rest =
      if header.length < (measure header).getD 0 then
        (.next none rest, guardOf maxPayloadBytes (.header header))
      else
        match checkHeader maxPayloadBytes header with
        | .error error => (.raised error, guardOf maxPayloadBytes (.header header))
        | .ok length =>
            (.next (some header) rest, guardOf maxPayloadBytes (enter header length)) := by
  unfold settle
  rw [completeHeader_eq]
  cases checkHeader maxPayloadBytes header with
  | error error => rfl
  | ok size => rfl

theorem waits_enter {header : Bytes} (length : Nat) : (enter header length).Waits := by
  unfold enter
  split
  · exact Or.inl (by decide)
  · rename_i some
    exact Nat.pos_of_ne_zero some

/-- A turn that has filled a header up to here goes on with what is left of the data. -/
theorem fill_turned (maxPayloadBytes : Nat) (front left : Bytes) (incomplete : Incomplete octets)
    (nonempty : front ++ left ≠ []) (two : 2 ≤ (octets ++ front).length)
    (within : (octets ++ front).length ≤ declaredLength (secondOf (octets ++ front))) :
    Turned maxPayloadBytes (.header octets) (front ++ left)
      (fill (guardOf maxPayloadBytes (.header (octets ++ front))) left) := by
  have known : measure (octets ++ front) =
      some (declaredLength (secondOf (octets ++ front))) := if_neg (Nat.not_lt.mpr two)
  obtain ⟨missing, length⟩ : ∃ missing,
      declaredLength (secondOf (octets ++ front)) = (octets ++ front).length + missing :=
    ⟨_, (Nat.add_sub_of_le within).symm⟩
  have second : secondOf (octets ++ (front ++ left.take missing)) = secondOf (octets ++ front) := by
    rw [← List.append_assoc, secondOf_append two]
  have grown : (octets ++ (front ++ left.take missing)).length =
      (octets ++ front).length + min missing left.length := by
    rw [← List.append_assoc, List.length_append, List.length_take]
  have filled : fill (guardOf maxPayloadBytes (.header (octets ++ front))) left =
      if (octets ++ (front ++ left.take missing)).length <
          declaredLength (secondOf (octets ++ front)) then
        (.next none (left.drop missing),
          guardOf maxPayloadBytes (.header (octets ++ (front ++ left.take missing))))
      else
        match checkHeader maxPayloadBytes (octets ++ (front ++ left.take missing)) with
        | .error error => (.raised error,
            guardOf maxPayloadBytes (.header (octets ++ (front ++ left.take missing))))
        | .ok size => (.next (some (octets ++ (front ++ left.take missing))) (left.drop missing),
            guardOf maxPayloadBytes (enter (octets ++ (front ++ left.take missing)) size)) := by
    have measured : measure (octets ++ (front ++ left.take missing)) =
        some (declaredLength (secondOf (octets ++ front))) := by
      rw [← List.append_assoc]
      exact measure_append two
    have same : ({ guardOf maxPayloadBytes (.header (octets ++ front)) with
        header := octets ++ front ++ left.take missing } : FrameGuard) =
        guardOf maxPayloadBytes (.header (octets ++ (front ++ left.take missing))) := by
      unfold guardOf
      dsimp only
      rw [measured, known, List.append_assoc]
    have gap : (guardOf maxPayloadBytes (.header (octets ++ front))).headerLength.getD 0 -
        (guardOf maxPayloadBytes (.header (octets ++ front))).header.length = missing := by
      change (measure (octets ++ front)).getD 0 - (octets ++ front).length = missing
      rw [known, Option.getD_some, length, Nat.add_sub_cancel_left]
    have header : (guardOf maxPayloadBytes (.header (octets ++ front))).header =
        octets ++ front := rfl
    unfold fill
    dsimp only
    rw [gap, header, same, settle_eq, measured, Option.getD_some]
  have short : min missing left.length < missing → left.take missing = left ∧
      left.drop missing = [] := fun less =>
    ⟨List.take_of_length_le (by omega), List.drop_eq_nil_of_le (by omega)⟩
  rw [filled, grown, length]
  split
  · rename_i less
    obtain ⟨all, used⟩ := short (by omega)
    rw [all, used]
    have still : Incomplete (octets ++ (front ++ left)) := by
      refine Or.inr ?_
      have same := second
      rw [all] at same grown
      rw [same, grown, length]
      exact less
    refine .next _ _ _ (.header (octets ++ (front ++ left))) (List.append_nil _).symm nonempty
      still fun out => ?_
    rw [run_incomplete still]
    simp only [Option.toList_none, List.flatten_nil, List.append_nil]
  · rename_i enough
    have complete : Complete (octets ++ (front ++ left.take missing)) := by
      refine ⟨?_, ?_⟩
      · omega
      · rw [second, grown, length]
        omega
    have consumed : front ++ left.take missing ≠ [] := by
      intro none
      rw [none, List.append_nil] at complete
      exact complete.not_incomplete incomplete
    have cut : front ++ left = front ++ left.take missing ++ left.drop missing := by
      rw [List.append_assoc, List.take_append_drop]
    rcases checked : checkHeader maxPayloadBytes (octets ++ (front ++ left.take missing))
      with error | size
    · refine .raised _ _ error _ cut complete checked fun out => ?_
      rw [run_complete consumed complete, checked]
    · refine .next _ _ _ _ cut consumed (waits_enter size) fun out => ?_
      rw [run_complete consumed complete, checked]
      simp only [Option.toList_some, List.flatten_singleton]

theorem measured_of_some {guard : FrameGuard} {length : Nat}
    (known : guard.headerLength = some length) : guard.measured = guard := by
  unfold FrameGuard.measured
  rw [known]

theorem measured_of_none {guard : FrameGuard} (unknown : guard.headerLength = none) :
    guard.measured =
      { guard with headerLength := some (declaredLength (secondOf guard.header)) } := by
  unfold FrameGuard.measured
  rw [unknown]
  rfl

theorem turn_of_some {guard : FrameGuard} {length : Nat}
    (outside : ¬ 0 < guard.payloadRemaining) (known : guard.headerLength = some length)
    (data : Bytes) : guard.turn data = fill guard data := by
  have one : guard.headerLength.isNone = false := by
    rw [known]
    rfl
  unfold FrameGuard.turn
  rw [if_neg outside, one]
  simp only [Bool.false_eq_true, if_false, false_and, List.take_zero, List.append_nil,
    List.drop_zero, measured_of_some known]
  rfl

theorem turn_of_none {guard : FrameGuard} (outside : ¬ 0 < guard.payloadRemaining)
    (unknown : guard.headerLength = none) (data : Bytes) :
    guard.turn data =
      let started := { guard with header := guard.header ++ data.take (2 - guard.header.length) }
      if started.header.length < 2 then (.next none (data.drop (2 - guard.header.length)), started)
      else fill started.measured (data.drop (2 - guard.header.length)) := by
  have one : guard.headerLength.isNone = true := by
    rw [unknown]
    rfl
  unfold FrameGuard.turn
  rw [if_neg outside, one]
  simp only [if_true, true_and]
  rfl

/-- A turn on a header: either it stays incomplete or it is completed and checked. -/
theorem turn_header (incomplete : Incomplete octets) (nonempty : data ≠ []) :
    Turned maxPayloadBytes (.header octets) data
      ((guardOf maxPayloadBytes (.header octets)).turn data) := by
  have outside : ¬ 0 < (guardOf maxPayloadBytes (.header octets)).payloadRemaining :=
    Nat.lt_irrefl 0
  by_cases two : 2 ≤ octets.length
  · have known : (guardOf maxPayloadBytes (.header octets)).headerLength =
        some (declaredLength (secondOf octets)) := if_neg (Nat.not_lt.mpr two)
    have within : octets.length ≤ declaredLength (secondOf octets) := by
      rcases incomplete with short | short
      · omega
      · omega
    have filled := fill_turned maxPayloadBytes [] data incomplete nonempty
    rw [List.append_nil] at filled
    rw [turn_of_some outside known]
    exact filled two within
  · have unknown : (guardOf maxPayloadBytes (.header octets)).headerLength = none :=
      if_pos (Nat.lt_of_not_le two)
    have header : (guardOf maxPayloadBytes (.header octets)).header = octets := rfl
    rw [turn_of_none outside unknown, header]
    dsimp only
    split
    · rename_i short
      have all : data.take (2 - octets.length) = data := by
        apply List.take_of_length_le
        rw [List.length_append, List.length_take] at short
        omega
      have used : data.drop (2 - octets.length) = [] := by
        apply List.drop_eq_nil_of_le
        rw [List.length_append, List.length_take] at short
        omega
      rw [all] at short ⊢
      rw [used]
      have still : Incomplete (octets ++ data) := Or.inl short
      have same : ({ guardOf maxPayloadBytes (.header octets) with
          header := octets ++ data } : FrameGuard) =
          guardOf maxPayloadBytes (.header (octets ++ data)) := by
        have none : measure (octets ++ data) = measure octets := by
          rw [show measure octets = none from unknown]
          exact if_pos short
        unfold guardOf
        dsimp only
        rw [none]
      rw [same]
      refine .next data [] none _ (List.append_nil _).symm nonempty still fun out => ?_
      rw [run_incomplete still]
      simp only [Option.toList_none, List.flatten_nil, List.append_nil]
    · rename_i enough
      have cut : data.take (2 - octets.length) ++ data.drop (2 - octets.length) = data :=
        List.take_append_drop ..
      have length : (octets ++ data.take (2 - octets.length)).length = 2 := by
        rw [List.length_append, List.length_take] at enough ⊢
        omega
      have known : ({ guardOf maxPayloadBytes (.header octets) with
          header := octets ++ data.take (2 - octets.length) } : FrameGuard).measured =
          guardOf maxPayloadBytes (.header (octets ++ data.take (2 - octets.length))) := by
        have some : measure (octets ++ data.take (2 - octets.length)) = some
            (declaredLength (secondOf (octets ++ data.take (2 - octets.length)))) := by
          unfold measure
          rw [if_neg (by rw [length]; decide)]
        have still : ({ guardOf maxPayloadBytes (.header octets) with
            header := octets ++ data.take (2 - octets.length) } : FrameGuard).headerLength =
            none := unknown
        rw [measured_of_none still]
        unfold guardOf
        dsimp only
        rw [some]
      rw [known]
      have filled := fill_turned maxPayloadBytes
        (data.take (2 - octets.length)) (data.drop (2 - octets.length)) incomplete
      rw [cut, length] at filled
      exact filled nonempty (Nat.le_refl 2) (two_le_declaredLength _)

theorem turn_turned (maxPayloadBytes : Nat) (waits : phase.Waits) (nonempty : data ≠ []) :
    Turned maxPayloadBytes phase data ((guardOf maxPayloadBytes phase).turn data) := by
  cases phase with
  | header octets => exact turn_header waits nonempty
  | payload headerLength remaining => exact turn_payload waits nonempty

end Turns

section Calls

variable {maxPayloadBytes : Nat} {phase : Phase} {data : Bytes}

inductive Fed (maxPayloadBytes : Nat) (phase : Phase) (data : Bytes) (chunks : List Bytes) :
    Except GuardError (List Bytes) × FrameGuard → Prop
  | ok (after : Phase) (more : List Bytes) (waits : after.Waits)
      (ran : ∀ out, run (octet maxPayloadBytes) ⟨phase, out⟩ data =
        (.ok (), ⟨after, out ++ more.flatten⟩)) :
      Fed maxPayloadBytes phase data chunks
        (.ok (chunks ++ more), guardOf maxPayloadBytes after)
  | raised (error : GuardError) (header lost : Bytes) (complete : Complete header)
      (bad : checkHeader maxPayloadBytes header = .error error)
      (ran : ∀ out, run (octet maxPayloadBytes) ⟨phase, out⟩ data =
        (.error error, ⟨.header header, out ++ lost⟩)) :
      Fed maxPayloadBytes phase data chunks
        (.error error, guardOf maxPayloadBytes (.header header))

theorem feedLoop_fed (maxPayloadBytes bound : Nat) (waits : phase.Waits) (chunks : List Bytes)
    (enough : data.length < bound) :
    Fed maxPayloadBytes phase data chunks
      (FrameGuard.feedLoop bound (guardOf maxPayloadBytes phase) data chunks) := by
  induction bound generalizing phase data chunks with
  | zero => omega
  | succ bound induction =>
      unfold FrameGuard.feedLoop
      split
      · rename_i empty
        subst empty
        have none : Fed maxPayloadBytes phase [] chunks
            (.ok (chunks ++ []), guardOf maxPayloadBytes phase) := by
          refine .ok phase [] waits fun out => ?_
          rw [run_nil, List.flatten_nil, List.append_nil]
        rw [List.append_nil] at none
        exact none
      · rename_i nonempty
        have turned := turn_turned maxPayloadBytes waits nonempty
        revert turned
        generalize (guardOf maxPayloadBytes phase).turn data = outcome
        intro turned
        cases turned with
        | raised consumed rest error header cut complete bad ran =>
            refine .raised error header [] complete bad fun out => ?_
            rw [cut, run_append_error (ran out), List.append_nil]
        | next consumed rest chunk after cut some waits ran =>
            have shorter : rest.length < bound := by
              have used := List.length_pos_iff.mpr some
              rw [cut, List.length_append] at enough
              omega
            have later := induction waits (chunks ++ chunk.toList) shorter
            dsimp only
            revert later
            generalize FrameGuard.feedLoop bound (guardOf maxPayloadBytes after) rest
              (chunks ++ chunk.toList) = outcome
            intro later
            cases later with
            | ok last more waits ranRest =>
                rw [List.append_assoc]
                refine .ok last (chunk.toList ++ more) waits fun out => ?_
                rw [cut, run_append_ok (ran out), ranRest, List.append_assoc,
                  ← List.flatten_append]
            | raised error header lost complete bad ranRest =>
                refine .raised error header (chunk.toList.flatten ++ lost) complete bad
                  fun out => ?_
                rw [cut, run_append_ok (ran out), ranRest, List.append_assoc]

/-- One turn more changes nothing once there is a turn for every octet. -/
theorem feedLoop_succ (maxPayloadBytes bound : Nat) (waits : phase.Waits) (chunks : List Bytes)
    (enough : data.length < bound) :
    FrameGuard.feedLoop (bound + 1) (guardOf maxPayloadBytes phase) data chunks =
      FrameGuard.feedLoop bound (guardOf maxPayloadBytes phase) data chunks := by
  induction bound generalizing phase data chunks with
  | zero => omega
  | succ bound induction =>
      rw [FrameGuard.feedLoop]
      conv_rhs => rw [FrameGuard.feedLoop]
      by_cases empty : data = []
      · rw [if_pos empty, if_pos empty]
      · rw [if_neg empty, if_neg empty]
        have turned := turn_turned maxPayloadBytes waits empty
        revert turned
        generalize (guardOf maxPayloadBytes phase).turn data = outcome
        intro turned
        cases turned with
        | raised consumed rest error header cut complete bad ran => rfl
        | next consumed rest chunk after cut some waits ran =>
            have shorter : rest.length < bound := by
              have used := List.length_pos_iff.mpr some
              rw [cut, List.length_append] at enough
              omega
            exact induction waits _ shorter

/-- The loop comes to its end: `feed` gives it as many turns as it can use. -/
theorem feedLoop_enough (maxPayloadBytes : Nat) (waits : phase.Waits) {bound : Nat}
    (enough : data.length < bound) :
    FrameGuard.feedLoop bound (guardOf maxPayloadBytes phase) data [] =
      (guardOf maxPayloadBytes phase).feed data := by
  induction bound, enough using Nat.le_induction with
  | base => rfl
  | succ bound enough induction =>
      rw [feedLoop_succ maxPayloadBytes bound waits [] enough]
      exact induction

structure Session where
  guard : FrameGuard
  forwarded : Bytes := []
deriving DecidableEq

/-- One call of `feed`. A call that raises forwards nothing. -/
def call (session : Session) (data : Bytes) : Except GuardError Unit × Session :=
  match session.guard.feed data with
  | (.ok chunks, guard) => (.ok (), { guard, forwarded := session.forwarded ++ chunks.flatten })
  | (.error error, guard) => (.error error, { session with guard })

structure Follows (maxPayloadBytes : Nat) (session : Session) (progress : Progress) : Prop where
  guard : session.guard = guardOf maxPayloadBytes progress.phase
  forwarded : session.forwarded = progress.forwarded
  waits : progress.phase.Waits

/-- Behind a header that is not allowed. What the raising call had let through is lost. -/
structure Stopped (maxPayloadBytes : Nat) (session : Session) (progress : Progress) : Prop where
  guard : session.guard = guardOf maxPayloadBytes progress.phase
  forwarded : session.forwarded <+: progress.forwarded

theorem call_agrees (session : Session) (progress : Progress) (data : Bytes)
    (follows : Follows maxPayloadBytes session progress) :
    Agree (Follows maxPayloadBytes) (Stopped maxPayloadBytes) (call session data)
      (run (octet maxPayloadBytes) progress data) := by
  obtain ⟨guard, forwarded⟩ := session
  obtain ⟨phase, out⟩ := progress
  obtain ⟨here, same, waits⟩ := follows
  dsimp only at here same waits
  subst here same
  have fed := feedLoop_fed maxPayloadBytes (data.length + 1) waits []
    (Nat.lt_succ_self data.length)
  change Fed maxPayloadBytes phase data [] ((guardOf maxPayloadBytes phase).feed data) at fed
  unfold call
  dsimp only
  revert fed
  generalize (guardOf maxPayloadBytes phase).feed data = outcome
  intro fed
  cases fed with
  | ok after more waits ran =>
      rw [ran, List.nil_append]
      exact Agree.ok ⟨rfl, rfl, waits⟩
  | raised error header lost complete bad ran =>
      rw [ran]
      exact Agree.error ⟨rfl, List.prefix_append ..⟩

end Calls

section Grammar

variable {maxPayloadBytes : Nat} {progress next : Progress} {fed : Bytes}

/-- A frame that is allowed: a complete header and the payload it declares. -/
inductive Frame (maxPayloadBytes : Nat) : Bytes → Prop
  | intro (header payload : Bytes) (complete : Complete header)
      (allowed : ¬ Bad maxPayloadBytes header)
      (declared : payload.length = payloadLength header) : Frame maxPayloadBytes (header ++ payload)

/-- The input is whole frames and a bad header, whatever follows it. -/
structure BadAt (maxPayloadBytes : Nat) (data : Bytes) (frames : List Bytes) (header : Bytes) :
    Prop where
  whole : ∀ frame ∈ frames, Frame maxPayloadBytes frame
  complete : Complete header
  bad : Bad maxPayloadBytes header
  here : ∃ rest, data = frames.flatten ++ header ++ rest

/-- The input is whole frames and the beginning of one, whose payload is forwarded as far as
it goes and whose header is not. -/
inductive Accepts (maxPayloadBytes : Nat) (data : Bytes) : Phase → Bytes → Prop
  | header (frames : List Bytes) (tail : Bytes)
      (whole : ∀ frame ∈ frames, Frame maxPayloadBytes frame) (incomplete : Incomplete tail)
      (cut : data = frames.flatten ++ tail) :
      Accepts maxPayloadBytes data (.header tail) frames.flatten
  | payload (frames : List Bytes) (header payload : Bytes) (headerLength : Option Nat)
      (remaining : Nat) (whole : ∀ frame ∈ frames, Frame maxPayloadBytes frame)
      (complete : Complete header) (allowed : ¬ Bad maxPayloadBytes header)
      (left : payload.length + remaining = payloadLength header) (some : 0 < remaining)
      (cut : data = frames.flatten ++ (header ++ payload)) :
      Accepts maxPayloadBytes data (.payload headerLength remaining) data

theorem check_of_allowed {header : Bytes} (allowed : ¬ Bad maxPayloadBytes header) :
    checkHeader maxPayloadBytes header = .ok (payloadLength header) := by
  rcases checkHeader_cases maxPayloadBytes header with ⟨passed, -⟩ | ⟨error, -, bad⟩
  · exact passed
  · exact absurd bad allowed

theorem check_of_bad {header : Bytes} (bad : Bad maxPayloadBytes header) :
    ∃ error, checkHeader maxPayloadBytes header = .error error := by
  rcases checkHeader_cases maxPayloadBytes header with ⟨-, allowed⟩ | ⟨error, raised, -⟩
  · exact absurd bad allowed
  · exact ⟨error, raised⟩

theorem Complete.nonempty {header : Bytes} (complete : Complete header) : header ≠ [] := by
  rw [← List.length_pos_iff]
  exact Nat.lt_of_lt_of_le (by decide) complete.two

theorem run_header {header : Bytes} (complete : Complete header) (out : Bytes) :
    run (octet maxPayloadBytes) ⟨.header [], out⟩ header =
      match checkHeader maxPayloadBytes header with
      | .error error => (.error error, ⟨.header header, out⟩)
      | .ok length => (.ok (), ⟨enter header length, out ++ header⟩) :=
  run_complete complete.nonempty (show Complete ([] ++ header) from complete)

theorem run_frame {frame : Bytes} (allowed : Frame maxPayloadBytes frame) (out : Bytes) :
    run (octet maxPayloadBytes) ⟨.header [], out⟩ frame =
      (.ok (), ⟨.header [], out ++ frame⟩) := by
  obtain ⟨header, payload, complete, allowed, declared⟩ := allowed
  have first : run (octet maxPayloadBytes) ⟨.header [], out⟩ header =
      (.ok (), ⟨enter header (payloadLength header), out ++ header⟩) := by
    rw [run_header complete, check_of_allowed allowed]
  rw [run_append_ok first, ← declared]
  unfold enter
  split
  · rename_i empty
    rw [List.length_eq_zero_iff.mp empty, run_nil, List.append_nil]
  · rename_i some
    have nonempty : payload ≠ [] := fun empty => some (congrArg List.length empty)
    rw [run_payload (Nat.le_refl _) nonempty, if_pos rfl, List.append_assoc]

theorem run_frames {frames : List Bytes} (allowed : ∀ frame ∈ frames, Frame maxPayloadBytes frame)
    (out : Bytes) :
    run (octet maxPayloadBytes) ⟨.header [], out⟩ frames.flatten =
      (.ok (), ⟨.header [], out ++ frames.flatten⟩) := by
  induction frames generalizing out with
  | nil => rw [List.flatten_nil, run_nil, List.append_nil]
  | cons frame frames induction =>
      have first := run_frame (allowed frame List.mem_cons_self) out
      rw [List.flatten_cons, run_append_ok first,
        induction fun other member => allowed other (List.mem_cons_of_mem frame member),
        List.append_assoc]

theorem run_badAt {data : Bytes} {frames : List Bytes} {header : Bytes}
    (badAt : BadAt maxPayloadBytes data frames header) :
    ∃ error, checkHeader maxPayloadBytes header = .error error ∧
      run (octet maxPayloadBytes) {} data =
        (.error error, ⟨.header header, frames.flatten⟩) := by
  obtain ⟨rest, rfl⟩ := badAt.here
  obtain ⟨error, raised⟩ := check_of_bad badAt.bad
  have before := run_frames badAt.whole []
  have stopped : run (octet maxPayloadBytes) ⟨.header [], [] ++ frames.flatten⟩ header =
      (.error error, ⟨.header header, frames.flatten⟩) := by
    rw [run_header badAt.complete, raised]
    rfl
  refine ⟨error, raised, ?_⟩
  rw [List.append_assoc, run_append_ok before, run_append_error stopped]

theorem whole_snoc {frames : List Bytes} {frame : Bytes}
    (whole : ∀ frame ∈ frames, Frame maxPayloadBytes frame)
    (last : Frame maxPayloadBytes frame) :
    ∀ other ∈ frames ++ [frame], Frame maxPayloadBytes other := by
  intro other member
  rcases List.mem_append.mp member with earlier | here
  · exact whole other earlier
  · rw [List.mem_singleton.mp here]
    exact last

theorem accepts_enter {frames : List Bytes} {header : Bytes}
    (whole : ∀ frame ∈ frames, Frame maxPayloadBytes frame) (complete : Complete header)
    (allowed : ¬ Bad maxPayloadBytes header) (cut : fed = frames.flatten ++ header) :
    Accepts maxPayloadBytes fed (enter header (payloadLength header)) fed := by
  unfold enter
  split
  · rename_i none
    have last : Frame maxPayloadBytes header := by
      have intro := Frame.intro header [] complete allowed none.symm
      rw [List.append_nil] at intro
      exact intro
    have joined : fed = (frames ++ [header]).flatten := by
      rw [List.flatten_append, List.flatten_singleton, cut]
    have accepts : Accepts maxPayloadBytes fed (.header []) (frames ++ [header]).flatten :=
      .header _ [] (whole_snoc whole last) (Or.inl (by decide))
        (by rw [List.append_nil, joined])
    rw [← joined] at accepts
    exact accepts
  · rename_i some
    refine .payload frames header [] _ _ whole complete allowed ?_ (Nat.pos_of_ne_zero some) ?_
    · rw [List.length_nil, Nat.zero_add]
    · rw [List.append_nil, cut]

theorem octet_accepts (accepts : Accepts maxPayloadBytes fed progress.phase progress.forwarded)
    (received : UInt8) (stepped : octet maxPayloadBytes progress received = (.ok (), next)) :
    Accepts maxPayloadBytes (fed ++ [received]) next.phase next.forwarded := by
  obtain ⟨phase, forwarded⟩ := progress
  dsimp only at accepts
  cases accepts with
  | header frames tail whole incomplete cut =>
      have grown : fed ++ [received] = frames.flatten ++ (tail ++ [received]) := by
        rw [cut, List.append_assoc]
      unfold octet at stepped
      dsimp only at stepped
      split at stepped
      · rename_i still
        cases stepped
        exact .header frames _ whole still grown
      · rename_i now
        have complete := complete_of_snoc incomplete now
        rcases checkHeader_cases maxPayloadBytes (tail ++ [received]) with
          ⟨passed, allowed⟩ | ⟨error, raised, -⟩
        · rw [passed] at stepped
          cases stepped
          have accepts := accepts_enter whole complete allowed grown
          rw [grown] at accepts ⊢
          exact accepts
        · rw [raised] at stepped
          cases stepped
  | payload frames header payload headerLength remaining whole complete allowed left some cut =>
      obtain ⟨fewer, rfl⟩ : ∃ fewer, remaining = fewer + 1 := ⟨remaining - 1, by omega⟩
      have grown : fed ++ [received] = frames.flatten ++ (header ++ (payload ++ [received])) := by
        conv_lhs => rw [cut]
        simp only [List.append_assoc]
      have length : (payload ++ [received]).length = payload.length + 1 := List.length_append
      rw [octet_payload] at stepped
      cases stepped
      dsimp only
      split
      · rename_i none
        have last : Frame maxPayloadBytes (header ++ (payload ++ [received])) :=
          .intro header _ complete allowed (by omega)
        have joined : fed ++ [received] =
            (frames ++ [header ++ (payload ++ [received])]).flatten := by
          rw [List.flatten_append, List.flatten_singleton, grown]
        have accepts : Accepts maxPayloadBytes (fed ++ [received]) (.header [])
            (frames ++ [header ++ (payload ++ [received])]).flatten :=
          .header _ [] (whole_snoc whole last) (Or.inl (by decide))
            (by rw [List.append_nil, joined])
        rw [← joined] at accepts
        exact accepts
      · rename_i more
        exact .payload frames header _ headerLength fewer whole complete allowed (by omega)
          (Nat.pos_of_ne_zero more) grown

theorem run_accepts {data : Bytes}
    (reached : run (octet maxPayloadBytes) {} data = (.ok (), next)) :
    Accepts maxPayloadBytes data next.phase next.forwarded := by
  have start : Accepts maxPayloadBytes [] (.header []) ([] : List Bytes).flatten :=
    .header [] [] (fun frame member => (List.not_mem_nil member).elim) (Or.inl (by decide)) rfl
  have kept : ∀ (fed : Bytes) (progress : Progress) (received : UInt8) (next : Progress),
      Accepts maxPayloadBytes fed progress.phase progress.forwarded →
      octet maxPayloadBytes progress received = (.ok (), next) →
      Accepts maxPayloadBytes (fed ++ [received]) next.phase next.forwarded :=
    fun fed progress received next accepts stepped => octet_accepts accepts received stepped
  exact run_invariant kept start reached

theorem run_raises {data : Bytes} {error : GuardError}
    (raised : run (octet maxPayloadBytes) {} data = (.error error, next)) :
    ∃ frames header, BadAt maxPayloadBytes data frames header := by
  obtain ⟨front, received, back, middle, rfl, before, here⟩ := run_eq_error raised
  have accepts := run_accepts before
  obtain ⟨phase, forwarded⟩ := middle
  dsimp only at accepts
  cases accepts with
  | payload frames header payload headerLength remaining whole complete allowed left some cut =>
      obtain ⟨fewer, rfl⟩ : ∃ fewer, remaining = fewer + 1 := ⟨remaining - 1, by omega⟩
      rw [octet_payload] at here
      cases here
  | header frames tail whole incomplete cut =>
      unfold octet at here
      dsimp only at here
      split at here
      · cases here
      · rename_i now
        rcases checkHeader_cases maxPayloadBytes (tail ++ [received]) with
          ⟨passed, -⟩ | ⟨error, -, bad⟩
        · rw [passed] at here
          cases here
        · refine ⟨frames, tail ++ [received], whole, complete_of_snoc incomplete now, bad, back, ?_⟩
          rw [cut]
          simp only [List.append_assoc, List.singleton_append]

end Grammar

section Cuts

variable {maxPayloadBytes : Nat} {data : Bytes}

theorem feedLoop_stopped {header : Bytes} {error : GuardError} (complete : Complete header)
    (bad : checkHeader maxPayloadBytes header = .error error) (nonempty : data ≠ [])
    (bound : Nat) :
    FrameGuard.feedLoop (bound + 1) (guardOf maxPayloadBytes (.header header)) data [] =
      (.error error, guardOf maxPayloadBytes (.header header)) := by
  have outside : ¬ 0 < (guardOf maxPayloadBytes (.header header)).payloadRemaining :=
    Nat.lt_irrefl 0
  have known : (guardOf maxPayloadBytes (.header header)).headerLength =
      some (declaredLength (secondOf header)) := if_neg (Nat.not_lt.mpr complete.two)
  have gap : (guardOf maxPayloadBytes (.header header)).headerLength.getD 0 -
      (guardOf maxPayloadBytes (.header header)).header.length = 0 := by
    change (guardOf maxPayloadBytes (.header header)).headerLength.getD 0 - header.length = 0
    rw [known, Option.getD_some, ← complete.length, Nat.sub_self]
  have turned : (guardOf maxPayloadBytes (.header header)).turn data =
      (.raised error, guardOf maxPayloadBytes (.header header)) := by
    rw [turn_of_some outside known]
    unfold fill
    dsimp only
    rw [gap, List.take_zero, List.append_nil, List.drop_zero]
    have settled := settle_eq maxPayloadBytes header data
    have full : ¬ header.length < (measure header).getD 0 := by
      change (measure header) = _ at known
      rw [known, Option.getD_some, ← complete.length]
      exact Nat.lt_irrefl _
    rw [if_neg full, bad] at settled
    exact settled
  unfold FrameGuard.feedLoop
  rw [if_neg nonempty, turned]

/-- What is true of every cut of the input into calls. -/
structure Guarded (maxPayloadBytes : Nat) (data : Bytes)
    (outcome : Except GuardError Unit × Session) : Prop where
  raises : (∃ error, outcome.1 = .error error) ↔
    ∃ frames header, BadAt maxPayloadBytes data frames header
  first : ∀ frames header, BadAt maxPayloadBytes data frames header →
    outcome.2.guard.header = header ∧ outcome.2.forwarded <+: frames.flatten
  forever : ∀ error, outcome.1 = .error error → ∀ more, more ≠ [] →
    outcome.2.guard.feed more = (.error error, outcome.2.guard)
  terminates : ∀ more bound, more.length < bound →
    FrameGuard.feedLoop bound outcome.2.guard more [] = outcome.2.guard.feed more
  returns : outcome.1 = .ok () → ∃ phase, outcome.2.guard = guardOf maxPayloadBytes phase ∧
    Accepts maxPayloadBytes data phase outcome.2.forwarded ∧
    outcome.2.forwarded ++ outcome.2.guard.header = data ∧
    outcome.2.guard.header.length ≤ 13

theorem accepts_forwarded {phase : Phase} {forwarded : Bytes}
    (accepts : Accepts maxPayloadBytes data phase forwarded) :
    forwarded ++ (guardOf maxPayloadBytes phase).header = data ∧
      (guardOf maxPayloadBytes phase).header.length ≤ 13 := by
  cases accepts with
  | header frames tail whole incomplete cut => exact ⟨cut.symm, incomplete.length_le⟩
  | payload frames header payload headerLength remaining whole complete allowed left some cut =>
      exact ⟨List.append_nil data, Nat.zero_le 13⟩

/-- **The guard accepts exactly the well-formed bounded frames and forwards every octet
once, however the input is cut.** -/
theorem guards_exactly (maxPayloadBytes : Nat) (pieces : List Bytes) :
    Guarded maxPayloadBytes pieces.flatten
      (run call { guard := { maxPayloadBytes } } pieces) := by
  have fresh : Follows maxPayloadBytes { guard := { maxPayloadBytes } } {} :=
    ⟨rfl, rfl, Or.inl (by decide)⟩
  have agree := run_pieces call_agrees fresh pieces
  rw [List.flatMap_id'] at agree
  revert agree
  generalize run call { guard := { maxPayloadBytes } } pieces = outcome
  generalize pieces.flatten = data
  intro agree
  have stops : ∀ frames header, BadAt maxPayloadBytes data frames header →
      ∃ error, checkHeader maxPayloadBytes header = .error error ∧ outcome.1 = .error error ∧
        outcome.2.guard = guardOf maxPayloadBytes (.header header) ∧
        outcome.2.forwarded <+: frames.flatten := by
    intro frames header badAt
    obtain ⟨error, bad, ran⟩ := run_badAt badAt
    rw [ran] at agree
    obtain ⟨guard, forwarded⟩ := agree.raised error rfl
    exact ⟨error, bad, agree.sameOutcome, guard, forwarded⟩
  have found : ∀ error, outcome.1 = .error error →
      ∃ frames header, BadAt maxPayloadBytes data frames header := by
    intro error raised
    exact run_raises (Prod.ext (agree.sameOutcome.symm.trans raised) rfl)
  refine ⟨⟨?_, ?_⟩, ?_, ?_, ?_, ?_⟩
  · rintro ⟨error, raised⟩
    exact found error raised
  · rintro ⟨frames, header, badAt⟩
    obtain ⟨error, -, raised, -⟩ := stops frames header badAt
    exact ⟨error, raised⟩
  · intro frames header badAt
    obtain ⟨error, -, -, guard, forwarded⟩ := stops frames header badAt
    rw [guard]
    exact ⟨rfl, forwarded⟩
  · intro error raised more nonempty
    obtain ⟨frames, header, badAt⟩ := found error raised
    obtain ⟨same, bad, here, guard, -⟩ := stops frames header badAt
    rw [raised] at here
    cases here
    rw [guard]
    exact feedLoop_stopped badAt.complete bad nonempty more.length
  · intro more bound enough
    rcases ended : outcome.1 with error | _
    · obtain ⟨frames, header, badAt⟩ := found error ended
      obtain ⟨same, bad, -, guard, -⟩ := stops frames header badAt
      obtain ⟨bound, rfl⟩ : ∃ fewer, bound = fewer + 1 := ⟨bound - 1, by omega⟩
      rw [guard]
      by_cases empty : more = []
      · subst empty
        rfl
      · rw [feedLoop_stopped badAt.complete bad empty]
        exact (feedLoop_stopped badAt.complete bad empty more.length).symm
    · obtain ⟨guard, -, waits⟩ := agree.reached (agree.sameOutcome.symm.trans ended)
      rw [guard]
      exact feedLoop_enough maxPayloadBytes waits enough
  · intro reached
    have ran := agree.sameOutcome.symm.trans reached
    obtain ⟨guard, forwarded, -⟩ := agree.reached ran
    have accepts := run_accepts (Prod.ext ran rfl)
    rw [← forwarded] at accepts
    refine ⟨_, guard, accepts, ?_⟩
    rw [guard]
    exact accepts_forwarded accepts

end Cuts

end SmallServer.WebSocketGuard
