import SmallServer.KernelTransport
import SmallServer.Runs

/-!
# Delivery by `send_all`

The loop of `send_all` against a kernel that may answer anything, with the waits of
`_wait_for_retry` in between. What the kernel took is read off the answers alone.
-/

namespace SmallServer.SendDelivery

open SmallServer HttpValues KernelTransport Runs

set_option autoImplicit false

section Loop

inductive Failure where
  | send (error : SendError)
  | wait
deriving DecidableEq

/-- Where `send_all` stands: about to offer, waiting for readiness in one direction, or over. -/
inductive Phase where
  | offering (send : SendAll)
  | waiting (send : SendAll) (mode : RetryMode)
  | returned
  | raised (failure : Failure)
deriving DecidableEq

/-- An offer with the kernel's answer, or the end of a wait. -/
inductive Label where
  | sent (offer : Bytes) (answer : SocketAnswer)
  | ready (mode : RetryMode)
  | interrupted (mode : RetryMode)
deriving DecidableEq

def start (data : Bytes) : Phase :=
  match SendAll.start data with
  | some send => .offering send
  | none => .returned

def afterTurn (send : SendAll) : SendTurn → Phase
  | .returned => .returned
  | .again send => .offering send
  | .suspended mode => .waiting send mode
  | .raised error => .raised (.send error)

inductive Step : Phase → Label → Phase → Prop
  | sent {send : SendAll} (answer : SocketAnswer) :
      Step (.offering send) (.sent send.offer answer) (afterTurn send (send.turn answer))
  | ready {send : SendAll} {mode : RetryMode} :
      Step (.waiting send mode) (.ready mode) (.offering send)
  | interrupted {send : SendAll} {mode : RetryMode} :
      Step (.waiting send mode) (.interrupted mode) (.raised .wait)

end Loop

section Specification

/-- The bytes the kernel took: as many as it counts, where the count is one of those offered. -/
def Label.accepted : Label → Bytes
  | .sent offer (.sent count) =>
      if 1 ≤ count ∧ count ≤ offer.length then offer.take count.toNat else []
  | _ => []

def accepted (labels : List Label) : Bytes := labels.flatMap Label.accepted

/-- What `send_all` has to raise at a step: at a count outside the offer, at a fatal exception,
and when a wait does not end well. -/
def Label.failure : Label → Option Failure
  | .sent _ .notAnInt => some (.send .invalidCount)
  | .sent _ (.raised none) => some (.send .kernelError)
  | .sent _ (.raised (some _)) => none
  | .sent offer (.sent count) =>
      if count ≤ 0 then some (.send .noProgress)
      else if count > offer.length then some (.send .oversizedCount)
      else none
  | .ready _ => none
  | .interrupted _ => some .wait

def Label.invalidCount : Label → Prop
  | .sent _ .notAnInt => True
  | .sent offer (.sent count) => ¬(1 ≤ count ∧ count ≤ offer.length)
  | _ => False

/-- What the kernel took and what is left make up the data, at the end as within the loop. -/
def Leaves (data taken : Bytes) : Phase → Prop
  | .offering send => taken ++ send.offer = data
  | .waiting send _ => taken ++ send.offer = data
  | .returned => taken = data
  | .raised _ => ∃ rest, rest ≠ [] ∧ taken ++ rest = data

end Specification

section Turns

variable {data : Bytes} {phase next : Phase} {label : Label} {labels : List Label}

theorem offer_ne_nil (send : SendAll) : send.offer ≠ [] := by
  have unfinished := send.unfinished
  refine List.ne_nil_of_length_pos ?_
  rw [SendAll.offer_length]
  omega

theorem leaves_start (data : Bytes) : Leaves data [] (start data) := by
  unfold start
  cases started : SendAll.start data with
  | none => exact (SendAll.start_eq_none started).symm
  | some send => exact SendAll.start_offer started

theorem accepted_sent (send : SendAll) (answer : SocketAnswer) :
    (Label.sent send.offer answer).accepted = send.accepted answer := by
  cases answer with
  | sent count => rfl
  | notAnInt => rfl
  | raised retry => rfl

theorem leaves_step {taken : Bytes} (leaves : Leaves data taken phase)
    (step : Step phase label next) : Leaves data (taken ++ label.accepted) next := by
  cases step with
  | @sent send answer =>
      have divided := send.accepted_append_rest answer
      have whole : taken ++ (send.accepted answer ++ send.rest (send.turn answer)) = data := by
        rw [divided]
        exact leaves
      rw [← List.append_assoc] at whole
      rw [accepted_sent]
      cases turned : send.turn answer with
      | returned =>
          rw [turned] at whole
          exact (List.append_nil _).symm.trans whole
      | again later =>
          rw [turned] at whole
          exact whole
      | suspended mode =>
          rw [turned] at whole
          exact whole
      | raised error =>
          rw [turned] at whole
          exact ⟨send.offer, offer_ne_nil send, whole⟩
  | ready => exact (congrArg (· ++ _) (List.append_nil taken)).trans leaves
  | @interrupted send mode =>
      exact ⟨send.offer, offer_ne_nil send,
        (congrArg (· ++ _) (List.append_nil taken)).trans leaves⟩

theorem leaves_of_run (run : Run Step (start data) labels phase) :
    Leaves data (accepted labels) phase := by
  induction run with
  | nil => exact leaves_start data
  | @snoc labels _ _ label _ step induction =>
      have joined : accepted (labels ++ [label]) = accepted labels ++ label.accepted := by
        unfold accepted
        rw [List.flatMap_append, List.flatMap_singleton]
      rw [joined]
      exact leaves_step induction step

theorem turn_failure (send : SendAll) (answer : SocketAnswer) (failure : Failure) :
    afterTurn send (send.turn answer) = .raised failure ↔
      (Label.sent send.offer answer).failure = some failure := by
  cases answer with
  | notAnInt => simp [SendAll.turn, afterTurn, Label.failure]
  | raised retry => cases retry <;> simp [SendAll.turn, afterTurn, Label.failure]
  | sent count =>
      have unfinished := send.unfinished
      unfold SendAll.turn Label.failure
      dsimp only
      rw [SendAll.offer_length]
      by_cases negative : count ≤ 0
      · rw [if_pos negative, if_pos negative]
        simp [afterTurn]
      · rw [if_neg negative, if_neg negative]
        by_cases oversized : count > send.data.length - send.offset
        · rw [if_pos oversized, if_pos (by omega)]
          simp [afterTurn]
        · rw [if_neg oversized, if_neg (by omega)]
          unfold SendAll.advance
          split <;> simp [afterTurn]

theorem step_failure (step : Step phase label next) (failure : Failure) :
    next = .raised failure ↔ label.failure = some failure := by
  cases step with
  | sent answer => exact turn_failure _ answer failure
  | ready => simp [Label.failure]
  | interrupted => simp [Label.failure, eq_comm]

theorem run_raised {failure : Failure} (run : Run Step (.raised failure) labels next) :
    labels = [] ∧ next = .raised failure := by
  induction run with
  | nil => exact ⟨rfl, rfl⟩
  | snoc label _ step induction =>
      obtain ⟨_, rfl⟩ := induction
      cases step

theorem invalidCount_iff : label.invalidCount ↔
    ∃ error, label.failure = some (.send error) ∧ error ≠ .kernelError := by
  cases label with
  | ready mode => exact iff_of_false id fun ⟨_, silent, _⟩ => nomatch silent
  | interrupted mode => exact iff_of_false id fun ⟨_, waited, _⟩ => nomatch waited
  | sent offer answer =>
      cases answer with
      | notAnInt => exact iff_of_true trivial ⟨_, rfl, by decide⟩
      | raised retry =>
          cases retry with
          | some mode => exact iff_of_false id fun ⟨_, silent, _⟩ => nomatch silent
          | none =>
              refine iff_of_false id ?_
              rintro ⟨error, fatal, other⟩
              exact other (Failure.send.inj (Option.some.inj fatal)).symm
      | sent count =>
          change ¬(1 ≤ count ∧ count ≤ offer.length) ↔ _
          unfold Label.failure
          dsimp only
          by_cases negative : count ≤ 0
          · rw [if_pos negative]
            exact iff_of_true (by omega) ⟨_, rfl, by decide⟩
          · rw [if_neg negative]
            by_cases oversized : count > offer.length
            · rw [if_pos oversized]
              exact iff_of_true (by omega) ⟨_, rfl, by decide⟩
            · rw [if_neg oversized]
              exact iff_of_false (by omega) fun ⟨_, silent, _⟩ => nomatch silent

theorem Leaves.taken_prefix {taken : Bytes} (leaves : Leaves data taken phase) :
    taken <+: data := by
  cases phase with
  | offering send => exact ⟨_, leaves⟩
  | waiting send mode => exact ⟨_, leaves⟩
  | returned => exact leaves ▸ List.prefix_rfl
  | raised failure =>
      obtain ⟨rest, _, whole⟩ := leaves
      exact ⟨rest, whole⟩

theorem Leaves.returned_iff {taken : Bytes} (leaves : Leaves data taken phase) :
    phase = .returned ↔ taken = data := by
  have short : ∀ {rest : Bytes}, rest ≠ [] → taken ++ rest = data → taken ≠ data := by
    intro rest some whole same
    rw [← same] at whole
    exact some (List.append_right_eq_self.mp whole)
  cases phase with
  | offering send => exact iff_of_false nofun (short (offer_ne_nil send) leaves)
  | waiting send mode => exact iff_of_false nofun (short (offer_ne_nil send) leaves)
  | returned => exact iff_of_true rfl leaves
  | raised failure =>
      obtain ⟨rest, some, whole⟩ := leaves
      exact iff_of_false nofun (short some whole)

/-- Whatever the kernel answers and however often: the bytes it took are a prefix of the data,
in order; the call returns exactly when it took all of them; every offer is what is left after
the last byte taken; and the call raises at the first count that is no integer from 1 to the
number of bytes offered, at a fatal exception or out of a wait, and nowhere else. -/
theorem delivered_exactly (reached : Run Step (start data) labels phase) :
    accepted labels <+: data ∧
      (phase = .returned ↔ accepted labels = data) ∧
      (∀ before offer answer after, labels = before ++ .sent offer answer :: after →
        offer = data.drop (accepted before).length) ∧
      (∀ before label after, labels = before ++ label :: after → label.invalidCount →
        after = [] ∧ ∃ error, phase = .raised (.send error) ∧ error ≠ .kernelError) ∧
      ∀ failure, phase = .raised failure ↔
        ∃ before last, labels = before ++ [last] ∧ last.failure = some failure := by
  have leaves := leaves_of_run reached
  refine ⟨leaves.taken_prefix, leaves.returned_iff, ?_, ?_, ?_⟩
  · rintro before offer answer after rfl
    obtain ⟨middle, later, front, step, _⟩ := reached.stepAt
    cases step with
    | sent answer =>
        have whole : accepted before ++ _ = data := leaves_of_run front
        rw [← whole, List.drop_left]
  · rintro before label after rfl invalid
    obtain ⟨error, fails, own⟩ := invalidCount_iff.mp invalid
    obtain ⟨middle, later, _, step, rest⟩ := reached.stepAt
    obtain rfl := (step_failure step (.send error)).mpr fails
    obtain ⟨none, last⟩ := run_raised rest
    exact ⟨none, error, last, own⟩
  · intro failure
    constructor
    · rintro rfl
      generalize ended : Phase.raised failure = last at reached
      cases reached with
      | nil =>
          unfold start at ended
          split at ended <;> cases ended
      | @snoc before _ _ label _ step =>
          exact ⟨before, label, rfl, (step_failure step failure).mp ended.symm⟩
    · rintro ⟨before, last, rfl, fails⟩
      obtain ⟨middle, later, _, step, rest⟩ := reached.stepAt
      rw [rest.eq_of_nil]
      exact (step_failure step failure).mpr fails

end Turns

section Samples

def sampleData : Bytes := [104, 101, 108, 108, 111]

def sampleLabels : List Label :=
  [.sent sampleData (.sent 2), .sent [108, 108, 111] (.raised (some .read)), .ready .read,
    .sent [108, 108, 111] (.raised (some .write)), .ready .write,
    .sent [108, 108, 111] (.sent 1), .sent [108, 111] (.sent 3)]

theorem run_sample :
    Run Step (start sampleData) sampleLabels (.raised (.send .oversizedCount)) := by
  refine Run.cons (.sent (.sent 2)) ?_
  refine Run.cons (.sent (.raised (some .read))) (Run.cons .ready ?_)
  refine Run.cons (.sent (.raised (some .write))) (Run.cons .ready ?_)
  exact Run.cons (.sent (.sent 1)) (Run.single (.sent (.sent 3)))

theorem delivered_exactly_sample :
    accepted sampleLabels = [104, 101, 108] ∧ accepted sampleLabels <+: sampleData ∧
      (Phase.raised (.send .oversizedCount) = .returned ↔
        accepted sampleLabels = sampleData) := by
  obtain ⟨taken, returned, _⟩ := delivered_exactly run_sample
  exact ⟨by decide, taken, returned⟩

end Samples

end SmallServer.SendDelivery
