import SmallServer.HttpValues

/-!
# Sending through the kernel

`KernelTransport.send_all` as the turns of its loop. Each turn offers the kernel what is
left of the data and acts on the answer, so that a caller's task can be suspended or
cancelled between any two of them.
-/

namespace SmallServer.KernelTransport

open SmallServer HttpValues

set_option autoImplicit false

inductive RetryMode where
  | read
  | write
deriving DecidableEq

/-- What `socket_send` answers; for an exception, with what `socket_retry_mode` makes
of it. -/
inductive SocketAnswer where
  | sent (count : Int)
  | notAnInt
  | raised (retry : Option RetryMode)
deriving DecidableEq

inductive SendError where
  | invalidCount
  | noProgress
  | oversizedCount
  | kernelError
deriving DecidableEq

structure SendAll where
  data : Bytes
  offset : Nat
  unfinished : offset < data.length
deriving DecidableEq

inductive SendTurn where
  | returned
  | again (send : SendAll)
  | suspended (mode : RetryMode)
  | raised (error : SendError)
deriving DecidableEq

namespace SendAll

def start (data : Bytes) : Option SendAll :=
  if unfinished : 0 < data.length then some { data, offset := 0, unfinished } else none

/-- `view[offset:]`. -/
def offer (send : SendAll) : Bytes := send.data.drop send.offset

/-- `offset += sent`, and the loop's condition. -/
def advance (send : SendAll) (count : Nat) : SendTurn :=
  if unfinished : send.offset + count < send.data.length then
    .again { data := send.data, offset := send.offset + count, unfinished }
  else .returned

def turn (send : SendAll) : SocketAnswer → SendTurn
  | .raised (some mode) => .suspended mode
  | .raised none => .raised .kernelError
  | .notAnInt => .raised .invalidCount
  | .sent count =>
      if count ≤ 0 then .raised .noProgress
      else if count > send.data.length - send.offset then .raised .oversizedCount
      else send.advance count.toNat

/-- The bytes the kernel takes with an answer: a count within the offer is a count of
bytes taken, anything else takes none. -/
def accepted (send : SendAll) : SocketAnswer → Bytes
  | .sent count =>
      if 0 < count ∧ count ≤ send.offer.length then send.offer.take count.toNat else []
  | _ => []

def rest (send : SendAll) : SendTurn → Bytes
  | .returned => []
  | .again send => send.offer
  | .suspended _ => send.offer
  | .raised _ => send.offer

@[simp] theorem offer_length (send : SendAll) :
    send.offer.length = send.data.length - send.offset :=
  List.length_drop

theorem start_eq_none {data : Bytes} (empty : start data = none) : data = [] := by
  unfold start at empty
  split at empty
  · cases empty
  · rename_i short
    exact List.length_eq_zero_iff.mp (Nat.eq_zero_of_not_pos short)

theorem start_offer {data : Bytes} {send : SendAll} (started : start data = some send) :
    send.offer = data := by
  unfold start at started
  split at started
  · cases started
    exact List.drop_zero
  · cases started

theorem advance_rest (send : SendAll) (count : Nat) :
    send.rest (send.advance count) = send.offer.drop count := by
  unfold advance
  split
  · exact List.drop_drop.symm
  · rename_i past
    apply Eq.symm
    apply List.drop_eq_nil_of_le
    rw [offer_length]
    omega

theorem accepted_append_rest (send : SendAll) (answer : SocketAnswer) :
    send.accepted answer ++ send.rest (send.turn answer) = send.offer := by
  cases answer with
  | raised retry =>
      cases retry with
      | none => rfl
      | some mode => rfl
  | notAnInt => rfl
  | sent count =>
      have unfinished := send.unfinished
      simp only [turn, accepted, offer_length]
      by_cases positive : count ≤ 0
      · rw [if_pos positive, if_neg (by omega)]
        rfl
      · rw [if_neg positive]
        by_cases oversized : count > send.data.length - send.offset
        · rw [if_pos oversized, if_neg (by omega)]
          rfl
        · rw [if_neg oversized, if_pos (by omega), advance_rest]
          exact List.take_append_drop count.toNat send.offer

end SendAll

end SmallServer.KernelTransport
