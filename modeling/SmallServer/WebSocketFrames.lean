import SmallServer.HttpValues
import Mathlib.Algebra.Ring.Nat

/-!
# WebSocket frames

`_FrameGuard.feed` checks the declared size of every client frame before a byte of its
payload is forwarded. `turn` is one turn of its loop.
-/

namespace SmallServer.WebSocketFrames

open SmallServer HttpValues

set_option autoImplicit false

inductive GuardError where
  | unmasked
  | nonMinimalLength
  | invalidLength
  | invalidControlFrame
  | payloadTooLarge
deriving DecidableEq

/-- `WebSocketCapacityError`; the others are `ValueError`s. -/
def GuardError.isCapacity : GuardError → Bool
  | .payloadTooLarge => true
  | _ => false

def GuardError.message : GuardError → String
  | .unmasked => "client WebSocket frames must be masked"
  | .nonMinimalLength => "non-minimal WebSocket frame length"
  | .invalidLength => "invalid WebSocket frame length"
  | .invalidControlFrame => "invalid WebSocket control frame"
  | .payloadTooLarge => "WebSocket frame payload is too large"

structure FrameGuard where
  maxPayloadBytes : Nat
  header : Bytes := []
  headerLength : Option Nat := none
  payloadRemaining : Nat := 0
deriving DecidableEq

/-- `int.from_bytes(data, "big")`. -/
def bigEndian (data : Bytes) : Nat := data.foldl (fun value byte => value * 256 + byte.toNat) 0

def extension (marker : Nat) : Nat :=
  if marker = 126 then 2 else if marker = 127 then 8 else 0

/-- `_header_length`, known from the second byte. -/
def declaredLength (second : UInt8) : Nat :=
  2 + extension (second.toNat % 128) + if 128 ≤ second.toNat then 4 else 0

/-- The checks on a complete header; its payload length, if it passes. -/
def checkHeader (maxPayloadBytes : Nat) (header : Bytes) : Except GuardError Nat :=
  let first := (header.getD 0 0).toNat
  let second := (header.getD 1 0).toNat
  if second < 128 then .error .unmasked
  else
    let marker := second % 128
    let length :=
      if marker = 126 then bigEndian ((header.drop 2).take 2)
      else if marker = 127 then bigEndian ((header.drop 2).take 8)
      else marker
    if marker = 126 ∧ length < 126 then .error .nonMinimalLength
    else if marker = 127 ∧ (length < 65536 ∨ 2 ^ 63 ≤ length) then .error .invalidLength
    else if 8 ≤ first % 16 ∧ (first < 128 ∨ 125 < length) then .error .invalidControlFrame
    else if maxPayloadBytes < length then .error .payloadTooLarge
    else .ok length

namespace FrameGuard

variable (guard : FrameGuard)

/-- `_header_length` once two bytes of the header are there. -/
def measured : FrameGuard :=
  match guard.headerLength with
  | some _ => guard
  | none => { guard with headerLength := some (declaredLength (guard.header.getD 1 0)) }

def completeHeader : Except GuardError Bytes × FrameGuard :=
  match checkHeader guard.maxPayloadBytes guard.header with
  | .error error => (.error error, guard)
  | .ok length =>
      (.ok guard.header, { guard with
        header := []
        payloadRemaining := length
        headerLength := if length = 0 then none else guard.headerLength })

/-- How a turn of the loop ends: with what is appended to `chunks` and what is left. -/
inductive Turn where
  | raised (error : GuardError)
  | next (chunk : Option Bytes) (rest : Bytes)
deriving DecidableEq

/-- One turn of the loop, on data that is not used up. -/
def turn (data : Bytes) : Turn × FrameGuard :=
  if 0 < guard.payloadRemaining then
    let length := min guard.payloadRemaining data.length
    (.next (some (data.take length)) (data.drop length), { guard with
      payloadRemaining := guard.payloadRemaining - length
      headerLength := if guard.payloadRemaining = length then none else guard.headerLength })
  else
    let needed := if guard.headerLength.isNone then 2 - guard.header.length else 0
    let started := { guard with header := guard.header ++ data.take needed }
    let left := data.drop needed
    if guard.headerLength.isNone ∧ started.header.length < 2 then (.next none left, started)
    else
      let known := started.measured
      let missing := known.headerLength.getD 0 - known.header.length
      let filled := { known with header := known.header ++ left.take missing }
      if filled.header.length < filled.headerLength.getD 0 then
        (.next none (left.drop missing), filled)
      else
        match filled.completeHeader with
        | (.error error, guard) => (.raised error, guard)
        | (.ok chunk, guard) => (.next (some chunk) (left.drop missing), guard)

/-- The loop. Only a header that is complete from the start is a turn that uses up nothing,
so the bound of `feed` is enough. -/
def feedLoop :
    Nat → FrameGuard → Bytes → List Bytes → Except GuardError (List Bytes) × FrameGuard
  | 0, guard, _, chunks => (.ok chunks, guard)
  | bound + 1, guard, data, chunks =>
      if data = [] then (.ok chunks, guard)
      else
        match guard.turn data with
        | (.raised error, guard) => (.error error, guard)
        | (.next chunk rest, guard) => feedLoop bound guard rest (chunks ++ chunk.toList)

def feed (data : Bytes) : Except GuardError (List Bytes) × FrameGuard :=
  feedLoop (data.length + 1) guard data []

end FrameGuard

end SmallServer.WebSocketFrames
