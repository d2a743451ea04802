import Mathlib.Data.List.Basic

/-!
# Base64

The standard alphabet with padding. The decoder wants whole groups of four characters and
padding only at the end; like most decoders it ignores the bits a padded group has left over.
-/

namespace SmallServer.Base64

set_option autoImplicit false

def alphabet : List Char :=
  "ABCDEFGHIJKLMNOPQRSTUVWXYZabcdefghijklmnopqrstuvwxyz0123456789+/".toList

def pad : Char := '='

def digit (value : Nat) : Char := alphabet.getD value pad

def value (c : Char) : Option Nat := alphabet.idxOf? c

theorem value_digit {number : Nat} (small : number < 64) : value (digit number) = some number := by
  have all : ∀ number < 64, value (digit number) = some number := by decide
  exact all number small

theorem value_pad : value pad = none := by decide

def digits (bits : Nat) : List Char :=
  [digit (bits / 262144), digit (bits / 4096 % 64), digit (bits / 64 % 64), digit (bits % 64)]

/-- `base64.b64encode`. -/
def encode : List UInt8 → List Char
  | [] => []
  | [first] => (digits (first.toNat * 65536)).take 2 ++ [pad, pad]
  | [first, second] => (digits (first.toNat * 65536 + second.toNat * 256)).take 3 ++ [pad]
  | first :: second :: third :: rest =>
      digits (first.toNat * 65536 + second.toNat * 256 + third.toNat) ++ encode rest

def bitsOf (first second third fourth : Nat) : Nat :=
  first * 262144 + second * 4096 + third * 64 + fourth

def byteOf (bits : Nat) : UInt8 := UInt8.ofNat (bits % 256)

/-- `base64.b64decode` with validation. -/
def decode : List Char → Option (List UInt8)
  | [] => some []
  | [_] => none
  | [_, _] => none
  | [_, _, _] => none
  | first :: second :: third :: fourth :: rest =>
      match value first, value second, value third, value fourth with
      | some a, some b, some c, some d =>
          (decode rest).map fun bytes =>
            byteOf (bitsOf a b c d / 65536) :: byteOf (bitsOf a b c d / 256) ::
              byteOf (bitsOf a b c d) :: bytes
      | some a, some b, some c, none =>
          if fourth = pad ∧ rest = [] then
            some [byteOf (bitsOf a b c 0 / 65536), byteOf (bitsOf a b c 0 / 256)]
          else none
      | some a, some b, none, none =>
          if third = pad ∧ fourth = pad ∧ rest = [] then some [byteOf (bitsOf a b 0 0 / 65536)]
          else none
      | _, _, _, _ => none

section RoundTrip

theorem byteOf_toNat (byte : UInt8) {bits : Nat} (same : bits % 256 = byte.toNat) :
    byteOf bits = byte := by
  unfold byteOf
  rw [same]
  exact UInt8.ofNat_toNat

theorem bitsOf_digits {bits : Nat} :
    bitsOf (bits / 262144) (bits / 4096 % 64) (bits / 64 % 64) (bits % 64) = bits := by
  unfold bitsOf
  omega

theorem decode_encode (bytes : List UInt8) : decode (encode bytes) = some bytes := by
  induction bytes using encode.induct with
  | case1 => rfl
  | case2 first =>
      have small := first.toNat_lt
      unfold encode digits
      simp only [List.take_succ_cons, List.take_zero, List.cons_append, List.nil_append, decode]
      rw [value_digit (by omega), value_digit (by omega), value_pad]
      simp only [and_self, if_true]
      rw [byteOf_toNat first (by unfold bitsOf; omega)]
  | case3 first second =>
      have small := first.toNat_lt
      have alsoSmall := second.toNat_lt
      unfold encode digits
      simp only [List.take_succ_cons, List.take_zero, List.cons_append, List.nil_append, decode]
      rw [value_digit (by omega), value_digit (by omega), value_digit (by omega), value_pad]
      simp only [and_self, if_true]
      rw [byteOf_toNat first (by unfold bitsOf; omega),
        byteOf_toNat second (by unfold bitsOf; omega)]
  | case4 first second third rest induction =>
      have firstSmall := first.toNat_lt
      have secondSmall := second.toNat_lt
      have thirdSmall := third.toNat_lt
      unfold encode digits
      simp only [List.cons_append, List.nil_append, decode]
      rw [value_digit (by omega), value_digit (by omega), value_digit (by omega),
        value_digit (by omega)]
      dsimp only
      rw [bitsOf_digits, induction, byteOf_toNat first (by omega),
        byteOf_toNat second (by omega), byteOf_toNat third (by omega)]
      rfl

theorem encode_length (bytes : List UInt8) :
    (encode bytes).length = 4 * ((bytes.length + 2) / 3) := by
  induction bytes using encode.induct with
  | case1 => rfl
  | case2 first => simp [encode, digits]
  | case3 first second => simp [encode, digits]
  | case4 first second third rest induction =>
      unfold encode
      rw [List.length_append, induction]
      simp only [digits, List.length_cons, List.length_nil]
      omega

theorem mem_encode {bytes : List UInt8} {c : Char} (member : c ∈ encode bytes) :
    c ∈ alphabet ∨ c = pad := by
  have digit_mem : ∀ number, digit number ∈ alphabet ∨ digit number = pad := by
    intro number
    unfold digit
    rw [List.getD_eq_getElem?_getD]
    cases found : alphabet[number]? with
    | none => exact Or.inr rfl
    | some c => exact Or.inl (List.mem_of_getElem? found)
  have digits_mem : ∀ bits, ∀ c ∈ digits bits, c ∈ alphabet ∨ c = pad := by
    intro bits c member
    simp only [digits, List.mem_cons, List.not_mem_nil, or_false] at member
    rcases member with rfl | rfl | rfl | rfl
    all_goals exact digit_mem _
  induction bytes using encode.induct with
  | case1 => cases member
  | case2 first =>
      unfold encode at member
      rcases List.mem_append.mp member with inside | padding
      · exact digits_mem _ c (List.mem_of_mem_take inside)
      · simp only [List.mem_cons, List.not_mem_nil, or_false, or_self] at padding
        exact Or.inr padding
  | case3 first second =>
      unfold encode at member
      rcases List.mem_append.mp member with inside | padding
      · exact digits_mem _ c (List.mem_of_mem_take inside)
      · exact Or.inr (List.mem_singleton.mp padding)
  | case4 first second third rest induction =>
      unfold encode at member
      rcases List.mem_append.mp member with inside | later
      · exact digits_mem _ c inside
      · exact induction later

end RoundTrip

section Lengths

/-- The texts that decode: digits in groups of four, the last one padded or not. -/
theorem decode_cons {first second third fourth : Char} {rest : List Char} {bytes : List UInt8}
    (decoded : decode (first :: second :: third :: fourth :: rest) = some bytes) :
    (∃ more, decode rest = some more ∧ bytes.length = more.length + 3 ∧
      ∀ c ∈ [first, second, third, fourth], (value c).isSome = true) ∨
    (rest = [] ∧ bytes.length = 2 ∧ fourth = pad ∧
      ∀ c ∈ [first, second, third], (value c).isSome = true) ∨
    (rest = [] ∧ bytes.length = 1 ∧ third = pad ∧ fourth = pad ∧
      ∀ c ∈ [first, second], (value c).isSome = true) := by
  unfold decode at decoded
  split at decoded
  · rename_i a b c d readA readB readC readD
    obtain ⟨more, decodedRest, rfl⟩ := Option.map_eq_some_iff.mp decoded
    exact Or.inl ⟨more, decodedRest, rfl, by simp [readA, readB, readC, readD]⟩
  · rename_i a b c readA readB readC _
    split at decoded
    · rename_i padded
      cases decoded
      exact Or.inr (Or.inl ⟨padded.2, rfl, padded.1, by simp [readA, readB, readC]⟩)
    · cases decoded
  · rename_i a b readA readB _ _
    split at decoded
    · rename_i padded
      cases decoded
      exact Or.inr (Or.inr ⟨padded.2.2, rfl, padded.1, padded.2.1, by simp [readA, readB]⟩)
    · cases decoded
  · cases decoded

/-- Texts for one byte more than a multiple of three: digits up to two marks of padding. -/
theorem decode_padded_iff (groups : Nat) (text : List Char) :
    (∃ bytes, decode text = some bytes ∧ bytes.length = 3 * groups + 1) ↔
      ∃ front, text = front ++ [pad, pad] ∧ front.length = 4 * groups + 2 ∧
        ∀ c ∈ front, (value c).isSome = true := by
  induction groups generalizing text with
  | zero =>
      constructor
      · rintro ⟨bytes, decoded, size⟩
        match text with
        | [] =>
            cases decoded
            cases size
        | [_] | [_, _] | [_, _, _] => cases decoded
        | first :: second :: third :: fourth :: rest =>
            rcases decode_cons decoded with ⟨more, -, long, -⟩ | ⟨-, two, -⟩ |
              ⟨rfl, -, rfl, rfl, read⟩
            · omega
            · omega
            · exact ⟨[first, second], rfl, rfl, read⟩
      · rintro ⟨front, rfl, size, read⟩
        match front, size with
        | [first, second], _ =>
            obtain ⟨a, readA⟩ := Option.isSome_iff_exists.mp (read first (by simp))
            obtain ⟨b, readB⟩ := Option.isSome_iff_exists.mp (read second (by simp))
            refine ⟨[byteOf (bitsOf a b 0 0 / 65536)], ?_, rfl⟩
            simp only [List.cons_append, List.nil_append, decode, readA, readB, value_pad,
              and_self, if_true]
  | succ groups induction =>
      constructor
      · rintro ⟨bytes, decoded, size⟩
        match text with
        | [] =>
            cases decoded
            exact absurd size (by simp)
        | [_] | [_, _] | [_, _, _] => cases decoded
        | first :: second :: third :: fourth :: rest =>
            rcases decode_cons decoded with ⟨more, decodedRest, long, read⟩ | ⟨-, two, -⟩ |
              ⟨-, one, -⟩
            · obtain ⟨front, rfl, frontSize, frontRead⟩ :=
                (induction rest).mp ⟨more, decodedRest, by omega⟩
              refine ⟨first :: second :: third :: fourth :: front, rfl, ?_, ?_⟩
              · simp only [List.length_cons]
                omega
              · intro c member
                have joined : c ∈ [first, second, third, fourth] ++ front := member
                rcases List.mem_append.mp joined with here | later
                · exact read c here
                · exact frontRead c later
            · omega
            · omega
      · rintro ⟨front, rfl, size, read⟩
        match front, size with
        | first :: second :: third :: fourth :: front, size =>
            obtain ⟨a, readA⟩ := Option.isSome_iff_exists.mp (read first (by simp))
            obtain ⟨b, readB⟩ := Option.isSome_iff_exists.mp (read second (by simp))
            obtain ⟨c, readC⟩ := Option.isSome_iff_exists.mp (read third (by simp))
            obtain ⟨d, readD⟩ := Option.isSome_iff_exists.mp (read fourth (by simp))
            obtain ⟨more, decodedRest, long⟩ := (induction (front ++ [pad, pad])).mpr
              ⟨front, rfl, by simp only [List.length_cons] at size; omega,
                fun c member => read c (by simp [member])⟩
            refine ⟨byteOf (bitsOf a b c d / 65536) :: byteOf (bitsOf a b c d / 256) ::
              byteOf (bitsOf a b c d) :: more, ?_, ?_⟩
            · simp only [List.cons_append, decode, readA, readB, readC, readD, decodedRest,
                Option.map_some]
            · simp only [List.length_cons, long]
              omega

end Lengths

end SmallServer.Base64
