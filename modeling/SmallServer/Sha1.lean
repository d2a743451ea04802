import Mathlib.Algebra.Group.Nat.Defs
import Mathlib.Data.List.Basic

/-!
# SHA-1

The digest on lists of bytes. The message schedule is kept as a window of the
sixteen words that the next round and its successors read.
-/

namespace SmallServer.Sha1

set_option autoImplicit false

structure Chain where
  a : UInt32
  b : UInt32
  c : UInt32
  d : UInt32
  e : UInt32
deriving DecidableEq

def initial : Chain where
  a := 0x67452301
  b := 0xEFCDAB89
  c := 0x98BADCFE
  d := 0x10325476
  e := 0xC3D2E1F0

def rotate (word count : UInt32) : UInt32 := (word <<< count) ||| (word >>> (32 - count))

def bigEndian (count number : Nat) : List UInt8 :=
  (List.range count).map fun index => UInt8.ofNat (number / 256 ^ (count - 1 - index))

/-- The message, the mark, zeros up to the last eight bytes of a block, and the length in bits. -/
def padded (message : List UInt8) : List UInt8 :=
  message ++ 0x80 :: (List.replicate ((119 - message.length % 64) % 64) 0 ++
    bigEndian 8 (8 * message.length))

def words : List UInt8 → List UInt32
  | first :: second :: third :: fourth :: rest =>
      (first.toUInt32 <<< 24 ||| second.toUInt32 <<< 16 ||| third.toUInt32 <<< 8 |||
        fourth.toUInt32) :: words rest
  | _ => []

/-- The word that enters the window when its first one leaves. -/
def nextWord (window : List UInt32) : UInt32 :=
  rotate (window.getD 13 0 ^^^ window.getD 8 0 ^^^ window.getD 2 0 ^^^ window.getD 0 0) 1

def mix (round : Nat) (b c d : UInt32) : UInt32 :=
  if round < 20 then (b &&& c) ||| (~~~b &&& d)
  else if round < 40 then b ^^^ c ^^^ d
  else if round < 60 then (b &&& c) ||| (b &&& d) ||| (c &&& d)
  else b ^^^ c ^^^ d

def constant (round : Nat) : UInt32 :=
  if round < 20 then 0x5A827999
  else if round < 40 then 0x6ED9EBA1
  else if round < 60 then 0x8F1BBCDC
  else 0xCA62C1D6

def rounds : Nat → Nat → List UInt32 → Chain → Chain
  | 0, _, _, chain => chain
  | count + 1, round, window, chain =>
      rounds count (round + 1) (window.tail ++ [nextWord window]) {
        a := rotate chain.a 5 + mix round chain.b chain.c chain.d + chain.e + constant round +
          window.getD 0 0
        b := chain.a
        c := rotate chain.b 30
        d := chain.c
        e := chain.d }

/-- One block of sixteen words. -/
def compress (chain : Chain) (block : List UInt32) : Chain :=
  let mixed := rounds 80 0 block chain
  { a := chain.a + mixed.a
    b := chain.b + mixed.b
    c := chain.c + mixed.c
    d := chain.d + mixed.d
    e := chain.e + mixed.e }

def compressAll : Nat → List UInt32 → Chain → Chain
  | 0, _, chain => chain
  | blocks + 1, words, chain => compressAll blocks (words.drop 16) (compress chain (words.take 16))

def Chain.bytes (chain : Chain) : List UInt8 :=
  [chain.a, chain.b, chain.c, chain.d, chain.e].flatMap fun word => bigEndian 4 word.toNat

/-- `hashlib.sha1(message).digest()`. -/
def digest (message : List UInt8) : List UInt8 :=
  (compressAll ((padded message).length / 64) (words (padded message)) initial).bytes

theorem bigEndian_length (count number : Nat) : (bigEndian count number).length = count := by
  unfold bigEndian
  rw [List.length_map, List.length_range]

theorem padded_length (message : List UInt8) : (padded message).length % 64 = 0 := by
  unfold padded
  rw [List.length_append, List.length_cons, List.length_append, List.length_replicate,
    bigEndian_length]
  omega

theorem digest_length (message : List UInt8) : (digest message).length = 20 := by
  unfold digest Chain.bytes
  simp only [List.flatMap_cons, List.flatMap_nil, List.length_append, bigEndian_length,
    List.length_nil]

/-- The digest of `abc`. -/
example : digest [0x61, 0x62, 0x63] =
    [0xA9, 0x99, 0x3E, 0x36, 0x47, 0x06, 0x81, 0x6A, 0xBA, 0x3E, 0x25, 0x71, 0x78, 0x50, 0xC2,
      0x6C, 0x9C, 0xD0, 0xD8, 0x9D] := by
  decide +kernel

end SmallServer.Sha1
