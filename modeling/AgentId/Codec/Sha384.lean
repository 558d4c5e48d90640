/-
The hash SHA-384.

A message is padded to whole blocks of 128 octets: a single bit, zeros, and the length
of the message in bits as the last sixteen octets, so different messages stay different.
Each block is read as sixteen words of 64 bits and stirred into a state of eight, in
eighty rounds; round by round the sixteen words move on by one, the new one made from
the ones before.  The digest is the first six words of the last state, 48 octets.
-/
import AgentId.Codec.BitGroup

namespace AgentId.Codec.Sha384

/-- The first 64 bits of the fractions of the cube roots of the first eighty primes. -/
def constants : List UInt64 := [
  0x428a2f98d728ae22, 0x7137449123ef65cd, 0xb5c0fbcfec4d3b2f,
  0xe9b5dba58189dbbc, 0x3956c25bf348b538, 0x59f111f1b605d019,
  0x923f82a4af194f9b, 0xab1c5ed5da6d8118, 0xd807aa98a3030242,
  0x12835b0145706fbe, 0x243185be4ee4b28c, 0x550c7dc3d5ffb4e2,
  0x72be5d74f27b896f, 0x80deb1fe3b1696b1, 0x9bdc06a725c71235,
  0xc19bf174cf692694, 0xe49b69c19ef14ad2, 0xefbe4786384f25e3,
  0x0fc19dc68b8cd5b5, 0x240ca1cc77ac9c65, 0x2de92c6f592b0275,
  0x4a7484aa6ea6e483, 0x5cb0a9dcbd41fbd4, 0x76f988da831153b5,
  0x983e5152ee66dfab, 0xa831c66d2db43210, 0xb00327c898fb213f,
  0xbf597fc7beef0ee4, 0xc6e00bf33da88fc2, 0xd5a79147930aa725,
  0x06ca6351e003826f, 0x142929670a0e6e70, 0x27b70a8546d22ffc,
  0x2e1b21385c26c926, 0x4d2c6dfc5ac42aed, 0x53380d139d95b3df,
  0x650a73548baf63de, 0x766a0abb3c77b2a8, 0x81c2c92e47edaee6,
  0x92722c851482353b, 0xa2bfe8a14cf10364, 0xa81a664bbc423001,
  0xc24b8b70d0f89791, 0xc76c51a30654be30, 0xd192e819d6ef5218,
  0xd69906245565a910, 0xf40e35855771202a, 0x106aa07032bbd1b8,
  0x19a4c116b8d2d0c8, 0x1e376c085141ab53, 0x2748774cdf8eeb99,
  0x34b0bcb5e19b48a8, 0x391c0cb3c5c95a63, 0x4ed8aa4ae3418acb,
  0x5b9cca4f7763e373, 0x682e6ff3d6b2b8a3, 0x748f82ee5defb2fc,
  0x78a5636f43172f60, 0x84c87814a1f0ab72, 0x8cc702081a6439ec,
  0x90befffa23631e28, 0xa4506cebde82bde9, 0xbef9a3f7b2c67915,
  0xc67178f2e372532b, 0xca273eceea26619c, 0xd186b8c721c0c207,
  0xeada7dd6cde0eb1e, 0xf57d4f7fee6ed178, 0x06f067aa72176fba,
  0x0a637dc5a2c898a6, 0x113f9804bef90dae, 0x1b710b35131c471b,
  0x28db77f523047d84, 0x32caab7b40c72493, 0x3c9ebe0a15c9bebc,
  0x431d67c49c100d4c, 0x4cc5d4becb3e42b6, 0x597f299cfc657e2a,
  0x5fcb6fab3ad6faec, 0x6c44198c4a475817]

/-- Eight words, stirred by every round. -/
structure State where
  a : UInt64
  b : UInt64
  c : UInt64
  d : UInt64
  e : UInt64
  f : UInt64
  g : UInt64
  h : UInt64

/-- The first 64 bits of the fractions of the square roots of the ninth to the sixteenth
prime. -/
def initial : State where
  a := 0xcbbb9d5dc1059ed8
  b := 0x629a292a367cd507
  c := 0x9159015a3070dd17
  d := 0x152fecd8f70e5939
  e := 0x67332667ffc00b31
  f := 0x8eb44a8768581511
  g := 0xdb0c2e0d64f98fa7
  h := 0x47b5481dbefa4fa4

/-- A word turned right by `n` bits. -/
def turn (x : UInt64) (n : UInt64) : UInt64 :=
  (x >>> n) ||| (x <<< (64 - n))

/-- One round, with its word of the message and its constant. -/
def State.round (s : State) (word constant : UInt64) : State :=
  let choice := (s.e &&& s.f) ^^^ (~~~s.e &&& s.g)
  let majority := (s.a &&& s.b) ^^^ (s.a &&& s.c) ^^^ (s.b &&& s.c)
  let t := s.h + (turn s.e 14 ^^^ turn s.e 18 ^^^ turn s.e 41) + choice + constant + word
  let u := (turn s.a 28 ^^^ turn s.a 34 ^^^ turn s.a 39) + majority
  { a := t + u, b := s.a, c := s.b, d := s.c, e := s.d + t, f := s.e, g := s.f, h := s.g }

/-- Word by word the sum of two states. -/
def State.add (s t : State) : State :=
  { a := s.a + t.a, b := s.b + t.b, c := s.c + t.c, d := s.d + t.d,
    e := s.e + t.e, f := s.f + t.f, g := s.g + t.g, h := s.h + t.h }

/-- The sixteen words of the next round. -/
def advance (words : Vector UInt64 16) : Vector UInt64 16 :=
  let x := words[1]
  let y := words[14]
  let next := (turn y 19 ^^^ turn y 61 ^^^ (y >>> 6)) + words[9]
    + (turn x 1 ^^^ turn x 8 ^^^ (x >>> 7)) + words[0]
  Vector.ofFn fun i => if h : i.val + 1 < 16 then words[i.val + 1] else next

/-- The state after a block. -/
def State.absorb (s : State) (block : Vector UInt64 16) : State :=
  let (t, _) := constants.foldl
    (fun (t, words) constant => (t.round words[0] constant, advance words)) (s, block)
  s.add t

/-- Eight octets from position `i` on, as a word. -/
def wordAt (octets : Array UInt8) (i : Nat) : UInt64 :=
  (List.range 8).foldl (fun w k => (w <<< 8) ||| (octets.getD (i + k) 0).toUInt64) 0

/-- The sixteen words of the block with the given number. -/
def blockAt (octets : Array UInt8) (number : Nat) : Vector UInt64 16 :=
  Vector.ofFn fun i => wordAt octets (128 * number + 8 * i.val)

/-- A message filled up to whole blocks. -/
def padded (message : List UInt8) : List UInt8 :=
  let zeros := (128 - (message.length + 17) % 128) % 128
  message ++ 0x80 :: List.replicate zeros 0 ++ BitGroup.octets 16 (8 * message.length)

/-- The octets of a word. -/
def octetsOf (w : UInt64) : List UInt8 :=
  BitGroup.octets 8 w.toNat

/-- The digest of a message. -/
def digest (message : List UInt8) : List UInt8 :=
  let octets := (padded message).toArray
  let s := (List.range (octets.size / 128)).foldl
    (fun s number => s.absorb (blockAt octets number)) initial
  [s.a, s.b, s.c, s.d, s.e, s.f].flatMap octetsOf

end AgentId.Codec.Sha384
