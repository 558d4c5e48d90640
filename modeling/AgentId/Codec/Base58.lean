/-
Base58 with the Bitcoin alphabet.

The alphabet leaves out the characters that are easily mistaken for one another (`0`,
`O`, `I` and `l`).  The code is positional, so octets and texts over the alphabet
correspond one to one, a zero octet in front to a `1` in front.
-/
import AgentId.Text.Quoted
import AgentId.Codec.Radix

namespace AgentId.Codec.Base58

/-- The digits, in the order of their values. -/
def alphabet : List Char :=
  "123456789ABCDEFGHJKLMNPQRSTUVWXYZabcdefghijkmnopqrstuvwxyz".toList

/-- What a character stands for. -/
def digit? (c : Char) : Option Nat :=
  alphabet.idxOf? c

/-- Why a text is not base58. -/
inductive Fault where
  /-- A character of ASCII that is no digit, and where it stands. -/
  | character (c : Char) (index : Nat)
  /-- A character outside ASCII, and where it starts. -/
  | foreign (index : Nat)
  deriving DecidableEq, Repr

/-- The fault in words. -/
def Fault.message : Fault → String
  | .character c index =>
    "invalid base58 character " ++ Text.quotedLetter c ++ " at index " ++ toString index
  | .foreign index =>
    "invalid base58 input: provided string contained non-ascii character starting at byte "
      ++ toString index

/-- Octets in base58. -/
def encode (bs : List UInt8) : String :=
  String.ofList (Radix.encode alphabet bs)

/-- The first character that is no digit.  Up to it every character is one octet, so its
place among the characters is its place among the octets. -/
def fault? (cs : List Char) : Option Fault :=
  (cs.zipIdx.find? fun (c, _) => (digit? c).isNone).map fun (c, index) =>
    if c.toNat < 0x80 then .character c index else .foreign index

/-- The octets that a text writes, or its first fault. -/
def decode (s : String) : Except Fault (List UInt8) :=
  match Radix.decode? 58 digit? s.toList with
  | some bs => .ok bs
  | none => .error ((fault? s.toList).getD (.foreign 0))

end AgentId.Codec.Base58
