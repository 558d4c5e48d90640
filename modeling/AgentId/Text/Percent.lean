/-
Percent-encoding.

An escape is `%` and the two hexadecimal digits of an octet, in upper case when written.
Parameter values keep only the unreserved characters of URLs (letters, digits and
`-`, `_`, `.`, `~`) and escape every other octet of their UTF-8 form, so that no value
can hold a separator of the text around it.

Reading a parameter value takes `+` for a space.  A value with a malformed escape, or
with escapes that spell octets other than UTF-8, stands for itself: some writers escape
nothing, and their text must come through unchanged.
-/
import AgentId.Text.Hex
import AgentId.Text.Utf8

namespace AgentId.Text.Percent

/-- The escape of an octet. -/
def escape (b : UInt8) : List Char :=
  '%' :: Hex.pair true b

/-- The octets of `bs`, those in `keep` as they are and the others escaped. -/
def encodeBytes (keep : Char → Bool) (bs : List UInt8) : List Char :=
  bs.flatMap fun b =>
    if b < 0x80 && keep (Char.ofNat b.toNat) then [Char.ofNat b.toNat] else escape b

/-- The octets of a text, every well-formed escape read and all else as it stands. -/
def decodeBytes : List UInt8 → List UInt8
  | [] => []
  | 0x25 :: a :: b :: bs =>
    match Hex.octet? (Char.ofNat a.toNat) (Char.ofNat b.toNat) with
    | some x => x :: decodeBytes bs
    | none => 0x25 :: decodeBytes (a :: b :: bs)
  | b :: bs => b :: decodeBytes bs

/-- The characters that URLs give no other meaning. -/
def isUnreserved (c : Char) : Bool :=
  c.isAlphanum || c == '-' || c == '_' || c == '.' || c == '~'

/-- A parameter value as it is written. -/
def encode (value : String) : String :=
  String.ofList (encodeBytes isUnreserved (Utf8.encode value))

/-- The octets that a written parameter value spells, unless an escape is malformed. -/
def octets? : List Char → Option (List UInt8)
  | [] => some []
  | '%' :: a :: b :: cs => do
    let x ← Hex.octet? a b
    let xs ← octets? cs
    return x :: xs
  | '%' :: _ => none
  | '+' :: cs => (octets? cs).map (0x20 :: ·)
  | c :: cs => (octets? cs).map (String.utf8EncodeChar c ++ ·)

/-- The value that a written parameter value stands for. -/
def decode (written : String) : String :=
  match octets? written.toList with
  | none => written
  | some bs => (Utf8.decode bs).toOption.getD written

end AgentId.Text.Percent
