/-
Octets as a number written in another radix.

Octets, most significant first, are the digits of a number in radix 256.  A positional
code writes that number with the digits of an alphabet, and a zero octet in front, which
the number does not show, as one zero digit in front.  So the two ends of the code are
two spellings of the same pair: how many zeros lead, and which number follows.
-/
namespace AgentId.Codec.Radix

/-- The digits of a number in radix `base`, least significant first; none for zero. -/
def digitsUp (base n : Nat) : List Nat :=
  if n = 0 ∨ base < 2 then [] else n % base :: digitsUp base (n / base)
termination_by n
decreasing_by exact Nat.div_lt_self (by omega) (by omega)

/-- The digits of a number in radix `base`, most significant first. -/
def digits (base n : Nat) : List Nat :=
  (digitsUp base n).reverse

/-- The number with the given digits, most significant first. -/
def value (base : Nat) (ds : List Nat) : Nat :=
  ds.foldl (fun n d => base * n + d) 0

/-- The same number in another radix, with as many zeros in front. -/
def convert (source target : Nat) (ds : List Nat) : List Nat :=
  ds.takeWhile (· == 0) ++ digits target (value source ds)

/-- Octets written with the digits of an alphabet. -/
def encode (alphabet : List Char) (bs : List UInt8) : List Char :=
  (convert 256 alphabet.length (bs.map UInt8.toNat)).filterMap (alphabet[·]?)

/-- The octets that digits of an alphabet write, given what each character stands for. -/
def decode? (base : Nat) (digit? : Char → Option Nat) (cs : List Char) : Option (List UInt8) :=
  (cs.mapM digit?).map fun ds => (convert base 256 ds).map UInt8.ofNat

end AgentId.Codec.Radix
