/-
Octets in groups of bits.

A code whose alphabet has a power of two of symbols writes `width` bits with each.
Octets in sequence are one string of bits; cut into groups from the front, the last
group filled with zeros, they need the fewest symbols that hold them all.  Reading
refuses a spelling that is not the one writing gives: a symbol too many, or a filling
bit that is set.

In the padded form whole blocks are written, as many symbols as end on an octet, the
last one filled with `=`.  Since every block stands for itself, blocks that are filled
may follow one another.
-/
namespace AgentId.Codec.BitGroup

/-- The last `count` octets of a number, most significant first. -/
def octets : Nat → Nat → List UInt8
  | 0, _ => []
  | count + 1, n => octets count (n / 256) ++ [UInt8.ofNat (n % 256)]

/-- The octets that groups of `width` bits hold, if none is redundant. -/
def join? (width : Nat) (groups : List Nat) : Option (List UInt8) :=
  let bits := width * groups.length
  let spare := bits % 8
  let n := groups.foldl (fun n g => Nat.pow 2 width * n + g) 0
  let unit := Nat.pow 2 spare
  if spare < width ∧ n % unit = 0 then some (octets (bits / 8) (n / unit)) else none

/-- The octets that symbols write. -/
def decode? (width : Nat) (symbol? : Char → Option Nat) (cs : List Char) : Option (List UInt8) :=
  (cs.mapM symbol?).bind (join? width)

/-- How many symbols of `width` bits end on an octet. -/
def blockLength (width : Nat) : Nat :=
  8 / Nat.gcd 8 width

/-- One block: symbols, then `=` up to the length of a block. -/
def decodeBlock? (width : Nat) (symbol? : Char → Option Nat) (block : List Char) :
    Option (List UInt8) :=
  match (block.reverse.dropWhile (· == '=')).reverse with
  | [] => none
  | symbols => decode? width symbol? symbols

/-- The octets of blocks that each stand for themselves. -/
def decodePadded? (width : Nat) (symbol? : Char → Option Nat) (cs : List Char) :
    Option (List UInt8) :=
  if cs.isEmpty then some []
  else if cs.length < blockLength width ∨ blockLength width = 0 then none
  else do
    let first ← decodeBlock? width symbol? (cs.take (blockLength width))
    let others ← decodePadded? width symbol? (cs.drop (blockLength width))
    return first ++ others
termination_by cs.length
decreasing_by simp only [List.length_drop]; omega

end AgentId.Codec.BitGroup
