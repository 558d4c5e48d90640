/-
Octets as pairs of hexadecimal digits.

Every octet is written with two digits, the high half first, in lower case unless upper
case is asked for.  Reading takes digits of either case and refuses an odd one out.
-/
import AgentId.Text.CodeSet

namespace AgentId.Text.Hex

/-- The digit of a number below sixteen. -/
def digit (upper : Bool) (n : Nat) : Char :=
  if n < 10 then Char.ofNat ('0'.toNat + n)
  else Char.ofNat ((if upper then 'A'.toNat else 'a'.toNat) + (n - 10))

/-- The two digits of an octet. -/
def pair (upper : Bool) (b : UInt8) : List Char :=
  [digit upper (b.toNat / 16), digit upper (b.toNat % 16)]

/-- Octets in lower-case hexadecimal. -/
def encode (bs : List UInt8) : String :=
  String.ofList (bs.flatMap (pair false))

/-- The octet of two digits. -/
def octet? (a b : Char) : Option UInt8 := do
  let x ← hexValue? a
  let y ← hexValue? b
  return UInt8.ofNat (16 * x + y)

/-- The octets that pairs of digits write. -/
def decode? : List Char → Option (List UInt8)
  | [] => some []
  | [_] => none
  | a :: b :: cs => do
    let x ← octet? a b
    let xs ← decode? cs
    return x :: xs

/-- Reading one octet as it is written gives the octet back. -/
theorem octet?_pair (upper : Bool) (b : UInt8) :
    octet? (digit upper (b.toNat / 16)) (digit upper (b.toNat % 16)) = some b := by
  have digits : ∀ u : Bool, ∀ n : Fin 16, hexValue? (digit u n.val) = some n.val := by decide
  have low : b.toNat % 16 < 16 := Nat.mod_lt _ (by decide)
  have high : b.toNat / 16 < 16 := by have := b.toNat_lt; omega
  rw [octet?, digits upper ⟨_, high⟩, digits upper ⟨_, low⟩]
  simp only [Option.bind_eq_bind, Option.bind_some, Option.pure_def, Option.some.injEq]
  have : 16 * (b.toNat / 16) + b.toNat % 16 = b.toNat := Nat.div_add_mod _ _
  rw [this, UInt8.ofNat_toNat]

end AgentId.Text.Hex
