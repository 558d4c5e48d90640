/-
Labels in ASCII.

Punycode writes a label with the ASCII characters first and a hyphen behind them, and then
tells where the other characters go in, smallest first: each number says how many pairs of
a character and a place are passed over before the next one is the right one.  Numbers
have digits of base 36, the smallest value of the last of them depending on a bias that
follows the size of the numbers before.

Reading goes through the digits once, and a number that is still open at the end is an
error, so no digit is read twice and none is left.
-/
namespace AgentId.Idna.Punycode

/-! ### Digits and the bias -/

/-- The digit of a number below 36. -/
def digit (n : Nat) : Char :=
  if n < 26 then Char.ofNat ('a'.toNat + n) else Char.ofNat ('0'.toNat + (n - 26))

/-- The number of a digit. -/
def digitValue? (c : Char) : Option Nat :=
  if c.isLower then some (c.toNat - 'a'.toNat)
  else if c.isDigit then some (c.toNat - '0'.toNat + 26)
  else none

/-- The smallest value of a digit that is not the last, for the place `k` of the digit. -/
def threshold (bias k : Nat) : Nat :=
  if k ≤ bias then 1 else if bias + 26 ≤ k then 26 else k - bias

theorem threshold_pos (bias k : Nat) : 1 ≤ threshold bias k := by
  unfold threshold
  split
  · omega
  · split <;> omega

/-- A number scaled down until it is at most 455, and 36 times the count of the steps. -/
def scaled (delta : Nat) : Nat × Nat :=
  if 455 < delta then
    let (d, k) := scaled (delta / 35)
    (d, k + 36)
  else (delta, 0)

/-- The bias behind a number, for the length of the label so far. -/
def nextBias (first : Bool) (delta length : Nat) : Nat :=
  let delta := if first then delta / 700 else delta / 2
  let (d, k) := scaled (delta + delta / length)
  k + 36 * d / (d + 38)

/-! ### Reading -/

/-- A label on the way, and the number that is being read. -/
structure Decoder where
  label : List Char
  code : Nat := 0x80
  place : Nat := 0
  bias : Nat := 72
  /-- The number so far. -/
  delta : Nat := 0
  /-- What the next digit of the number counts. -/
  weight : Nat := 1
  /-- The place of the next digit; the first one has place 36. -/
  k : Nat := 36

namespace Decoder

/-- The label with the character that the number says, unless there is none. -/
def insert? (s : Decoder) (delta : Nat) : Option Decoder :=
  let length := s.label.length + 1
  let target := s.place + delta
  let code := s.code + target / length
  let place := target % length
  if h : code.isValidChar then
    some {
      label := s.label.insertIdx place (Char.ofNatAux code h)
      code
      place := place + 1
      bias := nextBias (s.place == 0) delta length }
  else none

/-- One more digit. -/
def read? (s : Decoder) (c : Char) : Option Decoder := do
  let d ← digitValue? c
  let delta := s.delta + d * s.weight
  let t := threshold s.bias s.k
  if d < t then s.insert? delta
  else return { s with delta, weight := s.weight * (36 - t), k := s.k + 36 }

end Decoder

/-- The characters before the last hyphen, and those behind it. -/
def parts (cs : List Char) : List Char × List Char :=
  match cs.reverse.dropWhile (· != '-') with
  | [] => ([], cs)
  | _ :: before => (before.reverse, (cs.reverse.takeWhile (· != '-')).reverse)

/-- The label that is written. -/
def decode? (cs : List Char) : Option (List Char) := do
  let (plain, digits) := parts cs
  let s ← digits.foldlM Decoder.read? { label := plain }
  if s.k = 36 then some s.label else none

/-! ### Writing -/

/-- A number, from the digit at place `k` on. -/
def number (bias k n : Nat) : List Char :=
  let t := threshold bias k
  if n < t then [digit n]
  else digit (t + (n - t) % (36 - t)) :: number bias (k + 36) ((n - t) / (36 - t))
termination_by n
decreasing_by
  have := threshold_pos bias k
  exact Nat.lt_of_le_of_lt (Nat.div_le_self _ _) (by omega)

/-- Digits on the way, last one first. -/
structure Encoder where
  digits : List Char := []
  bias : Nat := 72
  /-- How many characters have been told. -/
  told : Nat
  /-- Whether no number has been written yet. -/
  first : Bool := true
  /-- What has been passed over since the last number. -/
  delta : Nat := 0

namespace Encoder

/-- One character of the label, when it is the turn of `code`. -/
def visit (code : Nat) (s : Encoder) (c : Char) : Encoder :=
  if c.toNat < code then { s with delta := s.delta + 1 }
  else if c.toNat = code then
    { digits := (number s.bias 36 s.delta).reverse ++ s.digits
      bias := nextBias s.first s.delta (s.told + 1)
      told := s.told + 1
      first := false }
  else s

/-- All places of one character, behind those of `before`. -/
def tell (label : List Char) (s : Encoder × Nat) (code : Nat) : Encoder × Nat :=
  let (s, before) := s
  let s := { s with delta := s.delta + (code - before) * (s.told + 1) }
  let s := label.foldl (visit code) s
  ({ s with delta := s.delta + 1 }, code + 1)

end Encoder

/-- How a label is written. -/
def encode (label : List Char) : List Char :=
  let plain := label.filter (·.toNat < 0x80)
  let codes := (((label.map Char.toNat).filter (0x80 ≤ ·)).mergeSort (· ≤ ·)).eraseDups
  let (s, _) := codes.foldl (Encoder.tell label) ({ told := plain.length }, 0x80)
  (if plain.isEmpty then [] else plain ++ ['-']) ++ s.digits.reverse

end AgentId.Idna.Punycode
