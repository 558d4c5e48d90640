/-
Addresses of the internet protocol.

An address of version 4 is one to four numbers with dots between them, in decimal, octal
behind a `0` or hexadecimal behind `0x`; the last number fills all octets that the others
leave.  An address of version 6 is eight groups of four hexadecimal digits with colons
between them.  One row of groups that are zero can be left out, which two colons show,
and the last two groups can be written as an address of version 4 with four decimal
numbers.
-/
import AgentId.Text.CodeSet

namespace AgentId.Url

/-! ### Version 4 -/

namespace Ipv4

/-- The number with the given digits in a base up to sixteen. -/
def number? (base : Nat) (cs : List Char) : Option Nat :=
  cs.foldlM (fun n c => do
    let d ← Text.hexValue? c
    if d < base then some (base * n + d) else none) 0

/-- A number in any of the three notations; nothing behind the mark of a notation is zero. -/
def part? : List Char → Option Nat
  | [] => none
  | '0' :: 'x' :: cs => number? 16 cs
  | '0' :: 'X' :: cs => number? 16 cs
  | '0' :: c :: cs => number? 8 (c :: cs)
  | cs => number? 10 cs

/-- The parts of a name, without the empty part behind a dot at its end. -/
def dotParts (name : List Char) : List (List Char) :=
  let parts := name.splitOn '.'
  if parts.getLast? = some [] then parts.dropLast else parts

/-- Whether a name has to be an address: whether its last part is digits or a number. -/
def endsInNumber (name : List Char) : Bool :=
  match (dotParts name).getLast? with
  | some last => (!last.isEmpty && last.all Char.isDigit) || (part? last).isSome
  | none => false

/-- The address of one to four numbers. -/
def ofNumbers? (numbers : List Nat) : Option Nat :=
  let leading := numbers.dropLast
  match numbers.getLast? with
  | some last =>
    let unit := Nat.pow 256 (4 - leading.length)
    if leading.length ≤ 3 ∧ leading.all (· < 256) ∧ last < unit then
      some (leading.foldl (fun n d => 256 * n + d) 0 * unit + last)
    else none
  | none => none

/-- The address that a name spells. -/
def parse? (name : List Char) : Option Nat := do
  ofNumbers? (← (dotParts name).mapM part?)

/-- An address as four decimal numbers. -/
def text (address : Nat) : String :=
  ".".intercalate ([Nat.pow 2 24, Nat.pow 2 16, Nat.pow 2 8, 1].map fun unit =>
    toString (address / unit % 256))

/-- A decimal number below 256 without zeros in front. -/
def octet? (cs : List Char) : Option Nat :=
  match cs with
  | [] => none
  | ['0'] => some 0
  | '0' :: _ => none
  | _ => (number? 10 cs).filter (· < 256)

/-- The address of four decimal numbers. -/
def strict? (cs : List Char) : Option Nat := do
  let octets ← (cs.splitOn '.').mapM octet?
  if octets.length = 4 then ofNumbers? octets else none

end Ipv4

/-! ### Version 6 -/

namespace Ipv6

/-- A group of one to four digits. -/
def group? (cs : List Char) : Option Nat :=
  if cs.isEmpty || 4 < cs.length then none else Ipv4.number? 16 cs

/-- The groups that parts between colons write; the last part can be worth two. -/
def groups? : List (List Char) → Option (List Nat)
  | [] => some []
  | [last] =>
    if last.contains '.' then
      (Ipv4.strict? last).map fun a => [a / Nat.pow 2 16, a % Nat.pow 2 16]
    else (group? last).map ([·])
  | part :: rest => do return (← group? part) :: (← groups? rest)

/-- The groups of a text without two colons in a row. -/
def row? (cs : List Char) : Option (List Nat) :=
  if cs.isEmpty then some [] else groups? (cs.splitOn ':')

/-- The text before and after the first two colons in a row. -/
def gap? : List Char → Option (List Char × List Char)
  | ':' :: ':' :: cs => some ([], cs)
  | c :: cs => (gap? cs).map fun (a, b) => (c :: a, b)
  | [] => none

/-- The eight groups of an address. -/
def parse? (cs : List Char) : Option (List Nat) :=
  match gap? cs with
  | none => do
    let groups ← row? cs
    if groups.length = 8 then some groups else none
  | some (before, behind) => do
    if before.contains '.' then none
    let left ← row? before
    let right ← row? behind
    if left.length + right.length ≤ 7 then
      some (left ++ List.replicate (8 - left.length - right.length) 0 ++ right)
    else none

end Ipv6

end AgentId.Url
