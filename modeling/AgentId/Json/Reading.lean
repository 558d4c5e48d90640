/-
What JSON text says.

A tree of spellings becomes a value once its strings are text and its numbers are in
range.  A string is text when its octets, with every escape replaced by the octets of
its character, are UTF-8; an escape of a leading surrogate needs one of a trailing
surrogate behind it, and the two are one character.  A number is in range when a double
float can hold it.  Arrays and objects may be nested only so deep, which the reader's
caller says.
-/
import AgentId.Json.Basic
import AgentId.Json.Syntax
import AgentId.Text.Cut
import AgentId.Text.CodeSet
import AgentId.Text.Utf8

namespace AgentId.Json

/-! ### Strings -/

/-- The UTF-16 unit of four hexadecimal digits. -/
def unit (digits : List UInt8) : Nat :=
  Text.hexNumber (digits.map fun b => Char.ofNat b.toNat)

/-- The octets of a code point. -/
def codePoint (n : Nat) : List UInt8 :=
  String.utf8EncodeChar (Char.ofNat n)

/-- The octet of a one-letter escape. -/
def letterEscape (b : UInt8) : UInt8 :=
  if b == 0x62 then 0x08
  else if b == 0x66 then 0x0C
  else if b == 0x6E then 0x0A
  else if b == 0x72 then 0x0D
  else if b == 0x74 then 0x09
  else b

/-- A spelling with its escapes replaced, unless a surrogate stands alone. -/
def unescape? : List UInt8 → Option (List UInt8)
  | 0x5C :: 0x75 :: a :: b :: c :: d :: rest =>
    let n := unit [a, b, c, d]
    if 0xDC00 ≤ n ∧ n ≤ 0xDFFF then none
    else if 0xD800 ≤ n ∧ n ≤ 0xDBFF then
      match rest with
      | 0x5C :: 0x75 :: e :: f :: g :: h :: rest =>
        let m := unit [e, f, g, h]
        if 0xDC00 ≤ m ∧ m ≤ 0xDFFF then
          (unescape? rest).map
            (codePoint (0x10000 + (n - 0xD800) * 0x400 + (m - 0xDC00)) ++ ·)
        else none
      | _ => none
    else (unescape? rest).map (codePoint n ++ ·)
  | 0x5C :: b :: rest => (unescape? rest).map (letterEscape b :: ·)
  | b :: rest => (unescape? rest).map (b :: ·)
  | [] => some []

/-- The text that a string's spelling says. -/
def readString? (spelling : List UInt8) : Option String :=
  (unescape? spelling).bind fun bs => (Text.Utf8.decode bs).toOption

/-! ### Numbers -/

/-- A spelling taken apart. -/
structure NumberSpelling where
  negative : Bool
  /-- The digits before the point. -/
  whole : List Nat
  /-- The digits behind the point. -/
  fraction : List Nat
  /-- Whether there is a point or an exponent. -/
  isDecimal : Bool
  exponent : Int

/-- The number with the given decimal digits. -/
def decimalValue (ds : List Nat) : Nat :=
  ds.foldl (fun n d => 10 * n + d) 0

/-- The parts of a number's spelling. -/
def NumberSpelling.ofOctets (spelling : List UInt8) : NumberSpelling :=
  let cs := spelling.map fun b => Char.ofNat b.toNat
  let negative := cs.head? == some '-'
  let cs := if negative then cs.tail else cs
  let (mantissa, power) := Text.breakAt (fun c => c == 'e' || c == 'E') cs
  let (whole, fraction) := Text.breakAt (· == '.') mantissa
  let digits := fun (cs : List Char) => cs.filterMap Text.hexValue?
  { negative
    whole := digits whole
    fraction := digits fraction
    isDecimal := !(power.isEmpty && fraction.isEmpty)
    exponent := match power.tail with
      | '-' :: ds => -(decimalValue (digits ds) : Int)
      | ds => decimalValue (digits ds) }

/-- A number rounded to 53 significant bits, a tie to the even neighbour. -/
def toDoublePrecision (n : Nat) : Nat :=
  let spare := Nat.log2 n + 1 - 53
  let unit := Nat.pow 2 spare
  let q := n / unit
  let r := n % unit
  if 2 * r > unit ∨ (2 * r = unit ∧ q % 2 = 1) then (q + 1) * unit else q * unit

/-- Digits as one number, as long as it fits into 64 bits, and how many of them fit. -/
def leading (start : Nat) (ds : List Nat) : Nat × Nat :=
  match ds with
  | [] => (start, 0)
  | d :: ds =>
    if 10 * start + d < Nat.pow 2 64 then
      let (n, count) := leading (10 * start + d) ds
      (n, count + 1)
    else (start, 0)

/-- Whether a double float can hold the number, read from the leading digits that fit
into 64 bits and a power of ten. -/
def NumberSpelling.inRange (s : NumberSpelling) : Bool :=
  let (n, fitting) := leading 0 s.whole
  let skipped := s.whole.length - fitting
  let (n, places) := leading n s.fraction
  let power : Int := (skipped : Int) - places + (if s.isDecimal then s.exponent else 0)
  n == 0 || power < 0 ||
    (power ≤ 308 &&
      toDoublePrecision n * toDoublePrecision (Nat.pow 10 power.toNat) <
        Nat.pow 2 1024 - Nat.pow 2 970)

/-- The number that a spelling writes. -/
def readNumber (s : NumberSpelling) : Number :=
  let n := decimalValue s.whole
  let signed : Int := if s.negative then -(n : Int) else n
  if s.isDecimal then
    let m := decimalValue (s.whole ++ s.fraction)
    .decimal (if s.negative then -(m : Int) else m) (s.exponent - s.fraction.length)
  else if s.negative && n == 0 then .decimal 0 0
  else if -(Nat.pow 2 63 : Int) ≤ signed ∧ signed < Nat.pow 2 64 then .integer signed
  else .decimal signed 0

/-! ### Values -/

/-- The value of a tree with at most `depth` arrays and objects one inside the other.  Of
several members of one name the last stays. -/
def Shape.value? : Nat → Shape → Option Json
  | _, .null => some .null
  | _, .bool b => some (.bool b)
  | _, .number spelling =>
    let s := NumberSpelling.ofOctets spelling
    if s.inRange then some (.num (readNumber s)) else none
  | _, .string spelling => (readString? spelling).map .str
  | 0, .array _ => none
  | depth + 1, .array items => (items.mapM (Shape.value? depth)).map .arr
  | 0, .object _ => none
  | depth + 1, .object members =>
    (members.mapM fun (key, v) => do
      let k ← readString? key
      let x ← Shape.value? depth v
      return (k, x)).map fun ms => .obj (Dict.ofList ms).toList

/-- The value of JSON text, as deep as the text goes. -/
def ofOctets? (bs : List UInt8) : Option Json :=
  (Shape.ofOctets? bs).bind (Shape.value? bs.length)

end AgentId.Json
