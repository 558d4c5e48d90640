/-
JSON values.

A value holds what can be told from JSON text once the order of the members of an
object and the spelling of strings are forgotten.  Numbers keep the one distinction that
readers of records make: an integer within the range of 64 bits, signed or not, or a
number of another kind, which no field of the library's records takes.
-/
import AgentId.Dict

namespace AgentId

/-- A number. -/
inductive Json.Number where
  /-- An integer from `-2^63` to `2^64 - 1`. -/
  | integer (n : Int)
  /-- A number with a fraction or an exponent, or out of that range: `mantissa * 10 ^ exponent`. -/
  | decimal (mantissa exponent : Int)
  deriving DecidableEq, Repr

/-- A value. -/
inductive Json where
  | null
  | bool (b : Bool)
  | num (n : Json.Number)
  | str (s : String)
  | arr (items : List Json)
  | obj (members : List (String × Json))
  deriving Repr, Inhabited

namespace Json

/-- An integer as a value. -/
def int (n : Int) : Json := .num (.integer n)

/-- A natural number as a value. -/
def nat (n : Nat) : Json := .int n

/-- Strings as an array. -/
def strings (l : List String) : Json := .arr (l.map .str)

/-- A map as an object. -/
def ofDict {α : Type} (write : α → Json) (d : Dict α) : Json :=
  .obj (d.toList.map fun (key, value) => (key, write value))

end Json

end AgentId
