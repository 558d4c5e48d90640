/-
Records in JSON.

A record is an object whose members are its fields; members of other names are nothing
to it.  A record may also be written as an array of the values of its fields in their
order, from which fields may be missing at the end.  Both forms become one list of named
values, and each field is then read by name: a required field must be there, an optional
one may be absent or null, and one with a default may be absent but not null.
-/
import AgentId.Json.Basic

namespace AgentId.Json

/-- The named values of a record with the given fields. -/
def fields? (names : List String) : Json → Option (List (String × Json))
  | .obj members => some members
  | .arr items => if items.length ≤ names.length then some (names.zip items) else none
  | _ => none

/-- The named values of a record that may not be cut short when it is an array. -/
def allFields? (names : List String) : Json → Option (List (String × Json))
  | .arr items => if items.length = names.length then some (names.zip items) else none
  | v => v.fields? names

section

variable {α : Type} (fields : List (String × Json)) (name : String) (read : Json → Option α)

/-- The value of a field that must be there. -/
def required : Option α :=
  (fields.lookup name).bind read

/-- The value of a field that may be absent or null. -/
def optional : Option (Option α) :=
  match fields.lookup name with
  | none | some .null => some none
  | some v => (read v).map some

/-- The value of a field that may be absent. -/
def defaulted (fallback : α) : Option α :=
  match fields.lookup name with
  | none => some fallback
  | some v => read v

end

/-! ### Values of one kind -/

/-- A string. -/
def string? : Json → Option String
  | .str s => some s
  | _ => none

/-- A truth value. -/
def bool? : Json → Option Bool
  | .bool b => some b
  | _ => none

/-- An integer. -/
def integer? : Json → Option Int
  | .num (.integer n) => some n
  | _ => none

/-- A natural number below `bound`. -/
def below? (bound : Nat) (v : Json) : Option Nat := do
  let n ← v.integer?
  if 0 ≤ n ∧ n < bound then some n.toNat else none

/-- An integer of 64 bits with a sign. -/
def signed64? (v : Json) : Option Int := do
  let n ← v.integer?
  if n < Nat.pow 2 63 then some n else none

/-- An array, every item read the same way. -/
def list? {α : Type} (read : Json → Option α) : Json → Option (List α)
  | .arr items => items.mapM read
  | _ => none

/-- An object, every member read the same way. -/
def dict? {α : Type} (read : Json → Option α) : Json → Option (Dict α)
  | .obj members => (members.mapM fun m => (read m.2).map (m.1, ·)).map Dict.ofList
  | _ => none

/-- The name of an alternative: a string, or the only member of an object, with null. -/
def tag? : Json → Option String
  | .str s => some s
  | .obj [(s, .null)] => some s
  | _ => none

/-! ### Writing fields -/

/-- A field that is left out when it has no value. -/
def ifSome {α : Type} (name : String) (write : α → Json) : Option α → List (String × Json)
  | none => []
  | some x => [(name, write x)]

/-- A list that is left out when it is empty. -/
def ifAny {α : Type} (name : String) (write : α → Json) : List α → List (String × Json)
  | [] => []
  | l => [(name, .arr (l.map write))]

end AgentId.Json
