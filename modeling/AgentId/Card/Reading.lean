/-
Reading agent cards.

A card is a record in JSON text.  Its own fields have to be right and each can be given
once; what else the text holds is read over, whatever its strings and numbers say.
Endpoints are read whole, since any of them might be asked for: their strings have to be
text, their numbers in range and their nesting no deeper than a reader can go.
-/
import AgentId.Card.Basic
import AgentId.Json.Reading

namespace AgentId

namespace AgentCard

open Json (Shape)

/-- The members of an object by their names, unless a name is no text. -/
def members? (members : List (List UInt8 × Shape)) : Option (List (String × Shape)) :=
  members.mapM fun (key, v) => (Json.readString? key).map (·, v)

/-- The values of the named fields of a record, unless a field is given twice.  As an array
a record has its fields in order and may be cut short. -/
def fields? (names : List String) : Shape → Option (List (String × Shape))
  | .object members => do
    let own := (← members? members).filter fun (key, _) => names.contains key
    if (own.map (·.1)).Nodup then some own else none
  | .array items => if items.length ≤ names.length then some (names.zip items) else none
  | _ => none

/-- A string, or null. -/
def optionalString? : Shape → Option (Option String)
  | .null => some none
  | .string spelling => (Json.readString? spelling).map some
  | _ => none

/-- The value of a field, or what stands for it when it is not given. -/
def field {α : Type} (fields : List (String × Shape)) (name : String)
    (read : Shape → Option α) (fallback : α) : Option α :=
  match fields.lookup name with
  | none => some fallback
  | some v => read v

/-- How deep an endpoint may be nested. -/
def endpointDepth : Nat := 125

/-- The URL of an endpoint: a string, or an object that may have it as a field. -/
def endpoint? (v : Shape) : Option (Option String) := do
  let _ ← v.value? endpointDepth
  match v with
  | .string spelling => (Json.readString? spelling).map some
  | .object members =>
    let fields ← fields? ["url"] (.object members)
    field fields "url" optionalString? none
  | _ => none

/-- Endpoints under their names; of several with one name the last stays. -/
def endpoints? : Shape → Option (Dict (Option String))
  | .object members => do
    let endpoints ← (← members? members).mapM fun (name, v) => (endpoint? v).map (name, ·)
    return .ofList endpoints
  | _ => none

/-- A further interface. -/
def interface? (v : Shape) : Option CardInterface := do
  let fields ← fields? ["url", "transport"] v
  return {
    url := ← field fields "url" optionalString? none
    transport := ← field fields "transport" optionalString? none }

/-- A list of further interfaces. -/
def interfaces? : Shape → Option (List CardInterface)
  | .array items => items.mapM interface?
  | _ => none

/-- The card of a tree. -/
def ofShape? (v : Shape) : Option AgentCard := do
  let fields ← fields?
    ["ansName", "endpoints", "url", "preferredTransport", "additionalInterfaces"] v
  return {
    ansName := ← field fields "ansName" optionalString? none
    endpoints := ← field fields "endpoints" endpoints? {}
    url := ← field fields "url" optionalString? none
    preferredTransport := ← field fields "preferredTransport" optionalString? none
    additionalInterfaces := ← field fields "additionalInterfaces" interfaces? [] }

/-- The card that octets write. -/
def ofOctets? (bs : List UInt8) : Option AgentCard :=
  (Shape.ofOctets? bs).bind ofShape?

end AgentCard

end AgentId
