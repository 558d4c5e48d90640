/-
Routing parameters.

Whoever mints an identifier may say where its agent is reached.  A value counts without
the white space around it, and one that is blank does not count.
-/
import AgentId.Json.Record
import AgentId.Text.Blank
import AgentId.Uaid.Basic

namespace AgentId

/-- The parameters that may be given. -/
structure Routing where
  uid : Option String := none
  registry : Option String := none
  proto : Option String := none
  nativeId : Option String := none
  domain : Option String := none
  src : Option String := none
  version : Option String := none
  deriving DecidableEq, Repr

namespace Routing

open Uaid

/-- The parameters with their keys. -/
def pairs (r : Routing) : List (String × Option String) :=
  [(Key.uid, r.uid), (Key.registry, r.registry), (Key.proto, r.proto),
    (Key.nativeId, r.nativeId), (Key.domain, r.domain), (Key.src, r.src),
    (Key.version, r.version)]

/-- The parameters that say something. -/
def params (r : Routing) : Dict String :=
  .ofList (r.pairs.filterMap fun (key, value) =>
    ((value.map Text.trimmed).filter (· ≠ "")).map (key, ·))

/-- The parameters of a record.  Each of them may be absent or null, but an array has to
hold them all. -/
def ofJson? (v : Json) : Option Routing := do
  let fields ← v.allFields? Key.order
  let field := fun (key : String) => Json.optional fields key Json.string?
  return {
    uid := ← field Key.uid
    registry := ← field Key.registry
    proto := ← field Key.proto
    nativeId := ← field Key.nativeId
    domain := ← field Key.domain
    src := ← field Key.src
    version := ← field Key.version }

end Routing

end AgentId
