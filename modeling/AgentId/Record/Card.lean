/-
Records that name an agent card.

A TXT record of a host says where the card of an agent is served, over `https` only, and
perhaps for which version of the agent.
-/
import AgentId.Record.Agent
import AgentId.Version

namespace AgentId

/-- Where a card is served. -/
structure CardRecord where
  /-- The version as it is written. -/
  version : Option String
  url : String
  deriving DecidableEq, Repr

namespace CardRecord

/-- The place of a card that a record names. -/
def ofText? (record : String) : Option CardRecord := do
  let fields := Fields.parse record
  let url ← fields.get? "url"
  if fields.get? "v" = some "ans1" ∧ Url.schemeOf? url = some "https" then
    return { version := fields.get? "version", url }
  else none

/-- The version of a record, if it is written as one. -/
def version? (r : CardRecord) : Option String :=
  r.version.bind Version.normalize?

end CardRecord

end AgentId
