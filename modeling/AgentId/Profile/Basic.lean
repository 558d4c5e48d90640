/-
Profiles.

A profile is one way to find an agent.  It says for which identifiers it is worth trying,
and works on one by asking; when it does not apply, or when what it finds does not keep
the rules, it refuses with a code, a message and what the message is about.
-/
import AgentId.Fqdn
import AgentId.Resolution.Dialogue

namespace AgentId

/-- A way to find an agent. -/
structure Profile where
  id : String
  /-- Whether to try this profile, for an identifier and its parts. -/
  supports : String → Uaid → Bool
  resolve : Context → Dialogue Resolution

/-- The home of an agent: its native identifier, when that is a domain name. -/
def Uaid.home? (u : Uaid) : Option String :=
  (u.param? Key.nativeId).bind Fqdn.normalize?

/-- Why a profile does not find an agent. -/
structure Refusal where
  code : FailureCode
  message : String
  details : List (String × Json) := []

/-- A refusal of a profile as what it finds for an identifier. -/
def Refusal.resolution (r : Refusal) (profile uaid : String) : Resolution :=
  .refused uaid (some profile) r.code r.message r.details

/-- What a profile finds, or its refusal, as what it answers. -/
def settleRefusal (profile uaid : String) : Except Refusal Resolution → Resolution
  | .ok found => found
  | .error refusal => refusal.resolution profile uaid

/-- The refusal of a host without TXT records. -/
def Refusal.noRecords (host : String) : Refusal where
  code := .noDnsRecord
  message := "No TXT records at " ++ host
  details := [("hostname", .str host)]

end AgentId
