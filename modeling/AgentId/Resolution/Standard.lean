/-
The standard registry.

It resolves DIDs of method `key` and has all profiles, the binding in DNS first, then the
agent card, the endpoint record and the document of the base DID.
-/
import AgentId.Profile.DnsBinding
import AgentId.Resolution.Registry

namespace AgentId

/-- The registry with all profiles, under the given settings. -/
def Registry.standard (config : Config) : Registry where
  didResolvers := [Did.Key.resolver]
  profiles := [
    Profile.dnsBinding config.dnsBinding,
    Profile.card config.agentCard,
    Profile.endpoint config.agentRecord,
    Profile.baseDid]

end AgentId
