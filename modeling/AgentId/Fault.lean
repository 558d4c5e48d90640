/-
Breakdowns of collaborators.

A resolution asks others: name servers, web servers, DID resolvers, verifiers.  When one
of them cannot answer, that is a `Fault`.  A collaborator may read texts on its own, so
what is wrong with a text can be its fault, too.  An answer that the library does not
like is not a fault.
-/
import AgentId.Caip.Error
import AgentId.Codec.Multibase58

namespace AgentId

/-- What is wrong with encoded text. -/
inductive Codec.Fault where
  | base58 (cause : Base58.Fault)
  | multibase58 (cause : Multibase58.Fault)
  deriving DecidableEq, Repr

/-- The fault in words. -/
def Codec.Fault.message : Codec.Fault → String
  | .base58 cause => cause.message
  | .multibase58 cause => cause.message

/-- Who broke down, and why. -/
inductive Fault where
  | invalidUaid (reason : String)
  | invalidAgentData (reason : String)
  | invalidDid (reason : String)
  | invalidFqdn (reason : String)
  | encoding (cause : Codec.Fault)
  | caip (cause : Caip.Error)
  | dns (reason : String)
  | http (reason : String)
  | didResolution (reason : String)
  | verification (reason : String)
  | config (reason : String)
  | json (reason : String)
  deriving DecidableEq, Repr

/-- The fault in words. -/
def Fault.message : Fault → String
  | .invalidUaid reason => "Invalid UAID: " ++ reason
  | .invalidAgentData reason => "Invalid agent data: " ++ reason
  | .invalidDid reason => "Invalid DID: " ++ reason
  | .invalidFqdn reason => "Invalid FQDN: " ++ reason
  | .encoding cause => "Encoding error: " ++ cause.message
  | .caip cause => "CAIP error: " ++ cause.message
  | .dns reason => "DNS error: " ++ reason
  | .http reason => "HTTP error: " ++ reason
  | .didResolution reason => "DID resolution error: " ++ reason
  | .verification reason => "Verification error: " ++ reason
  | .config reason => "Configuration error: " ++ reason
  | .json reason => "Serde JSON error: " ++ reason

end AgentId
