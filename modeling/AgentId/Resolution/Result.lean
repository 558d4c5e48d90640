/-
What a resolution finds.

A resolution ends with a `Resolution`: who the agent is, how it can be verified and
reached, and how all this was found out.  One that failed by the rules of a profile says
so in `failure`, with a stable code to branch on; it is still a resolution, and only a
collaborator that breaks down stops one (`Fault`).
-/
import AgentId.Did.Document

namespace AgentId

/-! ### The words of a resolution -/

/-- How strongly an endpoint was verified. -/
inductive VerificationLevel where
  | none
  | metadata
  | cryptographic
  deriving DecidableEq, Repr, Inhabited

namespace VerificationLevel

/-- The name of a level. -/
def text : VerificationLevel → String
  | none => "none"
  | metadata => "metadata"
  | cryptographic => "cryptographic"

/-- All levels, the weakest first. -/
def all : List VerificationLevel := [none, metadata, cryptographic]

/-- The place of a level among all levels, the weakest first. -/
def strength : VerificationLevel → Nat
  | none => 0
  | metadata => 1
  | cryptographic => 2

/-- The stronger of two levels. -/
def max (a b : VerificationLevel) : VerificationLevel :=
  if a.strength ≤ b.strength then b else a

/-- The level that a record names. -/
def ofJson? (v : Json) : Option VerificationLevel := do
  let name ← v.tag?
  all.find? (·.text == name)

end VerificationLevel

/-- How far a DNS binding was followed. -/
inductive ResolutionMode where
  | dnsBindingOnly
  | fullResolution
  deriving DecidableEq, Repr

namespace ResolutionMode

/-- The name of a mode. -/
def text : ResolutionMode → String
  | dnsBindingOnly => "dns-binding-only"
  | fullResolution => "full-resolution"

/-- The mode that a record names. -/
def ofJson? (v : Json) : Option ResolutionMode := do
  let name ← v.tag?
  [dnsBindingOnly, fullResolution].find? (·.text == name)

end ResolutionMode

/-- Why a profile did not resolve an identifier. -/
inductive FailureCode where
  | invalidUaid
  | notApplicable
  | profileNotFound
  | noDnsRecord
  | invalidDnsRecord
  | uaidMismatch
  | followupResolutionFailed
  | noFollowupProfile
  | versionMismatch
  | agentCardInvalid
  | ansNameMismatch
  | noEndpoint
  | endpointNotAnchored
  | verificationFailed
  | baseDidUndetermined
  | didResolutionFailed
  | didDocumentInvalid
  deriving DecidableEq, Repr

namespace FailureCode

/-- The code as it is written. -/
def text : FailureCode → String
  | invalidUaid => "ERR_INVALID_UAID"
  | notApplicable => "ERR_NOT_APPLICABLE"
  | profileNotFound => "ERR_PROFILE_NOT_FOUND"
  | noDnsRecord => "ERR_NO_DNS_RECORD"
  | invalidDnsRecord => "ERR_INVALID_DNS_RECORD"
  | uaidMismatch => "ERR_UAID_MISMATCH"
  | followupResolutionFailed => "ERR_FOLLOWUP_RESOLUTION_FAILED"
  | noFollowupProfile => "ERR_NO_FOLLOWUP_PROFILE"
  | versionMismatch => "ERR_VERSION_MISMATCH"
  | agentCardInvalid => "ERR_AGENT_CARD_INVALID"
  | ansNameMismatch => "ERR_ANS_NAME_MISMATCH"
  | noEndpoint => "ERR_NO_ENDPOINT"
  | endpointNotAnchored => "ERR_ENDPOINT_NOT_ANCHORED"
  | verificationFailed => "ERR_VERIFICATION_FAILED"
  | baseDidUndetermined => "ERR_BASE_DID_UNDETERMINED"
  | didResolutionFailed => "ERR_DID_RESOLUTION_FAILED"
  | didDocumentInvalid => "ERR_DID_DOCUMENT_INVALID"

/-- All codes. -/
def all : List FailureCode := [
  invalidUaid, notApplicable, profileNotFound, noDnsRecord, invalidDnsRecord, uaidMismatch,
  followupResolutionFailed, noFollowupProfile, versionMismatch, agentCardInvalid,
  ansNameMismatch, noEndpoint, endpointNotAnchored, verificationFailed,
  baseDidUndetermined, didResolutionFailed, didDocumentInvalid]

/-- The code that a record names. -/
def ofJson? (v : Json) : Option FailureCode := do
  let name ← v.tag?
  all.find? (·.text == name)

end FailureCode

/-! ### The parts of a resolution -/

/-- Why an identifier was not resolved. -/
structure Failure where
  code : FailureCode
  message : String
  /-- What the message is about. -/
  details : Dict Json := {}

namespace Failure

/-- The code and the message. -/
def text (f : Failure) : String :=
  f.code.text ++ ": " ++ f.message

/-- The record of a failure. -/
def toJson (f : Failure) : Json :=
  .obj ([("code", .str f.code.text), ("message", .str f.message)] ++
    if f.details.isEmpty then [] else [("details", .ofDict (fun v => v) f.details)])

/-- The failure of a record. -/
def ofJson? (v : Json) : Option Failure := do
  let fields ← v.fields? ["code", "message", "details"]
  return {
    code := ← Json.required fields "code" FailureCode.ofJson?
    message := ← Json.required fields "message" Json.string?
    details := ← Json.defaulted fields "details" (Json.dict? some) {} }

end Failure

/-- How a resolution came about. -/
structure Provenance where
  profile : Option String := none
  resolved : Bool := false
  verificationLevel : Option VerificationLevel := none
  verificationMethod : Option String := none
  precedenceSource : Option String := none
  resolutionMode : Option ResolutionMode := none
  selectedFollowupProfile : Option String := none
  reconstructedUaid : Option String := none
  baseDid : Option String := none
  baseDidResolved : Option Bool := none
  protocol : Option String := none
  endpoint : Option String := none
  agentCardUrl : Option String := none
  deriving DecidableEq, Repr

namespace Provenance

/-- The record of a provenance. -/
def toJson (p : Provenance) : Json :=
  .obj (
    Json.ifSome "profile" .str p.profile ++
    [("resolved", .bool p.resolved)] ++
    Json.ifSome "verificationLevel" (.str ·.text) p.verificationLevel ++
    Json.ifSome "verificationMethod" .str p.verificationMethod ++
    Json.ifSome "precedenceSource" .str p.precedenceSource ++
    Json.ifSome "resolutionMode" (.str ·.text) p.resolutionMode ++
    Json.ifSome "selectedFollowupProfile" .str p.selectedFollowupProfile ++
    Json.ifSome "reconstructedUaid" .str p.reconstructedUaid ++
    Json.ifSome "baseDid" .str p.baseDid ++
    Json.ifSome "baseDidResolved" .bool p.baseDidResolved ++
    Json.ifSome "protocol" .str p.protocol ++
    Json.ifSome "endpoint" .str p.endpoint ++
    Json.ifSome "agentCardUrl" .str p.agentCardUrl)

/-- The provenance of a record. -/
def ofJson? (v : Json) : Option Provenance := do
  let fields ← v.fields? ["profile", "resolved", "verificationLevel", "verificationMethod",
    "precedenceSource", "resolutionMode", "selectedFollowupProfile", "reconstructedUaid",
    "baseDid", "baseDidResolved", "protocol", "endpoint", "agentCardUrl"]
  return {
    profile := ← Json.optional fields "profile" Json.string?
    resolved := ← Json.required fields "resolved" Json.bool?
    verificationLevel := ← Json.optional fields "verificationLevel" VerificationLevel.ofJson?
    verificationMethod := ← Json.optional fields "verificationMethod" Json.string?
    precedenceSource := ← Json.optional fields "precedenceSource" Json.string?
    resolutionMode := ← Json.optional fields "resolutionMode" ResolutionMode.ofJson?
    selectedFollowupProfile := ← Json.optional fields "selectedFollowupProfile" Json.string?
    reconstructedUaid := ← Json.optional fields "reconstructedUaid" Json.string?
    baseDid := ← Json.optional fields "baseDid" Json.string?
    baseDidResolved := ← Json.optional fields "baseDidResolved" Json.bool?
    protocol := ← Json.optional fields "protocol" Json.string?
    endpoint := ← Json.optional fields "endpoint" Json.string?
    agentCardUrl := ← Json.optional fields "agentCardUrl" Json.string? }

end Provenance

/-- What resolving an identifier found. -/
structure Resolution where
  id : String
  did : Option String := none
  alsoKnownAs : List String := []
  verificationMethod : List VerificationMethod := []
  authentication : List String := []
  assertionMethod : List String := []
  service : List Service := []
  metadata : Provenance := {}
  failure : Option Failure := none

namespace Resolution

/-- Nothing was found. -/
def unresolved (id : String) : Resolution := { id }

/-- A profile refused, for the given reason. -/
def refused (id : String) (profile : Option String) (code : FailureCode) (message : String)
    (details : List (String × Json)) : Resolution :=
  { id, metadata := { profile }, failure := some { code, message, details := .ofList details } }

/-- The resolution with one more detail of its failure; one that did not fail has none. -/
def withDetail (r : Resolution) (key : String) (value : Json) : Resolution :=
  { r with failure := r.failure.map fun f => { f with details := f.details.insert key value } }

/-- Whether the agent was found. -/
def isResolved (r : Resolution) : Bool :=
  r.metadata.resolved && r.failure.isNone

/-- Why the agent was not found. -/
def code? (r : Resolution) : Option FailureCode :=
  r.failure.map (·.code)

/-- The record of a resolution, without what is empty. -/
def toJson (r : Resolution) : Json :=
  .obj ([("id", .str r.id)] ++
    Json.ifSome "did" .str r.did ++
    Json.ifAny "alsoKnownAs" .str r.alsoKnownAs ++
    Json.ifAny "verificationMethod" VerificationMethod.toJson r.verificationMethod ++
    Json.ifAny "authentication" .str r.authentication ++
    Json.ifAny "assertionMethod" .str r.assertionMethod ++
    Json.ifAny "service" Service.toJson r.service ++
    [("metadata", r.metadata.toJson)] ++
    Json.ifSome "error" Failure.toJson r.failure)

/-- The resolution of a record. -/
def ofJson? (v : Json) : Option Resolution := do
  let fields ← v.fields? ["id", "did", "alsoKnownAs", "verificationMethod", "authentication",
    "assertionMethod", "service", "metadata", "error"]
  return {
    id := ← Json.required fields "id" Json.string?
    did := ← Json.optional fields "did" Json.string?
    alsoKnownAs := ← Json.defaulted fields "alsoKnownAs" (Json.list? Json.string?) []
    verificationMethod := ← Json.defaulted fields "verificationMethod"
      (Json.list? VerificationMethod.ofJson?) []
    authentication := ← Json.defaulted fields "authentication" (Json.list? Json.string?) []
    assertionMethod := ← Json.defaulted fields "assertionMethod" (Json.list? Json.string?) []
    service := ← Json.defaulted fields "service" (Json.list? Service.ofJson?) []
    metadata := ← Json.required fields "metadata" Provenance.ofJson?
    failure := ← Json.optional fields "error" Failure.ofJson? }

end Resolution

end AgentId
