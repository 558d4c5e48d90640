/-
DID documents.

A document lists how its subject can be verified and where it can be reached.  As a
record a document leaves out what is empty, so reading what was written gives the
document back.
-/
import AgentId.Json.Record

namespace AgentId

/-- How a signature can be verified. -/
structure VerificationMethod where
  id : String
  kind : String
  controller : String
  publicKeyMultibase : Option String := none
  publicKeyJwk : Option Json := none
  deriving Repr

/-- Where an agent can be reached. -/
structure Service where
  id : String
  kind : String
  endpoint : String
  /-- Where the service was found. -/
  source : Option String := none
  deriving DecidableEq, Repr

/-- What is known about a DID. -/
structure DidDocument where
  id : String
  alsoKnownAs : List String := []
  verificationMethod : List VerificationMethod := []
  authentication : List String := []
  assertionMethod : List String := []
  service : List Service := []
  deriving Repr

namespace VerificationMethod

/-- The record of a verification method. -/
def toJson (m : VerificationMethod) : Json :=
  .obj ([("id", .str m.id), ("type", .str m.kind), ("controller", .str m.controller)] ++
    Json.ifSome "publicKeyMultibase" .str m.publicKeyMultibase ++
    Json.ifSome "publicKeyJwk" (fun v => v) m.publicKeyJwk)

/-- The verification method of a record. -/
def ofJson? (v : Json) : Option VerificationMethod := do
  let fields ← v.fields? ["id", "type", "controller", "publicKeyMultibase", "publicKeyJwk"]
  return {
    id := ← Json.required fields "id" Json.string?
    kind := ← Json.required fields "type" Json.string?
    controller := ← Json.required fields "controller" Json.string?
    publicKeyMultibase := ← Json.optional fields "publicKeyMultibase" Json.string?
    publicKeyJwk := ← Json.optional fields "publicKeyJwk" some }

end VerificationMethod

namespace Service

/-- The record of a service. -/
def toJson (s : Service) : Json :=
  .obj ([("id", .str s.id), ("type", .str s.kind), ("serviceEndpoint", .str s.endpoint)] ++
    Json.ifSome "source" .str s.source)

/-- The service of a record. -/
def ofJson? (v : Json) : Option Service := do
  let fields ← v.fields? ["id", "type", "serviceEndpoint", "source"]
  return {
    id := ← Json.required fields "id" Json.string?
    kind := ← Json.required fields "type" Json.string?
    endpoint := ← Json.required fields "serviceEndpoint" Json.string?
    source := ← Json.optional fields "source" Json.string? }

/-- The service, found in the given place unless it says where it was found. -/
def foundIn (place : String) (s : Service) : Service :=
  { s with source := some (s.source.getD place) }

end Service

namespace DidDocument

/-- The record of a document. -/
def toJson (d : DidDocument) : Json :=
  .obj ([("id", .str d.id)] ++
    Json.ifAny "alsoKnownAs" .str d.alsoKnownAs ++
    Json.ifAny "verificationMethod" VerificationMethod.toJson d.verificationMethod ++
    Json.ifAny "authentication" .str d.authentication ++
    Json.ifAny "assertionMethod" .str d.assertionMethod ++
    Json.ifAny "service" Service.toJson d.service)

/-- The document of a record. -/
def ofJson? (v : Json) : Option DidDocument := do
  let fields ← v.fields? ["id", "alsoKnownAs", "verificationMethod", "authentication",
    "assertionMethod", "service"]
  return {
    id := ← Json.required fields "id" Json.string?
    alsoKnownAs := ← Json.defaulted fields "alsoKnownAs" (Json.list? Json.string?) []
    verificationMethod := ← Json.defaulted fields "verificationMethod"
      (Json.list? VerificationMethod.ofJson?) []
    authentication := ← Json.defaulted fields "authentication" (Json.list? Json.string?) []
    assertionMethod := ← Json.defaulted fields "assertionMethod" (Json.list? Json.string?) []
    service := ← Json.defaulted fields "service" (Json.list? Service.ofJson?) [] }

end DidDocument

end AgentId
