/-
Finding an agent by its DID.

An identifier of a DID leads to the agent by the document of that DID.  When the document
names no service, the parameters of the identifier give a hint where the agent may be.
-/
import AgentId.Profile.Basic
import AgentId.Resolution.Fallback
import AgentId.Uaid.BaseDid

namespace AgentId.Profile.BaseDid

/-- The name of the profile. -/
def id : String := "hcs-14.profile.uaid-did-resolution"

/-- The kind of a service made of parameters. -/
def hintedKind : String := "HintedService"

/-- The DID in the parameter `src`, or else the DID that was derived. -/
def did? (c : Context) : Option String :=
  c.parsed.sourceDid? <|> c.did

/-- The parameters that hint at a service. -/
def hint (u : Uaid) : String :=
  ";".intercalate ([Uaid.Key.proto, Uaid.Key.nativeId, Uaid.Key.domain].filterMap fun key =>
    (u.param? key).map fun value => key ++ "=" ++ value)

/-- The service that the parameters hint at, if they do. -/
def hintedService (c : Context) : List Service :=
  if hint c.parsed = "" then []
  else [{
    id := c.uaid ++ "#hinted-service"
    kind := hintedKind
    endpoint := hint c.parsed
    source := some "uaid-parameters" }]

/-- What a document says of the agent. -/
def found (c : Context) (did : String) (document : DidDocument) : Resolution where
  id := c.uaid
  did := some document.id
  alsoKnownAs := document.alsoKnownAs
  verificationMethod := document.verificationMethod
  authentication := document.authentication
  assertionMethod := document.assertionMethod
  service := Resolution.orElse
    (document.service.map (Service.foundIn Resolution.documentSource)) (hintedService c)
  metadata := {
    profile := some id
    resolved := true
    precedenceSource := some Resolution.documentSource
    baseDid := some did
    baseDidResolved := some true }

/-- What the document of a DID says of the agent, if there is one. -/
def evaluate (c : Context) (did : String) : Option DidDocument → Except Refusal Resolution
  | none => .error {
      code := .didResolutionFailed
      message := "No DID document for " ++ did
      details := [("baseDid", .str did)] }
  | some document =>
    if document.id = "" then
      .error {
        code := .didDocumentInvalid
        message := "DID document has no id"
        details := [("baseDid", .str did)] }
    else .ok (found c did document)

/-- The document of a DID; one that is known already is not asked for again. -/
def document (c : Context) (did : String) : Dialogue (Option DidDocument) :=
  match c.document.filter (·.id == did) with
  | some document => return some document
  | none => .did did

/-- What the profile does for an identifier. -/
def resolve (c : Context) : Dialogue (Except Refusal Resolution) :=
  if c.parsed.target ≠ .did then
    return .error { code := .notApplicable, message := "Requires a uaid:did identifier" }
  else
    match did? c with
    | none => return .error {
        code := .baseDidUndetermined
        message := "Could not determine the base DID" }
    | some did => do return evaluate c did (← document c did)

end BaseDid

/-- The profile of DID documents. -/
def baseDid : Profile where
  id := BaseDid.id
  supports := fun _ u => u.target = .did
  resolve := fun c => do return settleRefusal BaseDid.id c.uaid (← BaseDid.resolve c)

end AgentId.Profile
