/-
Finding an agent by its endpoint record.

The agent's host lists endpoints in its TXT records under `_agent`.  Of those that are
valid the first in order is taken.  Verifiers may look at it, first at what it says and
then, if it has a key, at the key; one that disapproves ends the matter.
-/
import AgentId.Profile.Basic
import AgentId.Record.Least

namespace AgentId.Profile.Endpoint

/-- The name of the profile. -/
def id : String := "hcs-14.profile.aid-dns-web"

/-- The names of the verifiers that look at a record. -/
structure Verifiers where
  metadata : Option String := none
  cryptographic : Option String := none
  deriving DecidableEq, Repr

/-- The host whose records are read. -/
def host (home : String) : String := "_agent." ++ home

/-- The home of an agent that the profile is for. -/
def home? (u : Uaid) : Option String :=
  if u.target = .aid then u.home? else none

theorem home?_eq_some_iff {u : Uaid} {home : String} :
    home? u = some home ↔ u.target = .aid ∧ u.home? = some home := by
  simp [home?]

/-- The record that is taken. -/
def select (schemes : SchemesConfig) (home : String) (records : List String) :
    Except Refusal AgentRecord :=
  if records.isEmpty then .error (.noRecords (host home))
  else
    match leastBy? AgentRecord.orderKey (records.filterMap (AgentRecord.ofText? schemes)) with
    | some record => .ok record
    | none => .error {
        code := .invalidDnsRecord
        message := "No valid _agent record at " ++ host home
        details := [("hostname", .str (host home))] }

/-- What a record is verified with. -/
def request (uaid : String) (record : AgentRecord) : VerificationRequest where
  uaid
  protocol := record.protocol
  endpoint := record.endpoint
  record

/-- The refusal of a verifier. -/
def disapproval : VerificationStage → Refusal
  | .metadata => {
      code := .verificationFailed
      message := "Metadata verification failed"
      details := [("stage", .str "metadata")] }
  | .cryptographic => {
      code := .verificationFailed
      message := "Cryptographic verification failed"
      details := [("stage", .str "cryptographic")] }

/-- Whether a verifier approves of a record; when there is none, nobody objects. -/
def approves (verifier : Option String) (stage : VerificationStage) (uaid : String)
    (record : AgentRecord) : Dialogue Bool :=
  match verifier with
  | none => pure true
  | some name => .verify name stage (request uaid record)

/-- The verifier of keys, for a record that has one. -/
def keyVerifier (v : Verifiers) (record : AgentRecord) : Option String :=
  if record.publicKey.isSome then v.cryptographic else none

/-- How strongly a record is verified when all approve. -/
def level (v : Verifiers) (record : AgentRecord) : VerificationLevel :=
  if (keyVerifier v record).isSome then .cryptographic
  else if v.metadata.isSome then .metadata
  else .none

/-- What a record says of the agent. -/
def found (uaid : String) (record : AgentRecord) (level : VerificationLevel) :
    Resolution :=
  let method := uaid ++ "#" ++ record.keyId.getD "key-1"
  { id := uaid
    verificationMethod := record.publicKey.toList.map fun key =>
      { id := method, kind := "Multikey", controller := uaid, publicKeyMultibase := some key }
    authentication := record.publicKey.toList.map fun _ => method
    service := [{
      id := uaid ++ "#" ++ record.protocol
      kind := record.protocol
      endpoint := record.endpoint
      source := some "dns-txt" }]
    metadata := {
      profile := some id
      resolved := true
      verificationLevel := some level
      verificationMethod := if level = .cryptographic then some method else none
      precedenceSource := some "dns-txt"
      protocol := some record.protocol
      endpoint := some record.endpoint } }

/-- A record that was taken, once the verifiers have looked at it. -/
def verified (v : Verifiers) (uaid : String) (record : AgentRecord) :
    Dialogue (Except Refusal Resolution) := do
  if ← approves v.metadata .metadata uaid record then
    if ← approves (keyVerifier v record) .cryptographic uaid record then
      return .ok (found uaid record (level v record))
    else return .error (disapproval .cryptographic)
  else return .error (disapproval .metadata)

/-- What the profile does for an identifier. -/
def resolve (schemes : SchemesConfig) (v : Verifiers) (c : Context) :
    Dialogue (Except Refusal Resolution) :=
  match home? c.parsed with
  | none => return .error {
      code := .notApplicable
      message := "Requires a uaid:aid with an FQDN nativeId" }
  | some home => do
    match select schemes home (← .txt (host home)) with
    | .error refusal => return .error refusal
    | .ok record => verified v c.uaid record

end Endpoint

/-- The profile of endpoint records, for endpoints of the given schemes. -/
def endpoint (schemes : SchemesConfig) (v : Endpoint.Verifiers := {}) : Profile where
  id := Endpoint.id
  supports := fun _ u => (Endpoint.home? u).isSome
  resolve := fun c => do return settleRefusal Endpoint.id c.uaid (← Endpoint.resolve schemes v c)

end AgentId.Profile
