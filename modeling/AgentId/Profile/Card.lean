/-
Finding an agent by its card.

The agent's host says in its TXT records under `_ans` where the card of the agent is
served.  The card is fetched and has to be the card of this very agent, which its name
shows or, when it has none, the name made of the version of the record and the host.  Of
the endpoints on the card only those on the host itself count, and one whose path names
the protocol goes before the others.
-/
import AgentId.Card.Reading
import AgentId.Profile.Basic
import AgentId.Record.Card
import AgentId.Record.Least
import AgentId.Text.Quoted

namespace AgentId.Profile.Card

/-- The name of the profile. -/
def id : String := "hcs-14.profile.ans-dns-web"

/-- The registry whose agents have cards. -/
def registry : String := "ans"

/-- The host whose records are read. -/
def host (home : String) : String := "_ans." ++ home

/-- The home of an agent that the profile is for. -/
def home? (u : Uaid) : Option String :=
  if u.target = .aid ∧ u.param? Uaid.Key.registry = some registry then u.home? else none

/-! ### What is asked for -/

/-- An agent that is looked for. -/
structure Request where
  home : String
  uid : String
  proto : String
  /-- The version that it has to be, if any. -/
  version : Option String
  deriving DecidableEq, Repr

/-- The refusal of an identifier that the profile cannot do anything with. -/
def notApplicable (message : String) : Refusal where
  code := .notApplicable
  message

/-- The version that is asked for, if any. -/
def requestedVersion (u : Uaid) : Except Refusal (Option String) :=
  match u.param? Uaid.Key.version with
  | none => .ok none
  | some version =>
    match Version.normalize? version with
    | some version => .ok (some version)
    | none => .error (notApplicable
        ("version " ++ Text.quoted version ++ " is not a semantic version"))

/-- What an identifier asks for. -/
def request (u : Uaid) : Except Refusal Request := do
  let some home := home? u
    | .error (notApplicable "Requires a uaid:aid with registry=ans and an FQDN nativeId")
  let some uid := (u.param? Uaid.Key.uid).filter (· ≠ "0")
    | .error (notApplicable "uid is required")
  let some proto := u.param? Uaid.Key.proto
    | .error (notApplicable "proto is required")
  return { home, uid, proto, version := ← requestedVersion u }

/-! ### The record -/

/-- The record that is taken. -/
def select (q : Request) (records : List String) : Except Refusal CardRecord := do
  if records.isEmpty then .error (.noRecords (host q.home))
  let cards := records.filterMap CardRecord.ofText?
  if cards.isEmpty then
    .error {
      code := .invalidDnsRecord
      message := "No v=ans1 record with an https url at " ++ host q.home
      details := [("hostname", .str (host q.home))] }
  let fitting := match q.version with
    | none => cards
    | some version => cards.filter (·.version? == some version)
  match leastBy? CardRecord.url fitting with
  | some record => return record
  | none =>
    let version := q.version.getD ""
    .error {
      code := .versionMismatch
      message := "No _ans record for version " ++ version
      details := [("version", .str version)] }

/-! ### The card -/

/-- The card that a server answered with. -/
def received (record : CardRecord) (response : HttpResponse) : Except Refusal AgentCard :=
  if !response.isSuccess then
    .error {
      code := .agentCardInvalid
      message := "Agent card request returned status " ++ toString response.status
      details := [("agentCardUrl", .str record.url), ("status", .nat response.status)] }
  else
    match AgentCard.ofOctets? response.body with
    | some card => .ok card
    | none => .error {
        code := .agentCardInvalid
        message := "Agent card is not valid JSON: " ++ response.objection
        details := [("agentCardUrl", .str record.url)] }

/-- The name that an agent has by its version and its host. -/
def ansName (version home : String) : String :=
  "ans://v" ++ version ++ "." ++ home

/-- Refuses a card of another agent. -/
def checkName (q : Request) (record : CardRecord) (card : AgentCard) :
    Except Refusal Unit :=
  match card.ansName.filter (· ≠ "") with
  | some name =>
    if name = q.uid then .ok ()
    else .error {
      code := .ansNameMismatch
      message := "Agent card ansName does not match uid"
      details := [("ansName", .str name), ("uid", .str q.uid)] }
  | none =>
    match record.version? with
    | none => .ok ()
    | some version =>
      let expected := ansName version q.home
      if q.uid = expected then .ok ()
      else .error {
        code := .ansNameMismatch
        message := "uid does not match the ANS name derived from the record"
        details := [("expected", .str expected), ("uid", .str q.uid)] }

/-! ### The endpoint -/

/-- Whether a URL is at the agent's home, whatever dots stand behind its host. -/
def isAnchored (home url : String) : Bool :=
  (((Url.parse? url).bind (·.host)).bind (·.text?)).any fun host =>
    Text.trimEnd (· == '.') (host.toList.map Char.toLower) == home.toList

/-- Whether the path of a URL has a segment. -/
def hasSegment (segment url : String) : Bool :=
  ((Url.parse? url).bind (·.path)).any (·.contains segment)

/-- The endpoint that is taken from a card, with its name. -/
def endpoint (schemes : SchemesConfig) (q : Request) (record : CardRecord)
    (card : AgentCard) : Except Refusal (String × String) := do
  let supported := card.candidates.filter fun (_, url) => schemes.allows url
  if supported.isEmpty then
    .error {
      code := .noEndpoint
      message := "Agent card has no endpoint with a supported scheme"
      details := [("agentCardUrl", .str record.url)] }
  let anchored := supported.filter fun (_, url) => isAnchored q.home url
  match (anchored.find? fun (_, url) => hasSegment q.proto url) <|> anchored.head? with
  | some endpoint => return endpoint
  | none => .error {
      code := .endpointNotAnchored
      message := "No agent card endpoint is hosted on " ++ q.home
      details := [("nativeId", .str q.home)] }

/-- What an endpoint says of the agent. -/
def found (uaid : String) (q : Request) (record : CardRecord) (name url : String) :
    Resolution where
  id := uaid
  service := [{
    id := uaid ++ "#" ++ name
    kind := q.proto
    endpoint := url
    source := some "agent-card" }]
  metadata := {
    profile := some id
    resolved := true
    verificationLevel := some .metadata
    verificationMethod := some "ans-name"
    precedenceSource := some "agent-card"
    protocol := some q.proto
    endpoint := some url
    agentCardUrl := some record.url }

/-- What the page at the place of a record says of the agent. -/
def evaluate (schemes : SchemesConfig) (uaid : String) (q : Request) (record : CardRecord)
    (response : HttpResponse) : Except Refusal Resolution := do
  let card ← received record response
  checkName q record card
  let (name, url) ← endpoint schemes q record card
  return found uaid q record name url

/-- What the profile does for an identifier. -/
def resolve (schemes : SchemesConfig) (c : Context) : Dialogue (Except Refusal Resolution) :=
  match request c.parsed with
  | .error refusal => return .error refusal
  | .ok q => do
    match select q (← .txt (host q.home)) with
    | .error refusal => return .error refusal
    | .ok record => return evaluate schemes c.uaid q record (← .http record.url)

end Card

/-- The profile of agent cards, for endpoints of the given schemes. -/
def card (schemes : SchemesConfig) : Profile where
  id := Card.id
  supports := fun _ u => (Card.home? u).isSome
  resolve := fun c => do return settleRefusal Card.id c.uaid (← Card.resolve schemes c)

end AgentId.Profile
