/-
Settings of the resolver.

Settings start from defaults.  A record of settings names what it changes, at every
level; the environment changes single settings by variables whose names start with
`UAID_`, and the first variable that cannot be read is the error.
-/
import AgentId.Fault
import AgentId.Json.Record
import AgentId.Text.Blank
import AgentId.Text.Quoted

namespace AgentId

/-- Settings of the profile that reads `_uaid` records. -/
structure DnsBindingConfig where
  /-- Go on to a more specific profile once the binding holds. -/
  enableFollowup : Bool := true
  /-- Do not be content with the binding alone. -/
  requireFull : Bool := false
  deriving DecidableEq, Repr

/-- The schemes of URLs that a profile takes as endpoints. -/
structure SchemesConfig where
  schemes : List String
  deriving DecidableEq, Repr

/-- Settings of requests to web servers. -/
structure HttpConfig where
  timeoutSeconds : Nat := 30
  userAgent : String := "uaid-resolver/0.1.0"
  deriving DecidableEq, Repr

/-- All settings. -/
structure Config where
  dnsBinding : DnsBindingConfig := {}
  agentCard : SchemesConfig := ⟨["https", "wss"]⟩
  agentRecord : SchemesConfig := ⟨["https", "http", "wss", "ws"]⟩
  http : HttpConfig := {}
  deriving DecidableEq, Repr

/-! ### As records -/

/-- The record of settings of the binding profile. -/
def DnsBindingConfig.toJson (c : DnsBindingConfig) : Json :=
  .obj [("enable_followup_resolution", .bool c.enableFollowup),
    ("require_full_resolution", .bool c.requireFull)]

/-- The settings of a record, the defaults where it is silent. -/
def DnsBindingConfig.ofJson? (v : Json) : Option DnsBindingConfig := do
  let fields ← v.fields? ["enable_followup_resolution", "require_full_resolution"]
  return {
    enableFollowup := ← Json.defaulted fields "enable_followup_resolution" Json.bool? true
    requireFull := ← Json.defaulted fields "require_full_resolution" Json.bool? false }

/-- The record of schemes. -/
def SchemesConfig.toJson (c : SchemesConfig) : Json :=
  .obj [("supported_schemes", .strings c.schemes)]

/-- The schemes of a record, with the schemes to take when it names none. -/
def SchemesConfig.ofJson? (fallback : SchemesConfig) (v : Json) : Option SchemesConfig := do
  let fields ← v.fields? ["supported_schemes"]
  return ⟨← Json.defaulted fields "supported_schemes" (Json.list? Json.string?)
    fallback.schemes⟩

/-- The record of settings of requests. -/
def HttpConfig.toJson (c : HttpConfig) : Json :=
  .obj [("request_timeout_secs", .nat c.timeoutSeconds), ("user_agent", .str c.userAgent)]

/-- The settings of requests of a record, the defaults where it is silent. -/
def HttpConfig.ofJson? (v : Json) : Option HttpConfig := do
  let fields ← v.fields? ["request_timeout_secs", "user_agent"]
  let standard : HttpConfig := {}
  return {
    timeoutSeconds := ← Json.defaulted fields "request_timeout_secs" (Json.below? (Nat.pow 2 64))
      standard.timeoutSeconds
    userAgent := ← Json.defaulted fields "user_agent" Json.string? standard.userAgent }

namespace Config

/-- The record of all settings. -/
def toJson (c : Config) : Json :=
  .obj [("uaid_dns_web", c.dnsBinding.toJson), ("ans_dns_web", c.agentCard.toJson),
    ("aid_dns_web", c.agentRecord.toJson), ("http", c.http.toJson)]

/-- The settings of a record, which may leave out settings and whole groups of them. -/
def ofJson? (v : Json) : Option Config := do
  let fields ← v.fields? ["uaid_dns_web", "ans_dns_web", "aid_dns_web", "http"]
  let standard : Config := {}
  return {
    dnsBinding := ← Json.defaulted fields "uaid_dns_web" DnsBindingConfig.ofJson? {}
    agentCard := ← Json.defaulted fields "ans_dns_web"
      (SchemesConfig.ofJson? standard.agentCard) standard.agentCard
    agentRecord := ← Json.defaulted fields "aid_dns_web"
      (SchemesConfig.ofJson? standard.agentRecord) standard.agentRecord
    http := ← Json.defaulted fields "http" HttpConfig.ofJson? {} }

/-! ### From the environment -/

/-- A switch: one of four words for on, or of four for off. -/
def readSwitch (name value : String) : Except Fault Bool :=
  let word := String.ofList ((Text.trim value.toList).map Char.toLower)
  if ["1", "true", "yes", "on"].contains word then .ok true
  else if ["0", "false", "no", "off"].contains word then .ok false
  else .error (.config (name ++ " must be a boolean, got " ++ Text.quoted value))

/-- The words of a list with commas, in lower case, blank ones left out. -/
def readWords (value : String) : List String :=
  (value.toList.splitOn ',').filterMap fun cs =>
    let word := (Text.trim cs).map Char.toLower
    if word.isEmpty then none else some (String.ofList word)

/-- A natural number of 64 bits in decimal digits, with or without a plus sign. -/
def readNat? (cs : List Char) : Option Nat :=
  let digits := match cs with
    | '+' :: rest => rest
    | _ => cs
  if digits.isEmpty || !digits.all Char.isDigit then none
  else
    let n := digits.foldl (fun n d => 10 * n + (d.toNat - '0'.toNat)) 0
    if n < Nat.pow 2 64 then some n else none

/-- A number of seconds. -/
def readSeconds (name value : String) : Except Fault Nat :=
  match readNat? (Text.trim value.toList) with
  | some n => .ok n
  | none => .error (.config (name ++ " must be an integer, got " ++ Text.quoted value))

/-- The defaults, changed by the variables that are set. -/
def ofEnvironment (value? : String → Option String) : Except Fault Config := do
  let standard : Config := {}
  let change {α : Type} (name : String) (read : String → Except Fault α) (unset : α) :
      Except Fault α :=
    match value? name with
    | some value => read value
    | none => .ok unset
  let followup ← change "UAID_ENABLE_FOLLOWUP_RESOLUTION"
    (readSwitch "UAID_ENABLE_FOLLOWUP_RESOLUTION") standard.dnsBinding.enableFollowup
  let full ← change "UAID_REQUIRE_FULL_RESOLUTION"
    (readSwitch "UAID_REQUIRE_FULL_RESOLUTION") standard.dnsBinding.requireFull
  let cardSchemes ← change "UAID_ANS_SCHEMES" (fun v => .ok (readWords v))
    standard.agentCard.schemes
  let recordSchemes ← change "UAID_AID_SCHEMES" (fun v => .ok (readWords v))
    standard.agentRecord.schemes
  let seconds ← change "UAID_HTTP_TIMEOUT_SECS" (readSeconds "UAID_HTTP_TIMEOUT_SECS")
    standard.http.timeoutSeconds
  let agent ← change "UAID_HTTP_USER_AGENT" .ok standard.http.userAgent
  return {
    dnsBinding := ⟨followup, full⟩
    agentCard := ⟨cardSchemes⟩
    agentRecord := ⟨recordSchemes⟩
    http := ⟨seconds, agent⟩ }

end Config

end AgentId
