/-
Finding an agent by a binding in DNS.

The agent's host binds the identifier in its TXT records under `_uaid`.  Once a record is
found that spells this very identifier, more specific profiles may go on from there; the
first that resolves the identifier is the answer.  When one of them failed, the binding
alone is no answer, since it would hide that; when none applies it is, unless full
resolution is asked for.
-/
import AgentId.Profile.BaseDid
import AgentId.Profile.Card
import AgentId.Profile.Endpoint
import AgentId.Record.Binding

namespace AgentId.Profile.DnsBinding

/-- The name of the profile. -/
def id : String := "hcs-14.profile.uaid-dns-web"

/-- The host whose records are read. -/
def host (home : String) : String := "_uaid." ++ home

/-! ### The binding -/

/-- The record that binds the identifier; of several the first that is listed. -/
def select (u : Uaid) (home : String) (records : List String) : Except Refusal Binding :=
  let expected := Binding.expected u home
  let bindings := records.filterMap (Binding.ofText? home)
  if records.isEmpty then .error (.noRecords (host home))
  else
    match bindings.find? (·.text == expected) with
    | some binding => .ok binding
    | none =>
      if bindings.isEmpty then
        .error {
          code := .invalidDnsRecord
          message := "No valid _uaid record at " ++ host home
          details := [("hostname", .str (host home))] }
      else
        .error {
          code := .uaidMismatch
          message := "DNS binding does not match the requested UAID"
          details := [("expected", .str expected),
            ("candidates", .strings ((bindings.map (·.text)).mergeSort (· ≤ ·)))] }

/-! ### Going on from the binding -/

/-- The profiles to go on with, in order. -/
def followups (u : Uaid) : List String :=
  match u.target with
  | .did => [BaseDid.id]
  | .aid =>
    if u.param? Uaid.Key.registry = some Card.registry then [Card.id, Endpoint.id]
    else [Endpoint.id]

/-- How going on ends. -/
inductive Followup where
  /-- A profile resolved the identifier. -/
  | resolved (profile : String) (found : Resolution)
  /-- No profile did, and this was the last that failed. -/
  | failed (profile reason : String)
  /-- No profile applied. -/
  | noneApplied

/-- Why what a profile found counts as a failure; a profile that does not apply or is not
there did not fail. -/
def failure? : Except Fault Resolution → Option String
  | .error fault => some fault.message
  | .ok r =>
    match r.code? with
    | some .profileNotFound => none
    | some .notApplicable => none
    | some code => some code.text
    | none => some "unresolved"

/-- Tries profiles one after another, given how those before them ended. -/
def follow (uaid : String) (soFar : Followup) : List String → Dialogue Followup
  | [] => return soFar
  | profile :: rest => do
    let reply ← Dialogue.attempt uaid profile
    match reply.toOption.filter (·.isResolved) with
    | some found => return .resolved profile found
    | none =>
      match failure? reply with
      | some reason => follow uaid (.failed profile reason) rest
      | none => follow uaid soFar rest

/-- What a followup found, as the answer of this profile. -/
def adopt (binding : Binding) (did : Option String) (profile : String) (found : Resolution) :
    Resolution :=
  { found with
    did := found.did <|> did
    metadata := { found.metadata with
      profile := some id
      resolutionMode := some .fullResolution
      selectedFollowupProfile := some profile
      reconstructedUaid := some binding.text } }

/-- What the binding alone says of the agent. -/
def found (uaid : String) (binding : Binding) (did : Option String) : Resolution where
  id := uaid
  did
  metadata := {
    profile := some id
    resolved := true
    resolutionMode := some .dnsBindingOnly
    reconstructedUaid := some binding.text }

/-- The answer for a binding, once it has been seen how going on ends. -/
def conclude (config : DnsBindingConfig) (c : Context) (binding : Binding) :
    Followup → Except Refusal Resolution
  | .resolved profile r => .ok (adopt binding (binding.did <|> c.did) profile r)
  | .failed profile reason => .error {
      code := .followupResolutionFailed
      message := "Followup resolution through " ++ profile ++ " failed"
      details := [("profile", .str profile), ("reason", .str reason)] }
  | .noneApplied =>
    if config.requireFull then
      .error {
        code := .noFollowupProfile
        message := "Full resolution required but no followup profile applied" }
    else .ok (found c.uaid binding (binding.did <|> c.did))

/-- What the profile does for an identifier. -/
def resolve (config : DnsBindingConfig) (c : Context) : Dialogue (Except Refusal Resolution) :=
  match c.parsed.home? with
  | none => return .error {
      code := .notApplicable
      message := "nativeId must be a fully-qualified domain name" }
  | some home => do
    match select c.parsed home (← .txt (host home)) with
    | .error refusal => return .error refusal
    | .ok binding =>
      let profiles := if config.enableFollowup then followups c.parsed else []
      return conclude config c binding (← follow c.uaid .noneApplied profiles)

end DnsBinding

/-- The profile of bindings in DNS. -/
def dnsBinding (config : DnsBindingConfig) : Profile where
  id := DnsBinding.id
  supports := fun _ u => u.home?.isSome
  resolve := fun c => do return settleRefusal DnsBinding.id c.uaid (← DnsBinding.resolve config c)

end AgentId.Profile
