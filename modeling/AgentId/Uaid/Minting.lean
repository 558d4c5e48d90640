/-
Minting agent identifiers.

From an agent's description comes an identifier of target `aid`: the digest of the
description, and parameters that default to the description's own registry and native
identifier and to `0` for `uid`.

From a DID comes an identifier of target `did`: the part of the DID behind its method.
A DID URL is cut at its first `;`, `?` or `#`, and so that nothing is lost the whole of
it is kept in the parameter `src`.  A DID of method `hedera` may name its network before
its identifier; the network is left out.
-/
import AgentId.Agent
import AgentId.Codec.Multibase58
import AgentId.Uaid.Routing

namespace AgentId.Uaid

/-! ### From a description -/

/-- The identifier of an agent, with routing parameters. -/
def ofAgent (a : Agent) (routing : Routing) : Except Agent.Fault Uaid := do
  let a ← a.normalized
  return {
    target := .aid
    identifier := Agent.digestOf a.writeSorted
    params := ((routing.params.insertNew Key.registry a.registry).insertNew
      Key.nativeId a.nativeId).insertNew Key.uid "0" }

/-- The identifier of an agent, without parameters. -/
def ofAgentBare (a : Agent) : Except Agent.Fault Uaid := do
  let u ← ofAgent a {}
  return { u with params := {} }

/-! ### From a DID -/

/-- Why text is no DID to mint from. -/
inductive DidFault where
  /-- No method between `did:` and a colon. -/
  | noMethod (text : String)
  /-- Neither a DID nor an agent identifier of target `aid`. -/
  | notDid (text : String)
  /-- Nothing behind the method. -/
  | noIdentifier (text : String)
  deriving DecidableEq, Repr

/-- The fault in words. -/
def DidFault.message (f : DidFault) : String :=
  "Invalid DID: " ++ match f with
    | .noMethod text => Text.quoted text ++ " has no method"
    | .notDid text => Text.quoted text ++ " is neither a DID nor a uaid:aid identifier"
    | .noIdentifier text => Text.quoted text ++ " has an empty method-specific id"

/-- The method of a DID and what stands behind it. -/
def didParts (whole : String) : Except DidFault (String × List Char) :=
  match Text.behind? "uaid:aid:" whole.toList with
  | some rest => .ok ("aid", rest)
  | none =>
    match Text.behind? "did:" whole.toList with
    | none => .error (.notDid whole)
    | some rest =>
      match Text.cut? ':' rest with
      | some (c :: method, rest) => .ok (String.ofList (c :: method), rest)
      | _ => .error (.noMethod whole)

/-- Where a DID URL goes on behind its DID. -/
def isUrlMark (c : Char) : Bool :=
  c == ';' || c == '?' || c == '#'

/-- An identifier of method `hedera` without the network it names. -/
def dropNetwork (method identifier : String) : String :=
  if method = "hedera" then
    match Caip.HederaNetwork.lead? identifier with
    | some (_, rest) => rest
    | none => identifier
  else identifier

/-- The identifier of a DID, with routing parameters. -/
def ofDid (existing : String) (routing : Routing) : Except DidFault Uaid := do
  let whole := Text.trimmed existing
  let (method, rest) ← didParts whole
  let (own, url) := Text.breakAt isUrlMark rest
  let identifier := dropNetwork method (String.ofList own)
  if identifier = "" then .error (.noIdentifier whole)
  else .ok {
    target := .did
    identifier
    params :=
      if url.isEmpty then routing.params
      else routing.params.insertNew Key.src (Codec.Multibase58.encodeString whole) }

end AgentId.Uaid
