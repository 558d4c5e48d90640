/-
The DID behind an agent identifier.

An identifier that was minted from a DID leads back to it.  The parameter `src` holds the
whole DID when minting had to cut it; an identifier on the Hedera ledger needs only its
network, which stands in front of it or in the account that the agent has for its own.
An identifier of a description leads to the DID of the agent's account.
-/
import AgentId.Agent
import AgentId.Codec.Multibase58
import AgentId.Uaid.Basic

namespace AgentId.Uaid

/-- The DID in the parameter `src`. -/
def sourceDid? (u : Uaid) : Option String := do
  let src ← u.param? Key.src
  let did ← (Codec.Multibase58.decodeString src).toOption
  if Text.startsWith "did:" did then some did else none

/-- The account on the Hedera ledger that the parameters name. -/
def hederaAccount? (u : Uaid) : Option Caip.HederaAccount :=
  if u.param? Key.proto = some Agent.hcs10 then
    (u.param? Key.nativeId).bind fun native => (Caip.HederaAccount.parse native).toOption
  else none

/-- A DID of method `hedera`. -/
def hederaDid (network : Caip.HederaNetwork) (identifier : String) : String :=
  "did:hedera:" ++ network.text ++ ":" ++ identifier

/-- The DID that the identifier points at, if it points at one. -/
def baseDid? (u : Uaid) : Option String :=
  match u.target with
  | .aid => u.hederaAccount?.map fun a => hederaDid a.network a.account
  | .did =>
    match u.sourceDid? with
    | some did => some did
    | none =>
      if (Caip.HederaNetwork.lead? u.identifier).isSome then
        some ("did:hedera:" ++ u.identifier)
      else u.hederaAccount?.map fun a => hederaDid a.network u.identifier

end AgentId.Uaid
