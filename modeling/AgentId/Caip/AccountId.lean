/-
Account identifiers: `family:reference:address`.

An address is one to 128 letters of either case, digits, dots, hyphens and percent
signs, and keeps the rules of its family.  The common grammar is asked first, then the
rule for the chain, then the rule for the address.

An account that another program wrote down as a record is taken at its word: of such a
record only the chain is checked, so an `AccountId` carries no proof about its address.
-/
import AgentId.Caip.ChainId
import AgentId.Caip.Validation
import AgentId.Json.Record

namespace AgentId.Caip

/-- What an address is made of. -/
def addressPiece : Text.Piece :=
  ⟨1, 128, fun c => c.isAlphanum || c == '-' || c == '.' || c == '%'⟩

/-- The common grammar of addresses. -/
def isAddress (s : String) : Bool :=
  Text.fits [addressPiece] s.toList

/-- An account on a chain. -/
structure AccountId where
  chain : ChainId
  address : String
  deriving DecidableEq, Repr

namespace AccountId

/-- What the validator of a family says, if the family has one. -/
def judge (validators : Dict Validator) (family value : String) : Except String Unit :=
  match validators.get? family with
  | some validator => validator value
  | none => .ok ()

/-- The account with an address on a chain, under the rules of a rulebook. -/
def underRules (rules : Rulebook) (chain : ChainId) (address : String) :
    Except Error AccountId :=
  if !isAddress address then .error (.address chain.text address)
  else
    match judge rules.references chain.family chain.reference with
    | .error _ => .error (.chainId chain.text)
    | .ok () =>
      match judge rules.addresses chain.family address with
      | .error reason => .error (.address chain.text reason)
      | .ok () => .ok ⟨chain, address⟩

/-- The account with an address on a chain. -/
def ofParts (chain : ChainId) (address : String) : Except Error AccountId :=
  underRules .standard chain address

/-- The pattern of the whole text of an account. -/
def pattern : List Text.Piece :=
  [familyPiece, .mark ':', referencePiece, .mark ':', addressPiece]

/-- The account that text spells. -/
def parse (s : String) : Except Error AccountId :=
  if !Text.fits pattern s.toList then .error (.accountId s)
  else
    match s.toList.splitOn ':' with
    | [family, reference, address] => do
      let chain ← ChainId.ofParts (String.ofList family) (String.ofList reference)
      ofParts chain (String.ofList address)
    | _ => .error (.accountId s)

/-- The text of an account. -/
def text (a : AccountId) : String :=
  a.chain.text ++ ":" ++ a.address

/-- The account of family `eip155` that text spells. -/
def parseEip155 (s : String) : Except Error AccountId := do
  let a ← parse s
  if a.chain.family = "eip155" then .ok a else .error (.accountId s)

/-! ### As a record -/

/-- The record of an account. -/
def toJson (a : AccountId) : Json :=
  .obj [("chain_id", .str a.chain.text), ("address", .str a.address)]

/-- A chain written as a string. -/
def chain? (v : Json) : Option ChainId := do
  let s ← v.string?
  (ChainId.parse s).toOption

/-- The account of a record. -/
def ofJson? (v : Json) : Option AccountId := do
  let fields ← v.fields? ["chain_id", "address"]
  return {
    chain := ← Json.required fields "chain_id" chain?
    address := ← Json.required fields "address" Json.string? }

end AccountId

/-- An account on the Hedera ledger. -/
structure HederaAccount where
  network : HederaNetwork
  /-- `shard.realm.number`, with the checksum if there is one. -/
  account : String
  deriving DecidableEq, Repr

namespace HederaAccount

/-- The account of family `hedera` that text spells. -/
def parse (s : String) : Except Error HederaAccount := do
  let a ← AccountId.parse s
  if a.chain.family = "hedera" then
    return ⟨← HederaNetwork.parse a.chain.reference, a.address⟩
  else .error (.hederaAccount s)

/-- The text of an account. -/
def text (a : HederaAccount) : String :=
  "hedera:" ++ a.network.text ++ ":" ++ a.account

end HederaAccount

end AgentId.Caip
