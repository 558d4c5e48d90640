/-
What can be wrong with a chain-agnostic identifier.
-/
namespace AgentId.Caip

/-- Why text is not an identifier of a chain or an account. -/
inductive Error where
  /-- Not a chain identifier. -/
  | chainId (value : String)
  /-- Not the name of a family of chains. -/
  | family (value : String)
  /-- Not a reference to a chain. -/
  | reference (value : String)
  /-- Not an account identifier. -/
  | accountId (value : String)
  /-- Not an address on this chain. -/
  | address (chain reason : String)
  /-- Not an Ethereum address. -/
  | ethereumAddress (value : String)
  /-- Not a Hedera account. -/
  | hederaAccount (value : String)
  /-- Not the name of a Hedera network. -/
  | hederaNetwork (value : String)
  deriving DecidableEq, Repr

/-- The error in words. -/
def Error.message : Error → String
  | .chainId value => "Invalid CAIP-2 Chain ID: " ++ value
  | .family value => "Invalid namespace: " ++ value
  | .reference value => "Invalid reference: " ++ value
  | .accountId value => "Invalid CAIP-10 Account ID: " ++ value
  | .address chain reason => "Invalid address format for chain " ++ chain ++ ": " ++ reason
  | .ethereumAddress value => "Invalid Ethereum address: " ++ value
  | .hederaAccount value => "Invalid Hedera account: " ++ value
  | .hederaNetwork value => "Unknown Hedera network: " ++ value

end AgentId.Caip
