/-
Rules that families of chains add to the common grammar.

A validator judges one text and gives a reason when it refuses.  Validators stand under
the name of the family they belong to, some for references to chains and others for
addresses of accounts; a family without one has no rules of its own.  Two families come
with rules: references of `eip155` are decimal and its addresses hexadecimal with forty
digits, and those of `hedera` are the known networks and `shard.realm.number`, which a
checksum of five letters may follow.
-/
import AgentId.Dict
import AgentId.Text.Digit
import AgentId.Caip.HederaNetwork

namespace AgentId.Caip

/-- Accepts a text or gives the reason why not. -/
abbrev Validator := String → Except String Unit

namespace Validator

/-- Accepts what passes a test. -/
def ofTest (test : List Char → Bool) (error : String → Error) : Validator := fun s =>
  if test s.toList then .ok () else .error (error s).message

/-- The decimal digits of ASCII, at least one. -/
def isDecimal (cs : List Char) : Bool :=
  !cs.isEmpty && cs.all Char.isDigit

/-- `0x` and forty hexadecimal digits. -/
def isEthereumAddress (cs : List Char) : Bool :=
  match Text.behind? "0x" cs with
  | some digits => digits.length == 40 && digits.all fun c => (Text.hexValue? c).isSome
  | none => false

/-- Decimal digits of any script, at least one. -/
def isNumeral (cs : List Char) : Bool :=
  !cs.isEmpty && cs.all Text.isDecimalDigit

/-- A numeral, and perhaps a hyphen and five lower-case letters behind it. -/
def isChecksummed (cs : List Char) : Bool :=
  match Text.cut? '-' cs with
  | none => isNumeral cs
  | some (number, checksum) =>
    isNumeral number && checksum.length == 5 && checksum.all Char.isLower

/-- `shard.realm.number`, and perhaps a checksum. -/
def isHederaAddress (cs : List Char) : Bool :=
  match cs.splitOn '.' with
  | [shard, realm, number] => isNumeral shard && isNumeral realm && isChecksummed number
  | _ => false

/-- References of `eip155`: a decimal number. -/
def eip155Reference : Validator := ofTest isDecimal .reference

/-- Addresses of `eip155`. -/
def eip155Address : Validator := ofTest isEthereumAddress .ethereumAddress

/-- References of `hedera`: the name of a network. -/
def hederaReference : Validator := fun s =>
  match HederaNetwork.parse s with
  | .ok _ => .ok ()
  | .error e => .error e.message

/-- Addresses of `hedera`. -/
def hederaAddress : Validator := ofTest isHederaAddress .hederaAccount

end Validator

/-- The validators of each family. -/
structure Rulebook where
  /-- For references to chains. -/
  references : Dict Validator := {}
  /-- For addresses of accounts. -/
  addresses : Dict Validator := {}

namespace Rulebook

/-- No rules. -/
def empty : Rulebook := {}

/-- The rules of `eip155` and `hedera`. -/
def standard : Rulebook where
  references := .ofList [("eip155", .eip155Reference), ("hedera", .hederaReference)]
  addresses := .ofList [("eip155", .eip155Address), ("hedera", .hederaAddress)]

/-- The rulebook with the validator of a family's references set. -/
def withReferences (b : Rulebook) (family : String) (v : Validator) : Rulebook :=
  { b with references := b.references.insert family v }

/-- The rulebook with the validator of a family's addresses set. -/
def withAddresses (b : Rulebook) (family : String) (v : Validator) : Rulebook :=
  { b with addresses := b.addresses.insert family v }

/-- How many families have validators. -/
def summary (b : Rulebook) : String :=
  "ValidationRegistry \x7b chain_validators: \"" ++ toString b.references.size ++
    " entries\", account_validators: \"" ++ toString b.addresses.size ++ " entries\" \x7d"

end Rulebook

end AgentId.Caip
