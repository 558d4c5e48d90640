/-
Descriptions of agents, and the digest that names one.

Two descriptions of one agent may differ in white space around their fields, in the case
of the registry and the protocol and in the order of the skills.  `normalized` settles
these, asks that every field says something, and for two protocols that the agent's
native identifier is an account on the protocol's ledger.

The digest is taken of the normalized description as JSON with its members in
alphabetical order, so it is the same for every spelling of one description.
-/
import AgentId.Caip.AccountId
import AgentId.Codec.Base58
import AgentId.Codec.Sha384
import AgentId.Json.Writer
import AgentId.Text.Blank
import AgentId.Text.Lowercase
import AgentId.Text.Utf8

namespace AgentId

/-- A description of an agent. -/
structure Agent where
  registry : String
  name : String
  version : String
  protocol : String
  nativeId : String
  skills : List Int
  deriving DecidableEq, Repr

namespace Agent

/-- Native identifiers of this protocol are accounts on the Hedera ledger. -/
def hcs10 : String := "hcs-10"

/-- Native identifiers of this protocol are accounts of family `eip155`. -/
def acpVirtuals : String := "acp-virtuals"

/-- Why a description names no agent. -/
inductive Fault where
  /-- A field says nothing. -/
  | missing (field : String)
  /-- The native identifier is not the account on the Hedera ledger that it has to be. -/
  | notHedera (cause : Caip.Error)
  /-- The native identifier is not the account of family `eip155` that it has to be. -/
  | notEip155 (cause : Caip.Error)
  deriving DecidableEq, Repr

/-- The fault in words. -/
def Fault.message (f : Fault) : String :=
  "Invalid agent data: " ++ match f with
    | .missing field => field ++ " is required"
    | .notHedera cause =>
      "nativeId for hcs-10 must be a Hedera CAIP-10 account: " ++ cause.message
    | .notEip155 cause =>
      "nativeId for acp-virtuals must be an EIP-155 CAIP-10 account: " ++ cause.message

/-- A description with one spelling for each field. -/
def respelled (a : Agent) : Agent where
  registry := Text.lowercase (Text.trimmed a.registry)
  name := Text.trimmed a.name
  version := Text.trimmed a.version
  protocol := Text.lowercase (Text.trimmed a.protocol)
  nativeId := Text.trimmed a.nativeId
  skills := a.skills.mergeSort (· ≤ ·)

/-- The fields that have to say something, in the order in which they are asked. -/
def texts (a : Agent) : List (String × String) :=
  [("registry", a.registry), ("name", a.name), ("version", a.version),
    ("protocol", a.protocol), ("nativeId", a.nativeId)]

/-- The first fault of a description. -/
def fault? (a : Agent) : Option Fault :=
  match a.texts.find? (·.2 = "") with
  | some (field, _) => some (.missing field)
  | none =>
    if a.protocol = hcs10 then
      match Caip.HederaAccount.parse a.nativeId with
      | .ok _ => none
      | .error cause => some (.notHedera cause)
    else if a.protocol = acpVirtuals then
      match Caip.AccountId.parseEip155 a.nativeId with
      | .ok _ => none
      | .error cause => some (.notEip155 cause)
    else none

/-- The description in its normal form. -/
def normalized (a : Agent) : Except Fault Agent :=
  match a.respelled.fault? with
  | some f => .error f
  | none => .ok a.respelled

/-! ### The digest -/

/-- A description as JSON text, its members in alphabetical order. -/
def writeSorted (a : Agent) : String :=
  Json.text (.obj [
    ("name", .str a.name),
    ("nativeId", .str a.nativeId),
    ("protocol", .str a.protocol),
    ("registry", .str a.registry),
    ("skills", .arr (a.skills.map .int)),
    ("version", .str a.version)])

/-- The JSON text that the digest is taken of. -/
def canonicalJson (a : Agent) : Except Fault String :=
  a.normalized.map writeSorted

/-- The digest of a text, in base58. -/
def digestOf (text : String) : String :=
  Codec.Base58.encode (Codec.Sha384.digest (Text.Utf8.encode text))

/-- The digest that names an agent. -/
def aid (a : Agent) : Except Fault String :=
  a.canonicalJson.map digestOf

/-! ### As a record -/

/-- The record of a description. -/
def toJson (a : Agent) : Json :=
  .obj [
    ("registry", .str a.registry),
    ("name", .str a.name),
    ("version", .str a.version),
    ("protocol", .str a.protocol),
    ("nativeId", .str a.nativeId),
    ("skills", .arr (a.skills.map .int))]

/-- The description of a record. -/
def ofJson? (v : Json) : Option Agent := do
  let fields ← v.fields? ["registry", "name", "version", "protocol", "nativeId", "skills"]
  return {
    registry := ← Json.required fields "registry" Json.string?
    name := ← Json.required fields "name" Json.string?
    version := ← Json.required fields "version" Json.string?
    protocol := ← Json.required fields "protocol" Json.string?
    nativeId := ← Json.required fields "nativeId" Json.string?
    skills := ← Json.defaulted fields "skills" (Json.list? Json.signed64?) [] }

end Agent

end AgentId
