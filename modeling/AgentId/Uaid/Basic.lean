/-
Universal agent identifiers.

An identifier names its target, either the digest of an agent's description (`aid`) or
a DID (`did`), and carries parameters.  Its canonical text puts the seven known
parameters first, in a fixed order, then the others in the order of their keys, leaves
out parameters without a value and percent-encodes the values.  So equal identifiers
have one canonical text, whatever the order in which their parameters were given.
-/
import AgentId.Dict
import AgentId.Text.Percent

namespace AgentId

/-- What an identifier names. -/
inductive Target where
  /-- The digest of an agent's description. -/
  | aid
  /-- A DID. -/
  | did
  deriving DecidableEq, Repr

/-- The name of a target. -/
def Target.text : Target → String
  | aid => "aid"
  | did => "did"

/-- An identifier, taken apart. -/
structure Uaid where
  target : Target
  identifier : String
  params : Dict String
  deriving DecidableEq, Repr

namespace Uaid

/-! ### The known parameters -/

namespace Key

def uid : String := "uid"
def registry : String := "registry"
def proto : String := "proto"
def nativeId : String := "nativeId"
def domain : String := "domain"
def src : String := "src"
def version : String := "version"

/-- The known keys, in the order of the canonical text. -/
def order : List String := [uid, registry, proto, nativeId, domain, src, version]

end Key

/-- The value of a parameter, if it has one. -/
def param? (u : Uaid) (key : String) : Option String :=
  (u.params.get? key).filter (· ≠ "")

/-! ### The canonical text -/

/-- The parameters in the order of the canonical text. -/
def ordered (params : Dict String) : List (String × String) :=
  Key.order.filterMap (fun key => (params.get? key).map (key, ·)) ++
    params.toList.filter fun (key, _) => !Key.order.contains key

/-- One parameter, with the semicolon before it; nothing for an empty value. -/
def writeParam (key value : String) : String :=
  if value = "" then "" else ";" ++ key ++ "=" ++ Text.Percent.encode value

/-- The canonical text. -/
def text (u : Uaid) : String :=
  "uaid:" ++ u.target.text ++ ":" ++ u.identifier ++
    String.join ((ordered u.params).map fun (key, value) => writeParam key value)

end Uaid

end AgentId
