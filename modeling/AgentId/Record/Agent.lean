/-
Records that name an endpoint.

A TXT record of a host says which protocol an agent speaks and where, and perhaps with
which key it signs.  A record counts only if its version starts with `aid` and its URL has
one of the schemes that are asked for.
-/
import AgentId.Config
import AgentId.Fields
import AgentId.Url.Basic

namespace AgentId

/-- The scheme of a URL, unless the text is none. -/
def Url.schemeOf? (url : String) : Option String :=
  (parse? url).map (·.scheme)

/-- Whether a URL has one of the schemes. -/
def SchemesConfig.allows (c : SchemesConfig) (url : String) : Bool :=
  (Url.schemeOf? url).any fun scheme =>
    c.schemes.any fun s => String.ofList (s.toList.map Char.toLower) == scheme

/-- An endpoint that a record names. -/
structure AgentRecord where
  version : String
  protocol : String
  endpoint : String
  publicKey : Option String := none
  keyId : Option String := none
  deriving DecidableEq, Repr

namespace AgentRecord

/-- The endpoint of a record, with one of the given schemes. -/
def ofText? (schemes : SchemesConfig) (record : String) : Option AgentRecord := do
  let fields := Fields.parse record
  let version ← (fields.get? "v").filter (Text.startsWith "aid")
  let protocol ← fields.get? "p" <|> fields.get? "proto"
  let endpoint ← fields.get? "u"
  if schemes.allows endpoint then
    return {
      version
      protocol
      endpoint
      publicKey := fields.get? "k"
      keyId := fields.get? "i" }
  else none

/-- The text that orders records. -/
def orderKey (r : AgentRecord) : String :=
  r.protocol ++ "|" ++ r.endpoint ++ "|" ++ r.publicKey.getD "" ++ "|" ++ r.keyId.getD ""

end AgentRecord

end AgentId
