/-
Records that bind an identifier to a host.

A TXT record of the host lists the parts of an agent identifier.  The identifier is put
together from them again, with its native identifier and its domain as domain names, and
binds the host only if its canonical text is that of the identifier in question, to the
last character: whatever differs may be forged.
-/
import AgentId.Fields
import AgentId.Fqdn
import AgentId.Uaid.Parser

namespace AgentId

/-- What a record binds to its host. -/
structure Binding where
  uaid : Uaid
  /-- The DID of the agent, when the record names it. -/
  did : Option String
  deriving DecidableEq, Repr

namespace Binding

/-- The parameters that a record can set as they are. -/
def plainKeys : List String :=
  [Uaid.Key.uid, Uaid.Key.registry, Uaid.Key.proto, Uaid.Key.src, Uaid.Key.version]

/-- A field that is a domain name when it is there; nothing when it is there but is none. -/
def domain? (fields : Dict String) : Option (Option String) :=
  match fields.get? Uaid.Key.domain with
  | none => some none
  | some domain => (Fqdn.normalize? domain).map some

/-- The DID that a record names, which has to be one and is for targets of that kind only. -/
def did? (target : Target) (fields : Dict String) : Option (Option String) :=
  match fields.get? "did" with
  | none => some none
  | some did => if Text.startsWith "did:" did ∧ target = .did then some (some did) else none

/-- The parameters of a record, with the agent's home for its native identifier. -/
def params (fields : Dict String) (home : String) (domain : Option String) :
    Dict String :=
  let plain := plainKeys.filterMap fun key => (fields.get? key).map (key, ·)
  let domain := domain.toList.map (Uaid.Key.domain, ·)
  .ofList (plain ++ domain ++ [(Uaid.Key.nativeId, home)])

/-- The binding of a record that was found at the agent's home. -/
def ofText? (home record : String) : Option Binding := do
  let fields := Fields.parse record
  let target ← (fields.get? "target").bind fun name => (Uaid.parseTarget name).toOption
  let identifier ← fields.get? "id"
  let recordHome ← (fields.get? Uaid.Key.nativeId).bind Fqdn.normalize?
  if recordHome = home ∧ fields.contains Uaid.Key.uid ∧ fields.contains Uaid.Key.proto then
    let did ← did? target fields
    let domain ← domain? fields
    return { uaid := ⟨target, identifier, params fields home domain⟩, did }
  else none

/-- The text of the identifier that is bound. -/
def text (b : Binding) : String := b.uaid.text

/-- The canonical text of an identifier, with the home of its agent for its native
identifier and, where it can be, its domain as a domain name. -/
def expected (u : Uaid) (home : String) : String :=
  let params := u.params.insert Uaid.Key.nativeId home
  let params := match (u.param? Uaid.Key.domain).bind Fqdn.normalize? with
    | some domain => params.insert Uaid.Key.domain domain
    | none => params
  Uaid.text { u with params }

end Binding

end AgentId
