/-
What a base DID says.

A DID and its document alone already say something of an agent.  This is the answer when
no profile finds more, and it fills what a profile leaves empty: what the profile found
stays, and a list is never mixed from both.
-/
import AgentId.Resolution.History

namespace AgentId.Resolution

/-- The members of a list that say something, each once, in the order in which they come
first. -/
def distinct (names : List String) : List String :=
  names.foldl (fun seen name => if name = "" ∨ name ∈ seen then seen else seen ++ [name]) []

/-- The place where the services of a document are found. -/
def documentSource : String := "did-document"

/-- What the DID of an identifier and its document say.  An identifier that is itself a
DID has no other. -/
def fallback (c : Context) : Resolution :=
  let did := c.did.filter (· ≠ c.uaid)
  let document := c.document.getD { id := "" }
  { id := c.uaid
    did
    alsoKnownAs := distinct (did.toList ++ document.alsoKnownAs)
    verificationMethod := document.verificationMethod
    authentication := document.authentication
    assertionMethod := document.assertionMethod
    service := document.service.map (Service.foundIn documentSource)
    metadata := { baseDid := did, baseDidResolved := did.map fun _ => c.document.isSome } }

/-- A list, or another one when it is empty. -/
def orElse {α : Type} (l other : List α) : List α :=
  if l.isEmpty then other else l

/-- A resolution with what it leaves empty taken from another. -/
def filledFrom (r other : Resolution) : Resolution :=
  { r with
    did := r.did <|> other.did
    alsoKnownAs := orElse r.alsoKnownAs other.alsoKnownAs
    verificationMethod := orElse r.verificationMethod other.verificationMethod
    authentication := orElse r.authentication other.authentication
    assertionMethod := orElse r.assertionMethod other.assertionMethod
    service := orElse r.service other.service
    metadata := { r.metadata with
      baseDid := r.metadata.baseDid <|> other.metadata.baseDid
      baseDidResolved := r.metadata.baseDidResolved <|> other.metadata.baseDidResolved } }

/-- What is answered with what a profile found. -/
def settled (c : Context) (found : Resolution) : Resolution :=
  if found.isResolved then found.filledFrom (fallback c) else found

end AgentId.Resolution
