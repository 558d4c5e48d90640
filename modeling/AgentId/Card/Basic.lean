/-
Agent cards.

A card is what an agent says of itself: its name and where it can be reached.  Endpoints
are listed under names of their own, or else there is one main endpoint with more
interfaces beside it.
-/
import AgentId.Dict

namespace AgentId

/-- A further interface of an agent. -/
structure CardInterface where
  url : Option String
  transport : Option String
  deriving DecidableEq, Repr

/-- What an agent says of itself. -/
structure AgentCard where
  ansName : Option String := none
  /-- The URLs under their names; an endpoint may be listed without one. -/
  endpoints : Dict (Option String) := {}
  url : Option String := none
  preferredTransport : Option String := none
  additionalInterfaces : List CardInterface := []
  deriving DecidableEq, Repr

namespace AgentCard

/-- The further interfaces that have a URL, under their names or numbers. -/
def interfaces (c : AgentCard) : List (String × String) :=
  c.additionalInterfaces.zipIdx.filterMap fun (i, n) =>
    i.url.map fun url => (i.transport.getD ("interface-" ++ toString n), url)

/-- The endpoints of a card under their names: those listed in the order of their names,
or when none is listed the main endpoint and the further interfaces. -/
def candidates (c : AgentCard) : List (String × String) :=
  if c.endpoints.isEmpty then
    c.url.toList.map (c.preferredTransport.getD "default", ·) ++ c.interfaces
  else c.endpoints.toList.filterMap fun (name, url) => url.map (name, ·)

end AgentCard

end AgentId
