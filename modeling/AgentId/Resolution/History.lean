/-
What happens during a resolution.

A resolution consults others: it looks up TXT records, fetches pages, has records
verified and asks DID resolvers.  Everything of this is written down as an event, with the
answer that came.  So is every profile that is set to work, with what it was told and with
the profiles that it works for.

Whoever is consulted answers as the `World` has it, and the world may answer differently
every time: its answer depends on all that happened before.
-/
import AgentId.Http
import AgentId.Record.Agent
import AgentId.Resolution.Result
import AgentId.Uaid.Basic

namespace AgentId

/-! ### Whom a profile consults -/

/-- What a verifier looks at. -/
inductive VerificationStage where
  | metadata
  | cryptographic
  deriving DecidableEq, Repr

/-- What a verifier is asked to approve. -/
structure VerificationRequest where
  uaid : String
  protocol : String
  endpoint : String
  record : AgentRecord
  deriving DecidableEq, Repr

/-- A question to somebody outside. -/
inductive Consultation where
  /-- The TXT records of a host. -/
  | txt (host : String)
  /-- The page at a URL. -/
  | http (url : String)
  /-- Whether the verifier of that name approves. -/
  | verify (verifier : String) (stage : VerificationStage) (request : VerificationRequest)
  deriving DecidableEq, Repr

/-- What answers a question. -/
abbrev Consultation.Answer : Consultation → Type
  | .txt _ => List String
  | .http _ => HttpResponse
  | .verify .. => Bool

/-! ### What is known of an identifier -/

/-- What is known of an identifier before a profile works on it. -/
structure Context where
  /-- The identifier as it was given. -/
  uaid : String
  parsed : Uaid
  /-- The DID that it points at. -/
  did : Option String
  /-- The document of that DID. -/
  document : Option DidDocument

/-! ### Events -/

/-- One thing that happened.  DID resolvers, DID profiles and profiles are told by their
places among those that are registered. -/
inductive Event where
  | consulted (c : Consultation) (reply : Except Fault c.Answer)
  | askedDid (resolver : Nat) (did : String) (reply : Except Fault (Option DidDocument))
  | askedDidProfile (resolver : Nat) (did : String) (reply : Except Fault Resolution)
  /-- A profile was set to work for the profiles `above` it, the nearest one first. -/
  | invoked (profile : Nat) (id : String) (above : List String) (context : Context)

/-- All that happened so far, the last event first. -/
abbrev History := List Event

/-- How those answer who are consulted. -/
abbrev World := History → (c : Consultation) → Except Fault c.Answer

/-- Something that happens: from the events before it come its outcome and the events with
its own. -/
abbrev Run (α : Type) := History → Except Fault α × History

end AgentId
