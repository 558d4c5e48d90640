/-
What a profile does.

A profile works by asking.  It consults others, or delegates a part of its work back to
the registry that set it to work, and goes on from the answer; in the end it has an
outcome.  A `Dialogue` is the tree of all the ways this can go.  It has no endless branch,
so however the answers come out, a profile asks only so often.

Doing it (`Dialogue.run`) needs a world, which answers what is consulted, and somebody who
does what is delegated.
-/
import AgentId.Resolution.History

namespace AgentId

/-- Work that a profile gives back to the registry. -/
inductive Delegation where
  /-- The document of a DID. -/
  | did (did : String)
  /-- What the DID profiles find for a DID. -/
  | didProfile (did : String)
  /-- What one profile finds for an identifier. -/
  | profile (uaid id : String)
  deriving DecidableEq, Repr

/-- What comes of delegated work. -/
abbrev Delegation.Answer : Delegation → Type
  | .did _ => Option DidDocument
  | .didProfile _ => Option Resolution
  | .profile .. => Resolution

/-- Questions, each going on by its answer, and outcomes. -/
inductive Dialogue (α : Type) where
  | outcome (result : Except Fault α)
  | consult (c : Consultation) (next : Except Fault c.Answer → Dialogue α)
  | delegate (d : Delegation) (next : Except Fault d.Answer → Dialogue α)

namespace Dialogue

variable {α β : Type}

/-- One dialogue after another; a fault ends both. -/
def bind (first : Dialogue α) (next : α → Dialogue β) : Dialogue β :=
  match first with
  | .outcome (.ok a) => next a
  | .outcome (.error fault) => .outcome (.error fault)
  | .consult c go => .consult c fun reply => (go reply).bind next
  | .delegate d go => .delegate d fun reply => (go reply).bind next

/-- Dialogues follow one another, and to have an outcome is to ask nothing. -/
instance : Monad Dialogue where
  pure a := .outcome (.ok a)
  bind := bind

/-! ### Single questions -/

/-- The TXT records of a host. -/
def txt (host : String) : Dialogue (List String) :=
  .consult (.txt host) .outcome

/-- The page at a URL. -/
def http (url : String) : Dialogue HttpResponse :=
  .consult (.http url) .outcome

/-- Whether a verifier approves. -/
def verify (verifier : String) (stage : VerificationStage) (request : VerificationRequest) :
    Dialogue Bool :=
  .consult (.verify verifier stage request) .outcome

/-- The document of a DID. -/
def did (did : String) : Dialogue (Option DidDocument) :=
  .delegate (.did did) .outcome

/-- What the DID profiles find for a DID. -/
def didProfile (did : String) : Dialogue (Option Resolution) :=
  .delegate (.didProfile did) .outcome

/-- What a profile finds for an identifier. -/
def profile (uaid id : String) : Dialogue Resolution :=
  .delegate (.profile uaid id) .outcome

/-- What a profile finds for an identifier, or the fault that stops it. -/
def attempt (uaid id : String) : Dialogue (Except Fault Resolution) :=
  .delegate (.profile uaid id) fun reply => .outcome (.ok reply)

/-! ### Doing it -/

/-- The dialogue with the answers of a world, delegated work being done by `perform`. -/
def run (w : World) (perform : (d : Delegation) → Run d.Answer) : Dialogue α → Run α
  | .outcome result, past => (result, past)
  | .consult c next, past =>
    let reply := w past c
    (next reply).run w perform (.consulted c reply :: past)
  | .delegate d next, past =>
    let (reply, past) := perform d past
    (next reply).run w perform past

end Dialogue

end AgentId
