/-
Answers that differ only in how the identifier is spelt.

An agent can be asked for in many spellings, since the parts of an identifier may come in any
order and be escaped or not.  An answer repeats the text that was asked for: it is the
identifier of the answer, and it stands in front of the names that are made up for a service
or a key.  Nothing else of an answer is to depend on it, and `Resolution.Alike` says so for
two answers.

The registry keeps this when it fills an answer up.  It does compare the text with something,
to see whether the DID of an identifier is the identifier itself; but no text that is an
identifier is its own DID, so nothing comes of it (`alike_fallback`).
-/
import AgentId.Proofs.Resolution.Fallback
import Mathlib.Data.List.Forall2

namespace AgentId

/-! ### Texts, services and keys -/

/-- The same text, or the one identifier and the other with the same text behind. -/
def Respelt (u u' s s' : String) : Prop :=
  s = s' ∨ ∃ rest, s = u ++ rest ∧ s' = u' ++ rest

section
variable {u u' s s' : String}

theorem Respelt.refl (u u' s : String) : Respelt u u' s s :=
  Or.inl rfl

theorem Respelt.self (u u' : String) : Respelt u u' u u' :=
  Or.inr ⟨"", by simp⟩

theorem Respelt.append (h : Respelt u u' s s') (t : String) :
    Respelt u u' (s ++ t) (s' ++ t) := by
  rcases h with rfl | ⟨rest, rfl, rfl⟩
  · exact .refl u u' _
  · exact Or.inr ⟨rest ++ t, String.append_assoc .., String.append_assoc ..⟩

/-- A name that is made from the identifier. -/
theorem Respelt.named (u u' name : String) :
    Respelt u u' (u ++ "#" ++ name) (u' ++ "#" ++ name) :=
  ((Respelt.self u u').append "#").append name

end

/-- Services that differ only in their names, and these only by the identifier. -/
structure Service.Alike (u u' : String) (s s' : Service) : Prop where
  id : Respelt u u' s.id s'.id
  kind : s.kind = s'.kind
  endpoint : s.endpoint = s'.endpoint
  source : s.source = s'.source

/-- Keys that differ only in their names and in whose they are, and there only by the
identifier. -/
structure VerificationMethod.Alike (u u' : String) (m m' : VerificationMethod) : Prop where
  id : Respelt u u' m.id m'.id
  controller : Respelt u u' m.controller m'.controller
  kind : m.kind = m'.kind
  publicKeyMultibase : m.publicKeyMultibase = m'.publicKeyMultibase
  publicKeyJwk : m.publicKeyJwk = m'.publicKeyJwk

theorem Service.Alike.refl (u u' : String) (s : Service) : s.Alike u u' s :=
  ⟨.refl u u' _, rfl, rfl, rfl⟩

theorem VerificationMethod.Alike.refl (u u' : String) (m : VerificationMethod) : m.Alike u u' m :=
  ⟨.refl u u' _, .refl u u' _, rfl, rfl, rfl⟩

/-! ### Answers -/

namespace Resolution

/-- Answers for an identifier in two spellings that differ in nothing else. -/
structure Alike (u u' : String) (x x' : Resolution) : Prop where
  id : x.id = u
  id' : x'.id = u'
  did : x.did = x'.did
  alsoKnownAs : x.alsoKnownAs = x'.alsoKnownAs
  verificationMethod :
    List.Forall₂ (VerificationMethod.Alike u u') x.verificationMethod x'.verificationMethod
  authentication : List.Forall₂ (Respelt u u') x.authentication x'.authentication
  assertionMethod : x.assertionMethod = x'.assertionMethod
  service : List.Forall₂ (Service.Alike u u') x.service x'.service
  metadata : x.metadata = x'.metadata
  failure : x.failure = x'.failure

section
variable {u u' : String} {x x' : Resolution}

theorem Alike.isResolved (h : x.Alike u u' x') : x.isResolved = x'.isResolved := by
  unfold Resolution.isResolved
  rw [h.metadata, h.failure]

theorem Alike.code? (h : x.Alike u u' x') : x.code? = x'.code? := by
  unfold Resolution.code?
  rw [h.failure]

/-- An answer that names nothing after the identifier has only to say which it is for. -/
theorem alike_renamed (x : Resolution) (u' : String) : x.Alike x.id u' { x with id := u' } where
  id := rfl
  id' := rfl
  did := rfl
  alsoKnownAs := rfl
  verificationMethod := List.forall₂_same.mpr fun m _ => .refl _ _ m
  authentication := List.forall₂_same.mpr fun s _ => .refl _ _ s
  assertionMethod := rfl
  service := List.forall₂_same.mpr fun s _ => .refl _ _ s
  metadata := rfl
  failure := rfl

theorem alike_refused (u u' : String) (profile : Option String) (code : FailureCode)
    (message : String) (details : List (String × Json)) :
    (refused u profile code message details).Alike u u'
      (refused u' profile code message details) :=
  alike_renamed (refused u profile code message details) u'

theorem forall₂_orElse {α β : Type} {R : α → β → Prop} {l other : List α} {l' other' : List β}
    (h : List.Forall₂ R l l') (hother : List.Forall₂ R other other') :
    List.Forall₂ R (orElse l other) (orElse l' other') := by
  cases h with
  | nil => exact hother
  | cons hhead htail => exact .cons hhead htail

/-- Filling up keeps answers alike. -/
theorem Alike.filledFrom {other other' : Resolution} (h : x.Alike u u' x')
    (hother : other.Alike u u' other') :
    (x.filledFrom other).Alike u u' (x'.filledFrom other') where
  id := h.id
  id' := h.id'
  did := by simp only [Resolution.filledFrom, h.did, hother.did]
  alsoKnownAs := by simp only [Resolution.filledFrom, h.alsoKnownAs, hother.alsoKnownAs]
  verificationMethod := forall₂_orElse h.verificationMethod hother.verificationMethod
  authentication := forall₂_orElse h.authentication hother.authentication
  assertionMethod := by
    simp only [Resolution.filledFrom, h.assertionMethod, hother.assertionMethod]
  service := forall₂_orElse h.service hother.service
  metadata := by simp only [Resolution.filledFrom, h.metadata, hother.metadata]
  failure := h.failure

end

end Resolution

/-! ### What is known of an identifier -/

/-- The same is known of an identifier in another spelling. -/
def Context.respelled (c : Context) (u' : String) : Context :=
  { c with uaid := u' }

@[simp] theorem Context.respelled_uaid (c : Context) (u' : String) :
    (c.respelled u').uaid = u' := rfl

@[simp] theorem Context.respelled_parsed (c : Context) (u' : String) :
    (c.respelled u').parsed = c.parsed := rfl

@[simp] theorem Context.respelled_did (c : Context) (u' : String) :
    (c.respelled u').did = c.did := rfl

@[simp] theorem Context.respelled_document (c : Context) (u' : String) :
    (c.respelled u').document = c.document := rfl

namespace Resolution

section
variable {c : Context} {u' : String} {x x' : Resolution}

/-- What the DID of an identifier says does not depend on how the identifier is spelt. -/
theorem alike_fallback (h : c.Distinct) (h' : (c.respelled u').Distinct) :
    (fallback c).Alike c.uaid u' (fallback (c.respelled u')) := by
  have hdid : c.did.filter (· ≠ c.uaid) =
      (c.respelled u').did.filter (· ≠ (c.respelled u').uaid) :=
    (filter_did_of_distinct h).trans (filter_did_of_distinct h').symm
  exact {
    id := rfl
    id' := rfl
    did := hdid
    alsoKnownAs := congrArg (fun did : Option String =>
      distinct (did.toList ++ (c.document.getD { id := "" }).alsoKnownAs)) hdid
    verificationMethod := List.forall₂_same.mpr fun m _ => .refl _ _ m
    authentication := List.forall₂_same.mpr fun s _ => .refl _ _ s
    assertionMethod := rfl
    service := List.forall₂_same.mpr fun s _ => .refl _ _ s
    metadata := congrArg (fun did : Option String =>
      ({ baseDid := did, baseDidResolved := did.map fun _ => c.document.isSome } : Provenance))
      hdid
    failure := rfl }

/-- **The registry keeps answers alike.** -/
theorem Alike.settled (hx : x.Alike c.uaid u' x') (h : c.Distinct)
    (h' : (c.respelled u').Distinct) :
    (settled c x).Alike c.uaid u' (settled (c.respelled u') x') := by
  unfold Resolution.settled
  rw [← hx.isResolved]
  split
  · exact hx.filledFrom (alike_fallback h h')
  · exact hx

end

end Resolution

end AgentId
