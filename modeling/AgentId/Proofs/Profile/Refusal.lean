/-
What a profile answers.

A profile works out what it finds, or why it refuses, and answers either as a resolution.
The two are told apart in the answer: a refusal does not resolve the identifier, so an
answer that does is what was found, word for word (`found_of_settled`).
-/
import AgentId.Profile.Basic
import AgentId.Proofs.Resolution.Dialogue

namespace AgentId

@[simp] theorem Refusal.isResolved_resolution (r : Refusal) (profile uaid : String) :
    (r.resolution profile uaid).isResolved = false := rfl

@[simp] theorem Refusal.code?_resolution (r : Refusal) (profile uaid : String) :
    (r.resolution profile uaid).code? = some r.code := rfl

namespace Profile

variable {profile uaid : String}

@[simp] theorem settleRefusal_error (r : Refusal) :
    settleRefusal profile uaid (.error r) = r.resolution profile uaid := rfl

theorem resolution_ne_of_resolved {found : Resolution} (resolved : found.isResolved) (r : Refusal) :
    r.resolution profile uaid ≠ found := by
  rintro rfl
  simp at resolved

/-- An answer that resolves the identifier is what was found. -/
theorem ok_of_settled {result : Except Refusal Resolution} {found : Resolution}
    (h : settleRefusal profile uaid result = found) (resolved : found.isResolved) :
    result = .ok found := by
  cases result with
  | ok other => exact congrArg Except.ok h
  | error refusal => exact absurd h (resolution_ne_of_resolved resolved refusal)

/-- An answer that is no refusal is what was found. -/
theorem found_of_settled {w : World} {perform : (d : Delegation) → Run d.Answer} {past : History}
    {work : Dialogue (Except Refusal Resolution)} {found : Resolution}
    (h : ((work >>= fun result => pure (settleRefusal profile uaid result)).run w perform past).1 =
      .ok found) (accepted : ∀ r : Refusal, r.resolution profile uaid ≠ found) :
    (work.run w perform past).1 = .ok (.ok found) := by
  rw [Dialogue.run_bind_pure] at h
  cases hreply : (work.run w perform past).1 with
  | error fault =>
      rw [hreply] at h
      cases h
  | ok result =>
      rw [hreply] at h
      cases result with
      | ok other =>
          obtain rfl : other = found := Except.ok.inj h
          rfl
      | error refusal => exact absurd (Except.ok.inj h) (accepted refusal)

end Profile

end AgentId
