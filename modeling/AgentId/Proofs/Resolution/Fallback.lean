/-
Filling up what is filled up changes nothing.

What a profile leaves empty is taken from the DID of the identifier.  A profile that goes
on from what another found gets an answer that was filled up already, and its own answer
is filled up once more.  `filledFrom_filledFrom` says that nothing is left for that, as
long as the profile keeps what it got; what it says of how the answer was found does not
matter, for filling up reads none of it (`filledFrom_relabelled`).
-/
import AgentId.Resolution.Fallback

namespace AgentId

/-- The DID of an identifier is another text than the identifier. -/
def Context.Distinct (c : Context) : Prop :=
  ∀ did, c.did = some did → did ≠ c.uaid

namespace Resolution

/-! ### Filling up twice -/

theorem orElse_nil {α : Type} (l : List α) : orElse l [] = l := by
  cases l <;> rfl

theorem orElse_of_eq {α : Type} {l other : List α} (h : l = other) : orElse l other = l := by
  subst h
  cases l <;> rfl

theorem orElse_orElse {α : Type} (l other : List α) :
    orElse (orElse l other) other = orElse l other := by
  cases l with
  | cons a rest => rfl
  | nil => cases other <;> rfl

theorem orElse_orElse_self {α : Type} (a b : Option α) : ((a <|> b) <|> b) = (a <|> b) := by
  cases a with
  | some a => rfl
  | none => cases b <;> rfl

/-- **Filling up twice is filling up once.** -/
theorem filledFrom_filledFrom (r other : Resolution) :
    (r.filledFrom other).filledFrom other = r.filledFrom other := by
  unfold filledFrom
  simp only [orElse_orElse, orElse_orElse_self]

/-! ### How it was found -/

/-- A resolution that says something else of how it was found. -/
def relabelled (r : Resolution) (profile : Option String) (mode : Option ResolutionMode)
    (followup reconstructed : Option String) : Resolution :=
  { r with
    metadata := { r.metadata with
      profile
      resolutionMode := mode
      selectedFollowupProfile := followup
      reconstructedUaid := reconstructed } }

/-- Settling leaves alone how far a binding was followed, and by whom. -/
theorem followup_settled (c : Context) (found : Resolution) :
    (settled c found).metadata.resolutionMode = found.metadata.resolutionMode ∧
      (settled c found).metadata.selectedFollowupProfile =
        found.metadata.selectedFollowupProfile := by
  unfold settled
  split
  · exact ⟨rfl, rfl⟩
  · exact ⟨rfl, rfl⟩

section
variable {r other : Resolution} {profile followup reconstructed : Option String}
variable {mode : Option ResolutionMode}

theorem filledFrom_relabelled :
    (r.relabelled profile mode followup reconstructed).filledFrom other =
      (r.filledFrom other).relabelled profile mode followup reconstructed := rfl

/-- What is filled up is settled, whatever is said of how it was found. -/
theorem settled_relabelled {c : Context} (filled : r.filledFrom (fallback c) = r) :
    settled c (r.relabelled profile mode followup reconstructed) =
      r.relabelled profile mode followup reconstructed := by
  unfold settled
  split
  · rw [filledFrom_relabelled, filled]
  · rfl

end

/-! ### Answers that are settled -/

section
variable {c : Context} {r : Resolution}

/-- An answer that resolves the identifier is filled up. -/
theorem filledFrom_settled (resolved : (settled c r).isResolved) :
    (settled c r).filledFrom (fallback c) = settled c r := by
  unfold settled at resolved ⊢
  split
  · exact filledFrom_filledFrom r (fallback c)
  · rename_i hunresolved
    rw [if_neg hunresolved] at resolved
    exact absurd resolved hunresolved

/-- Where the DID is another text than the identifier, none is left out. -/
theorem filter_did_of_distinct (distinct : c.Distinct) : c.did.filter (· ≠ c.uaid) = c.did := by
  cases hc : c.did with
  | none => rfl
  | some did => exact Option.filter_some_pos (decide_eq_true (distinct did hc))

/-- What is filled up has this DID then, if none of its own. -/
theorem did_of_filled (filled : r.filledFrom (fallback c) = r) (distinct : c.Distinct) :
    (r.did <|> c.did) = r.did := by
  calc (r.did <|> c.did)
      = (r.did <|> c.did.filter (· ≠ c.uaid)) := by rw [filter_did_of_distinct distinct]
    _ = (r.filledFrom (fallback c)).did := rfl
    _ = r.did := by rw [filled]

end

end Resolution

end AgentId
