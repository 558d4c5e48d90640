/-
What doing a dialogue comes to.

A dialogue is done from its first question on, so a statement about doing it follows its
tree: nothing is left to do at an outcome, and at a question the rest is done from the
history with the answer on it.  Dialogues in sequence are done in sequence (`run_bind`),
and delegate what both of them delegate (`delegations_bind`).

It makes no difference who does the delegated work, if they only agree on what the dialogue
can come to delegate (`run_congr`).
-/
import AgentId.Resolution.Dialogue

namespace AgentId

/-- What is left of an answer when only what resolves the identifier counts. -/
theorem filter_isResolved_eq_some_iff {reply : Except Fault Resolution} {found : Resolution} :
    reply.toOption.filter (·.isResolved) = some found ↔
      reply = .ok found ∧ found.isResolved := by
  rw [Option.filter_eq_some_iff]
  cases reply with
  | error fault => simp [Except.toOption]
  | ok other => simp [Except.toOption]

namespace Dialogue

variable {α β : Type} (w : World) (perform : (d : Delegation) → Run d.Answer)

/-- The work that a dialogue gives back when it is done, in order. -/
def delegations : Dialogue α → History → List Delegation
  | .outcome _, _ => []
  | .consult c next, past => (next (w past c)).delegations (.consulted c (w past c) :: past)
  | .delegate d next, past => d :: (next (perform d past).1).delegations (perform d past).2

/-- Nobody does what is delegated. -/
def nobody : (d : Delegation) → Run d.Answer := fun _ past => (.error (.config "not asked"), past)

/-! ### One question at a time -/

@[simp] theorem run_outcome (result : Except Fault α) (past : History) :
    (outcome result).run w perform past = (result, past) := rfl

@[simp] theorem run_pure (a : α) (past : History) :
    (pure a : Dialogue α).run w perform past = (.ok a, past) := rfl

theorem run_consult (c : Consultation) (next : Except Fault c.Answer → Dialogue α)
    (past : History) :
    (consult c next).run w perform past =
      (next (w past c)).run w perform (.consulted c (w past c) :: past) := rfl

theorem run_delegate (d : Delegation) (next : Except Fault d.Answer → Dialogue α)
    (past : History) :
    (delegate d next).run w perform past =
      (next (perform d past).1).run w perform (perform d past).2 := rfl

theorem delegations_consult (c : Consultation) (next : Except Fault c.Answer → Dialogue α)
    (past : History) :
    (consult c next).delegations w perform past =
      (next (w past c)).delegations w perform (.consulted c (w past c) :: past) := rfl

theorem delegations_delegate (d : Delegation) (next : Except Fault d.Answer → Dialogue α)
    (past : History) :
    (delegate d next).delegations w perform past =
      d :: (next (perform d past).1).delegations w perform (perform d past).2 := rfl

@[simp] theorem delegations_outcome (result : Except Fault α) (past : History) :
    (outcome result).delegations w perform past = [] := rfl

@[simp] theorem delegations_pure (a : α) (past : History) :
    (pure a : Dialogue α).delegations w perform past = [] := rfl

/-! ### One dialogue after another -/

/-- **A sequence is done part by part**, and a fault in the first part ends it. -/
theorem run_bind (first : Dialogue α) (next : α → Dialogue β) (past : History) :
    (first >>= next).run w perform past =
      match first.run w perform past with
      | (.ok a, later) => (next a).run w perform later
      | (.error fault, later) => (.error fault, later) := by
  show (first.bind next).run w perform past = _
  induction first generalizing past with
  | outcome result => cases result <;> rfl
  | consult c go ih => exact ih (w past c) _
  | delegate d go ih => exact ih (perform d past).1 _

/-- What is made of the answer afterwards asks nothing. -/
theorem run_bind_pure (work : Dialogue α) (f : α → β) (past : History) :
    (work >>= fun a => pure (f a)).run w perform past =
      ((work.run w perform past).1.map f, (work.run w perform past).2) := by
  rw [run_bind]
  obtain ⟨reply, later⟩ := work.run w perform past
  cases reply <;> rfl

/-- What a sequence delegates: all that its parts do, as far as it comes. -/
theorem delegations_bind (first : Dialogue α) (next : α → Dialogue β) (past : History) :
    (first >>= next).delegations w perform past =
      first.delegations w perform past ++
        match first.run w perform past with
        | (.ok a, later) => (next a).delegations w perform later
        | (.error _, _) => [] := by
  show (first.bind next).delegations w perform past = _
  induction first generalizing past with
  | outcome result => cases result <;> rfl
  | consult c go ih => exact ih (w past c) _
  | delegate d go ih => exact congrArg (d :: ·) (ih (perform d past).1 _)

/-- The answer does not depend on the past if no answer on the way does. -/
theorem run_reply {w : World} {perform : (d : Delegation) → Run d.Answer}
    (hworld : ∀ past past' c, w past c = w past' c)
    (hperform : ∀ d past past', (perform d past).1 = (perform d past').1)
    (work : Dialogue α) (past past' : History) :
    (work.run w perform past).1 = (work.run w perform past').1 := by
  induction work generalizing past past' with
  | outcome result => rfl
  | consult c next ih =>
      rw [run_consult, run_consult, hworld past past' c]
      exact ih (w past' c) _ _
  | delegate d next ih =>
      rw [run_delegate, run_delegate, hperform d past past']
      exact ih (perform d past').1 _ _

/-! ### What may be delegated -/

/-- The dialogue can come to delegate this work, as the answers fall. -/
inductive MayDelegate : Dialogue α → Delegation → Prop where
  | consult {c : Consultation} {next : Except Fault c.Answer → Dialogue α}
      {reply : Except Fault c.Answer} {d : Delegation} (later : (next reply).MayDelegate d) :
      MayDelegate (.consult c next) d
  | here {d : Delegation} {next : Except Fault d.Answer → Dialogue α} :
      MayDelegate (.delegate d next) d
  | delegate {other : Delegation} {next : Except Fault other.Answer → Dialogue α}
      {reply : Except Fault other.Answer} {d : Delegation}
      (later : (next reply).MayDelegate d) : MayDelegate (.delegate other next) d

theorem not_mayDelegate_outcome {result : Except Fault α} {d : Delegation} :
    ¬ (outcome result).MayDelegate d := by
  intro h
  cases h

/-- A single question delegates nothing. -/
theorem not_mayDelegate_question {c : Consultation} {d : Delegation} :
    ¬ (consult c outcome).MayDelegate d := by
  intro h
  cases h with
  | consult later => exact not_mayDelegate_outcome later

theorem not_mayDelegate_bind {first : Dialogue α} {next : α → Dialogue β} {d : Delegation}
    (h : ¬ first.MayDelegate d) (h' : ∀ a, ¬ (next a).MayDelegate d) :
    ¬ (first >>= next).MayDelegate d := by
  show ¬ (first.bind next).MayDelegate d
  intro hmay
  induction first with
  | outcome result =>
      cases result with
      | ok a => exact h' a hmay
      | error fault => cases hmay
  | consult c go ih =>
      cases hmay with
      | consult later => exact ih _ (fun hgo => h (.consult hgo)) later
  | delegate other go ih =>
      cases hmay with
      | here => exact h .here
      | delegate later => exact ih _ (fun hgo => h (.delegate hgo)) later

/-- **Who does the work does not matter**, as long as they agree on what may be delegated. -/
theorem run_congr {perform' : (d : Delegation) → Run d.Answer} {work : Dialogue α}
    (h : ∀ d, work.MayDelegate d → perform d = perform' d) (past : History) :
    work.run w perform past = work.run w perform' past := by
  induction work generalizing past with
  | outcome result => rfl
  | consult c next ih =>
      rw [run_consult, run_consult]
      exact ih (w past c) (fun d hd => h d (.consult hd)) _
  | delegate d next ih =>
      rw [run_delegate, run_delegate, ← h d .here]
      exact ih _ (fun other hother => h other (.delegate hother)) _

end Dialogue

end AgentId
