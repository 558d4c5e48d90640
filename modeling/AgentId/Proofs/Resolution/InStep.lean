/-
Dialogues that go in step.

Two dialogues for one identifier in two spellings go in step when they ask the same and each
goes on like the other, whatever is answered.  A profile that is delegated to is told the
spelling, and so it is asked in two spellings as well; all that may be counted on is that its
answers are alike.

Dialogues in sequence go in step if their parts do (`InStep.bind`).  Where everybody answers the
same at any time, doing dialogues that go in step comes to outcomes that agree and leaves the
same calls in the history (`InStep.run`).
-/
import AgentId.Proofs.Resolution.Alike
import AgentId.Proofs.Resolution.Dialogue

namespace AgentId

/-! ### Runs that agree -/

/-- The same error, or answers that are related. -/
inductive Agree {ε α : Type} (R : α → α → Prop) : Except ε α → Except ε α → Prop where
  | error (e : ε) : Agree R (.error e) (.error e)
  | ok {a a' : α} (related : R a a') : Agree R (.ok a) (.ok a')

/-- Somebody was asked, and did not go to work. -/
def Event.isCall : Event → Bool
  | .invoked .. => false
  | _ => true

/-- Two histories go on with the same calls and answers, in the same order. -/
def SameCalls (past later past' later' : History) : Prop :=
  ∃ events events', later = events ++ past ∧ later' = events' ++ past' ∧
    events.filter Event.isCall = events'.filter Event.isCall

/-- Two runs with outcomes that agree, by the same calls. -/
structure Twins {α : Type} (R : α → α → Prop) (past past' : History)
    (run run' : Except Fault α × History) : Prop where
  outcome : Agree R run.1 run'.1
  calls : SameCalls past run.2 past' run'.2

section
variable {past past' later later' latest latest' : History}

theorem SameCalls.refl (past past' : History) : SameCalls past past past' past' :=
  ⟨[], [], rfl, rfl, rfl⟩

theorem SameCalls.trans (h : SameCalls past later past' later')
    (h' : SameCalls later latest later' latest') : SameCalls past latest past' latest' := by
  obtain ⟨events, events', rfl, rfl, hevents⟩ := h
  obtain ⟨more, more', rfl, rfl, hmore⟩ := h'
  refine ⟨more ++ events, more' ++ events', (List.append_assoc ..).symm,
    (List.append_assoc ..).symm, ?_⟩
  rw [List.filter_append, List.filter_append, hevents, hmore]

theorem SameCalls.one (e : Event) (past past' : History) :
    SameCalls past (e :: past) past' (e :: past') :=
  ⟨[e], [e], rfl, rfl, rfl⟩

/-- That a profile is set to work is no call. -/
theorem SameCalls.invoked (place : Nat) (id : String) (above : List String) (c c' : Context)
    (past past' : History) :
    SameCalls past (.invoked place id above c :: past) past'
      (.invoked place id above c' :: past') :=
  ⟨[_], [_], rfl, rfl, rfl⟩

section
variable {α : Type} {R : α → α → Prop} {run run' : Except Fault α × History}

theorem Agree.eq {ε : Type} {reply reply' : Except ε α} (h : Agree Eq reply reply') :
    reply = reply' := by
  cases h with
  | error e => rfl
  | ok related => rw [related]

theorem Agree.map {ε β : Type} {S : β → β → Prop} {f g : α → β} {reply reply' : Except ε α}
    (h : Agree R reply reply') (hfg : ∀ a a', R a a' → S (f a) (g a')) :
    Agree S (reply.map f) (reply'.map g) := by
  cases h with
  | error e => exact .error e
  | ok related => exact .ok (hfg _ _ related)

/-- Replies that agree both resolve the identifier, or neither does. -/
theorem Agree.filter_isResolved {u u' : String} {reply reply' : Except Fault Resolution}
    (h : Agree (Resolution.Alike u u') reply reply') :
    Option.Rel (Resolution.Alike u u') (reply.toOption.filter (·.isResolved))
      (reply'.toOption.filter (·.isResolved)) := by
  cases h with
  | error fault => exact .none
  | @ok x x' alike =>
      by_cases hresolved : x.isResolved
      · have hresolved' : x'.isResolved := alike.isResolved ▸ hresolved
        simp only [Except.toOption, Option.filter, hresolved, hresolved']
        exact .some alike
      · have hunresolved' : ¬ x'.isResolved := alike.isResolved ▸ hresolved
        simp only [Except.toOption, Option.filter, hresolved, hunresolved']
        exact .none

theorem Twins.after (h : SameCalls past later past' later') (h' : Twins R later later' run run') :
    Twins R past past' run run' :=
  ⟨h'.outcome, h.trans h'.calls⟩

end

end

/-! ### Going in step -/

/-- Two dialogues for an identifier in two spellings ask the same, and their outcomes are
related. -/
inductive InStep (u u' : String) {α : Type} (R : α → α → Prop) :
    Dialogue α → Dialogue α → Prop where
  | fault (fault : Fault) : InStep u u' R (.outcome (.error fault)) (.outcome (.error fault))
  | answer {a a' : α} (related : R a a') : InStep u u' R (.outcome (.ok a)) (.outcome (.ok a'))
  | consult {c : Consultation} {next next' : Except Fault c.Answer → Dialogue α}
      (later : ∀ reply, InStep u u' R (next reply) (next' reply)) :
      InStep u u' R (.consult c next) (.consult c next')
  | did {did : String} {next next' : Except Fault (Option DidDocument) → Dialogue α}
      (later : ∀ reply, InStep u u' R (next reply) (next' reply)) :
      InStep u u' R (.delegate (.did did) next) (.delegate (.did did) next')
  | profile {id : String} {next next' : Except Fault Resolution → Dialogue α}
      (later : ∀ reply reply', Agree (Resolution.Alike u u') reply reply' →
        InStep u u' R (next reply) (next' reply')) :
      InStep u u' R (.delegate (.profile u id) next) (.delegate (.profile u' id) next')

section
variable {u u' : String} {α β : Type} {R : α → α → Prop} {S : β → β → Prop}

theorem InStep.pure {a a' : α} (related : R a a') :
    InStep u u' R (Pure.pure a) (Pure.pure a') :=
  .answer related

/-- **What follows goes in step**, if it does from related outcomes. -/
theorem InStep.bind {work work' : Dialogue α} {next next' : α → Dialogue β}
    (h : InStep u u' R work work')
    (hnext : ∀ a a', R a a' → InStep u u' S (next a) (next' a')) :
    InStep u u' S (work >>= next) (work' >>= next') := by
  show InStep u u' S (work.bind next) (work'.bind next')
  induction h with
  | fault fault => exact .fault fault
  | answer related => exact hnext _ _ related
  | consult _ ih => exact .consult ih
  | did _ ih => exact .did ih
  | profile _ ih => exact .profile ih

theorem InStep.txt (host : String) : InStep u u' Eq (Dialogue.txt host) (Dialogue.txt host) := by
  refine .consult fun reply => ?_
  cases reply with
  | error fault => exact .fault fault
  | ok records => exact .answer rfl

theorem InStep.http (url : String) : InStep u u' Eq (Dialogue.http url) (Dialogue.http url) := by
  refine .consult fun reply => ?_
  cases reply with
  | error fault => exact .fault fault
  | ok response => exact .answer rfl

theorem InStep.document (did : String) :
    InStep u u' Eq (Dialogue.did did) (Dialogue.did did) := by
  refine .did fun reply => ?_
  cases reply with
  | error fault => exact .fault fault
  | ok document => exact .answer rfl

/-- Asking another profile goes in step, up to what it answers. -/
theorem InStep.attempt (id : String) :
    InStep u u' (Agree (Resolution.Alike u u')) (Dialogue.attempt u id)
      (Dialogue.attempt u' id) :=
  .profile fun _ _ hreply => .answer hreply

/-- **Dialogues that go in step come to the same**, where everybody answers the same at any
time. -/
theorem InStep.run {w : World} (world : ∀ past past' c, w past c = w past' c)
    (perform : (d : Delegation) → Run d.Answer)
    (did : ∀ did past past', Twins Eq past past' (perform (.did did) past)
      (perform (.did did) past'))
    (profile : ∀ id past past', Twins (Resolution.Alike u u') past past'
      (perform (.profile u id) past) (perform (.profile u' id) past'))
    {work work' : Dialogue α} (h : InStep u u' R work work') (past past' : History) :
    Twins R past past' (work.run w perform past) (work'.run w perform past') := by
  induction h generalizing past past' with
  | fault fault => exact ⟨.error fault, .refl past past'⟩
  | answer related => exact ⟨.ok related, .refl past past'⟩
  | @consult c next next' _ ih =>
      rw [Dialogue.run_consult, Dialogue.run_consult, world past past' c]
      exact (ih (w past' c) _ _).after (.one _ past past')
  | @did name next next' _ ih =>
      rw [Dialogue.run_delegate, Dialogue.run_delegate]
      have hasked := did name past past'
      rw [hasked.outcome.eq]
      exact (ih _ _ _).after hasked.calls
  | @profile id next next' _ ih =>
      -- Here the answers are only alike, and the dialogues go on from two different ones.
      rw [Dialogue.run_delegate, Dialogue.run_delegate]
      have hasked := profile id past past'
      exact (ih _ _ hasked.outcome _ _).after hasked.calls

end

end AgentId
