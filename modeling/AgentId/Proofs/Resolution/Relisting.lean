/-
Records in another order.

A host lists its records in any order, and in another one the next time.  Whether this makes a
difference is a question about two settings in which the one host lists the same records
differently, and everybody else answers the same (`Relisting`).

As long as the host is not asked, nothing comes of it: the outcome is the same, and the
histories differ only in that order (`Relisting.run`).  So what a profile asks of others once it
has its records is no concern, if it asks the same; all depends on what it makes of the records.
-/
import AgentId.Proofs.Resolution.Dialogue
import Mathlib.Data.List.Forall2

namespace AgentId

/-! ### Histories -/

/-- The same event, or the same records of the host in another order. -/
inductive Event.Relisted (host : String) : Event → Event → Prop where
  | same (e : Event) : Event.Relisted host e e
  | listed {records records' : List String} (perm : records.Perm records') :
      Event.Relisted host (.consulted (.txt host) (.ok records))
        (.consulted (.txt host) (.ok records'))

/-- The same happened, but for the order of the host's records. -/
def Relisted (host : String) (past past' : History) : Prop :=
  List.Forall₂ (Event.Relisted host) past past'

theorem Relisted.refl (host : String) (past : History) : Relisted host past past :=
  List.forall₂_same.mpr fun e _ => .same e

section
variable {host : String} {past past' : History}

theorem Relisted.cons (h : Relisted host past past') (e : Event) :
    Relisted host (e :: past) (e :: past') :=
  List.Forall₂.cons (.same e) h

/-- The host is asked, and lists its records in the one order or in the other. -/
theorem Relisted.listed (h : Relisted host past past') {records records' : List String}
    (perm : records.Perm records') :
    Relisted host (.consulted (.txt host) (.ok records) :: past)
      (.consulted (.txt host) (.ok records') :: past') :=
  List.Forall₂.cons (.listed perm) h

end

/-- Two runs with one outcome, in which the same happened but for the order of the host's
records. -/
structure Unmoved (host : String) {α : Type} (run run' : Except Fault α × History) : Prop where
  outcome : run.1 = run'.1
  history : Relisted host run.2 run'.2

theorem Unmoved.map {host : String} {α β : Type} {run run' : Except Fault α × History}
    (h : Unmoved host run run') (f : α → β) :
    Unmoved host (run.1.map f, run.2) (run'.1.map f, run'.2) where
  outcome := congrArg (Except.map f) h.outcome
  history := h.history

/-! ### Settings -/

/-- The host lists its records in the one order or in the other when it is asked for them, and
everybody else answers the same, whatever order they have seen. -/
structure Relisting (host : String) (records records' : List String) (past : History)
    (w w' : World) (perform perform' : (d : Delegation) → Run d.Answer) : Prop where
  perm : records.Perm records'
  lists : w past (.txt host) = .ok records
  lists' : w' past (.txt host) = .ok records'
  consulted : ∀ c, c ≠ .txt host → ∀ past past', Relisted host past past' →
    w past c = w' past' c
  delegated : ∀ d past past', Relisted host past past' →
    Unmoved host (perform d past) (perform' d past')

/-- The world, but for the records of one host. -/
def World.listing (w : World) (host : String) (records : List String) : World := fun past c =>
  match c with
  | .txt other => if other = host then .ok records else w past (.txt other)
  | .http url => w past (.http url)
  | .verify name stage request => w past (.verify name stage request)

/-- Nobody answers. -/
def World.silent : World := fun _ _ => .error (.config "not asked")

/-- The host of a world in which nobody looks back can list its records in any order. -/
theorem relisting_listing {w : World} (forgetful : ∀ past past' c, w past c = w past' c)
    (host : String) {records records' : List String} (perm : records.Perm records')
    (past : History) :
    Relisting host records records' past (w.listing host records) (w.listing host records')
      Dialogue.nobody Dialogue.nobody where
  perm := perm
  lists := if_pos rfl
  lists' := if_pos rfl
  consulted := by
    intro c hc past past' _
    cases c with
    | txt other =>
        have hother : other ≠ host := fun heq => hc (congrArg Consultation.txt heq)
        simp only [World.listing, if_neg hother]
        exact forgetful past past' _
    | http url => exact forgetful past past' _
    | verify name stage request => exact forgetful past past' _
  delegated := fun _ _ _ hpast => ⟨rfl, hpast⟩

/-! ### Dialogues -/

namespace Dialogue

variable {α β : Type} {q : Consultation}

/-- However the answers come out, the question is not asked. -/
inductive Avoids (q : Consultation) : Dialogue α → Prop where
  | outcome (result : Except Fault α) : Avoids q (.outcome result)
  | consult {c : Consultation} {next : Except Fault c.Answer → Dialogue α} (other : c ≠ q)
      (later : ∀ reply, Avoids q (next reply)) : Avoids q (.consult c next)
  | delegate {d : Delegation} {next : Except Fault d.Answer → Dialogue α}
      (later : ∀ reply, Avoids q (next reply)) : Avoids q (.delegate d next)

/-- Another single question. -/
theorem avoids_question {c : Consultation} (other : c ≠ q) :
    (consult c outcome).Avoids q :=
  .consult other .outcome

theorem Avoids.bind {first : Dialogue α} {next : α → Dialogue β} (h : first.Avoids q)
    (h' : ∀ a, (next a).Avoids q) : (first >>= next).Avoids q := by
  show (first.bind next).Avoids q
  induction h with
  | outcome result =>
      cases result with
      | ok a => exact h' a
      | error fault => exact .outcome _
  | consult other _ ih => exact .consult other ih
  | delegate _ ih => exact .delegate ih

end Dialogue

/-- **Where the host is not asked the order of its records makes no difference.** -/
theorem Relisting.run {host : String} {records records' : List String} {start : History}
    {w w' : World} {perform perform' : (d : Delegation) → Run d.Answer}
    (h : Relisting host records records' start w w' perform perform') {α : Type}
    {work : Dialogue α} (avoids : work.Avoids (.txt host)) {past past' : History}
    (hpast : Relisted host past past') :
    Unmoved host (work.run w perform past) (work.run w' perform' past') := by
  induction avoids generalizing past past' with
  | outcome result => exact ⟨rfl, hpast⟩
  | @consult c next other _ ih =>
      rw [Dialogue.run_consult, Dialogue.run_consult, ← h.consulted c other past past' hpast]
      exact ih (w past c) (hpast.cons _)
  | @delegate d next _ ih =>
      have hasked := h.delegated d past past' hpast
      rw [Dialogue.run_delegate, Dialogue.run_delegate, ← hasked.outcome]
      exact ih (perform d past).1 hasked.history

end AgentId
