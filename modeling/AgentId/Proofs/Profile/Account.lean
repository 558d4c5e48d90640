/-
Every profile accounts for its outcome.

A caller branches on what a profile comes to, and there are two ways.  Somebody who was asked
broke down; then the fault is the one that was reported, and the history shows by whom
(`Event.fault?`).  Or there is an answer; then it is for the identifier, bears the name of the
profile and is decided: the agent was found, or it is said why not, and never both or neither.

That each profile of the standard registry keeps to this (`Accounts`) is shown by the ways in
which it can go.  The profile of bindings takes over what others found, so it depends on these
to have answered for the same identifier.
-/
import AgentId.Proofs.Profile.BaseDid
import AgentId.Proofs.Profile.Card.Visit
import AgentId.Proofs.Profile.Course
import AgentId.Proofs.Profile.Followup

namespace AgentId

/-! ### Outcomes that are accounted for -/

/-- The fault that somebody reported. -/
def Event.fault? : Event → Option Fault
  | .consulted _ (.error fault) => some fault
  | .askedDid _ _ (.error fault) => some fault
  | .askedDidProfile _ _ (.error fault) => some fault
  | _ => none

/-- Either the agent was found, or it is said why not. -/
def Resolution.Decided (x : Resolution) : Prop :=
  Xor (x.metadata.resolved = true ∧ x.failure = none)
    (x.metadata.resolved = false ∧ ∃ code, x.code? = some code)

/-- An answer of a profile for an identifier. -/
structure Resolution.AnswersFor (x : Resolution) (uaid profile : String) : Prop where
  id : x.id = uaid
  profile : x.metadata.profile = some profile
  decided : x.Decided

/-- A profile breaks down with a fault that was reported meanwhile, or it answers. -/
inductive Accounts (uaid profile : String) (past : History) :
    Except Fault Resolution × History → Prop where
  | reported {fault : Fault} {events : List Event}
      (told : ∃ e ∈ events, e.fault? = some fault) :
      Accounts uaid profile past (.error fault, events ++ past)
  | answered {x : Resolution} {later : History} (answers : x.AnswersFor uaid profile) :
      Accounts uaid profile past (.ok x, later)

/-- A profile breaks down when it is told of a fault. -/
theorem Accounts.told {uaid profile : String} {past : History} {fault : Fault} {e : Event}
    (before : List Event) (h : e.fault? = some fault) :
    Accounts uaid profile past (.error fault, e :: (before ++ past)) := by
  show Accounts uaid profile past (.error fault, (e :: before) ++ past)
  exact .reported ⟨e, List.mem_cons_self, h⟩

namespace Resolution

theorem Decided.of_resolved {x : Resolution} (h : x.isResolved) : x.Decided := by
  unfold isResolved at h
  rw [Bool.and_eq_true, Option.isNone_iff_eq_none] at h
  refine Or.inl ⟨h, fun hrefused => ?_⟩
  rw [h.1] at hrefused
  cases hrefused.1

/-- A refusal is an answer. -/
theorem answersFor_refused (uaid profile : String) (code : FailureCode) (message : String)
    (details : List (String × Json)) :
    (refused uaid (some profile) code message details).AnswersFor uaid profile where
  id := rfl
  profile := rfl
  decided := Or.inr ⟨⟨rfl, code, rfl⟩, fun hfound => Bool.noConfusion hfound.1⟩

/-- What fills up an answer leaves it one. -/
theorem AnswersFor.settled {x : Resolution} {uaid profile : String}
    (h : x.AnswersFor uaid profile) (c : Context) : (settled c x).AnswersFor uaid profile := by
  unfold Resolution.settled
  split
  · exact ⟨h.id, h.profile, h.decided⟩
  · exact h

end Resolution

namespace Profile

open Resolution

variable {w : World} {perform : (d : Delegation) → Run d.Answer} {past : History} {c : Context}

theorem answersFor_resolution (refusal : Refusal) (profile uaid : String) :
    (refusal.resolution profile uaid).AnswersFor uaid profile :=
  answersFor_refused uaid profile refusal.code refusal.message refusal.details

/-- A profile answers if what it finds is an answer. -/
theorem answersFor_settleRefusal {result : Except Refusal Resolution} {uaid profile : String}
    (h : ∀ x, result = .ok x → x.AnswersFor uaid profile) :
    (settleRefusal profile uaid result).AnswersFor uaid profile := by
  cases result with
  | ok x => exact h x rfl
  | error refusal => exact answersFor_resolution refusal profile uaid

/-! ### Each profile accounts for its outcome -/

section
variable {run : Except Fault Resolution × History} {schemes : SchemesConfig}

theorem Card.answersFor_evaluate {uaid : String} {q : Request} {record : CardRecord}
    {response : HttpResponse} :
    (settleRefusal id uaid (evaluate schemes uaid q record response)).AnswersFor uaid id := by
  refine answersFor_settleRefusal fun x hx => ?_
  cases hcard : received record response with
  | error refusal => simp [evaluate, hcard, bind, Except.bind] at hx
  | ok card =>
      rw [evaluate_of_received hcard] at hx
      obtain ⟨-, name, url, -, rfl⟩ := judge_eq_ok_iff.mp hx
      exact ⟨rfl, rfl, .of_resolved rfl⟩

theorem Card.Course.accounts (h : Card.Course schemes w past c run) :
    Accounts c.uaid Card.id past run := by
  cases h with
  | notAsked _ => exact .answered (answersFor_resolution _ _ _)
  | unanswered _ _ => exact .told [] rfl
  | unselected _ _ _ => exact .answered (answersFor_resolution _ _ _)
  | unserved _ _ _ _ => exact .told [_] rfl
  | evaluated _ _ _ _ => exact .answered answersFor_evaluate

theorem Endpoint.Course.accounts (h : Endpoint.Course schemes w past c run) :
    Accounts c.uaid Endpoint.id past run := by
  cases h with
  | notAsked _ _ => exact .answered (answersFor_resolution _ _ _)
  | unanswered _ _ => exact .told [] rfl
  | unselected _ _ _ => exact .answered (answersFor_resolution _ _ _)
  | taken _ _ _ => exact .answered ⟨rfl, rfl, .of_resolved rfl⟩

theorem BaseDid.answersFor_evaluate {did : String} {document? : Option DidDocument} :
    (settleRefusal id c.uaid (evaluate c did document?)).AnswersFor c.uaid id := by
  refine answersFor_settleRefusal fun x hx => ?_
  obtain ⟨document, -, rfl⟩ := of_evaluate_eq_ok hx
  exact ⟨rfl, rfl, .of_resolved rfl⟩

/-- The profile of documents breaks down only with whoever has the documents. -/
theorem BaseDid.Course.accounts (h : BaseDid.Course perform past c run)
    (reported : ∀ did fault later, perform (.did did) past = (.error fault, later) →
      ∃ e, later = e :: past ∧ e.fault? = some fault) :
    Accounts c.uaid BaseDid.id past run := by
  cases h with
  | notAsked _ _ => exact .answered (answersFor_resolution _ _ _)
  | undetermined _ _ => exact .answered (answersFor_resolution _ _ _)
  | known _ _ _ => exact .answered answersFor_evaluate
  | unanswered _ _ asked =>
      obtain ⟨e, rfl, hfault⟩ := reported _ _ _ asked
      exact .told [] hfault
  | answered _ _ _ => exact .answered answersFor_evaluate

/-- The profile of bindings answers for the identifier if those that it goes on with do. -/
theorem DnsBinding.Course.accounts {config : DnsBindingConfig}
    (h : DnsBinding.Course config w perform past c run)
    (others : ∀ profile ∈ followups c.parsed, ∀ asked x,
      (perform (.profile c.uaid profile) asked).1 = .ok x → x.id = c.uaid) :
    Accounts c.uaid DnsBinding.id past run := by
  cases h with
  | notAsked _ _ => exact .answered (answersFor_resolution _ _ _)
  | unanswered _ _ => exact .told [] rfl
  | unbound _ _ _ => exact .answered (answersFor_resolution _ _ _)
  | @bound home records binding ending later atHome answered selected followed =>
      refine .answered (answersFor_settleRefusal fun x hx => ?_)
      cases ending with
      | resolved profile found =>
          obtain rfl := Except.ok.inj hx
          obtain ⟨hmem, asked, hasked, hresolved⟩ :=
            of_follow_resolved (by simp) (congrArg Prod.fst followed)
          exact ⟨others profile (mem_followups_of_enabled hmem) asked found hasked, rfl,
            .of_resolved hresolved⟩
      | failed profile reason => cases hx
      | noneApplied =>
          unfold conclude at hx
          simp only at hx
          split at hx
          · cases hx
          · obtain rfl := Except.ok.inj hx
            exact ⟨rfl, rfl, .of_resolved rfl⟩

/-- The profile of bindings breaks down only at its own question. -/
theorem DnsBinding.Course.fault {config : DnsBindingConfig} {fault : Fault}
    (h : DnsBinding.Course config w perform past c run) (broke : run.1 = .error fault) :
    ∃ home, c.parsed.home? = some home ∧
      run.2 = .consulted (.txt (host home)) (.error fault) :: past := by
  cases h with
  | notAsked _ _ => cases broke
  | unanswered atHome _ =>
      obtain rfl := Except.error.inj broke
      exact ⟨_, atHome, rfl⟩
  | unbound _ _ _ => cases broke
  | bound _ _ _ _ => cases broke

end

/-! ### Identifiers that a profile is not for -/

/-- A profile asks nobody about an identifier that it is not for, and says so. -/
def Declines (p : Profile) : Prop :=
  ∀ c, p.supports c.uaid c.parsed = false →
    ∃ x, p.resolve c = pure x ∧ x.code? = some .notApplicable

theorem declines_card (schemes : SchemesConfig) : (card schemes).Declines := by
  intro c hsupports
  have hhome : Card.home? c.parsed = none := by simpa [card] using hsupports
  simp only [card, Card.resolve, Card.request, hhome]
  exact ⟨_, rfl, rfl⟩

theorem declines_endpoint (schemes : SchemesConfig) (v : Endpoint.Verifiers) :
    (endpoint schemes v).Declines := by
  intro c hsupports
  have hhome : Endpoint.home? c.parsed = none := by simpa [endpoint] using hsupports
  simp only [endpoint, Endpoint.resolve, hhome]
  exact ⟨_, rfl, rfl⟩

theorem declines_baseDid : baseDid.Declines := by
  intro c hsupports
  have htarget : c.parsed.target ≠ .did := by simpa [baseDid] using hsupports
  simp only [baseDid, BaseDid.resolve, if_pos htarget]
  exact ⟨_, rfl, rfl⟩

theorem declines_dnsBinding (config : DnsBindingConfig) : (dnsBinding config).Declines := by
  intro c hsupports
  have hhome : c.parsed.home? = none := by simpa [dnsBinding] using hsupports
  simp only [dnsBinding, DnsBinding.resolve, hhome]
  exact ⟨_, rfl, rfl⟩

end Profile

end AgentId
