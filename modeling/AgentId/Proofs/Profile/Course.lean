/-
The ways in which a profile can go.

A profile asks one question after another and goes on from each answer, or stops at it.  That
leaves few ways in which it can go, and each of them has one outcome and one history.
`Course` lists them for each profile, and the theorems `course` say that there are no
others.  What holds of a profile on every course holds of the profile; nothing else has to
be known about how it works.

The endpoint profile is listed as the standard registry has it, without verifiers.
-/
import AgentId.Proofs.Profile.Card.Visit
import AgentId.Proofs.Profile.Following

namespace AgentId.Profile

variable {w : World} {perform : (d : Delegation) → Run d.Answer} {past : History} {c : Context}

/-! ### Agent cards -/

namespace Card

/-- How finding an agent by its card can go. -/
inductive Course (schemes : SchemesConfig) (w : World) (past : History) (c : Context) :
    Except Fault Resolution × History → Prop where
  /-- The profile is not for the identifier. -/
  | notAsked {refusal : Refusal} (asks : request c.parsed = .error refusal) :
      Course schemes w past c (.ok (refusal.resolution id c.uaid), past)
  /-- The host cannot be asked for its records. -/
  | unanswered {q : Request} {fault : Fault} (asks : request c.parsed = .ok q)
      (answered : w past (.txt (host q.home)) = .error fault) :
      Course schemes w past c
        (.error fault, .consulted (.txt (host q.home)) (.error fault) :: past)
  /-- None of the records will do. -/
  | unselected {q : Request} {records : List String} {refusal : Refusal}
      (asks : request c.parsed = .ok q) (answered : w past (.txt (host q.home)) = .ok records)
      (selected : select q records = .error refusal) :
      Course schemes w past c
        (.ok (refusal.resolution id c.uaid),
          .consulted (.txt (host q.home)) (.ok records) :: past)
  /-- The page at the place that a record names cannot be had. -/
  | unserved {q : Request} {records : List String} {record : CardRecord} {fault : Fault}
      (asks : request c.parsed = .ok q) (answered : w past (.txt (host q.home)) = .ok records)
      (selected : select q records = .ok record)
      (served : w (.consulted (.txt (host q.home)) (.ok records) :: past) (.http record.url) =
        .error fault) :
      Course schemes w past c
        (.error fault, .consulted (.http record.url) (.error fault) ::
          .consulted (.txt (host q.home)) (.ok records) :: past)
  /-- The page is read. -/
  | evaluated {q : Request} {records : List String} {record : CardRecord}
      {response : HttpResponse} (asks : request c.parsed = .ok q)
      (answered : w past (.txt (host q.home)) = .ok records)
      (selected : select q records = .ok record)
      (served : w (.consulted (.txt (host q.home)) (.ok records) :: past) (.http record.url) =
        .ok response) :
      Course schemes w past c
        (.ok (settleRefusal id c.uaid (evaluate schemes c.uaid q record response)),
          .consulted (.http record.url) (.ok response) ::
            .consulted (.txt (host q.home)) (.ok records) :: past)

/-- **The profile of cards goes one of these ways.** -/
theorem course (schemes : SchemesConfig) :
    Course schemes w past c (((card schemes).resolve c).run w perform past) := by
  cases asks : request c.parsed with
  | error refusal =>
      rw [run_of_refused asks]
      exact .notAsked asks
  | ok q =>
      cases answered : w past (.txt (host q.home)) with
      | error fault =>
          rw [run_of_unanswered asks answered]
          exact .unanswered asks answered
      | ok records =>
          rw [run_of_listed asks answered]
          cases selected : select q records with
          | error refusal => exact .unselected asks answered selected
          | ok record =>
              simp only
              cases served : w (.consulted (.txt (host q.home)) (.ok records) :: past)
                  (.http record.url) with
              | error fault => exact .unserved asks answered selected served
              | ok response => exact .evaluated asks answered selected served

end Card

/-! ### Endpoint records -/

namespace Endpoint

/-- How finding an agent by its endpoint record can go. -/
inductive Course (schemes : SchemesConfig) (w : World) (past : History) (c : Context) :
    Except Fault Resolution × History → Prop where
  /-- The profile is not for the identifier. -/
  | notAsked {refusal : Refusal} (code : refusal.code = .notApplicable)
      (homeless : home? c.parsed = none) :
      Course schemes w past c (.ok (refusal.resolution id c.uaid), past)
  /-- The host cannot be asked for its records. -/
  | unanswered {home : String} {fault : Fault} (atHome : home? c.parsed = some home)
      (answered : w past (.txt (host home)) = .error fault) :
      Course schemes w past c (.error fault, .consulted (.txt (host home)) (.error fault) :: past)
  /-- None of the records will do. -/
  | unselected {home : String} {records : List String} {refusal : Refusal}
      (atHome : home? c.parsed = some home) (answered : w past (.txt (host home)) = .ok records)
      (selected : select schemes home records = .error refusal) :
      Course schemes w past c
        (.ok (refusal.resolution id c.uaid), .consulted (.txt (host home)) (.ok records) :: past)
  /-- A record is taken. -/
  | taken {home : String} {records : List String} {record : AgentRecord}
      (atHome : home? c.parsed = some home) (answered : w past (.txt (host home)) = .ok records)
      (selected : select schemes home records = .ok record) :
      Course schemes w past c
        (.ok (found c.uaid record .none), .consulted (.txt (host home)) (.ok records) :: past)

/-- Where nobody looks, nothing is verified. -/
theorem level_of_nobody (record : AgentRecord) : level {} record = .none := by
  unfold level keyVerifier
  split <;> simp_all

/-- A record that nobody looks at is taken as it is. -/
theorem verified_of_nobody (uaid : String) (record : AgentRecord) :
    verified {} uaid record = pure (.ok (found uaid record .none)) := by
  rw [← level_of_nobody record]
  unfold verified keyVerifier
  split <;> rfl

/-- **The profile of endpoint records goes one of these ways.** -/
theorem course (schemes : SchemesConfig) :
    Course schemes w past c (((endpoint schemes).resolve c).run w perform past) := by
  show Course schemes w past c
    ((resolve schemes {} c >>= fun result => pure (settleRefusal id c.uaid result)).run w
      perform past)
  rw [Dialogue.run_bind_pure]
  unfold resolve
  cases atHome : home? c.parsed with
  | none => exact .notAsked rfl atHome
  | some home =>
      simp only [Dialogue.txt, Dialogue.run_bind, Dialogue.run_consult, Dialogue.run_outcome]
      cases answered : w past (.txt (host home)) with
      | error fault => exact .unanswered atHome answered
      | ok records =>
          cases selected : select schemes home records with
          | error refusal =>
              simp only [selected]
              exact .unselected atHome answered selected
          | ok record =>
              simp only [selected, verified_of_nobody, Dialogue.run_pure]
              exact .taken atHome answered selected

end Endpoint

/-! ### Documents -/

namespace BaseDid

/-- How finding an agent by its DID can go. -/
inductive Course (perform : (d : Delegation) → Run d.Answer) (past : History) (c : Context) :
    Except Fault Resolution × History → Prop where
  /-- The profile is not for the identifier. -/
  | notAsked {refusal : Refusal} (code : refusal.code = .notApplicable)
      (target : c.parsed.target ≠ .did) :
      Course perform past c (.ok (refusal.resolution id c.uaid), past)
  /-- The identifier leads to no DID. -/
  | undetermined {refusal : Refusal} (target : c.parsed.target = .did)
      (undetermined : did? c = none) :
      Course perform past c (.ok (refusal.resolution id c.uaid), past)
  /-- The document is known already. -/
  | known {did : String} {document : DidDocument} (target : c.parsed.target = .did)
      (leads : did? c = some did) (kept : c.document.filter (·.id == did) = some document) :
      Course perform past c
        (.ok (settleRefusal id c.uaid (evaluate c did (some document))), past)
  /-- The document cannot be asked for. -/
  | unanswered {did : String} {fault : Fault} {later : History}
      (target : c.parsed.target = .did) (leads : did? c = some did)
      (asked : perform (.did did) past = (.error fault, later)) :
      Course perform past c (.error fault, later)
  /-- The document is asked for. -/
  | answered {did : String} {document? : Option DidDocument} {later : History}
      (target : c.parsed.target = .did) (leads : did? c = some did)
      (asked : perform (.did did) past = (.ok document?, later)) :
      Course perform past c
        (.ok (settleRefusal id c.uaid (evaluate c did document?)), later)

/-- **The profile of documents goes one of these ways.** -/
theorem course : Course perform past c ((baseDid.resolve c).run w perform past) := by
  show Course perform past c
    ((resolve c >>= fun result => pure (settleRefusal id c.uaid result)).run w perform past)
  rw [Dialogue.run_bind_pure]
  unfold resolve
  by_cases target : c.parsed.target = .did
  · rw [if_neg (not_not_intro target)]
    cases leads : did? c with
    | none => exact .undetermined target leads
    | some did =>
        simp only [Dialogue.run_bind_pure]
        unfold document
        cases kept : c.document.filter (·.id == did) with
        | some document => exact .known target leads kept
        | none =>
            simp only [Dialogue.did, Dialogue.run_delegate, Dialogue.run_outcome]
            rcases asked : perform (.did did) past with ⟨reply, later⟩
            cases reply with
            | error fault => exact .unanswered target leads asked
            | ok document? => exact .answered target leads asked
  · rw [if_pos target]
    exact .notAsked rfl target

end BaseDid

/-! ### Bindings -/

namespace DnsBinding

/-- How finding an agent by a binding can go. -/
inductive Course (config : DnsBindingConfig) (w : World)
    (perform : (d : Delegation) → Run d.Answer) (past : History) (c : Context) :
    Except Fault Resolution × History → Prop where
  /-- The profile is not for the identifier. -/
  | notAsked {refusal : Refusal} (code : refusal.code = .notApplicable)
      (homeless : c.parsed.home? = none) :
      Course config w perform past c (.ok (refusal.resolution id c.uaid), past)
  /-- The host cannot be asked for its records. -/
  | unanswered {home : String} {fault : Fault} (atHome : c.parsed.home? = some home)
      (answered : w past (.txt (host home)) = .error fault) :
      Course config w perform past c
        (.error fault, .consulted (.txt (host home)) (.error fault) :: past)
  /-- No record binds the identifier. -/
  | unbound {home : String} {records : List String} {refusal : Refusal}
      (atHome : c.parsed.home? = some home) (answered : w past (.txt (host home)) = .ok records)
      (selected : select c.parsed home records = .error refusal) :
      Course config w perform past c
        (.ok (refusal.resolution id c.uaid), .consulted (.txt (host home)) (.ok records) :: past)
  /-- A record binds the identifier, and going on from there comes to an end. -/
  | bound {home : String} {records : List String} {binding : Binding} {ending : Followup}
      {later : History} (atHome : c.parsed.home? = some home)
      (answered : w past (.txt (host home)) = .ok records)
      (selected : select c.parsed home records = .ok binding)
      (followed : (follow c.uaid .noneApplied
        (if config.enableFollowup then followups c.parsed else [])).run w perform
        (.consulted (.txt (host home)) (.ok records) :: past) = (.ok ending, later)) :
      Course config w perform past c
        (.ok (settleRefusal id c.uaid (conclude config c binding ending)), later)

/-- **The profile of bindings goes one of these ways.** -/
theorem course (config : DnsBindingConfig) :
    Course config w perform past c (((dnsBinding config).resolve c).run w perform past) := by
  show Course config w perform past c
    ((resolve config c >>= fun result => pure (settleRefusal id c.uaid result)).run w perform past)
  rw [Dialogue.run_bind_pure]
  unfold resolve
  cases atHome : c.parsed.home? with
  | none => exact .notAsked rfl atHome
  | some home =>
      simp only [Dialogue.txt, Dialogue.run_bind, Dialogue.run_consult, Dialogue.run_outcome]
      cases answered : w past (.txt (host home)) with
      | error fault => exact .unanswered atHome answered
      | ok records =>
          cases selected : select c.parsed home records with
          | error refusal =>
              simp only [selected]
              exact .unbound atHome answered selected
          | ok binding =>
              obtain ⟨-, -, ending, later, followed, -⟩ := run_follow w perform c.uaid
                .noneApplied (if config.enableFollowup then followups c.parsed else [])
                (.consulted (.txt (host home)) (.ok records) :: past)
              simp only [selected, Dialogue.run_bind_pure, followed]
              exact .bound atHome answered selected followed

end DnsBinding

end AgentId.Profile
