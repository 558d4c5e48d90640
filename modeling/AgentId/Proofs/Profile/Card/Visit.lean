/-
How the profile of agent cards comes to a card.

All that is decided about an agent is decided from its card and from the record that led
to the card.  `Visit` says how the profile comes to have both: by what it asks for, by the
records of the host and by the page at the place that one of them names.  Once it has them
it asks nothing more (`run_of_visit`), and without them it resolves nothing
(`exists_visit`).
-/
import AgentId.Profile.Card
import AgentId.Proofs.Profile.Refusal

namespace AgentId.Profile.Card

/-! ### What is asked for -/

theorem home_of_home? {u : Uaid} {home : String} (h : home? u = some home) :
    u.home? = some home := by
  unfold home? at h
  split at h
  · exact h
  · cases h

/-- **What is asked for is what the identifier says.** -/
theorem request_eq_ok_iff {u : Uaid} {q : Request} :
    request u = .ok q ↔
      home? u = some q.home ∧ u.param? Uaid.Key.uid = some q.uid ∧ q.uid ≠ "0" ∧
        u.param? Uaid.Key.proto = some q.proto ∧ requestedVersion u = .ok q.version := by
  have hgiven : (u.param? Uaid.Key.uid).filter (· ≠ "0") = some q.uid ↔
      u.param? Uaid.Key.uid = some q.uid ∧ q.uid ≠ "0" := by
    rw [Option.filter_eq_some_iff, decide_eq_true_iff]
  rw [← and_assoc (a := u.param? Uaid.Key.uid = some q.uid), ← hgiven]
  unfold request
  clear hgiven
  constructor
  · intro h
    split at h
    · rename_i home hhome
      split at h
      · rename_i uid huid
        split at h
        · rename_i proto hproto
          cases hversion : requestedVersion u with
          | error refusal => rw [hversion] at h; cases h
          | ok version =>
              rw [hversion] at h
              obtain rfl := Except.ok.inj h
              exact ⟨hhome, huid, hproto, rfl⟩
        · cases h
      · cases h
    · cases h
  · rintro ⟨hhome, huid, hproto, hversion⟩
    simp only [hhome, huid, hproto, hversion]
    rfl

/-! ### The card -/

theorem received_eq_ok_iff {record : CardRecord} {response : HttpResponse} {card : AgentCard} :
    received record response = .ok card ↔
      200 ≤ response.status ∧ response.status < 300 ∧
        AgentCard.ofOctets? response.body = some card := by
  have hstatus : response.isSuccess = true ↔ 200 ≤ response.status ∧ response.status < 300 := by
    simp [HttpResponse.isSuccess]
  rw [← and_assoc, ← hstatus]
  unfold received
  cases response.isSuccess with
  | false => simp
  | true => cases AgentCard.ofOctets? response.body <;> simp

/-- The profile has asked the host for its records, taken one of them and read the card at
the place that it names. -/
structure Visit (w : World) (past : History) (c : Context) (q : Request) (record : CardRecord)
    (card : AgentCard) : Prop where
  asks : request c.parsed = .ok q
  reads : ∃ records response,
    w past (.txt ("_ans." ++ q.home)) = .ok records ∧
    select q records = .ok record ∧
    w (.consulted (.txt ("_ans." ++ q.home)) (.ok records) :: past) (.http record.url) =
      .ok response ∧
    200 ≤ response.status ∧ response.status < 300 ∧
    AgentCard.ofOctets? response.body = some card

/-- What the profile makes of a card. -/
def judge (schemes : SchemesConfig) (uaid : String) (q : Request) (record : CardRecord)
    (card : AgentCard) : Except Refusal Resolution := do
  checkName q record card
  let (name, url) ← endpoint schemes q record card
  return found uaid q record name url

section
variable {schemes : SchemesConfig} {w : World} {perform : (d : Delegation) → Run d.Answer}
variable {past : History} {c : Context} {q : Request} {record : CardRecord} {card : AgentCard}

theorem evaluate_of_received {uaid : String} {response : HttpResponse}
    (h : received record response = .ok card) :
    evaluate schemes uaid q record response = judge schemes uaid q record card := by
  unfold evaluate
  rw [h]
  rfl

theorem judge_eq_ok_iff {uaid : String} {result : Resolution} :
    judge schemes uaid q record card = .ok result ↔
      checkName q record card = .ok () ∧ ∃ name url,
        endpoint schemes q record card = .ok (name, url) ∧
          result = found uaid q record name url := by
  unfold judge
  cases hname : checkName q record card with
  | error refusal => simp [bind, Except.bind]
  | ok _ =>
      cases hendpoint : endpoint schemes q record card with
      | error refusal => simp [bind, Except.bind]
      | ok e =>
          obtain ⟨name, url⟩ := e
          simp only [bind, Except.bind, pure, Except.pure, Except.ok.injEq, Prod.mk.injEq,
            true_and]
          constructor
          · rintro rfl
            exact ⟨name, url, ⟨rfl, rfl⟩, rfl⟩
          · rintro ⟨_, _, ⟨rfl, rfl⟩, rfl⟩
            rfl

/-- Where nothing can be asked for nobody is asked. -/
theorem run_of_refused {refusal : Refusal} (refused : request c.parsed = .error refusal) :
    ((Profile.card schemes).resolve c).run w perform past =
      (.ok (refusal.resolution id c.uaid), past) := by
  show (resolve schemes c >>= fun result => pure (settleRefusal id c.uaid result)).run w
    perform past = _
  unfold resolve
  rw [refused]
  rfl

/-- Where the host cannot be asked, nobody else is. -/
theorem run_of_unanswered {q : Request} {fault : Fault} (asks : request c.parsed = .ok q)
    (answered : w past (.txt (host q.home)) = .error fault) :
    ((Profile.card schemes).resolve c).run w perform past =
      (.error fault, .consulted (.txt (host q.home)) (.error fault) :: past) := by
  show (resolve schemes c >>= fun result => pure (settleRefusal id c.uaid result)).run w
    perform past = _
  unfold resolve
  simp only [asks, Dialogue.txt, Dialogue.run_bind, Dialogue.run_consult, answered,
    Dialogue.run_outcome]

/-- With the records of the host, what is left is to fetch the page that one of them names. -/
theorem run_of_listed {q : Request} {records : List String} (asks : request c.parsed = .ok q)
    (listed : w past (.txt (host q.home)) = .ok records) :
    ((Profile.card schemes).resolve c).run w perform past =
      let later := .consulted (.txt (host q.home)) (.ok records) :: past
      match select q records with
      | .error refusal => (.ok (refusal.resolution id c.uaid), later)
      | .ok record =>
        ((w later (.http record.url)).map fun response =>
            settleRefusal id c.uaid (evaluate schemes c.uaid q record response),
          .consulted (.http record.url) (w later (.http record.url)) :: later) := by
  show (resolve schemes c >>= fun result => pure (settleRefusal id c.uaid result)).run w
    perform past = _
  rw [Dialogue.run_bind_pure]
  unfold resolve
  simp only [asks, Dialogue.txt, Dialogue.run_bind, Dialogue.run_consult, listed,
    Dialogue.run_outcome]
  cases select q records with
  | error refusal => rfl
  | ok record =>
      simp only [Dialogue.http, Dialogue.run_bind, Dialogue.run_consult, Dialogue.run_outcome]
      cases w (.consulted (.txt (host q.home)) (.ok records) :: past) (.http record.url) <;> rfl

/-- **With the card the answer is settled.** -/
theorem run_of_visit (v : Visit w past c q record card) :
    (((Profile.card schemes).resolve c).run w perform past).1 =
      .ok (settleRefusal id c.uaid (judge schemes c.uaid q record card)) := by
  obtain ⟨records, response, hrecords, hselect, hresponse, hpage⟩ := v.reads
  have hserved : w (.consulted (.txt (host q.home)) (.ok records) :: past) (.http record.url) =
      .ok response := hresponse
  rw [run_of_listed v.asks hrecords]
  simp only [hselect, hserved, Except.map, evaluate_of_received (received_eq_ok_iff.mpr hpage)]

/-- Once the name has passed, the answer is settled by the endpoint. -/
theorem run_of_named (v : Visit w past c q record card) (h : checkName q record card = .ok ()) :
    (((Profile.card schemes).resolve c).run w perform past).1 =
      .ok (settleRefusal id c.uaid ((endpoint schemes q record card).map fun e =>
        found c.uaid q record e.1 e.2)) := by
  rw [run_of_visit v]
  unfold judge
  rw [h]
  cases endpoint schemes q record card <;> rfl

/-- **Without a card nothing is resolved.** -/
theorem exists_visit {result : Resolution}
    (h : (((Profile.card schemes).resolve c).run w perform past).1 = .ok result)
    (resolved : result.isResolved) :
    ∃ q record card, Visit w past c q record card ∧
      judge schemes c.uaid q record card = .ok result := by
  cases asks : request c.parsed with
  | error refusal =>
      rw [run_of_refused asks] at h
      exact absurd (Except.ok.inj h) (resolution_ne_of_resolved resolved refusal)
  | ok q =>
      cases hrecords : w past (.txt (host q.home)) with
      | error fault =>
          rw [run_of_unanswered asks hrecords] at h
          cases h
      | ok records =>
          rw [run_of_listed asks hrecords] at h
          cases hselect : select q records with
          | error refusal =>
              simp only [hselect] at h
              exact absurd (Except.ok.inj h) (resolution_ne_of_resolved resolved refusal)
          | ok record =>
              simp only [hselect] at h
              cases hresponse : w (.consulted (.txt (host q.home)) (.ok records) :: past)
                  (.http record.url) with
              | error fault =>
                  rw [hresponse] at h
                  cases h
              | ok response =>
                  rw [hresponse] at h
                  have hevaluate := ok_of_settled (Except.ok.inj h) resolved
                  cases hcard : received record response with
                  | error refusal => simp [evaluate, hcard, bind, Except.bind] at hevaluate
                  | ok card =>
                      rw [evaluate_of_received hcard] at hevaluate
                      have hpage := received_eq_ok_iff.mp hcard
                      exact ⟨q, record, card,
                        ⟨asks, records, response, hrecords, hselect, hresponse, hpage⟩, hevaluate⟩

end

end AgentId.Profile.Card
