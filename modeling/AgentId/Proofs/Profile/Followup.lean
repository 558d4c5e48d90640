/-
Going on from a binding adds nothing to what is found.

The profile of bindings hands the identifier to another profile and answers with what that
one found.  It adds how it came to it and, where no DID was found, the DID that the record
or the identifier names.  `exists_followup` takes such an answer apart again.

The profiles that it goes on with work on their own (`Solitary`): whoever they work for,
they delegate to no other profile.  And none of them leaves it to the binding to say which
DID the agent has.  For a DID the document says it (`did_of_resolved`), and for a digest the
record has no DID to say (`target_of_select`).
-/
import AgentId.Proofs.Profile.BaseDid
import AgentId.Proofs.Profile.Course
import AgentId.Proofs.Resolution.Fallback

namespace AgentId.Profile

open Dialogue

/-! ### Profiles that work on their own -/

/-- A profile that never delegates to another profile. -/
def Solitary (p : Profile) : Prop :=
  ∀ c uaid id, ¬ (p.resolve c).MayDelegate (.profile uaid id)

theorem solitary_card (schemes : SchemesConfig) : (card schemes).Solitary := by
  intro c uaid id
  refine not_mayDelegate_bind ?_ fun _ => not_mayDelegate_outcome
  unfold Card.resolve
  cases Card.request c.parsed with
  | error refusal => exact not_mayDelegate_outcome
  | ok q =>
      refine not_mayDelegate_bind not_mayDelegate_question ?_
      intro records
      cases Card.select q records with
      | error refusal => exact not_mayDelegate_outcome
      | ok record =>
          exact not_mayDelegate_bind not_mayDelegate_question fun _ => not_mayDelegate_outcome

theorem not_mayDelegate_approves {verifier : Option String} {stage : VerificationStage}
    {uaid : String} {record : AgentRecord} {d : Delegation} :
    ¬ (Endpoint.approves verifier stage uaid record).MayDelegate d := by
  cases verifier with
  | none => exact not_mayDelegate_outcome
  | some name => exact not_mayDelegate_question

theorem solitary_endpoint (schemes : SchemesConfig) (v : Endpoint.Verifiers) :
    (endpoint schemes v).Solitary := by
  intro c uaid id
  refine not_mayDelegate_bind ?_ fun _ => not_mayDelegate_outcome
  unfold Endpoint.resolve
  cases Endpoint.home? c.parsed with
  | none => exact not_mayDelegate_outcome
  | some home =>
      refine not_mayDelegate_bind not_mayDelegate_question ?_
      intro records
      cases Endpoint.select schemes home records with
      | error refusal => exact not_mayDelegate_outcome
      | ok record =>
          refine not_mayDelegate_bind not_mayDelegate_approves ?_
          intro approved
          cases approved with
          | false => exact not_mayDelegate_outcome
          | true =>
              refine not_mayDelegate_bind not_mayDelegate_approves ?_
              intro approved
              cases approved with
              | false => exact not_mayDelegate_outcome
              | true => exact not_mayDelegate_outcome

theorem solitary_baseDid : baseDid.Solitary := by
  intro c uaid id
  refine not_mayDelegate_bind ?_ fun _ => not_mayDelegate_outcome
  unfold BaseDid.resolve
  split
  · exact not_mayDelegate_outcome
  · cases BaseDid.did? c with
    | none => exact not_mayDelegate_outcome
    | some did =>
        refine not_mayDelegate_bind ?_ fun _ => not_mayDelegate_outcome
        unfold BaseDid.document
        intro hmay
        cases hknown : c.document.filter (·.id == did) with
        | some document =>
            rw [hknown] at hmay
            exact not_mayDelegate_outcome hmay
        | none =>
            rw [hknown] at hmay
            cases hmay with
            | delegate later => exact not_mayDelegate_outcome later

/-! ### The DID of the agent -/

/-- Only for a DID does a record that binds say which one the agent has. -/
theorem DnsBinding.target_of_select {s home : String} {u : Uaid} {records : List String}
    {b : Binding} (parsed : Uaid.parse s = .ok u) (h : DnsBinding.select u home records = .ok b)
    {did : String} (hdid : b.did = some did) : u.target = .did := by
  obtain ⟨record, -, hb, htext⟩ := DnsBinding.of_select_eq_ok h
  have hbinds := (Binding.exists_binding_iff parsed).mp ⟨b, hb, htext⟩
  obtain ⟨spelled, spells⟩ := Binding.ofText?_eq_some_iff.mp hb
  have hfield := (Binding.did?_eq_some_iff.mp spells.did).1
  exact (hbinds.did did (hfield.trans hdid)).2

/-- An agent that is found by a document has the DID of the document. -/
theorem BaseDid.did_of_resolved {w : World} {perform : (d : Delegation) → Run d.Answer}
    {past : History} {c : Context} {result : Resolution}
    (h : ((baseDid.resolve c).run w perform past).1 = .ok result) (resolved : result.isResolved) :
    result.did.isSome := by
  have hwork : ((BaseDid.resolve c).run w perform past).1 = .ok (.ok result) :=
    found_of_settled h (resolution_ne_of_resolved resolved)
  unfold BaseDid.resolve at hwork
  split at hwork
  · cases hwork
  · cases hdid : BaseDid.did? c with
    | none => simp [hdid] at hwork
    | some did =>
        simp only [hdid, Dialogue.run_bind_pure] at hwork
        cases hdocument : ((BaseDid.document c did).run w perform past).1 with
        | error fault => simp [hdocument, Except.map] at hwork
        | ok found =>
            rw [hdocument] at hwork
            obtain ⟨document, -, rfl⟩ := BaseDid.of_evaluate_eq_ok (Except.ok.inj hwork)
            rfl

/-! ### An answer that was found by going on -/

namespace DnsBinding

/-- Whether or not it goes on, it goes on with no other profiles. -/
theorem mem_followups_of_enabled {config : DnsBindingConfig} {u : Uaid} {profile : String}
    (h : profile ∈ (if config.enableFollowup then followups u else [])) :
    profile ∈ followups u := by
  split at h
  · exact h
  · cases h

section
variable {w : World} {perform : (d : Delegation) → Run d.Answer}

/-- Going on ends with a resolution only when one of the profiles found it. -/
theorem of_follow_resolved {uaid profile : String} {x : Resolution} {profiles : List String}
    {soFar : Followup} (undecided : soFar ≠ .resolved profile x) {past : History}
    (h : ((follow uaid soFar profiles).run w perform past).1 = .ok (.resolved profile x)) :
    profile ∈ profiles ∧
      ∃ asked, (perform (.profile uaid profile) asked).1 = .ok x ∧ x.isResolved := by
  induction profiles generalizing soFar past with
  | nil => exact absurd (Except.ok.inj h) undecided
  | cons first rest ih =>
      simp only [follow, Dialogue.attempt, Dialogue.run_bind, Dialogue.run_delegate,
        Dialogue.run_outcome] at h
      cases hreply : (perform (.profile uaid first) past).1.toOption.filter (·.isResolved) with
      | some found =>
          simp only [hreply] at h
          obtain ⟨rfl, rfl⟩ : first = profile ∧ found = x := by
            cases h
            exact ⟨rfl, rfl⟩
          obtain ⟨hfound, hresolved⟩ := filter_isResolved_eq_some_iff.mp hreply
          exact ⟨List.mem_cons_self, past, hfound, hresolved⟩
      | none =>
          simp only [hreply] at h
          cases hfailure : failure? (perform (.profile uaid first) past).1 with
          | some reason =>
              simp only [hfailure] at h
              obtain ⟨hmem, hasked⟩ := ih (by simp) h
              exact ⟨List.mem_cons_of_mem _ hmem, hasked⟩
          | none =>
              simp only [hfailure] at h
              obtain ⟨hmem, hasked⟩ := ih undecided h
              exact ⟨List.mem_cons_of_mem _ hmem, hasked⟩

/-- What is concluded is a full resolution only when a profile found it. -/
theorem of_conclude_eq_ok {config : DnsBindingConfig} {c : Context} {binding : Binding}
    {ending : Followup} {result : Resolution} (h : conclude config c binding ending = .ok result)
    (full : result.metadata.resolutionMode = some .fullResolution) :
    ∃ profile x, ending = .resolved profile x ∧
      result = adopt binding (binding.did <|> c.did) profile x := by
  cases ending with
  | resolved profile x => exact ⟨profile, x, rfl, (Except.ok.inj h).symm⟩
  | failed profile reason => cases h
  | noneApplied =>
      unfold conclude at h
      simp only at h
      split at h
      · cases h
      · obtain rfl := Except.ok.inj h
        cases full

/-- **A full resolution was found by going on from a binding.** -/
theorem exists_followup {config : DnsBindingConfig} {past : History} {c : Context}
    {result : Resolution}
    (h : (((dnsBinding config).resolve c).run w perform past).1 = .ok result)
    (full : result.metadata.resolutionMode = some .fullResolution) :
    ∃ home records binding profile x, select c.parsed home records = .ok binding ∧
      profile ∈ followups c.parsed ∧
      (∃ asked, (perform (.profile c.uaid profile) asked).1 = .ok x ∧ x.isResolved) ∧
      result = adopt binding (binding.did <|> c.did) profile x := by
  have hrefused : ∀ refusal : Refusal, refusal.resolution id c.uaid ≠ result := by
    rintro refusal rfl
    cases full
  have hcourse : Course config w perform past c
      (((dnsBinding config).resolve c).run w perform past) := course config
  generalize ((dnsBinding config).resolve c).run w perform past = run at h hcourse
  cases hcourse with
  | notAsked _ _ => exact absurd (Except.ok.inj h) (hrefused _)
  | unanswered _ _ => cases h
  | unbound _ _ _ => exact absurd (Except.ok.inj h) (hrefused _)
  | @bound home records binding ending later _ _ selected followed =>
      cases hconclude : conclude config c binding ending with
      | error refusal =>
          rw [hconclude] at h
          exact absurd (Except.ok.inj h) (hrefused refusal)
      | ok x =>
          rw [hconclude] at h
          obtain rfl : x = result := Except.ok.inj h
          obtain ⟨profile, found, rfl, hresult⟩ := of_conclude_eq_ok hconclude full
          obtain ⟨hmem, hasked⟩ := of_follow_resolved (by simp) (congrArg Prod.fst followed)
          exact ⟨home, records, binding, profile, found, selected, mem_followups_of_enabled hmem,
            hasked, hresult⟩

/-- An answer that needs no DID is what was found, but for how it was found. -/
theorem adopt_eq_relabelled {binding : Binding} {did : Option String} {profile : String}
    {x : Resolution} (h : (x.did <|> did) = x.did) :
    adopt binding did profile x =
      x.relabelled (some id) (some .fullResolution) (some profile) (some binding.text) := by
  unfold adopt
  rw [h]
  rfl

end

end DnsBinding

end AgentId.Profile
