/-
What a caller can rely on when a profile is asked for.

A profile that is asked for by name breaks down only when somebody broke down who was asked on
the way, and with the same fault; the profile of bindings keeps all of these to itself but its
own question for the records of the host.  Otherwise there is an answer, for the identifier
and by the profile, and it is decided.  An identifier that the profile is not for is turned
away, and nobody is asked about it.

The profiles account for their outcomes by themselves.  What is left here is the registry:
what it answers without any profile, what it adds to an answer, and that the history of a
profile is a part of its own.
-/
import AgentId.Proofs.Profile.Account
import AgentId.Proofs.Resolution.Followup

namespace AgentId

/-- What was answered was an answer. -/
theorem Accounts.answersFor {uaid profile : String} {past : History} {x : Resolution}
    {run : Except Fault Resolution × History} (h : Accounts uaid profile past run)
    (answered : run.1 = .ok x) : x.AnswersFor uaid profile := by
  cases h with
  | reported told => cases answered
  | answered answers =>
      obtain rfl := Except.ok.inj answered
      exact answers

namespace Registry

open Profile

/-! ### What the registry adds -/

section
variable {r : Registry} {w : World} {p : Profile} {place : Nat} {uaid id : String}
variable {above : List String}

/-- A DID resolver that breaks down reports it. -/
theorem resolveDid_fault {did : String} {fault : Fault} {past later : History}
    (h : r.resolveDid did past = (.error fault, later)) :
    ∃ e, later = e :: past ∧ e.fault? = some fault := by
  unfold resolveDid at h
  split at h
  · cases h
  · obtain ⟨hreply, rfl⟩ := Prod.mk.inj h
    refine ⟨_, rfl, ?_⟩
    simp only [hreply]
    rfl

/-- **The registry accounts for what a profile comes to**, if the profile does. -/
theorem delegated_accounts (registered : r.profile? id = some (p, place)) (new : id ∉ above)
    (accounts : ∀ c past, c.uaid = uaid →
      Accounts uaid id past ((p.resolve c).run w (r.perform w (id :: above)) past))
    (past : History) : Accounts uaid id past (r.delegated w above uaid id past) := by
  cases hparse : Uaid.parse uaid with
  | error fault =>
      unfold delegated
      rw [knowing_of_error hparse]
      exact .answered (Resolution.answersFor_refused _ _ _ _ _)
  | ok parsed =>
      rw [delegated_of_profile?_eq_some hparse new registered]
      obtain ⟨looked, hlooked, -⟩ := documentOf_quiet r parsed.baseDid? past
      have hrun := accounts (r.contextOf uaid parsed past) (.invoked place id above
        (r.contextOf uaid parsed past) :: (r.documentOf parsed.baseDid? past).2) rfl
      simp only
      generalize (p.resolve _).run w _ _ = run at hrun ⊢
      cases hrun with
      | answered answers => exact .answered (answers.settled _)
      | @reported fault events told =>
          obtain ⟨e, he, hfault⟩ := told
          have hevents : events ++ .invoked place id above (r.contextOf uaid parsed past) ::
              (r.documentOf parsed.baseDid? past).2 =
              (events ++ .invoked place id above (r.contextOf uaid parsed past) :: looked) ++
                past := by
            rw [hlooked, List.append_assoc, List.cons_append]
          rw [hevents]
          exact .reported ⟨e, List.mem_append_left _ he, hfault⟩

end

/-! ### The standard registry -/

section
variable {config : Config} {r : Registry} {w : World} {uaid id : String}

/-- The profiles that work on their own account for what they come to, whomever they work
for. -/
theorem solitary_accounts (h : r.profiles = (standard config).profiles)
    (hid : id ∈ [Card.id, Endpoint.id, BaseDid.id]) {above : List String} (new : id ∉ above)
    (past : History) : Accounts uaid id past (r.delegated w above uaid id past) := by
  simp only [List.mem_cons, List.not_mem_nil, or_false] at hid
  rcases hid with rfl | rfl | rfl
  · refine delegated_accounts (profile?_card h) new (fun c past hc => ?_) past
    exact hc ▸ (Card.course _).accounts
  · refine delegated_accounts (profile?_endpoint h) new (fun c past hc => ?_) past
    exact hc ▸ (Endpoint.course _).accounts
  · refine delegated_accounts (profile?_baseDid h) new (fun c past hc => ?_) past
    exact hc ▸ BaseDid.course.accounts fun _ _ _ hasked => resolveDid_fault hasked

/-- **Every profile of the standard registry accounts for what it comes to.** -/
theorem resolveWith_accounts (h : r.profiles = (standard config).profiles)
    (hid : id ∈ standardIds) (past : History) :
    Accounts uaid id past (r.resolveWith w uaid id past) := by
  rcases List.mem_cons.mp hid with rfl | hsolitary
  · refine delegated_accounts (profile?_dnsBinding h) List.not_mem_nil (fun c past hc => ?_) past
    subst hc
    refine (DnsBinding.course _).accounts fun profile hprofile asked x hx => ?_
    have hother : profile ∉ [DnsBinding.id] := by
      intro hsame
      exact (exists_of_mem_followups h hprofile).1 (List.mem_singleton.mp hsame)
    have haccounts : Accounts c.uaid profile asked
        (r.delegated w [DnsBinding.id] c.uaid profile asked) :=
      solitary_accounts h (mem_of_mem_followups hprofile) hother asked
    exact (haccounts.answersFor hx).id
  · exact solitary_accounts h hsolitary List.not_mem_nil past

/-- **The profile of bindings breaks down only at its own question**, which is the last thing
that happens then. -/
theorem resolveWith_fault_dnsBinding (h : r.profiles = (standard config).profiles) {fault : Fault}
    {past later : History}
    (broke : r.resolveWith w uaid DnsBinding.id past = (.error fault, later)) :
    ∃ parsed home c looked, Uaid.parse uaid = .ok parsed ∧ parsed.home? = some home ∧
      later = (.consulted (.txt ("_uaid." ++ home)) (.error fault) ::
        .invoked 0 DnsBinding.id [] c :: looked) ++ past := by
  change r.delegated w [] uaid DnsBinding.id past = _ at broke
  cases hparse : Uaid.parse uaid with
  | error reason =>
      unfold delegated at broke
      rw [knowing_of_error hparse] at broke
      cases broke
  | ok parsed =>
      rw [delegated_of_profile?_eq_some hparse List.not_mem_nil (profile?_dnsBinding h)] at broke
      obtain ⟨hreply, rfl⟩ := Prod.mk.inj broke
      obtain ⟨looked, hlooked, -⟩ := documentOf_quiet r parsed.baseDid? past
      have hfault : ∀ reply : Except Fault Resolution,
          reply.map (Resolution.settled (r.contextOf uaid parsed past)) = .error fault →
          reply = .error fault := by
        intro reply hmap
        cases reply with
        | error other => exact congrArg Except.error (Except.error.inj hmap)
        | ok x => cases hmap
      obtain ⟨home, hhome, hasked⟩ := (DnsBinding.course _).fault (hfault _ hreply)
      refine ⟨parsed, home, r.contextOf uaid parsed past, looked, rfl, hhome, ?_⟩
      rw [hasked, hlooked]
      rfl

/-- The profile of a name, which turns away what it is not for. -/
theorem exists_profile? (h : r.profiles = (standard config).profiles) (hid : id ∈ standardIds) :
    ∃ p place, r.profile? id = some (p, place) ∧ p.Declines := by
  simp only [standardIds, List.mem_cons, List.not_mem_nil, or_false] at hid
  rcases hid with rfl | rfl | rfl | rfl
  · exact ⟨_, _, profile?_dnsBinding h, declines_dnsBinding _⟩
  · exact ⟨_, _, profile?_card h, declines_card _⟩
  · exact ⟨_, _, profile?_endpoint h, declines_endpoint _ _⟩
  · exact ⟨_, _, profile?_baseDid h, declines_baseDid⟩

/-- Nobody is asked by a profile that is not for the identifier. -/
theorem resolveWith_of_declines {p : Profile} {place : Nat}
    (registered : r.profile? id = some (p, place)) (declines : p.Declines) {parsed : Uaid}
    (hparse : Uaid.parse uaid = .ok parsed) (unsupported : p.supports uaid parsed = false)
    (past : History) :
    ∃ x, r.resolveWith w uaid id past = (.ok x, .invoked place id []
        (r.contextOf uaid parsed past) :: (r.documentOf parsed.baseDid? past).2) ∧
      x.code? = some .notApplicable := by
  obtain ⟨x, hresolve, hcode⟩ := declines (r.contextOf uaid parsed past) unsupported
  refine ⟨Resolution.settled (r.contextOf uaid parsed past) x, ?_, ?_⟩
  · show r.delegated w [] uaid id past = _
    rw [delegated_of_profile?_eq_some hparse List.not_mem_nil registered]
    simp only [hresolve, Dialogue.run_pure]
    rfl
  · unfold Resolution.settled
    split
    · exact hcode
    · exact hcode

end

/--
**A profile that is asked for breaks down or answers, and accounts for either.**  Take the
standard registry with any DID resolvers besides, any text for an identifier and one of the four
profiles, whatever those do who are consulted.

* If the outcome is a fault, somebody reported this very fault meanwhile.  For the profile of
  bindings it was the answer to its own question for the records of the host.
* Otherwise there is an answer.  It has the text for its identifier and the name of the profile,
  and either the agent was found and there is no failure, or it was not and there is a code.
* An identifier that the profile does not support does not apply, and once the profile is at
  work nothing more happens.
-/
theorem resolveWith_accounted (config : Config) (extra : List DidResolver) (w : World)
    (uaid : String) {id : String} (builtIn : id ∈ standardIds) (past : History) :
    let r := extra.foldl addDidResolver (standard config)
    let outcome := r.resolveWith w uaid id past
    ((∃ fault events, outcome = (.error fault, events ++ past) ∧
        (∃ e ∈ events, e.fault? = some fault) ∧
        (id = DnsBinding.id → ∃ parsed home c looked, Uaid.parse uaid = .ok parsed ∧
          parsed.home? = some home ∧
          events = .consulted (.txt ("_uaid." ++ home)) (.error fault) ::
            .invoked 0 id [] c :: looked)) ∨
      ∃ x, outcome.1 = .ok x ∧ x.AnswersFor uaid id) ∧
    ∃ p place, r.profile? id = some (p, place) ∧
      ∀ parsed, Uaid.parse uaid = .ok parsed → p.supports uaid parsed = false →
        ∃ x, outcome = (.ok x, .invoked place id [] (r.contextOf uaid parsed past) ::
            (r.documentOf parsed.baseDid? past).2) ∧
          x.code? = some .notApplicable := by
  intro r outcome
  have hprofiles : r.profiles = (standard config).profiles :=
    profiles_addDidResolver (standard config) extra
  obtain ⟨p, place, hregistered, hdeclines⟩ := exists_profile? hprofiles builtIn
  refine ⟨?_, p, place, hregistered, fun parsed hparse hunsupported =>
    resolveWith_of_declines hregistered hdeclines hparse hunsupported past⟩
  have haccounts : Accounts uaid id past outcome := resolveWith_accounts hprofiles builtIn past
  generalize houtcome : outcome = result at haccounts
  cases haccounts with
  | answered answers => exact Or.inr ⟨_, rfl, answers⟩
  | @reported fault events told =>
      refine Or.inl ⟨fault, events, rfl, told, ?_⟩
      rintro rfl
      obtain ⟨parsed, home, c, looked, hparse, hhome, hlater⟩ :=
        resolveWith_fault_dnsBinding hprofiles houtcome
      exact ⟨parsed, home, c, looked, hparse, hhome, List.append_cancel_right hlater⟩

/-- Nobody answers. -/
def deadWorld : World := fun _ c =>
  match c with
  | .txt _ => .error (.dns "timeout")
  | .http _ => .error (.http "no route")
  | .verify .. => .error (.verification "no verifier")

/-- The host of an agent cannot be asked for its bindings, and this is what comes of it. -/
theorem resolveWith_accounted_deadWorld :
    let outcome := (standard {}).resolveWith deadWorld "uaid:aid:abc;nativeId=a.example"
      DnsBinding.id []
    DnsBinding.id ∈ standardIds ∧
      ∃ fault c, outcome = (.error fault,
        [.consulted (.txt "_uaid.a.example") (.error fault), .invoked 0 DnsBinding.id [] c]) := by
  intro outcome
  have hmem : DnsBinding.id ∈ standardIds := List.mem_cons_self
  have hlength : outcome.2.length = 2 := by decide +kernel
  have hbroke : outcome.1.toOption.isNone = true := by decide +kernel
  have hhome : (Uaid.parse "uaid:aid:abc;nativeId=a.example").toOption.bind Uaid.home? =
      some "a.example" := by decide +kernel
  rcases resolveWith_accounted {} [] deadWorld "uaid:aid:abc;nativeId=a.example" hmem [] with
    ⟨⟨fault, events, houtcome, -, hown⟩ | ⟨x, hx, -⟩, -⟩
  · obtain ⟨parsed, home, c, looked, hparse, hat, rfl⟩ := hown rfl
    rw [hparse] at hhome
    obtain rfl : home = "a.example" := Option.some.inj (hat.symm.trans hhome)
    change outcome = _ at houtcome
    rw [houtcome] at hlength
    obtain rfl : looked = [] := by simpa using hlength
    exact ⟨hmem, fault, c, houtcome⟩
  · change outcome.1 = _ at hx
    rw [hx] at hbroke
    cases hbroke

end Registry

end AgentId
