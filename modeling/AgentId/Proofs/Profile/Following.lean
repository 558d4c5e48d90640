/-
Going on from a binding, profile by profile.

A binding is only the beginning.  Other profiles are asked in a fixed order what they find for
the identifier, and each of them may resolve it, fail or decline.  `Plan` says which profiles
these are, `Tried` how far their order is followed, and `Ends` how that ends: with the first
profile that resolves the identifier, or else with the last that failed, or else with none
that applied.  None of them looks at how the profiles are asked.  `Answers` says what is
answered at each end.

The answers that the profiles gave are read off the dialogue (`Dialogue.replies`), so nothing
is assumed of the profiles, of whoever else is consulted, or of the order in which they
answer.
-/
import AgentId.Proofs.Profile.DnsBinding
import AgentId.Proofs.Profile.Refusal

namespace AgentId

/-! ### What profiles are asked and answer -/

namespace Dialogue

variable {α β : Type} (w : World) (perform : (d : Delegation) → Run d.Answer)

/-- The profiles that a dialogue asks when it is done, in order, each with its answer. -/
def replies : Dialogue α → History → List (String × Except Fault Resolution)
  | .outcome _, _ => []
  | .consult c next, past => (next (w past c)).replies (.consulted c (w past c) :: past)
  | .delegate (.did did) next, past =>
    (next (perform (.did did) past).1).replies (perform (.did did) past).2
  | .delegate (.didProfile did) next, past =>
    (next (perform (.didProfile did) past).1).replies (perform (.didProfile did) past).2
  | .delegate (.profile uaid id) next, past =>
    (id, (perform (.profile uaid id) past).1) ::
      (next (perform (.profile uaid id) past).1).replies (perform (.profile uaid id) past).2

theorem replies_consult (c : Consultation) (next : Except Fault c.Answer → Dialogue α)
    (past : History) :
    (consult c next).replies w perform past =
      (next (w past c)).replies w perform (.consulted c (w past c) :: past) := rfl

theorem replies_profile (uaid id : String) (next : Except Fault Resolution → Dialogue α)
    (past : History) :
    (delegate (.profile uaid id) next).replies w perform past =
      (id, (perform (.profile uaid id) past).1) ::
        (next (perform (.profile uaid id) past).1).replies w perform
          (perform (.profile uaid id) past).2 := rfl

@[simp] theorem replies_outcome (result : Except Fault α) (past : History) :
    (outcome result).replies w perform past = [] := rfl

@[simp] theorem replies_pure (a : α) (past : History) :
    (pure a : Dialogue α).replies w perform past = [] := rfl

/-- The replies to a sequence are those to its parts, as far as it comes. -/
theorem replies_bind (first : Dialogue α) (next : α → Dialogue β) (past : History) :
    (first >>= next).replies w perform past =
      first.replies w perform past ++
        match first.run w perform past with
        | (.ok a, later) => (next a).replies w perform later
        | (.error _, _) => [] := by
  show (first.bind next).replies w perform past = _
  induction first generalizing past with
  | outcome result => cases result <;> rfl
  | consult c go ih => exact ih (w past c) _
  | delegate d go ih =>
      cases d with
      | did did => exact ih (perform (.did did) past).1 _
      | didProfile did => exact ih (perform (.didProfile did) past).1 _
      | profile uaid id =>
          exact congrArg ((id, (perform (.profile uaid id) past).1) :: ·)
            (ih (perform (.profile uaid id) past).1 _)

end Dialogue

namespace Profile.DnsBinding

/-! ### What an answer comes to -/

/-- A profile resolved the identifier. -/
def Resolves (reply : Except Fault Resolution) : Prop :=
  ∃ x, reply = .ok x ∧ x.isResolved

/-- A profile failed, and why: it broke down, or it did not resolve the identifier although
it is there and applies. -/
inductive Fails : Except Fault Resolution → String → Prop where
  | broke (fault : Fault) : Fails (.error fault) fault.message
  | refused {x : Resolution} {code : FailureCode} (unresolved : ¬ x.isResolved)
      (given : x.code? = some code) (present : code ≠ .profileNotFound)
      (applies : code ≠ .notApplicable) : Fails (.ok x) code.text
  | silent {x : Resolution} (unresolved : ¬ x.isResolved) (given : x.code? = none) :
      Fails (.ok x) "unresolved"

theorem resolves_iff {reply : Except Fault Resolution} :
    Resolves reply ↔ ∃ x, reply.toOption.filter (·.isResolved) = some x := by
  unfold Resolves
  simp only [filter_isResolved_eq_some_iff]

/-- **Profiles that do not resolve the identifier fail or decline.** -/
theorem failure?_eq_some_iff {reply : Except Fault Resolution} (unresolved : ¬ Resolves reply)
    {reason : String} : failure? reply = some reason ↔ Fails reply reason := by
  cases reply with
  | error fault =>
      constructor
      · intro h
        obtain rfl := Option.some.inj h
        exact .broke fault
      · rintro ⟨⟩
        rfl
  | ok x =>
      have hunresolved : ¬ x.isResolved := fun h => unresolved ⟨x, rfl, h⟩
      unfold failure?
      constructor
      · intro h
        cases hcode : x.code? with
        | none =>
            simp only [hcode] at h
            obtain rfl := Option.some.inj h
            exact .silent hunresolved hcode
        | some code =>
            simp only [hcode] at h
            split at h
            · cases h
            · cases h
            · rename_i other present applies heq
              obtain rfl := Option.some.inj heq
              obtain rfl := Option.some.inj h
              exact .refused hunresolved hcode (fun hsame => present (by rw [hsame]))
                (fun hsame => applies (by rw [hsame]))
            · rename_i heq
              cases heq
      · intro h
        cases h with
        | silent _ given => simp only [given]
        | @refused _ code _ given present applies =>
            simp only [given]

/-! ### In order, until one resolves the identifier -/

/-- These profiles are asked one after the other, until one resolves the identifier. -/
inductive Tried : List String → List (String × Except Fault Resolution) → Prop where
  | all : Tried [] []
  | resolved {profile : String} {rest : List String} {x : Resolution} (resolved : x.isResolved) :
      Tried (profile :: rest) [(profile, .ok x)]
  | next {profile : String} {rest : List String} {reply : Except Fault Resolution}
      {asked : List (String × Except Fault Resolution)} (unresolved : ¬ Resolves reply)
      (later : Tried rest asked) : Tried (profile :: rest) ((profile, reply) :: asked)

/-- How going on ends, by what the profiles answered: with one that resolved the identifier,
or else with the last that failed, or else as it stood before. -/
inductive Ends (soFar : Followup) (asked : List (String × Except Fault Resolution)) :
    Followup → Prop where
  | resolved {profile : String} {x : Resolution} (found : (profile, .ok x) ∈ asked)
      (resolved : x.isResolved) : Ends soFar asked (.resolved profile x)
  | failed {before after : List (String × Except Fault Resolution)} {profile reason : String}
      {reply : Except Fault Resolution} (unresolved : ∀ a ∈ asked, ¬ Resolves a.2)
      (split : asked = before ++ (profile, reply) :: after) (fails : Fails reply reason)
      (last : ∀ a ∈ after, ∀ reason, ¬ Fails a.2 reason) :
      Ends soFar asked (.failed profile reason)
  | declined (unresolved : ∀ a ∈ asked, ¬ Resolves a.2)
      (unfailed : ∀ a ∈ asked, ∀ reason, ¬ Fails a.2 reason) : Ends soFar asked soFar

section
variable {soFar ending : Followup} {profile reason : String} {reply : Except Fault Resolution}
variable {asked : List (String × Except Fault Resolution)}

/-- A profile that failed is what is remembered, until a later one fails. -/
theorem Ends.of_failed (unresolved : ¬ Resolves reply) (fails : Fails reply reason)
    (h : Ends (.failed profile reason) asked ending) :
    Ends soFar ((profile, reply) :: asked) ending := by
  cases h with
  | resolved found resolved => exact .resolved (List.mem_cons_of_mem _ found) resolved
  | @failed before after other _ reply' unresolved' split fails' last =>
      have hsplit : (profile, reply) :: asked =
          ((profile, reply) :: before) ++ (other, reply') :: after := by
        rw [split, List.cons_append]
      exact .failed (List.forall_mem_cons.mpr ⟨unresolved, unresolved'⟩) hsplit fails' last
  | declined unresolved' unfailed =>
      exact .failed (List.forall_mem_cons.mpr ⟨unresolved, unresolved'⟩)
        (List.nil_append _).symm fails unfailed

/-- A profile that declined is forgotten. -/
theorem Ends.of_declined (unresolved : ¬ Resolves reply) (unfailed : ∀ reason, ¬ Fails reply reason)
    (h : Ends soFar asked ending) : Ends soFar ((profile, reply) :: asked) ending := by
  cases h with
  | resolved found resolved => exact .resolved (List.mem_cons_of_mem _ found) resolved
  | @failed before after other _ reply' unresolved' split fails last =>
      have hsplit : (profile, reply) :: asked =
          ((profile, reply) :: before) ++ (other, reply') :: after := by
        rw [split, List.cons_append]
      exact .failed (List.forall_mem_cons.mpr ⟨unresolved, unresolved'⟩) hsplit fails last
  | declined unresolved' unfailed' =>
      exact .declined (List.forall_mem_cons.mpr ⟨unresolved, unresolved'⟩)
        (List.forall_mem_cons.mpr ⟨unfailed, unfailed'⟩)

end

section
variable (w : World) (perform : (d : Delegation) → Run d.Answer)

/-- **Profiles are asked in order until one resolves the identifier**, and what they answer
settles how that ends. -/
theorem run_follow (uaid : String) (soFar : Followup) (profiles : List String) (past : History) :
    let work := follow uaid soFar profiles
    let asked := work.replies w perform past
    Tried profiles asked ∧
      work.delegations w perform past = asked.map (fun a => .profile uaid a.1) ∧
      ∃ ending later, work.run w perform past = (.ok ending, later) ∧ Ends soFar asked ending := by
  induction profiles generalizing soFar past with
  | nil =>
      exact ⟨.all, rfl, soFar, past, rfl,
        .declined (fun _ h => absurd h List.not_mem_nil) (fun _ h => absurd h List.not_mem_nil)⟩
  | cons profile rest ih =>
      simp only [follow, Dialogue.attempt, Dialogue.replies_bind, Dialogue.delegations_bind,
        Dialogue.run_bind, Dialogue.run_delegate, Dialogue.replies_profile,
        Dialogue.delegations_delegate, Dialogue.run_outcome, Dialogue.replies_outcome,
        Dialogue.delegations_outcome, List.cons_append, List.nil_append, List.map_cons]
      obtain ⟨reply, later⟩ := perform (.profile uaid profile) past
      cases hfilter : reply.toOption.filter (·.isResolved) with
      | some x =>
          obtain ⟨rfl, hresolved⟩ := filter_isResolved_eq_some_iff.mp hfilter
          exact ⟨.resolved hresolved, rfl, _, _, rfl,
            .resolved (List.mem_singleton.mpr rfl) hresolved⟩
      | none =>
          have hunresolved : ¬ Resolves reply := by
            rw [resolves_iff]
            simp [hfilter]
          cases hfailure : failure? reply with
          | some reason =>
              have hfails := (failure?_eq_some_iff hunresolved).mp hfailure
              obtain ⟨htried, hdelegations, ending, latest, hrun, hends⟩ :=
                ih (.failed profile reason) later
              exact ⟨.next hunresolved htried, congrArg _ hdelegations, ending, latest, hrun,
                hends.of_failed hunresolved hfails⟩
          | none =>
              have hunfailed : ∀ reason, ¬ Fails reply reason := by
                intro reason hfails
                rw [(failure?_eq_some_iff hunresolved).mpr hfails] at hfailure
                cases hfailure
              obtain ⟨htried, hdelegations, ending, latest, hrun, hends⟩ := ih soFar later
              exact ⟨.next hunresolved htried, congrArg _ hdelegations, ending, latest, hrun,
                hends.of_declined hunresolved hunfailed⟩

end

/-! ### The record that binds -/

/-- **The first record that binds the identifier is the one that is selected.** -/
theorem select_first {s home : String} {u : Uaid} {records : List String} {b : Binding}
    (parsed : Uaid.parse s = .ok u) (h : select u home records = .ok b) :
    ∃ before record after, records = before ++ record :: after ∧
      Binding.Binds u home (Fields.parse record) ∧
      (∀ other ∈ before, ¬ Binding.Binds u home (Fields.parse other)) ∧
      b.text = Binding.expected u home ∧ b.did = (Fields.parse record).get? "did" := by
  have hbinds : ∀ record,
      (Binding.ofText? home record).any (·.text == Binding.expected u home) = true ↔
        Binding.Binds u home (Fields.parse record) := by
    intro record
    rw [← Binding.exists_binding_iff parsed]
    simp [Option.any_eq_true]
  have hfind := find?_of_select_eq_ok h
  have htext := List.find?_some hfind
  rw [List.find?_filterMap, Option.bind_eq_some_iff] at hfind
  obtain ⟨record, hrecord, hb⟩ := hfind
  obtain ⟨hselected, before, after, hsplit, hbefore⟩ := List.find?_eq_some_iff_append.mp hrecord
  obtain ⟨spelled, spells⟩ := Binding.ofText?_eq_some_iff.mp hb
  refine ⟨before, record, after, hsplit, (hbinds record).mp hselected, ?_, beq_iff_eq.mp htext,
    (Binding.did?_eq_some_iff.mp spells.did).1.symm⟩
  intro other hother hbinds'
  have hnot := hbefore other hother
  rw [(hbinds other).mpr hbinds'] at hnot
  cases hnot

/-! ### What the work goes on with -/

/-- The profiles that the work goes on with from a binding, in order: none unless that is
enabled, and otherwise those that its target calls for. -/
inductive Plan (config : DnsBindingConfig) (u : Uaid) : List String → Prop where
  | disabled (disabled : config.enableFollowup = false) : Plan config u []
  | did (enabled : config.enableFollowup = true) (target : u.target = .did) :
      Plan config u ["hcs-14.profile.uaid-did-resolution"]
  /-- An agent of this registry has a card. -/
  | card (enabled : config.enableFollowup = true) (target : u.target = .aid)
      (registry : u.param? "registry" = some "ans") :
      Plan config u ["hcs-14.profile.ans-dns-web", "hcs-14.profile.aid-dns-web"]
  | aid (enabled : config.enableFollowup = true) (target : u.target = .aid)
      (registry : u.param? "registry" ≠ some "ans") :
      Plan config u ["hcs-14.profile.aid-dns-web"]

theorem plan_followups (config : DnsBindingConfig) (u : Uaid) :
    Plan config u (if config.enableFollowup then followups u else []) := by
  cases henabled : config.enableFollowup with
  | false => exact .disabled henabled
  | true =>
      rw [if_pos rfl]
      unfold followups
      cases htarget : u.target with
      | did => exact .did henabled htarget
      | aid =>
          simp only
          split
          · rename_i hregistry
            exact .card henabled htarget hregistry
          · rename_i hregistry
            exact .aid henabled htarget hregistry

/-! ### What is answered -/

/-- The canonical text of an identifier whose agent has the given home, which takes the place
of its native identifier.  Its domain is written as a domain name if it is one. -/
inductive Reconstructs (u : Uaid) (home : String) : String → Prop where
  | domain {domain : String} (given : (u.param? "domain").bind Fqdn.normalize? = some domain) :
      Reconstructs u home
        (Uaid.text { u with params := (u.params.insert "nativeId" home).insert "domain" domain })
  | plain (unnamed : (u.param? "domain").bind Fqdn.normalize? = none) :
      Reconstructs u home (Uaid.text { u with params := u.params.insert "nativeId" home })

theorem reconstructs_expected (u : Uaid) (home : String) :
    Reconstructs u home (Binding.expected u home) := by
  unfold Binding.expected
  cases hdomain : (u.param? "domain").bind Fqdn.normalize? with
  | some domain =>
      simp only [Uaid.Key.domain, hdomain]
      exact .domain hdomain
  | none =>
      simp only [Uaid.Key.domain, hdomain]
      exact .plain hdomain

/-- What is answered when going on ends, with the DID that is at hand and the text that the
record binds. -/
inductive Answers (config : DnsBindingConfig) (uaid : String) (did : Option String)
    (bound : String) : Followup → Resolution → Prop where
  /-- What a profile found, with nothing changed but how it was found and, where there is
  none, the DID. -/
  | resolved {profile : String} {x : Resolution} :
      Answers config uaid did bound (.resolved profile x)
        { x with
          did := x.did <|> did
          metadata := { x.metadata with
            profile := some "hcs-14.profile.uaid-dns-web"
            resolutionMode := some .fullResolution
            selectedFollowupProfile := some profile
            reconstructedUaid := some bound } }
  /-- The profile that failed, and why. -/
  | failed {profile reason : String} :
      Answers config uaid did bound (.failed profile reason)
        { id := uaid
          metadata := { profile := some "hcs-14.profile.uaid-dns-web" }
          failure := some {
            code := .followupResolutionFailed
            message := "Followup resolution through " ++ profile ++ " failed"
            details := .ofList [("profile", .str profile), ("reason", .str reason)] } }
  /-- The binding is not enough. -/
  | required (full : config.requireFull = true) :
      Answers config uaid did bound .noneApplied
        { id := uaid
          metadata := { profile := some "hcs-14.profile.uaid-dns-web" }
          failure := some {
            code := .noFollowupProfile
            message := "Full resolution required but no followup profile applied" } }
  /-- The binding is enough. -/
  | binding (notFull : config.requireFull = false) :
      Answers config uaid did bound .noneApplied
        { id := uaid
          did
          metadata := {
            profile := some "hcs-14.profile.uaid-dns-web"
            resolved := true
            resolutionMode := some .dnsBindingOnly
            reconstructedUaid := some bound } }

theorem answers_conclude (config : DnsBindingConfig) (c : Context) (binding : Binding)
    (ending : Followup) :
    Answers config c.uaid (binding.did <|> c.did) binding.text ending
      (settleRefusal id c.uaid (conclude config c binding ending)) := by
  cases ending with
  | resolved profile x => exact .resolved
  | failed profile reason => exact .failed
  | noneApplied =>
      unfold conclude
      cases hfull : config.requireFull with
      | true => exact .required hfull
      | false => exact .binding hfull

/--
**From a binding the work goes on until one profile resolves the identifier.**  Let the host of
an identifier answer with records of which one binds it, and let the profiles that are then
asked answer anything or break down.

Those of the plan are asked in order, for this identifier, as long as none resolves it.  What
they answer settles how this ends.  If one resolves the identifier, what it found is the
answer, with the DID of the first record that binds the identifier, or else the one that the
identifier leads to, where it found none.  If not, and any failed, the last of them and its
reason are the answer, and never the binding alone.  Otherwise the binding is, unless more is
required.
-/
theorem follows_until_resolved (config : DnsBindingConfig) (w : World)
    (perform : (d : Delegation) → Run d.Answer) {past : History} {c : Context} {home : String}
    {records : List String} (parsed : Uaid.parse c.uaid = .ok c.parsed)
    (atHome : c.parsed.home? = some home)
    (answered : w past (.txt ("_uaid." ++ home)) = .ok records)
    (bound : ∃ record ∈ records, Binding.Binds c.parsed home (Fields.parse record)) :
    let work := (dnsBinding config).resolve c
    let asked := work.replies w perform past
    (∃ profiles, Plan config c.parsed profiles ∧ Tried profiles asked) ∧
    work.delegations w perform past = asked.map (fun a => .profile c.uaid a.1) ∧
    ∃ before record after ending reconstructed x, records = before ++ record :: after ∧
      Binding.Binds c.parsed home (Fields.parse record) ∧
      (∀ other ∈ before, ¬ Binding.Binds c.parsed home (Fields.parse other)) ∧
      Reconstructs c.parsed home reconstructed ∧
      Ends .noneApplied asked ending ∧
      (work.run w perform past).1 = .ok x ∧
      Answers config c.uaid ((Fields.parse record).get? "did" <|> c.did) reconstructed
        ending x := by
  intro work asked
  obtain ⟨binding, selected⟩ := (exists_select_iff parsed).mpr bound
  obtain ⟨before, record, after, hsplit, hbinds, hbefore, htext, hdid⟩ :=
    select_first parsed selected
  have hplan := plan_followups config c.parsed
  generalize hprofiles : (if config.enableFollowup then followups c.parsed else []) = profiles
    at hplan
  obtain ⟨htried, hdelegations, ending, later, hrun, hends⟩ := run_follow w perform c.uaid
    .noneApplied profiles (.consulted (.txt (host home)) (.ok records) :: past)
  have hanswers := answers_conclude config c binding ending
  rw [htext, hdid] at hanswers
  have hlisted : w past (.txt (host home)) = .ok records := answered
  have hwork : work.run w perform past =
      (.ok (settleRefusal id c.uaid (conclude config c binding ending)), later) := by
    simp [work, dnsBinding, resolve, atHome, Dialogue.txt, Dialogue.run_bind,
      Dialogue.run_consult, hlisted, selected, hprofiles, hrun]
  have hasked : asked = (follow c.uaid .noneApplied profiles).replies w perform
      (.consulted (.txt (host home)) (.ok records) :: past) := by
    simp [asked, work, dnsBinding, resolve, atHome, Dialogue.txt, Dialogue.run_bind,
      Dialogue.run_consult, Dialogue.replies_bind, Dialogue.replies_consult, hlisted, selected,
      hprofiles, hrun]
  have hdelegated : work.delegations w perform past =
      (follow c.uaid .noneApplied profiles).delegations w perform
        (.consulted (.txt (host home)) (.ok records) :: past) := by
    simp [work, dnsBinding, resolve, atHome, Dialogue.txt, Dialogue.run_bind,
      Dialogue.run_consult, Dialogue.delegations_bind, Dialogue.delegations_consult, hlisted,
      selected, hprofiles, hrun]
  rw [hdelegated, hasked, hwork]
  exact ⟨⟨profiles, hplan, htried⟩, hdelegations, before, record, after, ending, _, _, hsplit,
    hbinds, hbefore, reconstructs_expected c.parsed home, hends, rfl, hanswers⟩

/-- An agent with a card. -/
def carded : Context where
  uaid := "uaid:aid:abc;uid=7;registry=ans;proto=a2a;nativeId=agent.example.com"
  parsed := {
    target := .aid
    identifier := "abc"
    params := .ofList [("uid", "7"), ("registry", "ans"), ("proto", "a2a"),
      ("nativeId", "agent.example.com")] }
  did := none
  document := none

/-- A record that binds the agent with the card. -/
def cardedRecord : String :=
  "target=aid; id=abc; uid=7; registry=ans; proto=a2a; nativeId=agent.example.com"

/-- Everybody is told of the record, and nobody else answers. -/
def cardedWorld : World := fun _ c =>
  match c with
  | .txt _ => .ok [cardedRecord]
  | .http _ => .error (.http "no route")
  | .verify .. => .error (.verification "no verifier")

/-- The profile of cards breaks down, and no other applies. -/
def brokenCards : (d : Delegation) → Run d.Answer
  | .did _ => fun past => (.ok none, past)
  | .didProfile _ => fun past => (.ok none, past)
  | .profile uaid id => fun past =>
    if id = Card.id then (.error (.dns "no route"), past)
    else (.ok (.refused uaid (some id) .notApplicable "" []), past)

/-- One profile fails and a later one declines, and the failure is the answer. -/
theorem follows_until_resolved_brokenCards :
    Uaid.parse carded.uaid = .ok carded.parsed ∧
    carded.parsed.home? = some "agent.example.com" ∧
    cardedWorld [] (.txt "_uaid.agent.example.com") = .ok [cardedRecord] ∧
    Binding.Binds carded.parsed "agent.example.com" (Fields.parse cardedRecord) ∧
    ∃ profile reason x,
      Ends .noneApplied (((dnsBinding {}).resolve carded).replies cardedWorld brokenCards [])
        (.failed profile reason) ∧
      (((dnsBinding {}).resolve carded).run cardedWorld brokenCards []).1 = .ok x ∧
      x.code? = some .followupResolutionFailed := by
  have parsed : Uaid.parse carded.uaid = .ok carded.parsed := by decide +kernel
  have atHome : carded.parsed.home? = some "agent.example.com" := by decide +kernel
  have selected : (select carded.parsed "agent.example.com" [cardedRecord]).toOption.isSome := by
    decide +kernel
  have bound : ∃ record ∈ [cardedRecord],
      Binding.Binds carded.parsed "agent.example.com" (Fields.parse record) := by
    refine (exists_select_iff parsed).mp ?_
    cases hselect : select carded.parsed "agent.example.com" [cardedRecord] with
    | ok b => exact ⟨b, rfl⟩
    | error refusal =>
        rw [hselect] at selected
        cases selected
  have hcode : (((dnsBinding {}).resolve carded).run cardedWorld brokenCards []).1.toOption.bind
      Resolution.code? = some .followupResolutionFailed := by
    decide +kernel
  obtain ⟨record, hrecord, hbinds⟩ := bound
  obtain ⟨-, -, _, _, _, ending, _, x, -, -, -, -, hends, hrun, hanswers⟩ :=
    follows_until_resolved {} cardedWorld brokenCards parsed atHome rfl ⟨record, hrecord, hbinds⟩
  obtain rfl := List.mem_singleton.mp hrecord
  rw [hrun] at hcode
  refine ⟨parsed, atHome, rfl, hbinds, ?_⟩
  cases hanswers with
  | @resolved profile found =>
      cases hends with
      | resolved _ resolved =>
          simp only [Resolution.isResolved, Bool.and_eq_true, Option.isNone_iff_eq_none] at resolved
          simp [Except.toOption, Resolution.code?, resolved.2] at hcode
  | @failed profile reason => exact ⟨profile, reason, _, hends, hrun, rfl⟩
  | required full => cases full
  | binding notFull => simp [Except.toOption, Resolution.code?] at hcode

end Profile.DnsBinding

end AgentId
