/-
How an identifier is spelt makes no difference.

Two texts with the same parts are one identifier, and a resolution is to find the same for
both.  The profiles go in step for them.  The registry takes the text apart, compares it with
nothing but the DID of the identifier, asks for the document of that DID and hands the text on;
so it goes in step as well, through all that profiles delegate to each other
(`delegated_twins`) and one profile after another (`firstResolved_twins`).
-/
import AgentId.Proofs.Profile.Spelling
import AgentId.Proofs.Resolution.Followup
import AgentId.Proofs.Resolution.Machine

namespace AgentId.Registry

open Profile

section
variable {r : Registry} {w : World} (repeatable : r.Repeatable w)
include repeatable

/-! ### The document of the identifier -/

theorem Repeatable.resolveDid_twins (did : String) (past past' : History) :
    Twins Eq past past' (r.resolveDid did past) (r.resolveDid did past') := by
  have hreply := repeatable.resolveDid did past past'
  have hcalls : SameCalls past (r.resolveDid did past).2 past' (r.resolveDid did past').2 := by
    unfold Registry.resolveDid at hreply ⊢
    cases hfind : r.didResolvers.zipIdx.find? (·.1.supports did) with
    | none => exact .refl past past'
    | some found =>
        simp only [hfind] at hreply ⊢
        rw [hreply]
        exact .one _ past past'
  refine ⟨?_, hcalls⟩
  rw [hreply]
  cases (r.resolveDid did past').1 with
  | error fault => exact .error fault
  | ok document? => exact .ok rfl

theorem Repeatable.documentOf_calls (did : Option String) (past past' : History) :
    SameCalls past (r.documentOf did past).2 past' (r.documentOf did past').2 := by
  cases did with
  | none => exact .refl past past'
  | some did => exact (repeatable.resolveDid_twins did past past').calls

/-- Profiles at work come to the same if what they delegate does. -/
theorem Repeatable.run_twins {α : Type} {R : α → α → Prop} {uaid uaid' : String}
    {above : List String}
    (nested : ∀ id past past', Twins (Resolution.Alike uaid uaid') past past'
      (r.perform w above (.profile uaid id) past) (r.perform w above (.profile uaid' id) past'))
    {work work' : Dialogue α} (h : InStep uaid uaid' R work work') (past past' : History) :
    Twins R past past' (work.run w (r.perform w above) past)
      (work'.run w (r.perform w above) past') := by
  have hdid : ∀ did past past', Twins Eq past past' (r.perform w above (.did did) past)
      (r.perform w above (.did did) past') := repeatable.resolveDid_twins
  exact h.run repeatable.world (r.perform w above) hdid nested past past'

theorem Repeatable.contextOf_respelled (uaid uaid' : String) (parsed : Uaid)
    (past past' : History) :
    r.contextOf uaid' parsed past' = (r.contextOf uaid parsed past).respelled uaid' := by
  rw [repeatable.contextOf uaid parsed past past']
  rfl

end

/-- The DID that is known of an identifier is not the identifier. -/
theorem contextOf_distinct {uaid : String} {parsed : Uaid} (hparse : Uaid.parse uaid = .ok parsed)
    (r : Registry) (past : History) : (r.contextOf uaid parsed past).Distinct :=
  fun _ hdid => Uaid.baseDid?_ne_self hparse hdid

/-- Where nobody finds the agent, this is answered for both spellings. -/
theorem alike_unsolved {c : Context} {uaid' : String} (distinct : c.Distinct)
    (distinct' : (c.respelled uaid').Distinct) :
    (unsolved c).Alike c.uaid uaid' (unsolved (c.respelled uaid')) := by
  unfold unsolved
  rw [Context.respelled_parsed]
  cases c.parsed.target with
  | aid => exact Resolution.alike_renamed (.unresolved c.uaid) uaid'
  | did => exact Resolution.alike_fallback distinct distinct'

/-! ### Two spellings -/

section
variable {r : Registry} {w : World} (repeatable : r.Repeatable w)
variable (ignores : ∀ p ∈ r.profiles, p.IgnoresSpelling)
variable {uaid uaid' : String} {parsed : Uaid} (hparse : Uaid.parse uaid = .ok parsed)
variable (hparse' : Uaid.parse uaid' = .ok parsed)
include repeatable ignores hparse hparse'

/-- **What is delegated comes to the same for both spellings.** -/
theorem delegated_twins (above : List String) (id : String) (past past' : History) :
    Twins (Resolution.Alike uaid uaid') past past' (r.delegated w above uaid id past)
      (r.delegated w above uaid' id past') := by
  -- A profile that goes to work delegates for one name more, so the induction is on these.
  induction above using above_induction r generalizing id past past' with
  | step above ih =>
      have hcalls := repeatable.documentOf_calls parsed.baseDid? past past'
      unfold delegated
      rw [knowing_of_ok hparse, knowing_of_ok hparse']
      by_cases hmem : id ∈ above
      · rw [resolveFor_of_mem hmem, resolveFor_of_mem hmem]
        exact ⟨.ok (Resolution.alike_refused _ _ _ _ _ _), hcalls⟩
      · cases hprofile : r.profile? id with
        | none =>
            rw [resolveFor_of_profile?_eq_none hmem hprofile,
              resolveFor_of_profile?_eq_none hmem hprofile]
            exact ⟨.ok (Resolution.alike_refused _ _ _ _ _ _), hcalls⟩
        | some found =>
            obtain ⟨p, place⟩ := found
            have hp : p ∈ r.profiles :=
              List.fst_mem_of_mem_zipIdx (List.mem_of_find?_eq_some hprofile)
            have hdistinct' := contextOf_distinct hparse' r past'
            rw [resolveFor_of_profile?_eq_some hmem hprofile,
              resolveFor_of_profile?_eq_some hmem hprofile]
            rw [repeatable.contextOf_respelled uaid uaid' parsed past past'] at hdistinct' ⊢
            have hrun := repeatable.run_twins (ih id (registered_of_profile? hprofile) hmem)
              ((ignores p hp).resolve (r.contextOf uaid parsed past) uaid')
              (.invoked place id above (r.contextOf uaid parsed past) ::
                (r.documentOf parsed.baseDid? past).2)
              (.invoked place id above ((r.contextOf uaid parsed past).respelled uaid') ::
                (r.documentOf parsed.baseDid? past').2)
            exact ⟨hrun.outcome.map fun _ _ hx =>
                hx.settled (contextOf_distinct hparse r past) hdistinct',
              (hcalls.trans (.invoked place id above _ _ _ _)).trans hrun.calls⟩

/-- **Trying profiles comes to the same for both spellings.** -/
theorem firstResolved_twins {c : Context} (hc : c.uaid = uaid) (distinct : c.Distinct)
    (distinct' : (c.respelled uaid').Distinct) {profiles : List (Profile × Nat)}
    (within : ∀ x ∈ profiles, x ∈ r.profiles.zipIdx) (past past' : History) :
    let first := r.firstResolved w c profiles past
    let first' := r.firstResolved w (c.respelled uaid') profiles past'
    Option.Rel (Resolution.Alike uaid uaid') first.1 first'.1 ∧
      SameCalls past first.2 past' first'.2 := by
  subst hc
  induction profiles generalizing past past' with
  | nil => exact ⟨.none, .refl past past'⟩
  | cons profile rest ih =>
      obtain ⟨p, place⟩ := profile
      obtain ⟨hp, hrest⟩ := List.forall_mem_cons.mp within
      have hignores := ignores p (List.fst_mem_of_mem_zipIdx hp)
      unfold firstResolved
      rw [Context.respelled_uaid, Context.respelled_parsed,
        hignores.supports uaid' c.uaid c.parsed]
      by_cases hsupports : p.supports c.uaid c.parsed
      · rw [if_pos hsupports, if_pos hsupports, invoke_eq, invoke_eq]
        have hrun := repeatable.run_twins
          (delegated_twins repeatable ignores hparse hparse' [p.id]) (hignores.resolve c uaid')
          (.invoked place p.id [] c :: past)
          (.invoked place p.id [] (c.respelled uaid') :: past')
        have hresolves := hrun.outcome.filter_isResolved
        have hcalls := (SameCalls.invoked place p.id [] c (c.respelled uaid') past past').trans
          hrun.calls
        -- From here on it only matters whether the profile resolved the identifier.
        generalize (p.resolve c).run w (r.perform w [p.id]) _ = run at hresolves hcalls ⊢
        generalize (p.resolve (c.respelled uaid')).run w (r.perform w [p.id]) _ = run'
          at hresolves hcalls ⊢
        simp only
        generalize run.1.toOption.filter (·.isResolved) = found at hresolves ⊢
        generalize run'.1.toOption.filter (·.isResolved) = found' at hresolves ⊢
        cases hresolves with
        | some alike => exact ⟨.some (alike.settled distinct distinct'), hcalls⟩
        | none =>
            obtain ⟨hanswer, hlater⟩ := ih hrest run.2 run'.2
            exact ⟨hanswer, hcalls.trans hlater⟩
      · rw [if_neg hsupports, if_neg hsupports]
        exact ih hrest past past'

/-- Both spellings come to the same, whichever profile is asked for. -/
theorem request_twins (profile : Option String) (past past' : History) :
    Twins (Resolution.Alike uaid uaid') past past' (r.request w uaid profile past)
      (r.request w uaid' profile past') := by
  cases profile with
  | some id => exact delegated_twins repeatable ignores hparse hparse' [] id past past'
  | none =>
      have hdistinct := contextOf_distinct hparse r past
      have hdistinct' := contextOf_distinct hparse' r past'
      show Twins _ past past' (r.resolve w uaid past) (r.resolve w uaid' past')
      rw [resolve_of_ok hparse, resolve_of_ok hparse']
      rw [repeatable.contextOf_respelled uaid uaid' parsed past past'] at hdistinct' ⊢
      obtain ⟨hanswer, hcalls⟩ := firstResolved_twins repeatable ignores hparse hparse' rfl
        hdistinct hdistinct' (fun _ h => h) (r.documentOf parsed.baseDid? past).2
        (r.documentOf parsed.baseDid? past').2
      refine ⟨.ok ?_, (repeatable.documentOf_calls parsed.baseDid? past past').trans hcalls⟩
      generalize (r.firstResolved w (r.contextOf uaid parsed past) _ _).1 = found at hanswer ⊢
      generalize (r.firstResolved w ((r.contextOf uaid parsed past).respelled uaid') _ _).1 = found'
        at hanswer ⊢
      cases hanswer with
      | some alike => exact alike
      | none => exact alike_unsolved hdistinct hdistinct'

end

/-! ### The standard registry -/

/-- No profile of the standard registry looks at how an identifier is spelt. -/
theorem ignoresSpelling_of_mem {config : Config} {p : Profile}
    (h : p ∈ (standard config).profiles) : p.IgnoresSpelling := by
  simp only [standard, List.mem_cons, List.not_mem_nil, or_false] at h
  rcases h with rfl | rfl | rfl | rfl
  · exact ignoresSpelling_dnsBinding _
  · exact ignoresSpelling_card _
  · exact ignoresSpelling_endpoint _
  · exact ignoresSpelling_baseDid

/--
**How an identifier is spelt makes no difference.**  Take the standard registry with any DID
resolvers besides, and let whoever is consulted answer the same at any time.  Let two texts have
the same parts, and resolve both, with the same profile or with none asked for, at any times.

Either both come to the same fault, or both to answers that differ in nothing but the
identifier and the names that are made from it.  And in both cases the same are asked the same
in the same order, with the same answers.
-/
theorem request_eq_of_parse_eq (config : Config) (extra : List DidResolver) {w : World}
    (repeatable : (extra.foldl addDidResolver (standard config)).Repeatable w)
    {uaid uaid' : String} {parsed : Uaid} (hparse : Uaid.parse uaid = .ok parsed)
    (hparse' : Uaid.parse uaid' = .ok parsed) (profile : Option String) (past past' : History) :
    let r := extra.foldl addDidResolver (standard config)
    let outcome := r.request w uaid profile past
    let outcome' := r.request w uaid' profile past'
    ((∃ fault, outcome.1 = .error fault ∧ outcome'.1 = .error fault) ∨
      ∃ x x', outcome.1 = .ok x ∧ outcome'.1 = .ok x' ∧ x.Alike uaid uaid' x') ∧
    ∃ events events', outcome.2 = events ++ past ∧ outcome'.2 = events' ++ past' ∧
      events.filter Event.isCall = events'.filter Event.isCall := by
  intro r outcome outcome'
  have hprofiles : r.profiles = (standard config).profiles :=
    profiles_addDidResolver (standard config) extra
  have htwins : Twins (Resolution.Alike uaid uaid') past past' outcome outcome' :=
    request_twins repeatable (fun p hp => ignoresSpelling_of_mem (hprofiles ▸ hp)) hparse hparse'
      profile past past'
  refine ⟨?_, htwins.calls⟩
  obtain ⟨houtcome, -⟩ := htwins
  generalize outcome.1 = reply at houtcome ⊢
  generalize outcome'.1 = reply' at houtcome ⊢
  cases houtcome with
  | error fault => exact Or.inl ⟨fault, rfl, rfl⟩
  | ok alike => exact Or.inr ⟨_, _, rfl, rfl, alike⟩

/-- Everybody is told of an endpoint with a key, and nobody else answers. -/
def keyedWorld : World := fun _ c =>
  match c with
  | .txt host =>
      if host = "_agent.a.example" then .ok ["v=aid1; p=a2a; u=https://a.example/a2a; k=z6Mk"]
      else .ok []
  | .http _ => .error (.http "no route")
  | .verify .. => .error (.verification "no verifier")

/-- An agent in its canonical spelling. -/
def plainSpelling : String := "uaid:aid:abc;proto=a2a;nativeId=a.example"

/-- The same agent, with the parameters in another order, one of them escaped, and a blank in
front. -/
def freeSpelling : String := " uaid:aid:abc;nativeId=a.example;proto=a2%61"

/-- What both of them spell. -/
def spelt : Uaid where
  target := .aid
  identifier := "abc"
  params := .ofList [("proto", "a2a"), ("nativeId", "a.example")]

/-- Both spellings find the agent, and its key is named after either. -/
theorem request_eq_of_parse_eq_spelt :
    let r := [].foldl addDidResolver (standard {})
    r.Repeatable keyedWorld ∧ Uaid.parse plainSpelling = .ok spelt ∧
    Uaid.parse freeSpelling = .ok spelt ∧
    ∃ x x', (r.request keyedWorld plainSpelling none []).1 = .ok x ∧
      (r.request keyedWorld freeSpelling none []).1 = .ok x' ∧
      x.Alike plainSpelling freeSpelling x' ∧ x.isResolved ∧
      x.authentication = [plainSpelling ++ "#key-1"] ∧
      x'.authentication = [freeSpelling ++ "#key-1"] := by
  intro r
  have repeatable : r.Repeatable keyedWorld := {
    world := fun _ _ _ => rfl
    did := by
      intro x hx past past' did
      obtain rfl := List.mem_singleton.mp hx
      rfl
    didProfile := fun _ h => absurd h List.not_mem_nil }
  have hparse : Uaid.parse plainSpelling = .ok spelt := by decide +kernel
  have hparse' : Uaid.parse freeSpelling = .ok spelt := by decide +kernel
  have hplain : (r.request keyedWorld plainSpelling none []).1.toOption.map
      (fun x => (x.isResolved, x.authentication)) =
      some (true, [plainSpelling ++ "#key-1"]) := by decide +kernel
  have hfree : (r.request keyedWorld freeSpelling none []).1.toOption.map (·.authentication) =
      some [freeSpelling ++ "#key-1"] := by decide +kernel
  refine ⟨repeatable, hparse, hparse', ?_⟩
  rcases (request_eq_of_parse_eq {} [] repeatable hparse hparse' none [] []).1 with
    ⟨fault, hfault, -⟩ | ⟨x, x', hx, hx', halike⟩
  · rw [hfault] at hplain
    cases hplain
  · rw [hx] at hplain
    rw [hx'] at hfree
    obtain ⟨hresolved, hnamed⟩ := Prod.mk.inj (Option.some.inj hplain)
    exact ⟨x, x', hx, hx', halike, hresolved, hnamed, Option.some.inj hfree⟩

end AgentId.Registry
