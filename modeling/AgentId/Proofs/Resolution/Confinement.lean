/-
Nobody is asked but the host of the agent and whom it names.

The text of an identifier and the records of a host are written by strangers, and they must not
send a resolution anywhere else or have it ask without end.  For each profile this is known;
here it is carried through the registry, which asks for documents, sets profiles to work one
after another, and has one of them delegate to others.

The bounds are sums over the profiles.  Three ask by themselves for one set of records each, the
profile of cards for a page besides, and the profile of bindings may set two of them to work
again; so there are no more than five lookups and two pages (`request_confined`).
-/
import AgentId.Proofs.Profile.Spending
import AgentId.Proofs.Resolution.Followup
import AgentId.Proofs.Resolution.Machine

namespace AgentId.Registry

open Profile

section
variable {r : Registry} {w : World} {u : Uaid} {uaid id : String} {l n : Nat}

/-! ### What the registry spends -/

theorem resolveDid_spends (r : Registry) (u : Uaid) (did : String) (past : History) :
    Spends u 0 0 past (r.resolveDid did past).2 := by
  unfold resolveDid
  split
  · exact .refl u past
  · exact .one .document rfl rfl past

theorem documentOf_spends (r : Registry) (u : Uaid) (did : Option String) (past : History) :
    Spends u 0 0 past (r.documentOf did past).2 := by
  cases did with
  | none => exact .refl u past
  | some did => exact resolveDid_spends r u did past

/-- What comes after the document and the start of a profile is all that is spent. -/
theorem spends_of_invoked {place : Nat} {above : List String} {c : Context} {did : Option String}
    {past later : History}
    (h : Spends u l n (.invoked place id above c :: (r.documentOf did past).2) later) :
    Spends u l n past later := by
  have hwork : Permitted u [] (.invoked place id above c) := .work
  have hbefore := (documentOf_spends r u did past).trans (.one hwork rfl rfl _)
  simpa using hbefore.trans h

/-- **Delegated work spends what the profile does.** -/
theorem delegated_spends {p : Profile} {place : Nat} {above : List String}
    (hparse : Uaid.parse uaid = .ok u) (registered : r.profile? id = some (p, place))
    (new : id ∉ above)
    (spends : ∀ c past, c.uaid = uaid → c.parsed = u →
      Spends u l n past ((p.resolve c).run w (r.perform w (id :: above)) past).2)
    (past : History) : Spends u l n past (r.delegated w above uaid id past).2 := by
  rw [delegated_of_profile?_eq_some hparse new registered]
  exact spends_of_invoked (spends (r.contextOf uaid u past) _ rfl rfl)

/-- Trying profiles spends what each of them does. -/
theorem firstResolved_spends {c : Context} {profiles : List (Profile × Nat)}
    (each : ∀ x ∈ profiles, ∀ past, Spends u (lookups x.1.id) (pages x.1.id) past
      ((x.1.resolve c).run w (r.perform w [x.1.id]) past).2) (past : History) :
    Spends u (profiles.map fun x => lookups x.1.id).sum (profiles.map fun x => pages x.1.id).sum
      past (r.firstResolved w c profiles past).2 := by
  induction profiles generalizing past with
  | nil => exact .refl u past
  | cons profile rest ih =>
      obtain ⟨p, place⟩ := profile
      obtain ⟨hfirst, hrest⟩ := List.forall_mem_cons.mp each
      simp only [List.map_cons, List.sum_cons]
      unfold firstResolved
      split
      · have hhere : Spends u (lookups p.id) (pages p.id) past ((p.resolve c).run w
            (r.perform w [p.id]) (.invoked place p.id [] c :: past)).2 := by
          have hrun := hfirst (.invoked place p.id [] c :: past)
          simpa using (Spends.one .work rfl rfl past).trans hrun
        rw [invoke_eq]
        simp only
        split
        · exact hhere.mono (Nat.le_add_right _ _) (Nat.le_add_right _ _)
        · exact hhere.trans (ih hrest _)
      · exact (ih hrest past).mono (Nat.le_add_left _ _) (Nat.le_add_left _ _)

end

/-! ### The standard registry -/

section
variable {config : Config} {r : Registry} {w : World} {c : Context} {id : String}
variable {p : Profile} {place : Nat}

/-- The profiles that work on their own spend the same for everybody. -/
theorem solitary_spends (h : r.profiles = (standard config).profiles)
    (hid : id ∈ [Card.id, Endpoint.id, BaseDid.id]) (registered : r.profile? id = some (p, place))
    (above : List String) (past : History) :
    Spends c.parsed (lookups id) (pages id) past
      ((p.resolve c).run w (r.perform w above) past).2 := by
  simp only [List.mem_cons, List.not_mem_nil, or_false] at hid
  rcases hid with rfl | rfl | rfl
  · obtain ⟨rfl, -⟩ := Prod.mk.inj (Option.some.inj (registered.symm.trans (profile?_card h)))
    exact (Card.course _).spends
  · obtain ⟨rfl, -⟩ := Prod.mk.inj (Option.some.inj (registered.symm.trans (profile?_endpoint h)))
    exact (Endpoint.course _).spends
  · obtain ⟨rfl, -⟩ := Prod.mk.inj (Option.some.inj (registered.symm.trans (profile?_baseDid h)))
    exact BaseDid.course.spends fun did => resolveDid_spends r c.parsed did past

/-- **What a profile spends that works for nobody.** -/
theorem run_spends (h : r.profiles = (standard config).profiles) (hid : id ∈ standardIds)
    (registered : r.profile? id = some (p, place)) (hparse : Uaid.parse c.uaid = .ok c.parsed)
    (past : History) :
    Spends c.parsed (lookups id) (pages id) past
      ((p.resolve c).run w (r.perform w [id]) past).2 := by
  rcases List.mem_cons.mp hid with rfl | hsolitary
  · obtain ⟨rfl, -⟩ := Prod.mk.inj (Option.some.inj (registered.symm.trans (profile?_dnsBinding h)))
    refine (DnsBinding.course _).spends fun profile hprofile asked => ?_
    obtain ⟨hother, p, place, hp, -⟩ := exists_of_mem_followups h hprofile
    refine delegated_spends hparse hp (fun hsame => hother (List.mem_singleton.mp hsame))
      (fun c' past _ hc' => ?_) asked
    exact hc' ▸ solitary_spends h (mem_of_mem_followups hprofile) hp _ past
  · exact solitary_spends h hsolitary registered _ past

theorem lookups_le (id : String) : lookups id ≤ 3 := by
  unfold lookups
  split
  · exact Nat.le_refl 3
  · split
    · exact Nat.zero_le 3
    · decide

theorem pages_le (id : String) : pages id ≤ 1 := by
  unfold pages
  split
  · exact Nat.le_refl 1
  · exact Nat.zero_le 1

theorem resolveWith_spends (h : r.profiles = (standard config).profiles) {uaid : String} {u : Uaid}
    (hparse : Uaid.parse uaid = .ok u) (past : History) :
    Spends u 3 1 past (r.resolveWith w uaid id past).2 := by
  cases hprofile : r.profile? id with
  | none =>
      have hdone : (r.resolveWith w uaid id past).2 = (r.documentOf u.baseDid? past).2 := by
        unfold resolveWith delegated
        rw [knowing_of_ok hparse, resolveFor_of_profile?_eq_none List.not_mem_nil hprofile]
      rw [hdone]
      exact (documentOf_spends r u _ past).mono (Nat.zero_le 3) (Nat.zero_le 1)
  | some found =>
      obtain ⟨p, place⟩ := found
      have hid : id ∈ standardIds := profileIds_eq h ▸ registered_of_profile? hprofile
      have hspends : Spends u (lookups id) (pages id) past (r.delegated w [] uaid id past).2 := by
        refine delegated_spends hparse hprofile List.not_mem_nil (fun c past hc hc' => ?_) past
        subst hc hc'
        exact run_spends h hid hprofile hparse past
      exact hspends.mono (lookups_le id) (pages_le id)

theorem resolve_spends (h : r.profiles = (standard config).profiles) {uaid : String} {u : Uaid}
    (hparse : Uaid.parse uaid = .ok u) (past : History) :
    Spends u 5 2 past (r.resolve w uaid past).2 := by
  let c := r.contextOf uaid u past
  have heach : ∀ x ∈ r.profiles.zipIdx, ∀ later, Spends u (lookups x.1.id) (pages x.1.id) later
      ((x.1.resolve c).run w (r.perform w [x.1.id]) later).2 := by
    intro x hx later
    have hid : x.1.id ∈ standardIds := profileIds_eq h ▸ mem_profileIds_of_mem_zipIdx hx
    have hregistered := profile?_of_mem (profileIds_nodup h) hx
    have hc : Uaid.parse c.uaid = .ok c.parsed := hparse
    exact run_spends h hid hregistered hc later
  have htried := firstResolved_spends heach (r.documentOf u.baseDid? past).2
  have hlookups : (r.profiles.zipIdx.map fun x => lookups x.1.id).sum = 5 := by
    rw [h]
    show (standardIds.map lookups).sum = 5
    decide
  have hpages : (r.profiles.zipIdx.map fun x => pages x.1.id).sum = 2 := by
    rw [h]
    show (standardIds.map pages).sum = 2
    decide
  rw [hlookups, hpages] at htried
  rw [resolve_of_ok hparse]
  simpa using (documentOf_spends r u _ past).trans htried

end

/--
**Nobody is asked but the host of the agent and whom it names.**  Take the standard registry
with any DID resolvers besides, any text for an identifier and any profile that is asked for, or
none, and let those who are consulted answer whatever they want.

* For text that is no identifier nothing happens.  Otherwise every event is permitted after
  those before it: records are looked up only under three names of the host that the identifier
  names, and pages are fetched only from where a record says that this host has just answered.
* There are at most five lookups and two pages.
-/
theorem request_confined (config : Config) (extra : List DidResolver) (w : World) (uaid : String)
    (profile : Option String) (past : History) :
    let r := extra.foldl addDidResolver (standard config)
    ∃ events, (r.request w uaid profile past).2 = events ++ past ∧
      (∀ newer e older, events = newer ++ e :: older →
        ∃ u, Uaid.parse uaid = .ok u ∧ Permitted u older e) ∧
      events.countP Event.isLookup ≤ 5 ∧ events.countP Event.isPage ≤ 2 := by
  intro r
  have hprofiles : r.profiles = (standard config).profiles :=
    profiles_addDidResolver (standard config) extra
  cases hparse : Uaid.parse uaid with
  | error fault =>
      have hnothing : (r.request w uaid profile past).2 = past := by
        cases profile with
        | some id => simp only [request, resolveWith, delegated, knowing_of_error hparse]
        | none => simp only [request, resolve, knowing_of_error hparse]
      exact ⟨[], hnothing, by simp, Nat.zero_le 5, Nat.zero_le 2⟩
  | ok u =>
      have hspends : Spends u 5 2 past (r.request w uaid profile past).2 := by
        cases profile with
        | some id => exact (resolveWith_spends hprofiles hparse past).mono (by decide) (by decide)
        | none => exact resolve_spends hprofiles hparse past
      obtain ⟨events, hevents, hconfined, hlookups, hpages⟩ := hspends
      refine ⟨events, hevents, fun newer e older hsplit => ⟨u, rfl, ?_⟩, hlookups, hpages⟩
      subst hsplit
      exact hconfined.permitted

/-- A host that binds an agent and says where its card is, but nobody serves the card. -/
def cardlessWorld : World := fun _ c =>
  match c with
  | .txt host =>
      if host = "_uaid.a.example" then
        .ok ["target=aid; id=abc; uid=7; registry=ans; proto=a2a; nativeId=a.example"]
      else if host = "_ans.a.example" then .ok ["v=ans1; url=https://a.example/card.json"]
      else .ok []
  | .http _ => .error (.http "no route")
  | .verify .. => .error (.verification "no verifier")

-- The bounds are reached: the binding is followed in vain, and then everything is tried again.
example :
    let later := ((standard {}).resolve cardlessWorld
      "uaid:aid:abc;uid=7;registry=ans;proto=a2a;nativeId=a.example" []).2
    later.countP Event.isLookup = 5 ∧ later.countP Event.isPage = 2 := by decide +kernel

end AgentId.Registry
