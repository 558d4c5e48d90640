/-
Going on from a binding is asking directly.

The registry sets the profile of bindings to work, and this one has another profile set to
work for it.  What that one finds is filled up from the DID of the identifier, is taken over
by the profile of bindings and is filled up again.  Still the answer is the one that the
other profile gives when it is asked for directly, but for what is said of how it was found
(`followup_eq_direct`).

Three things are needed for it.  The other profile does the same for whomever it works
(`delegated_eq_resolveWith`), filling up a second time changes nothing, and the profile of
bindings has no DID to add: where a record names one, the document has named its own.
-/
import AgentId.Proofs.Profile.Followup
import AgentId.Proofs.Resolution.FirstResolved
import AgentId.Proofs.Uaid.BaseDid
import AgentId.Resolution.Standard

namespace AgentId.Registry

open Profile

/-! ### Asked for by somebody, or directly -/

section
variable {r : Registry} {w : World} {p : Profile} {place : Nat} {uaid id : String}
variable {above : List String}

/-- **A profile that works on its own does the same for everybody.** -/
theorem delegated_eq_resolveWith (repeatable : r.Repeatable w) (solitary : p.Solitary)
    (registered : r.profile? id = some (p, place)) (new : id ∉ above) (past past' : History) :
    (r.delegated w above uaid id past).1 = (r.resolveWith w uaid id past').1 := by
  unfold resolveWith delegated
  cases hparse : Uaid.parse uaid with
  | error fault => rw [knowing_of_error hparse, knowing_of_error hparse]
  | ok parsed =>
      rw [knowing_of_ok hparse, knowing_of_ok hparse, repeatable.contextOf uaid parsed past past',
        resolveFor_of_profile?_eq_some new registered,
        resolveFor_of_profile?_eq_some List.not_mem_nil registered]
      refine congrArg (Except.map _) ?_
      -- What it delegates, if anything, is not for the profiles.
      have hagree : ∀ d, (p.resolve (r.contextOf uaid parsed past')).MayDelegate d →
          r.perform w (id :: above) d = r.perform w [id] d := by
        intro d hd
        cases d with
        | did did => rfl
        | didProfile did => rfl
        | profile other name => exact absurd hd (solitary _ other name)
      rw [Dialogue.run_congr w _ hagree]
      exact Dialogue.run_reply repeatable.world (repeatable.perform [id]) _ _ _

/-- An answer is what the profile found, settled. -/
theorem of_delegated_eq_ok {parsed : Uaid} (hparse : Uaid.parse uaid = .ok parsed)
    (registered : r.profile? id = some (p, place)) (new : id ∉ above) {past : History}
    {x : Resolution} (h : (r.delegated w above uaid id past).1 = .ok x) :
    ∃ found later,
      ((p.resolve (r.contextOf uaid parsed past)).run w (r.perform w (id :: above)) later).1 =
        .ok found ∧
      Resolution.settled (r.contextOf uaid parsed past) found = x := by
  rw [delegated_of_profile?_eq_some hparse new registered] at h
  simp only at h
  cases hreply : ((p.resolve (r.contextOf uaid parsed past)).run w (r.perform w (id :: above))
      (.invoked place id above (r.contextOf uaid parsed past) ::
        (r.documentOf parsed.baseDid? past).2)).1 with
  | error fault => simp [hreply, Except.map] at h
  | ok found =>
      rw [hreply] at h
      exact ⟨found, _, hreply, Except.ok.inj h⟩

/-- An answer that resolves the identifier has been filled up. -/
theorem filledFrom_of_delegated {parsed : Uaid} (hparse : Uaid.parse uaid = .ok parsed)
    (registered : r.profile? id = some (p, place)) (new : id ∉ above) {past : History}
    {x : Resolution} (h : (r.delegated w above uaid id past).1 = .ok x) (resolved : x.isResolved) :
    x.filledFrom (.fallback (r.contextOf uaid parsed past)) = x := by
  obtain ⟨found, later, -, rfl⟩ := of_delegated_eq_ok hparse registered new h
  exact Resolution.filledFrom_settled resolved

end

/-! ### The standard registry -/

theorem profiles_addDidResolver (r : Registry) (extra : List DidResolver) :
    (extra.foldl addDidResolver r).profiles = r.profiles := by
  induction extra generalizing r with
  | nil => rfl
  | cons x rest ih => exact ih (r.addDidResolver x)

section
variable {config : Config} {r : Registry}

/-- The names of the profiles. -/
def standardIds : List String := [DnsBinding.id, Card.id, Endpoint.id, BaseDid.id]

theorem profileIds_eq (h : r.profiles = (standard config).profiles) :
    r.profileIds = standardIds := by
  unfold profileIds
  rw [h]
  rfl

theorem profileIds_nodup (h : r.profiles = (standard config).profiles) : r.profileIds.Nodup := by
  rw [profileIds_eq h]
  decide

/-- Every profile of the standard registry has its name for itself. -/
theorem profile?_of_standard (h : r.profiles = (standard config).profiles) {p : Profile}
    {place : Nat} (hp : (p, place) ∈ (standard config).profiles.zipIdx) :
    r.profile? p.id = some (p, place) :=
  profile?_of_mem (profileIds_nodup h) (h ▸ hp)

theorem profile?_dnsBinding (h : r.profiles = (standard config).profiles) :
    r.profile? DnsBinding.id = some (dnsBinding config.dnsBinding, 0) :=
  profile?_of_standard (p := dnsBinding config.dnsBinding) h (by simp [standard])

theorem profile?_card (h : r.profiles = (standard config).profiles) :
    r.profile? Card.id = some (card config.agentCard, 1) :=
  profile?_of_standard (p := card config.agentCard) h (by simp [standard])

theorem profile?_endpoint (h : r.profiles = (standard config).profiles) :
    r.profile? Endpoint.id = some (endpoint config.agentRecord, 2) :=
  profile?_of_standard (p := endpoint config.agentRecord) h (by simp [standard])

theorem profile?_baseDid (h : r.profiles = (standard config).profiles) :
    r.profile? BaseDid.id = some (baseDid, 3) :=
  profile?_of_standard (p := baseDid) h (by simp [standard])

/-- The profile of bindings goes on with profiles that work on their own, and with the one
of documents for a DID. -/
theorem exists_of_mem_followups (h : r.profiles = (standard config).profiles) {u : Uaid}
    {id : String} (hid : id ∈ DnsBinding.followups u) :
    id ≠ DnsBinding.id ∧ ∃ p place, r.profile? id = some (p, place) ∧ p.Solitary ∧
      (u.target = .did → p = baseDid) := by
  unfold DnsBinding.followups at hid
  cases htarget : u.target with
  | did =>
      rw [htarget] at hid
      obtain rfl := List.mem_singleton.mp hid
      exact ⟨by decide, _, _, profile?_baseDid h, solitary_baseDid, fun _ => rfl⟩
  | aid =>
      rw [htarget] at hid
      simp only at hid
      have hcases : id = Card.id ∨ id = Endpoint.id := by
        split at hid
        · simpa using hid
        · exact Or.inr (List.mem_singleton.mp hid)
      rcases hcases with rfl | rfl
      · exact ⟨by decide, _, _, profile?_card h, solitary_card _, fun hdid => nomatch hdid⟩
      · exact ⟨by decide, _, _, profile?_endpoint h, solitary_endpoint _ _,
          fun hdid => nomatch hdid⟩

/-- It goes on with those that ask by themselves, and never with itself. -/
theorem mem_of_mem_followups {u : Uaid} {id : String} (h : id ∈ DnsBinding.followups u) :
    id ∈ [Card.id, Endpoint.id, BaseDid.id] := by
  unfold DnsBinding.followups at h
  split at h
  · simp [List.mem_singleton.mp h]
  · split at h
    · rcases List.mem_cons.mp h with rfl | h
      · simp
      · simp [List.mem_singleton.mp h]
    · simp [List.mem_singleton.mp h]

/-- The DID of what another profile found is not replaced by the one of the binding. -/
theorem did_kept {w : World} {uaid home profile : String} {parsed : Uaid}
    (hparse : Uaid.parse uaid = .ok parsed) {p : Profile} {place : Nat} {above : List String}
    (registered : r.profile? profile = some (p, place)) (new : profile ∉ above)
    (document : parsed.target = .did → p = baseDid) {records : List String} {binding : Binding}
    (selected : DnsBinding.select parsed home records = .ok binding) {asked : History}
    {x : Resolution} (h : (r.delegated w above uaid profile asked).1 = .ok x)
    (resolved : x.isResolved) : (x.did <|> (binding.did <|> parsed.baseDid?)) = x.did := by
  cases htarget : parsed.target with
  | did =>
      obtain rfl := document htarget
      obtain ⟨found, later, hfound, rfl⟩ := of_delegated_eq_ok hparse registered new h
      rw [isResolved_settled] at resolved
      obtain ⟨did, hdid⟩ :=
        Option.isSome_iff_exists.mp (BaseDid.did_of_resolved hfound resolved)
      unfold Resolution.settled
      rw [if_pos resolved]
      show ((found.did <|> _) <|> _) = (found.did <|> _)
      rw [hdid]
      rfl
  | aid =>
      have hnone : binding.did = none := by
        cases hbinding : binding.did with
        | none => rfl
        | some did =>
            rw [DnsBinding.target_of_select hparse selected hbinding] at htarget
            cases htarget
      rw [hnone]
      refine Resolution.did_of_filled
        (filledFrom_of_delegated hparse registered new h resolved) ?_
      intro did hbase
      exact Uaid.baseDid?_ne_self hparse hbase

end

/--
**Going on from a binding is asking directly.**  Take the standard registry with any DID
resolvers besides, and let whoever is consulted answer the same at any time.  When the
profile of bindings answers with a full resolution, by going on with another profile, this
one resolves the identifier when it is asked for directly, and the two answers differ in
nothing but what they say of how they were found.

In particular they have one DID, and what the profile of bindings found is the answer before
the registry fills it up.
-/
theorem followup_eq_direct (config : Config) (extra : List DidResolver) {w : World}
    (repeatable : (extra.foldl addDidResolver (standard config)).Repeatable w)
    {uaid followup : String} {past : History} {found : Resolution}
    (h : ((extra.foldl addDidResolver (standard config)).resolveWith w uaid DnsBinding.id
      past).1 = .ok found)
    (full : found.metadata.resolutionMode = some .fullResolution)
    (followed : found.metadata.selectedFollowupProfile = some followup) (past' : History) :
    let r := extra.foldl addDidResolver (standard config)
    ∃ parsed direct, Uaid.parse uaid = .ok parsed ∧
      (r.resolveWith w uaid followup past').1 = .ok direct ∧ direct.isResolved ∧
      found = { direct with
        metadata := { direct.metadata with
          profile := found.metadata.profile
          resolutionMode := found.metadata.resolutionMode
          selectedFollowupProfile := found.metadata.selectedFollowupProfile
          reconstructedUaid := found.metadata.reconstructedUaid } } ∧
      found.did = direct.did ∧
      (((dnsBinding config.dnsBinding).resolve (r.contextOf uaid parsed past')).run w
        (r.perform w [DnsBinding.id]) past').1 = .ok found := by
  intro r
  have hprofiles : r.profiles = (standard config).profiles :=
    profiles_addDidResolver (standard config) extra
  cases hparse : Uaid.parse uaid with
  | error fault =>
      change (r.delegated w [] uaid DnsBinding.id past).1 = .ok found at h
      unfold delegated at h
      rw [knowing_of_error hparse] at h
      obtain rfl := Except.ok.inj h
      cases full
  | ok parsed =>
      obtain ⟨reply, later, hreply, hsettled⟩ := of_delegated_eq_ok hparse
        (profile?_dnsBinding hprofiles) List.not_mem_nil h
      obtain ⟨hmode, hselected⟩ := Resolution.followup_settled (r.contextOf uaid parsed past) reply
      rw [hsettled] at hmode hselected
      obtain ⟨home, records, binding, profile, x, hselect, hmem, ⟨asked, hasked, hresolved⟩,
        rfl⟩ := DnsBinding.exists_followup hreply (hmode.symm.trans full)
      obtain rfl : profile = followup := Option.some.inj (hselected.symm.trans followed)
      obtain ⟨hother, p, place, hp, hsolitary, hdocument⟩ :=
        exists_of_mem_followups hprofiles hmem
      have hnew : profile ∉ [DnsBinding.id] := by
        intro hsame
        exact hother (List.mem_singleton.mp hsame)
      have hdirect : (r.resolveWith w uaid profile past').1 = .ok x := by
        rw [← delegated_eq_resolveWith repeatable hsolitary hp hnew asked past']
        exact hasked
      have hkept : (x.did <|> (binding.did <|> parsed.baseDid?)) = x.did :=
        did_kept hparse hp hnew hdocument hselect hasked hresolved
      have hadopted : DnsBinding.adopt binding (binding.did <|> parsed.baseDid?) profile x =
          x.relabelled (some DnsBinding.id) (some .fullResolution) (some profile)
            (some binding.text) := DnsBinding.adopt_eq_relabelled hkept
      have hfilled : x.filledFrom (.fallback (r.contextOf uaid parsed past)) = x := by
        rw [repeatable.contextOf uaid parsed past asked]
        exact filledFrom_of_delegated hparse hp hnew hasked hresolved
      have hfound : found = x.relabelled (some DnsBinding.id) (some .fullResolution)
          (some profile) (some binding.text) := by
        rw [← hsettled]
        change Resolution.settled _ (DnsBinding.adopt binding (binding.did <|> parsed.baseDid?)
          profile x) = _
        rw [hadopted]
        exact Resolution.settled_relabelled hfilled
      refine ⟨parsed, x, rfl, hdirect, hresolved, ?_, ?_, ?_⟩
      · rw [hfound]
        rfl
      · rw [hfound]
        rfl
      · rw [repeatable.contextOf uaid parsed past' past,
          Dialogue.run_reply repeatable.world (repeatable.perform [DnsBinding.id]) _ past' later,
          hreply, hfound]
        exact congrArg Except.ok hadopted

/-- Knows a document for any DID. -/
def ledger : DidResolver where
  supports := fun _ => true
  resolve := fun _ did => .ok (some { id := did })

/-- An agent with an account on the ledger. -/
def ledgerUaid : String := "uaid:did:testnet:0.0.1;uid=0;proto=a2a;nativeId=a.example"

/-- Everybody is told of a record that binds the agent and names a DID of its own. -/
def willfulWorld : World := fun _ c =>
  match c with
  | .txt _ =>
      .ok ["target=did; id=testnet:0.0.1; uid=0; proto=a2a; nativeId=a.example; did=did:web:b"]
  | .http _ => .error (.http "no route")
  | .verify .. => .error (.verification "no verifier")

/-- The agent has the DID of its document, and not the one of the record. -/
theorem followup_eq_direct_ledger :
    let r := [ledger].foldl addDidResolver (standard {})
    r.Repeatable willfulWorld ∧
    ∃ found direct, (r.resolveWith willfulWorld ledgerUaid DnsBinding.id []).1 = .ok found ∧
      found.metadata.resolutionMode = some .fullResolution ∧
      found.metadata.selectedFollowupProfile = some BaseDid.id ∧
      (r.resolveWith willfulWorld ledgerUaid BaseDid.id []).1 = .ok direct ∧
      direct.isResolved ∧ found.did = direct.did ∧
      found.did = some "did:hedera:testnet:0.0.1" := by
  intro r
  have repeatable : r.Repeatable willfulWorld := {
    world := fun _ _ _ => rfl
    did := by
      intro x hx past past' did
      rcases List.mem_cons.mp hx with rfl | hx
      · rfl
      · obtain rfl := List.mem_singleton.mp hx
        rfl
    didProfile := fun _ h => absurd h List.not_mem_nil }
  have hsays : (r.resolveWith willfulWorld ledgerUaid DnsBinding.id []).1.toOption.map
      (fun x => (x.did, x.metadata.resolutionMode, x.metadata.selectedFollowupProfile)) =
      some (some "did:hedera:testnet:0.0.1", some .fullResolution, some BaseDid.id) := by
    decide +kernel
  cases hfound : (r.resolveWith willfulWorld ledgerUaid DnsBinding.id []).1 with
  | error fault =>
      rw [hfound] at hsays
      cases hsays
  | ok found =>
      rw [hfound] at hsays
      have hparts := Option.some.inj hsays
      have hdid : found.did = some "did:hedera:testnet:0.0.1" := congrArg (·.1) hparts
      have hfull : found.metadata.resolutionMode = some .fullResolution :=
        congrArg (·.2.1) hparts
      have hfollowed : found.metadata.selectedFollowupProfile = some BaseDid.id :=
        congrArg (·.2.2) hparts
      obtain ⟨parsed, direct, -, hdirect, hresolved, -, hsame, -⟩ :=
        followup_eq_direct {} [ledger] repeatable hfound hfull hfollowed []
      exact ⟨repeatable, found, direct, rfl, hfull, hfollowed, hdirect, hresolved, hsame, hdid⟩

end AgentId.Registry
