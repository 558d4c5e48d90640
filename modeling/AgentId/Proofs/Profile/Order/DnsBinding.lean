/-
Bindings in another order.

A record binds an identifier if it spells it to the last character, so all that bind it spell
the same, and it does not matter which of them is taken, but for one thing.  A record can name
the DID of the agent besides, and this is not a part of what it spells.  Of several records that
bind the identifier the first in the list is taken, and its DID is the one that is answered when
nothing else says one (`moved_only_by_did`).

What is asked after the host, and whether the identifier is resolved, depends on the order in no
way, and neither does a refusal: the candidates that it lists are sorted.
-/
import AgentId.Proofs.Profile.Followup
import AgentId.Proofs.Resolution.Relisting
import AgentId.Proofs.Sorting

namespace AgentId.Profile.DnsBinding

/-! ### The record that is taken -/

/-- A record of the host binds the identifier. -/
def Bound (u : Uaid) (home : String) (records : List String) (b : Binding) : Prop :=
  b ∈ records.filterMap (Binding.ofText? home) ∧ b.text = Binding.expected u home

theorem bound_of_select {u : Uaid} {home : String} {records : List String} {b : Binding}
    (h : select u home records = .ok b) : Bound u home records b := by
  obtain ⟨record, hrecord, hb, htext⟩ := of_select_eq_ok h
  exact ⟨List.mem_filterMap.mpr ⟨record, hrecord, hb⟩, htext⟩

/-- From either order a record is taken that binds the identifier, or the same is refused. -/
theorem select_of_perm (u : Uaid) (home : String) {records records' : List String}
    (perm : records.Perm records') :
    (∃ refusal, select u home records = .error refusal ∧
      select u home records' = .error refusal) ∨
    ∃ b b', select u home records = .ok b ∧ select u home records' = .ok b' := by
  have hbindings := perm.filterMap (Binding.ofText? home)
  have hcandidates := sorted_eq_of_perm (hbindings.map (·.text))
  simp only [select, ← perm.isEmpty_eq, ← hbindings.isEmpty_eq, ← hcandidates]
  split
  · exact Or.inl ⟨_, rfl, rfl⟩
  · cases hfind : (records.filterMap (Binding.ofText? home)).find?
        (·.text == Binding.expected u home) with
    | none =>
        have hfind' : (records'.filterMap (Binding.ofText? home)).find?
            (·.text == Binding.expected u home) = none := by
          rw [List.find?_eq_none] at hfind ⊢
          intro b hb
          exact hfind b (hbindings.mem_iff.mpr hb)
        simp only [hfind']
        split
        · exact Or.inl ⟨_, rfl, rfl⟩
        · exact Or.inl ⟨_, rfl, rfl⟩
    | some b =>
        have htext := List.find?_some hfind
        have hfound : ((records'.filterMap (Binding.ofText? home)).find?
            (·.text == Binding.expected u home)).isSome := by
          rw [List.find?_isSome]
          exact ⟨b, hbindings.mem_iff.mp (List.mem_of_find?_eq_some hfind), htext⟩
        obtain ⟨b', hfind'⟩ := Option.isSome_iff_exists.mp hfound
        simp only [hfind']
        exact Or.inr ⟨b, b', rfl, rfl⟩

/-! ### What is made of it -/

theorem avoids_follow (uaid host : String) (soFar : Followup) (profiles : List String) :
    (follow uaid soFar profiles).Avoids (.txt host) := by
  induction profiles generalizing soFar with
  | nil => exact .outcome _
  | cons profile rest ih =>
      have hattempt : (Dialogue.attempt uaid profile).Avoids (.txt host) :=
        .delegate fun _ => .outcome _
      refine hattempt.bind fun reply => ?_
      cases reply.toOption.filter (·.isResolved) with
      | some found => exact .outcome _
      | none =>
          cases failure? reply with
          | some reason => exact ih _
          | none => exact ih _

/-- The DID of a record is answered where nothing else says one, and nothing else of what is
concluded depends on the record. -/
theorem conclude_eq_or (config : DnsBindingConfig) (c : Context) {b b' : Binding}
    (htext : b.text = b'.text) (ending : Followup) :
    conclude config c b ending = conclude config c b' ending ∨
    b.did ≠ b'.did ∧ ∃ x x', conclude config c b ending = .ok x ∧
      conclude config c b' ending = .ok x' ∧ x' = { x with did := x'.did } ∧
      x.did = (b.did <|> c.did) ∧ x'.did = (b'.did <|> c.did) := by
  by_cases hdid : b.did = b'.did
  · refine Or.inl ?_
    cases ending <;> simp only [conclude, adopt, found, htext, hdid]
  · cases ending with
    | resolved profile r =>
        cases hstated : r.did with
        | some did =>
            refine Or.inl ?_
            simp [conclude, adopt, htext, hstated]
        | none =>
            refine Or.inr ⟨hdid, _, _, rfl, rfl, ?_, ?_, ?_⟩
            · simp only [adopt, htext]
            · simp [adopt, hstated]
            · simp [adopt, hstated]
    | failed profile reason => exact Or.inl rfl
    | noneApplied =>
        by_cases hfull : config.requireFull = true
        · refine Or.inl ?_
          simp [conclude, hfull]
        · refine Or.inr ⟨hdid, found c.uaid b (b.did <|> c.did),
            found c.uaid b' (b'.did <|> c.did), ?_, ?_, ?_, rfl, rfl⟩
          · simp [conclude, hfull]
          · simp [conclude, hfull]
          · simp only [found, htext]

/-! ### The profile -/

/-- With the records of the host, what is left is to go on from the one that binds. -/
theorem run_of_listed {config : DnsBindingConfig} {w : World}
    {perform : (d : Delegation) → Run d.Answer} {past : History} {c : Context} {home : String}
    {records : List String} (atHome : c.parsed.home? = some home)
    (listed : w past (.txt (host home)) = .ok records) :
    ((dnsBinding config).resolve c).run w perform past =
      let later := .consulted (.txt (host home)) (.ok records) :: past
      match select c.parsed home records with
      | .error refusal => (.ok (refusal.resolution id c.uaid), later)
      | .ok binding =>
        let followed := (follow c.uaid .noneApplied
          (if config.enableFollowup then followups c.parsed else [])).run w perform later
        (followed.1.map fun ending => settleRefusal id c.uaid (conclude config c binding ending),
          followed.2) := by
  show (resolve config c >>= fun result => pure (settleRefusal id c.uaid result)).run w
    perform past = _
  rw [Dialogue.run_bind_pure]
  unfold resolve
  simp only [atHome, Dialogue.txt, Dialogue.run_bind, Dialogue.run_consult, listed,
    Dialogue.run_outcome]
  cases select c.parsed home records with
  | error refusal => rfl
  | ok binding =>
      simp only [Dialogue.run_bind_pure]
      cases ((follow c.uaid .noneApplied
        (if config.enableFollowup then followups c.parsed else [])).run w perform
          (.consulted (.txt (host home)) (.ok records) :: past)).1 <;> rfl

/--
**The order of binding records makes a difference only for the DID that they name.**  Let the
host of an agent list the same records in two orders, and let everybody else answer the same.
Then the same is asked, and the outcome is the same, unless the identifier is one of a DID and
two records bind it that do not name the same DID.  Even then the answers differ in nothing but
their DIDs, which are those of the two records.
-/
theorem moved_only_by_did (config : DnsBindingConfig) {c : Context} {home : String}
    {records records' : List String} {past : History} {w w' : World}
    {perform perform' : (d : Delegation) → Run d.Answer} (parsed : Uaid.parse c.uaid = .ok c.parsed)
    (atHome : c.parsed.home? = some home)
    (h : Relisting (host home) records records' past w w' perform perform') :
    let answer := ((dnsBinding config).resolve c).run w perform past
    let answer' := ((dnsBinding config).resolve c).run w' perform' past
    Relisted (host home) answer.2 answer'.2 ∧
    (answer.1 = answer'.1 ∨
      c.parsed.target = .did ∧
      ∃ b b' x x', Bound c.parsed home records b ∧ Bound c.parsed home records b' ∧
        b.did ≠ b'.did ∧ answer.1 = .ok x ∧ answer'.1 = .ok x' ∧
        x' = { x with did := x'.did } ∧
        x.did = (b.did <|> c.did) ∧ x'.did = (b'.did <|> c.did)) := by
  intro answer answer'
  have hlisted := (Relisted.refl (host home) past).listed h.perm
  rw [show answer = _ from run_of_listed atHome h.lists,
    show answer' = _ from run_of_listed atHome h.lists']
  rcases select_of_perm c.parsed home h.perm with
    ⟨refusal, hselect, hselect'⟩ | ⟨b, b', hselect, hselect'⟩
  · simp only [hselect, hselect']
    exact ⟨hlisted, Or.inl trivial⟩
  · have hbound : Bound c.parsed home records b := bound_of_select hselect
    have hbound' : Bound c.parsed home records b' :=
      (bound_of_select hselect').imp_left (h.perm.filterMap _).mem_iff.mpr
    have hfollowed := h.run (avoids_follow c.uaid (host home) .noneApplied
      (if config.enableFollowup then followups c.parsed else [])) hlisted
    simp only [hselect, hselect', ← hfollowed.outcome]
    refine ⟨hfollowed.history, ?_⟩
    cases ((follow c.uaid .noneApplied
        (if config.enableFollowup then followups c.parsed else [])).run w perform
          (.consulted (.txt (host home)) (.ok records) :: past)).1 with
    | error fault => exact Or.inl rfl
    | ok ending =>
        rcases conclude_eq_or config c (hbound.2.trans hbound'.2.symm) ending with
          hsame | ⟨hdiffer, x, x', hx, hx', hrest⟩
        · exact Or.inl (by simp only [Except.map, hsame])
        · refine Or.inr ⟨?_, b, b', x, x', hbound, hbound', hdiffer, ?_, ?_, hrest⟩
          · -- One of the two names a DID, which only those of a DID do.
            cases hdid : b.did with
            | some did => exact target_of_select parsed hselect hdid
            | none =>
                cases hdid' : b'.did with
                | some did => exact target_of_select parsed hselect' hdid'
                | none => exact absurd (hdid.trans hdid'.symm) hdiffer
          · simp only [Except.map, hx, settleRefusal]
          · simp only [Except.map, hx', settleRefusal]

/-- An agent with a DID that its identifier does not lead to. -/
def ledByRecord : Context where
  uaid := "uaid:did:z6Mk;uid=0;proto=a2a;nativeId=agent.example.com"
  parsed := {
    target := .did
    identifier := "z6Mk"
    params := .ofList [("uid", "0"), ("proto", "a2a"), ("nativeId", "agent.example.com")] }
  did := none
  document := none

/-- Two records of which one binds the identifier and the other one another. -/
def oneBinds : List String := [
  "target=did; id=z6Mk; uid=0; proto=a2a; nativeId=agent.example.com; did=did:web:a.example",
  "target=did; id=z6Mk; uid=1; proto=a2a; nativeId=agent.example.com; did=did:web:b.example"]

/-- Where one record binds, the order makes no difference. -/
theorem moved_only_by_did_oneBinds :
    (((dnsBinding { enableFollowup := false }).resolve ledByRecord).run
        (World.silent.listing (host "agent.example.com") oneBinds) Dialogue.nobody []).1 =
      (((dnsBinding { enableFollowup := false }).resolve ledByRecord).run
        (World.silent.listing (host "agent.example.com") oneBinds.reverse)
        Dialogue.nobody []).1 := by
  have parsed : Uaid.parse ledByRecord.uaid = .ok ledByRecord.parsed := by decide +kernel
  have atHome : ledByRecord.parsed.home? = some "agent.example.com" := by decide +kernel
  have hrelisting := relisting_listing (w := World.silent) (fun _ _ _ => rfl)
    (host "agent.example.com") (List.reverse_perm oneBinds).symm []
  have hone : ∀ b ∈ oneBinds.filterMap (Binding.ofText? "agent.example.com"),
      b.text = Binding.expected ledByRecord.parsed "agent.example.com" →
        b.did = some "did:web:a.example" := by
    decide +kernel
  obtain ⟨-, hsame | ⟨-, b, b', _, _, hb, hb', hdiffer, -⟩⟩ :=
    moved_only_by_did { enableFollowup := false } parsed atHome hrelisting
  · exact hsame
  · exact absurd ((hone b hb.1 hb.2).trans (hone b' hb'.1 hb'.2).symm) hdiffer

/-! ### Two DIDs for one identifier -/

/-- Two records that bind the identifier and name different DIDs. -/
def bothBind : List String := [
  "target=did; id=z6Mk; uid=0; proto=a2a; nativeId=agent.example.com; did=did:web:a.example",
  "target=did; id=z6Mk; uid=0; proto=a2a; nativeId=agent.example.com; did=did:web:b.example"]

/-- **The order of binding records can make a difference**, to the DID that is answered. -/
theorem exists_did_moved :
    ∃ records records', records.Perm records' ∧
      (((dnsBinding { enableFollowup := false }).resolve ledByRecord).run
          (World.silent.listing (host "agent.example.com") records) Dialogue.nobody []).1 ≠
        (((dnsBinding { enableFollowup := false }).resolve ledByRecord).run
          (World.silent.listing (host "agent.example.com") records') Dialogue.nobody []).1 := by
  refine ⟨bothBind, bothBind.reverse, (List.reverse_perm _).symm, fun hsame => ?_⟩
  have hdid := congrArg (fun reply => reply.toOption.bind (·.did)) hsame
  revert hdid
  decide +kernel

end AgentId.Profile.DnsBinding
