/-
Endpoint records in another order.

Of the valid records one with the smallest key is taken, so that it does not matter in which
order the host lists them.  This holds as far as the key goes.  Records of one key can still be
different ones, and of these the first in the list is taken: they differ in their version,
which only verifiers get to see, or a bar within a part passes for one between parts.

Nothing else can make a difference (`moved_only_by_tie`).  After the host no one is asked but
verifiers, and what they are asked depends on the record alone.
-/
import AgentId.Proofs.Profile.Endpoint
import AgentId.Proofs.Record.Order
import AgentId.Proofs.Resolution.Relisting

namespace AgentId.Profile.Endpoint

/-! ### The record that is taken -/

/-- From either order a record of the same key is taken, or neither has a valid one. -/
theorem select_of_perm (schemes : SchemesConfig) (home : String) {records records' : List String}
    (perm : records.Perm records') :
    (∃ refusal, select schemes home records = .error refusal ∧
      select schemes home records' = .error refusal) ∨
    ∃ r r', select schemes home records = .ok r ∧ select schemes home records' = .ok r' ∧
      r ∈ records.filterMap (AgentRecord.ofText? schemes) ∧
      r' ∈ records.filterMap (AgentRecord.ofText? schemes) ∧ r.orderKey = r'.orderKey := by
  have hleast := leastBy?_of_perm AgentRecord.orderKey
    (perm.filterMap (AgentRecord.ofText? schemes))
  unfold select
  rw [perm.isEmpty_eq]
  split
  · exact Or.inl ⟨_, rfl, rfl⟩
  · rcases hleast with ⟨hnone, hnone'⟩ | ⟨r, r', hr, hr', related⟩
    · rw [hnone, hnone']
      exact Or.inl ⟨_, rfl, rfl⟩
    · rw [hr, hr']
      exact Or.inr ⟨r, r', rfl, rfl, related⟩

/-! ### Who looks at it -/

section
variable {v : Verifiers} {uaid : String} {r : AgentRecord}

/-- A verifier gets to see the record. -/
def Watched (v : Verifiers) (r : AgentRecord) : Prop :=
  v.metadata.isSome ∨ (keyVerifier v r).isSome

/-- Where nobody looks the version of a record is not seen. -/
theorem verified_of_unwatched (uaid : String) (h : ¬ Watched v r) (version : String) :
    verified v uaid { r with version } = verified v uaid r := by
  obtain ⟨hmetadata, hkey⟩ := not_or.mp h
  rw [Option.not_isSome_iff_eq_none] at hmetadata hkey
  have hkey' : keyVerifier v { r with version } = none := hkey
  unfold verified
  rw [hmetadata, hkey, hkey']
  rfl

theorem avoids_approves {verifier : Option String} {stage : VerificationStage} {host : String} :
    (approves verifier stage uaid r).Avoids (.txt host) := by
  cases verifier with
  | none => exact .outcome _
  | some name => exact Dialogue.avoids_question (by simp)

/-- Only verifiers are asked about a record. -/
theorem avoids_verified {host : String} : (verified v uaid r).Avoids (.txt host) := by
  refine avoids_approves.bind fun approved => ?_
  cases approved with
  | false => exact .outcome _
  | true =>
      refine avoids_approves.bind fun approved => ?_
      cases approved with
      | false => exact .outcome _
      | true => exact .outcome _

end

/-! ### The profile -/

/-- Two valid records that the order of records does not tell apart, although they differ:
within the parts of their key, or in a version that somebody gets to see. -/
structure Tie (schemes : SchemesConfig) (v : Verifiers) (records : List String)
    (r r' : AgentRecord) : Prop where
  mem : r ∈ records.filterMap (AgentRecord.ofText? schemes)
  mem' : r' ∈ records.filterMap (AgentRecord.ofText? schemes)
  key : r.orderKey = r'.orderKey
  ne : r ≠ r'
  unseen : r.Barred ∨ r'.Barred ∨ Watched v r ∧ r' = { r with version := r'.version }

/-- Records of one key are a tie, or it makes no difference which of them is verified. -/
theorem tie_or_verified_eq {schemes : SchemesConfig} (v : Verifiers) (uaid : String)
    {records : List String} {r r' : AgentRecord}
    (mem : r ∈ records.filterMap (AgentRecord.ofText? schemes))
    (mem' : r' ∈ records.filterMap (AgentRecord.ofText? schemes))
    (key : r.orderKey = r'.orderKey) :
    Tie schemes v records r r' ∨ verified v uaid r = verified v uaid r' := by
  by_cases hsame : r = r'
  · exact Or.inr (hsame ▸ rfl)
  by_cases hbarred : r.Barred ∨ r'.Barred
  · exact Or.inl ⟨mem, mem', key, hsame, hbarred.elim Or.inl (Or.inr ∘ Or.inl)⟩
  obtain ⟨hbare, hbare'⟩ := not_or.mp hbarred
  obtain ⟨_, -, hr⟩ := List.mem_filterMap.mp mem
  obtain ⟨_, -, hr'⟩ := List.mem_filterMap.mp mem'
  have hversion : r' = { r with version := r'.version } :=
    AgentRecord.eq_of_orderKey_eq hbare hbare' (AgentRecord.ne_some_empty_of_ofText? hr)
      (AgentRecord.ne_some_empty_of_ofText? hr') key
  by_cases hwatched : Watched v r
  · exact Or.inl ⟨mem, mem', key, hsame, Or.inr (Or.inr ⟨hwatched, hversion⟩)⟩
  · have hverified := verified_of_unwatched uaid hwatched r'.version
    rw [← hversion] at hverified
    exact Or.inr hverified.symm

/--
**The order of endpoint records makes a difference only by a tie.**  Let the host of an agent
list the same records in two orders, and let everybody else answer the same.  The outcome is the
same then, and so is everything that verifiers are asked, unless two different records are taken
that have one key.  Such records hold a bar where the key does not expect one, or they differ in
nothing but their version and a verifier looks at it.
-/
theorem moved_only_by_tie (schemes : SchemesConfig) (v : Verifiers) {c : Context} {home : String}
    {records records' : List String} {past : History} {w w' : World}
    {perform perform' : (d : Delegation) → Run d.Answer} (atHome : home? c.parsed = some home)
    (h : Relisting (host home) records records' past w w' perform perform') :
    Unmoved (host home) (((Profile.endpoint schemes v).resolve c).run w perform past)
      (((Profile.endpoint schemes v).resolve c).run w' perform' past) ∨
    ∃ r r', select schemes home records = .ok r ∧ select schemes home records' = .ok r' ∧
      Tie schemes v records r r' := by
  have hlisted := (Relisted.refl (host home) past).listed h.perm
  show Unmoved _
    ((resolve schemes v c >>= fun result => pure (settleRefusal id c.uaid result)).run w
      perform past)
    ((resolve schemes v c >>= fun result => pure (settleRefusal id c.uaid result)).run w'
      perform' past) ∨ _
  rw [Dialogue.run_bind_pure, Dialogue.run_bind_pure, run_of_answered atHome h.lists,
    run_of_answered atHome h.lists']
  rcases select_of_perm schemes home h.perm with
    ⟨refusal, hselect, hselect'⟩ | ⟨r, r', hselect, hselect', mem, mem', key⟩
  · simp only [hselect, hselect']
    exact Or.inl ⟨rfl, hlisted⟩
  · rcases tie_or_verified_eq v c.uaid mem mem' key with htie | hverified
    · exact Or.inr ⟨r, r', hselect, hselect', htie⟩
    · refine Or.inl ?_
      simp only [hselect, hselect', ← hverified]
      exact (h.run avoids_verified hlisted).map _

/-- Records with different keys. -/
def unlikeRecords : List String := [
  "v=aid1; p=mcp; u=https://agent.example.com/mcp",
  "v=aid1; p=a2a; u=https://agent.example.com/a2a; k=z6Mk"]

/-- The order of records with different keys makes no difference. -/
theorem moved_only_by_tie_kindWorld :
    Unmoved (host "agent.example.com")
      (((Profile.endpoint ⟨["https"]⟩ ⟨some "page", some "key"⟩).resolve homely).run
        (kindWorld.listing (host "agent.example.com") unlikeRecords) Dialogue.nobody [])
      (((Profile.endpoint ⟨["https"]⟩ ⟨some "page", some "key"⟩).resolve homely).run
        (kindWorld.listing (host "agent.example.com") unlikeRecords.reverse)
        Dialogue.nobody []) := by
  have atHome : home? homely.parsed = some "agent.example.com" := by decide +kernel
  have hrelisting := relisting_listing (w := kindWorld) (fun _ _ _ => rfl)
    (host "agent.example.com") (List.reverse_perm unlikeRecords).symm []
  rcases moved_only_by_tie ⟨["https"]⟩ ⟨some "page", some "key"⟩ atHome hrelisting with
    hsame | ⟨r, r', hselect, hselect', tie⟩
  · exact hsame
  · have htaken : (select ⟨["https"]⟩ "agent.example.com" unlikeRecords).toOption =
        (select ⟨["https"]⟩ "agent.example.com" unlikeRecords.reverse).toOption := by
      decide +kernel
    rw [hselect, hselect'] at htaken
    exact absurd (Option.some.inj htaken) tie.ne

/-! ### Records that tie -/

/-- A bar stands in the endpoint of the one record and in the protocol of the other. -/
def barredRecords : List String := [
  "v=aid1; p=a2a; u=https://agent.example.com/x|https://other.example/y",
  "v=aid1; p=a2a|https://agent.example.com/x; u=https://other.example/y"]

/-- Records of two versions. -/
def versionedRecords : List String := [
  "v=aid1; p=a2a; u=https://agent.example.com/a2a",
  "v=aid2; p=a2a; u=https://agent.example.com/a2a"]

/-- The endpoint at which an agent is found. -/
def foundAt? (reply : Except Fault Resolution) : Option String :=
  (reply.toOption.filter (·.isResolved)).bind (·.metadata.endpoint)

/-- **The order of endpoint records can make a difference**: to the endpoint that is found, and
to the record that a verifier is shown. -/
theorem exists_endpoint_moved :
    (∃ records records', records.Perm records' ∧
      (((Profile.endpoint ⟨["https"]⟩).resolve homely).run
          (World.silent.listing (host "agent.example.com") records) Dialogue.nobody []).1 ≠
        (((Profile.endpoint ⟨["https"]⟩).resolve homely).run
          (World.silent.listing (host "agent.example.com") records') Dialogue.nobody []).1) ∧
    ∃ records records', records.Perm records' ∧ ¬ ∃ looks,
      Looks [] (((Profile.endpoint ⟨["https"]⟩ ⟨some "page", none⟩).resolve homely).run
        (kindWorld.listing (host "agent.example.com") records) Dialogue.nobody []).2 looks ∧
      Looks [] (((Profile.endpoint ⟨["https"]⟩ ⟨some "page", none⟩).resolve homely).run
        (kindWorld.listing (host "agent.example.com") records') Dialogue.nobody []).2 looks := by
  constructor
  · refine ⟨barredRecords, barredRecords.reverse, (List.reverse_perm _).symm, fun hsame => ?_⟩
    have hfound := congrArg foundAt? hsame
    revert hfound
    decide +kernel
  · refine ⟨versionedRecords, versionedRecords.reverse, (List.reverse_perm _).symm, ?_⟩
    rintro ⟨looks, ⟨events, hevents, hlooks⟩, ⟨events', hevents', hlooks'⟩⟩
    rw [List.append_nil] at hevents hevents'
    have hseen := congrArg (List.map fun look : Look => look.request.record.version)
      (hlooks.trans hlooks'.symm)
    rw [← hevents, ← hevents'] at hseen
    revert hseen
    decide +kernel

end AgentId.Profile.Endpoint
