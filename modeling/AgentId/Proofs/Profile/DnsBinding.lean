/-
An agent is never found in DNS without a binding.

Whoever holds the name of a host can write what they like into its records, so what
matters is what the profile refuses.  A record that does not bind the identifier, field by
field, is not selected (`exists_select_iff`), and without a selected record nothing is
answered and nothing delegated, whatever the profiles would say that the work could go on
with.  A refusal tells the two ways apart in which this comes about: a record binds
another identifier, or none binds any.
-/
import AgentId.Profile.DnsBinding
import AgentId.Proofs.Record.Binding
import AgentId.Proofs.Resolution.Dialogue

namespace AgentId.Profile.DnsBinding

/-! ### What is selected -/

theorem find?_of_select_eq_ok {u : Uaid} {home : String} {records : List String} {b : Binding}
    (h : select u home records = .ok b) :
    (records.filterMap (Binding.ofText? home)).find? (·.text == Binding.expected u home) =
      some b := by
  simp only [select] at h
  split at h
  · cases h
  · split at h
    · rename_i binding hfind
      obtain rfl : binding = b := Except.ok.inj h
      exact hfind
    · split at h <;> cases h

theorem of_select_eq_ok {u : Uaid} {home : String} {records : List String} {b : Binding}
    (h : select u home records = .ok b) :
    ∃ record ∈ records,
      Binding.ofText? home record = some b ∧ b.text = Binding.expected u home := by
  have hfind := find?_of_select_eq_ok h
  have htext := List.find?_some hfind
  obtain ⟨record, hrecord, hb⟩ := List.mem_filterMap.mp (List.mem_of_find?_eq_some hfind)
  exact ⟨record, hrecord, hb, beq_iff_eq.mp htext⟩

/-- **A record is selected exactly when one binds the identifier.** -/
theorem exists_select_iff {s home : String} {u : Uaid} {records : List String}
    (parsed : Uaid.parse s = .ok u) :
    (∃ b, select u home records = .ok b) ↔
      ∃ record ∈ records, Binding.Binds u home (Fields.parse record) := by
  constructor
  · rintro ⟨b, hb⟩
    obtain ⟨record, hrecord, hbinding⟩ := of_select_eq_ok hb
    exact ⟨record, hrecord, (Binding.exists_binding_iff parsed).mp ⟨b, hbinding⟩⟩
  · rintro ⟨record, hrecord, hbinds⟩
    obtain ⟨b, hb, htext⟩ := (Binding.exists_binding_iff parsed).mpr hbinds
    have hmem : b ∈ records.filterMap (Binding.ofText? home) :=
      List.mem_filterMap.mpr ⟨record, hrecord, hb⟩
    have hsome : records.isEmpty = false := by
      cases records with
      | nil => cases hrecord
      | cons _ _ => rfl
    simp only [select, hsome]
    cases hfind : (records.filterMap (Binding.ofText? home)).find?
        (·.text == Binding.expected u home) with
    | some binding => exact ⟨binding, by simp⟩
    | none =>
        have hnot := List.find?_eq_none.mp hfind b hmem
        exact absurd (beq_iff_eq.mpr htext) hnot

/-- Records of which none binds the identifier are refused, and the code says whether one
of them binds any. -/
theorem select_of_unbound {s home : String} {u : Uaid} {records : List String}
    (parsed : Uaid.parse s = .ok u) (answered : records ≠ [])
    (unbound : ¬ ∃ record ∈ records, Binding.Binds u home (Fields.parse record)) :
    ∃ refusal, select u home records = .error refusal ∧
      ((∃ record ∈ records, Binding.Complete home (Fields.parse record)) →
        refusal.code = .uaidMismatch) ∧
      ((¬ ∃ record ∈ records, Binding.Complete home (Fields.parse record)) →
        refusal.code = .invalidDnsRecord) := by
  have hcomplete : (∃ record ∈ records, Binding.Complete home (Fields.parse record)) ↔
      records.filterMap (Binding.ofText? home) ≠ [] := by
    simp [← Binding.isSome_ofText?_iff, Option.isSome_iff_ne_none]
  rw [← exists_select_iff parsed] at unbound
  rw [hcomplete, not_not]
  simp only [select, List.isEmpty_eq_false_iff.mpr answered] at unbound ⊢
  cases hfind : (records.filterMap (Binding.ofText? home)).find?
      (·.text == Binding.expected u home) with
  | some binding => exact absurd ⟨binding, by simp [hfind]⟩ unbound
  | none =>
      by_cases hnone : records.filterMap (Binding.ofText? home) = []
      · simp [hnone]
      · simp [hnone]

/-! ### What is done with it -/

theorem followups_ne_nil (u : Uaid) : followups u ≠ [] := by
  unfold followups
  split
  · simp
  · split <;> simp

section
variable (config : DnsBindingConfig) (w : World) (perform : (d : Delegation) → Run d.Answer)
variable {past : History} {c : Context} {home : String} {records : List String}

/-- Following a list of profiles delegates to the first of them. -/
theorem delegations_follow (uaid : String) (soFar : Followup) {profiles : List String}
    (present : profiles ≠ []) (past : History) :
    (follow uaid soFar profiles).delegations w perform past ≠ [] := by
  cases profiles with
  | nil => exact absurd rfl present
  | cons profile rest =>
      simp [follow, Dialogue.attempt, Dialogue.delegations_bind, Dialogue.delegations_delegate]

/-- A refused selection is all there is. -/
theorem run_of_select_eq_error {refusal : Refusal} (atHome : c.parsed.home? = some home)
    (answered : w past (.txt (host home)) = .ok records)
    (refused : select c.parsed home records = .error refusal) :
    (((dnsBinding config).resolve c).run w perform past).1 =
        .ok (refusal.resolution id c.uaid) ∧
      ((dnsBinding config).resolve c).delegations w perform past = [] := by
  simp [dnsBinding, resolve, atHome, Dialogue.txt, Dialogue.run_bind, Dialogue.run_consult,
    Dialogue.delegations_bind, Dialogue.delegations_consult, answered, refused, settleRefusal]

/-- With a selection the work goes on, if it may. -/
theorem delegations_of_select_eq_ok {binding : Binding} (atHome : c.parsed.home? = some home)
    (answered : w past (.txt (host home)) = .ok records)
    (selected : select c.parsed home records = .ok binding)
    (enabled : config.enableFollowup = true) :
    ((dnsBinding config).resolve c).delegations w perform past ≠ [] := by
  have hfollow := delegations_follow w perform c.uaid .noneApplied (followups_ne_nil c.parsed)
    (.consulted (.txt (host home)) (.ok records) :: past)
  simp [dnsBinding, resolve, atHome, Dialogue.txt, Dialogue.run_consult,
    Dialogue.delegations_bind, Dialogue.delegations_consult, answered, selected, enabled, hfollow]

/-- Where it may not go on, the selection is all there is. -/
theorem run_of_select_eq_ok {binding : Binding} (atHome : c.parsed.home? = some home)
    (answered : w past (.txt (host home)) = .ok records)
    (selected : select c.parsed home records = .ok binding)
    (disabled : config.enableFollowup = false) :
    (((dnsBinding config).resolve c).run w perform past).1 =
      .ok (settleRefusal id c.uaid (conclude config c binding .noneApplied)) := by
  simp [dnsBinding, resolve, atHome, Dialogue.txt, Dialogue.run_bind, Dialogue.run_consult,
    answered, selected, disabled, follow]

/--
**Without a binding there is no answer.**  Let the host of an identifier answer with any
records.  Only if one of them binds the identifier does the profile resolve it, and only
then does it delegate anything, whatever comes of what it delegates.  If there are records
and none binds the identifier, the refusal says whether one of them binds another.

A binding is not refused either: the work goes on from it if that is enabled, and
otherwise it is the answer unless more is required.
-/
theorem requires_binding (parsed : Uaid.parse c.uaid = .ok c.parsed)
    (atHome : c.parsed.home? = some home)
    (answered : w past (.txt ("_uaid." ++ home)) = .ok records) :
    let work := (dnsBinding config).resolve c
    let bound := ∃ record ∈ records, Binding.Binds c.parsed home (Fields.parse record)
    let complete := ∃ record ∈ records, Binding.Complete home (Fields.parse record)
    let code? := (work.run w perform past).1.toOption.bind Resolution.code?
    (∀ found, (work.run w perform past).1 = .ok found → found.isResolved → bound) ∧
    (work.delegations w perform past ≠ [] → bound) ∧
    (¬ bound → records ≠ [] → complete → code? = some .uaidMismatch) ∧
    (¬ bound → records ≠ [] → ¬ complete → code? = some .invalidDnsRecord) ∧
    (bound → config.enableFollowup = true → work.delegations w perform past ≠ []) ∧
    (bound → config.enableFollowup = false → config.requireFull = true →
      code? = some .noFollowupProfile) ∧
    (bound → config.enableFollowup = false → config.requireFull = false →
      ∃ found, (work.run w perform past).1 = .ok found ∧ found.isResolved) := by
  intro work bound complete code?
  have hselect : (∃ b, select c.parsed home records = .ok b) ↔ bound := exists_select_iff parsed
  have hrefused : ¬ bound → ∃ refusal, select c.parsed home records = .error refusal := by
    intro hunbound
    cases hs : select c.parsed home records with
    | ok b => exact absurd (hselect.mp ⟨b, hs⟩) hunbound
    | error refusal => exact ⟨refusal, rfl⟩
  refine ⟨fun found hfound hresolved => ?_, fun hdelegated => ?_,
    fun hunbound hrecords hcomplete => ?_, fun hunbound hrecords hincomplete => ?_,
    fun hbound henabled => ?_, fun hbound hdisabled hfull => ?_,
    fun hbound hdisabled hnotfull => ?_⟩
  · by_contra hunbound
    obtain ⟨refusal, hrefusal⟩ := hrefused hunbound
    obtain ⟨hreply, -⟩ := run_of_select_eq_error config w perform atHome answered hrefusal
    obtain rfl : refusal.resolution id c.uaid = found := Except.ok.inj (hreply.symm.trans hfound)
    simp [Refusal.resolution, Resolution.refused, Resolution.isResolved] at hresolved
  · by_contra hunbound
    obtain ⟨refusal, hrefusal⟩ := hrefused hunbound
    exact hdelegated (run_of_select_eq_error config w perform atHome answered hrefusal).2
  · obtain ⟨refusal, hrefusal, hmismatch, -⟩ := select_of_unbound parsed hrecords hunbound
    obtain ⟨hreply, -⟩ := run_of_select_eq_error config w perform atHome answered hrefusal
    show (((dnsBinding config).resolve c).run w perform past).1.toOption.bind _ = _
    rw [hreply, ← hmismatch hcomplete]
    rfl
  · obtain ⟨refusal, hrefusal, -, hinvalid⟩ := select_of_unbound parsed hrecords hunbound
    obtain ⟨hreply, -⟩ := run_of_select_eq_error config w perform atHome answered hrefusal
    show (((dnsBinding config).resolve c).run w perform past).1.toOption.bind _ = _
    rw [hreply, ← hinvalid hincomplete]
    rfl
  · obtain ⟨b, hb⟩ := hselect.mpr hbound
    exact delegations_of_select_eq_ok config w perform atHome answered hb henabled
  · obtain ⟨b, hb⟩ := hselect.mpr hbound
    have hreply := run_of_select_eq_ok config w perform atHome answered hb hdisabled
    show (((dnsBinding config).resolve c).run w perform past).1.toOption.bind _ = _
    rw [hreply, conclude, hfull]
    rfl
  · obtain ⟨b, hb⟩ := hselect.mpr hbound
    have hreply := run_of_select_eq_ok config w perform atHome answered hb hdisabled
    refine ⟨_, hreply, ?_⟩
    rw [conclude, hnotfull]
    rfl

end

/-- An identifier whose agent has a percent sign in its name. -/
def percentAgent : Context where
  uaid := "uaid:aid:a%b;uid=0;proto=a2a;nativeId=Agent.Example.com."
  parsed := {
    target := .aid
    identifier := "a%b"
    params := .ofList [("uid", "0"), ("proto", "a2a"), ("nativeId", "Agent.Example.com.")] }
  did := none
  document := none

/-- A record that names the agent as if names were escaped. -/
def escapedRecord : String := "target=aid; id=a%25b; uid=0; proto=a2a; nativeId=agent.example.com"

/-- Everybody is told of the record, and nobody else answers. -/
def escapedWorld : World := fun _ c =>
  match c with
  | .txt _ => .ok [escapedRecord]
  | .http _ => .error (.http "no route")
  | .verify .. => .error (.verification "no verifier")

/-- The record binds an agent, but not this one. -/
theorem requires_binding_percentAgent :
    Uaid.parse percentAgent.uaid = .ok percentAgent.parsed ∧
    percentAgent.parsed.home? = some "agent.example.com" ∧
    escapedWorld [] (.txt "_uaid.agent.example.com") = .ok [escapedRecord] ∧
    (((dnsBinding {}).resolve percentAgent).run escapedWorld
        (fun _ past => (.error (.config "not asked"), past)) []).1.toOption.bind Resolution.code? =
      some .uaidMismatch := by
  have parsed : Uaid.parse percentAgent.uaid = .ok percentAgent.parsed := by decide +kernel
  have atHome : percentAgent.parsed.home? = some "agent.example.com" := by decide +kernel
  have unbound : ¬ ∃ record ∈ [escapedRecord],
      Binding.Binds percentAgent.parsed "agent.example.com" (Fields.parse record) := by
    rintro ⟨record, hrecord, hbinds⟩
    obtain rfl := List.mem_singleton.mp hrecord
    have hidentifier : (Fields.parse escapedRecord).get? "id" ≠ some "a%b" := by decide +kernel
    exact hidentifier hbinds.identifier
  have complete : ∃ record ∈ [escapedRecord],
      Binding.Complete "agent.example.com" (Fields.parse record) :=
    ⟨escapedRecord, List.mem_singleton.mpr rfl, Binding.isSome_ofText?_iff.mp (by decide +kernel)⟩
  exact ⟨parsed, atHome, rfl,
    (requires_binding {} escapedWorld _ parsed atHome rfl).2.2.1 unbound (by simp) complete⟩

end AgentId.Profile.DnsBinding
