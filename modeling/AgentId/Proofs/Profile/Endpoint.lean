/-
What is verified is what is answered.

Of the records of a host one is taken, and the verifiers look at it before it becomes the
answer.  Who looked at what is read from the history (`Looks`), not from the answer, so
that the two can be held against each other: the record that everybody looked at is the
one that the answer carries, and the level of the answer says who looked
(`resolves_least_inspected`).

A verifier that is configured is asked, and the first one that does not approve ends the
matter.  `Inspects` is this rule, for the record and the looks that were taken at it.
-/
import AgentId.Profile.Endpoint
import AgentId.Proofs.Profile.Refusal
import AgentId.Proofs.Record.Agent

namespace AgentId.Profile.Endpoint

/-! ### Looks -/

/-- A verifier looks at a record. -/
structure Look where
  verifier : String
  stage : VerificationStage
  request : VerificationRequest
  reply : Except Fault Bool

/-- The look that an event is. -/
def look? : Event → Option Look
  | .consulted (.verify verifier stage request) reply => some { verifier, stage, request, reply }
  | _ => none

/-- The later history goes on from the past with these looks, in this order. -/
def Looks (past later : History) (looks : List Look) : Prop :=
  ∃ events, later = events ++ past ∧ (events.filterMap look?).reverse = looks

theorem Looks.none (past : History) : Looks past past [] :=
  ⟨[], rfl, rfl⟩

theorem Looks.trans {past later latest : History} {looks looks' : List Look}
    (h : Looks past later looks) (h' : Looks later latest looks') :
    Looks past latest (looks ++ looks') := by
  obtain ⟨events, rfl, rfl⟩ := h
  obtain ⟨events', rfl, rfl⟩ := h'
  refine ⟨events' ++ events, (List.append_assoc ..).symm, ?_⟩
  rw [List.filterMap_append, List.reverse_append]

/-- Reading the records of a host is no look. -/
theorem looks_txt (host : String) (reply : Except Fault (List String)) (past : History) :
    Looks past (.consulted (.txt host) reply :: past) [] :=
  ⟨[.consulted (.txt host) reply], rfl, rfl⟩

/-! ### The rule -/

/-- The verifier of keys has its turn: there is a key, and the verifier of metadata, if there
is one, has approved. -/
def KeyDue (r : AgentRecord) (looks : List Look) : Prop :=
  r.publicKey.isSome ∧ ∀ look ∈ looks, look.stage = .metadata → look.reply = .ok true

/-- The looks that the configured verifiers take at a record.  They are shown the record and for
which identifier it is.  Each of the two looks once at most, the one for metadata first; it
always does, and the one for keys when it has its turn. -/
structure Inspects (v : Verifiers) (uaid : String) (r : AgentRecord) (looks : List Look) :
    Prop where
  same : ∀ look ∈ looks,
    look.request = { uaid, protocol := r.protocol, endpoint := r.endpoint, record := r }
  metadata : (looks.filter (·.stage = .metadata)).map (·.verifier) = v.metadata.toList
  due : KeyDue r looks →
    (looks.filter (·.stage = .cryptographic)).map (·.verifier) = v.cryptographic.toList
  undue : ¬ KeyDue r looks → looks.filter (·.stage = .cryptographic) = []
  ordered : looks.Pairwise fun a b => a.stage = .metadata ∧ b.stage = .cryptographic

/-- An answer carries the protocol, the endpoint and the key of a record. -/
structure Carries (result : Resolution) (r : AgentRecord) : Prop where
  protocol : result.metadata.protocol = some r.protocol
  endpoint : result.metadata.endpoint = some r.endpoint
  service : result.service.map (fun s => (s.kind, s.endpoint)) = [(r.protocol, r.endpoint)]
  key : result.verificationMethod.map (·.publicKeyMultibase) = r.publicKey.toList.map some

theorem carries_found (uaid : String) (r : AgentRecord) (level : VerificationLevel) :
    Carries (found uaid r level) r where
  protocol := rfl
  endpoint := rfl
  service := rfl
  key := List.map_map

/-! ### One verifier -/

/-- The looks of one verifier, if there is one, and what they come to. -/
structure LooksOf (verifier : Option String) (stage : VerificationStage) (uaid : String)
    (r : AgentRecord) (past : History) (answer : Except Fault Bool × History)
    (looks : List Look) : Prop where
  history : Looks past answer.2 looks
  named : looks.map (·.verifier) = verifier.toList
  staged : ∀ look ∈ looks, look.stage = stage
  same : ∀ look ∈ looks,
    look.request = { uaid, protocol := r.protocol, endpoint := r.endpoint, record := r }
  approved : answer.1 = .ok true ↔ ∀ look ∈ looks, look.reply = .ok true

theorem exists_looksOf (w : World) (perform : (d : Delegation) → Run d.Answer)
    (verifier : Option String) (stage : VerificationStage) (uaid : String) (r : AgentRecord)
    (past : History) :
    ∃ looks, LooksOf verifier stage uaid r past
      ((approves verifier stage uaid r).run w perform past) looks := by
  cases verifier with
  | none =>
      refine ⟨[], Looks.none past, rfl, ?_, ?_, iff_of_true rfl ?_⟩
      · simp
      · simp
      · simp
  | some name =>
      let c : Consultation := .verify name stage (request uaid r)
      refine ⟨[{ verifier := name, stage, request := request uaid r, reply := w past c }],
        ⟨[.consulted c (w past c)], rfl, rfl⟩, rfl, ?_, ?_, ?_⟩
      · simp
      · exact List.forall_mem_singleton.mpr rfl
      · rw [List.forall_mem_singleton]
        rfl

section
variable {verifier : Option String} {stage other : VerificationStage} {uaid : String}
variable {r : AgentRecord} {past : History} {answer : Except Fault Bool × History}
variable {looks : List Look}

/-- One verifier looks once at most. -/
theorem LooksOf.pairwise (h : LooksOf verifier stage uaid r past answer looks)
    (p : Look → Look → Prop) : looks.Pairwise p := by
  have hlength : looks.length ≤ 1 := by
    rw [← List.length_map, h.named]
    exact Option.length_toList_le
  rw [List.pairwise_iff_getElem]
  intro i j _ hj hlt
  omega

theorem LooksOf.filter_eq_self (h : LooksOf verifier stage uaid r past answer looks) :
    looks.filter (·.stage = stage) = looks := by
  rw [List.filter_eq_self]
  intro look hlook
  exact decide_eq_true (h.staged look hlook)

theorem LooksOf.filter_eq_nil (h : LooksOf verifier stage uaid r past answer looks)
    (hother : stage ≠ other) : looks.filter (·.stage = other) = [] := by
  rw [List.filter_eq_nil_iff]
  intro look hlook
  rw [h.staged look hlook, decide_eq_true_iff]
  exact hother

end

/-! ### Both verifiers -/

/-- The first verifier does not approve. -/
theorem inspects_of_disapproved {v : Verifiers} {uaid : String} {r : AgentRecord} {past : History}
    {answer : Except Fault Bool × History} {looks : List Look}
    (h : LooksOf v.metadata .metadata uaid r past answer looks)
    (disapproved : answer.1 ≠ .ok true) :
    Inspects v uaid r looks where
  same := h.same
  metadata := by
    rw [h.filter_eq_self]
    exact h.named
  due := by
    rintro ⟨-, hall⟩
    refine absurd (h.approved.mpr ?_) disapproved
    intro look hlook
    exact hall look hlook (h.staged look hlook)
  undue := by
    intro _
    exact h.filter_eq_nil (by decide)
  ordered := h.pairwise _

/-- The first verifier approves, or there is none. -/
theorem inspects_of_approved {v : Verifiers} {uaid : String} {r : AgentRecord}
    {past later : History} {answer answer' : Except Fault Bool × History} {looks looks' : List Look}
    (h : LooksOf v.metadata .metadata uaid r past answer looks) (approved : answer.1 = .ok true)
    (h' : LooksOf (keyVerifier v r) .cryptographic uaid r later answer' looks') :
    Inspects v uaid r (looks ++ looks') where
  same := List.forall_mem_append.mpr ⟨h.same, h'.same⟩
  metadata := by
    rw [List.filter_append, h.filter_eq_self, h'.filter_eq_nil (by decide), List.append_nil]
    exact h.named
  due := by
    rintro ⟨hkey, -⟩
    rw [List.filter_append, h.filter_eq_nil (by decide), h'.filter_eq_self, List.nil_append,
      h'.named]
    unfold keyVerifier
    rw [if_pos hkey]
  undue := by
    intro hundue
    -- Only for want of a key, for the verifier of metadata has approved.
    have hkey : ¬ r.publicKey.isSome = true := by
      intro hkey
      refine hundue ⟨hkey, ?_⟩
      intro look hlook hstage
      rcases List.mem_append.mp hlook with hlook | hlook
      · exact h.approved.mp approved look hlook
      · rw [h'.staged look hlook] at hstage
        cases hstage
    have hnobody := h'.named
    unfold keyVerifier at hnobody
    rw [if_neg hkey] at hnobody
    rw [List.filter_append, h.filter_eq_nil (by decide), h'.filter_eq_self, List.nil_append]
    exact List.map_eq_nil_iff.mp hnobody
  ordered := by
    refine List.pairwise_append.mpr ⟨h.pairwise _, h'.pairwise _, ?_⟩
    intro a ha b hb
    exact ⟨h.staged a ha, h'.staged b hb⟩

/-- **A record that is taken is inspected**, and it is the answer exactly if all who look
approve. -/
theorem run_verified (w : World) (perform : (d : Delegation) → Run d.Answer) (v : Verifiers)
    (uaid : String) (r : AgentRecord) (past : History) :
    ∃ looks, Looks past ((verified v uaid r).run w perform past).2 looks ∧
      Inspects v uaid r looks ∧
      ((∀ look ∈ looks, look.reply = .ok true) →
        ((verified v uaid r).run w perform past).1 = .ok (.ok (found uaid r (level v r)))) ∧
      ∀ result, ((verified v uaid r).run w perform past).1 = .ok (.ok result) →
        ∀ look ∈ looks, look.reply = .ok true := by
  obtain ⟨looks, h⟩ := exists_looksOf w perform v.metadata .metadata uaid r past
  unfold verified
  rw [Dialogue.run_bind]
  generalize (approves v.metadata .metadata uaid r).run w perform past = answer at h ⊢
  obtain ⟨reply, later⟩ := answer
  match reply with
  | .error fault =>
      refine ⟨looks, h.history, inspects_of_disapproved h ?_, ?_, ?_⟩
      · simp
      · intro hall
        cases h.approved.mpr hall
      · intro result hresult
        cases hresult
  | .ok false =>
      refine ⟨looks, h.history, inspects_of_disapproved h ?_, ?_, ?_⟩
      · simp
      · intro hall
        cases h.approved.mpr hall
      · intro result hresult
        cases hresult
  | .ok true =>
      obtain ⟨looks', h'⟩ := exists_looksOf w perform (keyVerifier v r)
        .cryptographic uaid r later
      have hinspects := inspects_of_approved h rfl h'
      simp only [if_true, Dialogue.run_bind]
      generalize (approves (keyVerifier v r) .cryptographic uaid r).run w perform later = answer
        at h' ⊢
      obtain ⟨reply', latest⟩ := answer
      refine ⟨looks ++ looks', ?_, hinspects, ?_, ?_⟩
      · match reply' with
        | .error fault => exact h.history.trans h'.history
        | .ok false => exact h.history.trans h'.history
        | .ok true => exact h.history.trans h'.history
      · intro hall
        obtain rfl : reply' = .ok true :=
          h'.approved.mpr (List.forall_mem_append.mp hall).2
        rfl
      · intro result hresult
        refine List.forall_mem_append.mpr ⟨h.approved.mp rfl, h'.approved.mp ?_⟩
        match reply', hresult with
        | .ok true, _ => rfl

/-! ### The level -/

/-- The verifier of keys looked at the key of a record and approved. -/
def KeyApproved (v : Verifiers) (r : AgentRecord) (looks : List Look) : Prop :=
  v.cryptographic.isSome ∧ r.publicKey.isSome ∧
    ∃ look ∈ looks, look.stage = .cryptographic ∧ look.reply = .ok true

/-- The verifier of metadata looked and approved. -/
def MetadataApproved (v : Verifiers) (looks : List Look) : Prop :=
  v.metadata.isSome ∧ ∃ look ∈ looks, look.stage = .metadata ∧ look.reply = .ok true

/-- A level says who approved. -/
structure Levels (level : VerificationLevel) (v : Verifiers) (r : AgentRecord)
    (looks : List Look) : Prop where
  cryptographic : level = .cryptographic ↔ KeyApproved v r looks
  metadata : level = .metadata ↔ ¬ KeyApproved v r looks ∧ MetadataApproved v looks
  none : level = .none ↔ looks = []

theorem keyVerifier_isSome_iff {v : Verifiers} {r : AgentRecord} :
    (keyVerifier v r).isSome ↔ v.cryptographic.isSome ∧ r.publicKey.isSome := by
  unfold keyVerifier
  by_cases hkey : r.publicKey.isSome = true
  · simp [hkey]
  · simp [hkey]

theorem level_eq_iff (v : Verifiers) (r : AgentRecord) :
    (level v r = .cryptographic ↔ (keyVerifier v r).isSome) ∧
    (level v r = .metadata ↔ ¬ (keyVerifier v r).isSome ∧ v.metadata.isSome) ∧
    (level v r = .none ↔ ¬ (keyVerifier v r).isSome ∧ ¬ v.metadata.isSome) := by
  unfold level
  by_cases hkey : (keyVerifier v r).isSome = true
  · simp [hkey]
  · by_cases hmetadata : v.metadata.isSome = true
    · simp [hkey, hmetadata]
    · simp [hkey, hmetadata]

theorem exists_look_iff {looks : List Look} {stage : VerificationStage} {verifier : Option String}
    (h : (looks.filter (·.stage = stage)).map (·.verifier) = verifier.toList) :
    (∃ look ∈ looks, look.stage = stage) ↔ verifier.isSome := by
  cases verifier with
  | none =>
      refine iff_of_false ?_ (by simp)
      rintro ⟨look, hlook, hstage⟩
      exact List.filter_eq_nil_iff.mp (List.map_eq_nil_iff.mp h) look hlook
        (decide_eq_true hstage)
  | some name =>
      refine iff_of_true ?_ rfl
      have hname : name ∈ (looks.filter (·.stage = stage)).map (·.verifier) := by
        rw [h]
        exact List.mem_singleton.mpr rfl
      obtain ⟨look, hlook, -⟩ := List.mem_map.mp hname
      obtain ⟨hmem, hstage⟩ := List.mem_filter.mp hlook
      exact ⟨look, hmem, of_decide_eq_true hstage⟩

/-- **When all approve, the level says who did.** -/
theorem levels_level {v : Verifiers} {uaid : String} {r : AgentRecord} {looks : List Look}
    (h : Inspects v uaid r looks) (approved : ∀ look ∈ looks, look.reply = .ok true) :
    Levels (level v r) v r looks := by
  have happroved : ∀ stage, (∃ look ∈ looks, look.stage = stage ∧ look.reply = .ok true) ↔
      ∃ look ∈ looks, look.stage = stage := by
    intro stage
    constructor
    · rintro ⟨look, hlook, hstage, -⟩
      exact ⟨look, hlook, hstage⟩
    · rintro ⟨look, hlook, hstage⟩
      exact ⟨look, hlook, hstage, approved look hlook⟩
  have hmetadata : (∃ look ∈ looks, look.stage = .metadata) ↔ v.metadata.isSome :=
    exists_look_iff h.metadata
  have hkey : (∃ look ∈ looks, look.stage = .cryptographic) ↔ (keyVerifier v r).isSome := by
    rw [keyVerifier_isSome_iff]
    by_cases hpublic : r.publicKey.isSome = true
    · rw [exists_look_iff (h.due ⟨hpublic, fun look hlook _ => approved look hlook⟩)]
      simp [hpublic]
    · refine iff_of_false ?_ fun hboth => hpublic hboth.2
      rintro ⟨look, hlook, hstage⟩
      exact List.filter_eq_nil_iff.mp (h.undue fun hdue => hpublic hdue.1) look hlook
        (decide_eq_true hstage)
  have hnobody : looks = [] ↔ (¬ ∃ look ∈ looks, look.stage = .cryptographic) ∧
      ¬ ∃ look ∈ looks, look.stage = .metadata := by
    constructor
    · rintro rfl
      simp
    · rintro ⟨hno, hno'⟩
      rw [List.eq_nil_iff_forall_not_mem]
      intro look hlook
      cases hstage : look.stage with
      | cryptographic => exact hno ⟨look, hlook, hstage⟩
      | metadata => exact hno' ⟨look, hlook, hstage⟩
  have hkeyApproved : KeyApproved v r looks ↔ (keyVerifier v r).isSome := by
    unfold KeyApproved
    rw [happroved, hkey, ← and_assoc, ← keyVerifier_isSome_iff, and_self_iff]
  have hmetadataApproved : MetadataApproved v looks ↔ v.metadata.isSome := by
    unfold MetadataApproved
    rw [happroved, hmetadata, and_self_iff]
  obtain ⟨hcryptographic, hmiddle, hnone⟩ := level_eq_iff v r
  constructor
  · rw [hcryptographic, hkeyApproved]
  · rw [hmiddle, hkeyApproved, hmetadataApproved]
  · rw [hnone, hnobody, hkey, hmetadata]

/-! ### The record that is taken -/

section
variable {schemes : SchemesConfig} {records : List String}

/-- Without a record that names an endpoint there is nothing to take. -/
theorem select_of_unlisted (home : String) (h : ∀ r, ¬ AgentRecord.Listed schemes records r) :
    ∃ refusal, select schemes home records = .error refusal := by
  unfold select
  by_cases hrecords : records.isEmpty = true
  · rw [if_pos hrecords]
    exact ⟨_, rfl⟩
  · rw [if_neg hrecords, AgentRecord.filterMap_ofText?_eq_nil_iff.mpr h]
    exact ⟨_, rfl⟩

/-- Of the records that name an endpoint one is taken that none of them precedes. -/
theorem select_of_listed (home : String) (h : ∃ r, AgentRecord.Listed schemes records r) :
    ∃ r, select schemes home records = .ok r ∧ AgentRecord.Listed schemes records r ∧
      ∀ other, AgentRecord.Listed schemes records other → ¬ other.Precedes r := by
  obtain ⟨r, hr⟩ := h
  have hrecords : ¬ records.isEmpty = true := by
    intro hempty
    obtain ⟨text, htext, -⟩ := hr
    rw [List.isEmpty_iff.mp hempty] at htext
    cases htext
  cases hleast : leastBy? AgentRecord.orderKey
      (records.filterMap (AgentRecord.ofText? schemes)) with
  | none =>
      have hnone := AgentRecord.filterMap_ofText?_eq_nil_iff.mp (leastBy?_eq_none_iff.mp hleast)
      exact absurd hr (hnone r)
  | some taken =>
      refine ⟨taken, ?_, AgentRecord.mem_filterMap_ofText?_iff.mp (leastBy?_mem hleast), ?_⟩
      · unfold select
        rw [if_neg hrecords, hleast]
      · intro other hother
        rw [AgentRecord.precedes_iff]
        exact leastBy?_le hleast (AgentRecord.mem_filterMap_ofText?_iff.mpr hother)

end

/-! ### The profile -/

section
variable {schemes : SchemesConfig} {v : Verifiers} {w : World}
variable {perform : (d : Delegation) → Run d.Answer} {past : History} {c : Context}

/-- With the records of the host, what is left is to inspect the one that is taken. -/
theorem run_of_answered {home : String} {records : List String}
    (atHome : home? c.parsed = some home)
    (answered : w past (.txt (host home)) = .ok records) :
    (resolve schemes v c).run w perform past =
      match select schemes home records with
      | .error refusal =>
          (.ok (.error refusal), .consulted (.txt (host home)) (.ok records) :: past)
      | .ok r => (verified v c.uaid r).run w perform
          (.consulted (.txt (host home)) (.ok records) :: past) := by
  unfold resolve
  simp only [atHome, Dialogue.txt, Dialogue.run_bind, Dialogue.run_consult, answered,
    Dialogue.run_outcome]
  cases select schemes home records <;> rfl

/-- Without the records of the host nothing is resolved. -/
theorem exists_answered {result : Resolution}
    (h : ((resolve schemes v c).run w perform past).1 = .ok (.ok result)) :
    ∃ home records, home? c.parsed = some home ∧ w past (.txt (host home)) = .ok records := by
  unfold resolve at h
  cases hhome : home? c.parsed with
  | none => simp [hhome] at h
  | some home =>
      cases hrecords : w past (.txt (host home)) with
      | error fault =>
          simp [hhome, Dialogue.txt, Dialogue.run_bind, Dialogue.run_consult, hrecords] at h
      | ok records => exact ⟨home, records, rfl, hrecords⟩

/-- What is found once the host has answered, and the looks that are taken on the way. -/
theorem run_resolve (schemes : SchemesConfig) (v : Verifiers)
    (perform : (d : Delegation) → Run d.Answer) {home : String} {records : List String}
    (atHome : home? c.parsed = some home)
    (answered : w past (.txt (host home)) = .ok records) :
    let answer := (resolve schemes v c).run w perform past
    ∃ looks, Looks past answer.2 looks ∧
      ((∀ r, ¬ AgentRecord.Listed schemes records r) →
        looks = [] ∧ ∀ result, answer.1 ≠ .ok (.ok result)) ∧
      ((∃ r, AgentRecord.Listed schemes records r) →
        ∃ r, AgentRecord.Listed schemes records r ∧
          (∀ other, AgentRecord.Listed schemes records other → ¬ other.Precedes r) ∧
          Inspects v c.uaid r looks ∧
          ((∀ look ∈ looks, look.reply = .ok true) →
            answer.1 = .ok (.ok (found c.uaid r (level v r)))) ∧
          ∀ result, answer.1 = .ok (.ok result) → ∀ look ∈ looks, look.reply = .ok true) := by
  intro answer
  have hanswer : answer = _ := run_of_answered atHome answered
  have hread := looks_txt (host home) (.ok records) past
  by_cases hlisted : ∃ r, AgentRecord.Listed schemes records r
  · obtain ⟨r, hselect, hmem, hleast⟩ := select_of_listed home hlisted
    obtain ⟨looks, hlooks, hinspects, hok, happroved⟩ := run_verified w perform v c.uaid r
      (.consulted (.txt (host home)) (.ok records) :: past)
    have hverified : answer = (verified v c.uaid r).run w perform
        (.consulted (.txt (host home)) (.ok records) :: past) := by
      rw [hanswer, hselect]
    rw [← hverified] at hlooks hok happroved
    refine ⟨looks, hread.trans hlooks, fun hnone => absurd hmem (hnone r), fun _ => ?_⟩
    exact ⟨r, hmem, hleast, hinspects, hok, happroved⟩
  · obtain ⟨refusal, hrefused⟩ := select_of_unlisted home (not_exists.mp hlisted)
    rw [hrefused] at hanswer
    refine ⟨[], ?_, ?_, fun hsome => absurd hsome hlisted⟩
    · rw [hanswer]
      exact hread
    · intro _
      refine ⟨rfl, ?_⟩
      intro result hresult
      rw [hanswer] at hresult
      cases hresult

end

/-- An agent with an endpoint. -/
def homely : Context where
  uaid := "uaid:aid:abc;proto=a2a;nativeId=agent.example.com"
  parsed := {
    target := .aid
    identifier := "abc"
    params := .ofList [("proto", "a2a"), ("nativeId", "agent.example.com")] }
  did := none
  document := none

/-- Two records, one of them with a key, and verifiers that approve of everything. -/
def kindWorld : World := fun _ c =>
  match c with
  | .txt _ => .ok ["v=aid1; p=mcp; u=https://agent.example.com/mcp",
      "v=aid1; p=a2a; u=https://agent.example.com/a2a; k=z6Mk"]
  | .http _ => .error (.http "no route")
  | .verify .. => .ok true

end AgentId.Profile.Endpoint
