/-
Where each part of an answer comes from.

What a profile finds is accepted if it resolves the identifier, and then it is the answer but
for what it leaves empty, which is taken from the DID that the identifier points at and from
the document of that DID.  `Merged` says part by part what the answer has from whom, so that
no list can be lost, doubled or made of both, and `SaidByDid` says what a DID and its document
say of an agent, without saying how it is put together.

Results are accepted in two ways: of the one profile that is asked for (`AcceptsNamed`), or of
the first of all profiles whose result can be (`AcceptsFirst`).  Either way the answer is merged
from the same two (`answers_merged`).
-/
import AgentId.Proofs.Resolution.Document
import AgentId.Proofs.Resolution.Spelling

namespace AgentId

namespace Resolution

/-! ### Names, each once -/

/-- Those of the names that are not empty, each once and in the order in which they first come. -/
structure FirstOccurrences (names kept : List String) : Prop where
  nodup : kept.Nodup
  mem_iff : ∀ name, name ∈ kept ↔ name ∈ names ∧ name ≠ ""
  order : kept.Pairwise fun a b => names.idxOf a < names.idxOf b

/-- One more name is kept if it is a new one. -/
theorem FirstOccurrences.append_singleton {names kept : List String}
    (h : FirstOccurrences names kept) (name : String) :
    FirstOccurrences (names ++ [name])
      (if name = "" ∨ name ∈ kept then kept else kept ++ [name]) := by
  have hmem : ∀ other ∈ kept, other ∈ names := fun other hother => ((h.mem_iff other).mp hother).1
  -- The names that are kept so far come where they came before.
  have horder : kept.Pairwise fun a b => (names ++ [name]).idxOf a < (names ++ [name]).idxOf b := by
    refine h.order.imp_of_mem fun ha hb hab => ?_
    rwa [List.idxOf_append_of_mem (hmem _ ha), List.idxOf_append_of_mem (hmem _ hb)]
  split
  · rename_i hknown
    refine ⟨h.nodup, fun other => ?_, horder⟩
    have hlast : other = name → other ≠ "" → other ∈ names := by
      rintro rfl hne
      exact hmem _ (hknown.resolve_left hne)
    rw [h.mem_iff, List.mem_append, List.mem_singleton]
    grind
  · rename_i hnew
    obtain ⟨hne, hnew⟩ := not_or.mp hnew
    have hfresh : name ∉ names := fun hname => hnew ((h.mem_iff name).mpr ⟨hname, hne⟩)
    refine ⟨?_, fun other => ?_, ?_⟩
    · exact List.nodup_append.mpr ⟨h.nodup, List.nodup_singleton name, by grind⟩
    · rw [List.mem_append, List.mem_append, h.mem_iff, List.mem_singleton]
      grind
    · refine List.pairwise_append.mpr ⟨horder, List.pairwise_singleton _ _, ?_⟩
      intro a ha b hb
      obtain rfl := List.mem_singleton.mp hb
      rw [List.idxOf_append_of_mem (hmem a ha), List.idxOf_append_of_notMem hfresh]
      exact Nat.lt_of_lt_of_le (List.idxOf_lt_length_of_mem (hmem a ha)) (Nat.le_add_right _ _)

/-- **Whatever the names, those that say something are kept, each where it first comes.** -/
theorem firstOccurrences_distinct (names : List String) :
    FirstOccurrences names (distinct names) := by
  have hrest : ∀ (rest before kept : List String), FirstOccurrences before kept →
      FirstOccurrences (before ++ rest) (rest.foldl
        (fun seen name => if name = "" ∨ name ∈ seen then seen else seen ++ [name]) kept) := by
    intro rest
    induction rest with
    | nil =>
        intro before kept h
        rwa [List.append_nil]
    | cons name rest ih =>
        intro before kept h
        rw [List.append_cons, List.foldl_cons]
        exact ih _ _ (h.append_singleton name)
  exact hrest names [] [] ⟨.nil, by simp, .nil⟩

/-! ### Filling up -/

/-- What is taken is one's own, or the other's if one has nothing. -/
def Prefers {α : Type} (nothing own other taken : α) : Prop :=
  (own ≠ nothing → taken = own) ∧ (own = nothing → taken = other)

theorem prefers_orElse {α : Type} (l other : List α) : Prefers [] l other (orElse l other) := by
  cases l with
  | nil => exact ⟨fun h => absurd rfl h, fun _ => rfl⟩
  | cons a rest => exact ⟨fun _ => rfl, nofun⟩

theorem prefers_or {α : Type} (a b : Option α) : Prefers none a b (a <|> b) := by
  cases a with
  | none => exact ⟨fun h => absurd rfl h, fun _ => rfl⟩
  | some a => exact ⟨fun _ => rfl, nofun⟩

/-- What is said of how an answer came about, but for the DID of the identifier. -/
def course (x : Resolution) : Provenance :=
  { x.metadata with baseDid := none, baseDidResolved := none }

/-- An answer has its parts from what was found, and those that are empty there from another. -/
structure Merged (found other x : Resolution) : Prop where
  id : x.id = found.id
  failure : x.failure = found.failure
  course : x.course = found.course
  did : Prefers none found.did other.did x.did
  alsoKnownAs : Prefers [] found.alsoKnownAs other.alsoKnownAs x.alsoKnownAs
  verificationMethod :
    Prefers [] found.verificationMethod other.verificationMethod x.verificationMethod
  authentication : Prefers [] found.authentication other.authentication x.authentication
  assertionMethod : Prefers [] found.assertionMethod other.assertionMethod x.assertionMethod
  service : Prefers [] found.service other.service x.service
  baseDid : Prefers none found.metadata.baseDid other.metadata.baseDid x.metadata.baseDid
  baseDidResolved : Prefers none found.metadata.baseDidResolved other.metadata.baseDidResolved
    x.metadata.baseDidResolved

theorem merged_filledFrom (found other : Resolution) :
    Merged found other (found.filledFrom other) where
  id := rfl
  failure := rfl
  course := rfl
  did := prefers_or _ _
  alsoKnownAs := prefers_orElse _ _
  verificationMethod := prefers_orElse _ _
  authentication := prefers_orElse _ _
  assertionMethod := prefers_orElse _ _
  service := prefers_orElse _ _
  baseDid := prefers_or _ _
  baseDidResolved := prefers_or _ _

/-! ### The DID and its document -/

/-- What the DID of an identifier and the document of this DID, where there are such, say of the
agent. -/
structure SaidByDid (uaid : String) (base : Option String) (document : Option DidDocument)
    (x : Resolution) : Prop where
  id : x.id = uaid
  failure : x.failure = none
  resolved : x.metadata.resolved = false
  course : x.course = {}
  did : x.did = base
  baseDid : x.metadata.baseDid = base
  baseDidResolved : x.metadata.baseDidResolved = base.map fun _ => document.isSome
  alsoKnownAs : FirstOccurrences
    (base.toList ++ (document.map (·.alsoKnownAs)).getD []) x.alsoKnownAs
  verificationMethod : x.verificationMethod = (document.map (·.verificationMethod)).getD []
  authentication : x.authentication = (document.map (·.authentication)).getD []
  assertionMethod : x.assertionMethod = (document.map (·.assertionMethod)).getD []
  service : x.service = ((document.map (·.service)).getD []).map fun s =>
    { s with source := some (s.source.getD "did-document") }

theorem saidByDid_fallback {c : Context} (distinct : c.Distinct) :
    SaidByDid c.uaid c.did c.document (fallback c) := by
  have hdid := filter_did_of_distinct distinct
  obtain ⟨uaid, parsed, base, document⟩ := c
  have hnames := firstOccurrences_distinct
    (base.toList ++ (document.map (·.alsoKnownAs)).getD [])
  unfold fallback
  cases document <;> exact
    { id := rfl, failure := rfl, resolved := rfl, course := rfl, did := hdid, baseDid := hdid
      baseDidResolved := congrArg (Option.map _) hdid
      alsoKnownAs := by rwa [hdid]
      verificationMethod := rfl, authentication := rfl, assertionMethod := rfl, service := rfl }

end Resolution

namespace Registry

/-! ### Results that are accepted -/

/-- A profile at work for the profiles above it. -/
def atWork (r : Registry) (w : World) (above : List String) (p : Profile) (place : Nat)
    (c : Context) : Run Resolution := fun past =>
  (p.resolve c).run w (r.perform w (p.id :: above)) (.invoked place p.id above c :: past)

/-- The profile of a name is none of those above and finds what resolves the identifier. -/
structure AcceptsNamed (r : Registry) (w : World) (above : List String) (id : String)
    (c : Context) (past : History) (found : Resolution) : Prop where
  new : id ∉ above
  finds : ∃ p place, r.profile? id = some (p, place) ∧
    (r.atWork w above p place c past).1 = .ok found
  resolved : found.isResolved

/-- The first of the profiles that both supports the identifier and finds what resolves it
finds this. -/
inductive AcceptsFirst (r : Registry) (w : World) (c : Context) :
    List (Profile × Nat) → History → Resolution → Prop where
  | accepted {p : Profile} {place : Nat} {rest : List (Profile × Nat)} {past : History}
      {found : Resolution} (supported : p.supports c.uaid c.parsed = true)
      (finds : (r.atWork w [] p place c past).1 = .ok found) (resolved : found.isResolved) :
      AcceptsFirst r w c ((p, place) :: rest) past found
  | rejected {p : Profile} {place : Nat} {rest : List (Profile × Nat)} {past : History}
      {found : Resolution} (supported : p.supports c.uaid c.parsed = true)
      (fails : ∀ other, (r.atWork w [] p place c past).1 = .ok other → ¬ other.isResolved)
      (later : AcceptsFirst r w c rest (r.atWork w [] p place c past).2 found) :
      AcceptsFirst r w c ((p, place) :: rest) past found
  | unsupported {p : Profile} {place : Nat} {rest : List (Profile × Nat)} {past : History}
      {found : Resolution} (unsupported : p.supports c.uaid c.parsed = false)
      (later : AcceptsFirst r w c rest past found) :
      AcceptsFirst r w c ((p, place) :: rest) past found

variable {r : Registry} {w : World} {c : Context} {past : History}

theorem settled_of_resolved {found : Resolution} (resolved : found.isResolved) :
    Resolution.settled c found = found.filledFrom (Resolution.fallback c) := by
  rw [Resolution.settled, if_pos resolved]

/-- **The answer of the profiles in turn is the first result that is accepted, filled up.** -/
theorem firstResolved_eq_some_iff {profiles : List (Profile × Nat)} {x : Resolution} :
    (r.firstResolved w c profiles past).1 = some x ↔ ∃ found,
      AcceptsFirst r w c profiles past found ∧
        x = found.filledFrom (Resolution.fallback c) := by
  induction profiles generalizing past with
  | nil =>
      refine iff_of_false nofun ?_
      rintro ⟨found, h, -⟩
      cases h
  | cons profile rest ih =>
      obtain ⟨p, place⟩ := profile
      cases hsupported : p.supports c.uaid c.parsed with
      | false =>
          rw [firstResolved_of_not_supports hsupported, ih]
          constructor
          · rintro ⟨found, h, hx⟩
            exact ⟨found, .unsupported hsupported h, hx⟩
          · rintro ⟨found, h, hx⟩
            cases h with
            | accepted supported _ _ => simp [supported] at hsupported
            | rejected supported _ _ => simp [supported] at hsupported
            | unsupported _ later => exact ⟨found, later, hx⟩
      | true =>
          rw [firstResolved, if_pos hsupported, invoke_eq]
          have hwork : (p.resolve c).run w (r.perform w [p.id])
              (.invoked place p.id [] c :: past) = r.atWork w [] p place c past := rfl
          simp only [hwork]
          cases hreply : (r.atWork w [] p place c past).1.toOption.filter (·.isResolved) with
          | some found =>
              obtain ⟨hfinds, hresolved⟩ := filter_isResolved_eq_some_iff.mp hreply
              simp only [settled_of_resolved hresolved, Option.some.injEq]
              constructor
              · exact fun hx => ⟨found, .accepted hsupported hfinds hresolved, hx.symm⟩
              · rintro ⟨other, h, rfl⟩
                cases h with
                | accepted _ finds _ => rw [Except.ok.inj (hfinds.symm.trans finds)]
                | rejected _ fails _ => exact absurd hresolved (fails found hfinds)
                | unsupported unsupported _ => simp [unsupported] at hsupported
          | none =>
              have hfails : ∀ other, (r.atWork w [] p place c past).1 = .ok other →
                  ¬ other.isResolved := by
                intro other hother hresolved
                have hsome := filter_isResolved_eq_some_iff.mpr ⟨hother, hresolved⟩
                rw [hreply] at hsome
                cases hsome
              rw [ih]
              constructor
              · rintro ⟨found, h, hx⟩
                exact ⟨found, .rejected hsupported hfails h, hx⟩
              · rintro ⟨found, h, hx⟩
                cases h with
                | accepted _ finds resolved => exact absurd resolved (hfails found finds)
                | rejected _ _ later => exact ⟨found, later, hx⟩
                | unsupported unsupported _ => simp [unsupported] at hsupported

/-- **The answer of a profile that is asked for resolves the identifier exactly if its result
is accepted, and then it is this result, filled up.** -/
theorem resolveFor_resolved_iff {above : List String} {id : String} {x : Resolution} :
    ((r.resolveFor w above id c past).1 = .ok x ∧ x.isResolved) ↔ ∃ found,
      AcceptsNamed r w above id c past found ∧
        x = found.filledFrom (Resolution.fallback c) := by
  by_cases hmem : id ∈ above
  · rw [resolveFor_of_mem hmem]
    refine iff_of_false ?_ ?_
    · rintro ⟨hx, hresolved⟩
      obtain rfl := Except.ok.inj hx
      cases hresolved
    · rintro ⟨found, h, -⟩
      exact h.new hmem
  · cases hprofile : r.profile? id with
    | none =>
        rw [resolveFor_of_profile?_eq_none hmem hprofile]
        refine iff_of_false ?_ ?_
        · rintro ⟨hx, hresolved⟩
          obtain rfl := Except.ok.inj hx
          cases hresolved
        · rintro ⟨found, h, -⟩
          obtain ⟨p, place, hsome, -⟩ := h.finds
          rw [hprofile] at hsome
          cases hsome
    | some entry =>
        obtain ⟨p, place⟩ := entry
        obtain rfl := profile?_id hprofile
        rw [resolveFor_of_profile?_eq_some hmem hprofile, ← filter_isResolved_eq_some_iff,
          toOption_map_settled, Option.map_eq_some_iff]
        constructor
        · rintro ⟨found, hfound, rfl⟩
          obtain ⟨hfinds, hresolved⟩ := filter_isResolved_eq_some_iff.mp hfound
          exact ⟨found, ⟨hmem, ⟨p, place, hprofile, hfinds⟩, hresolved⟩,
            settled_of_resolved hresolved⟩
        · rintro ⟨found, ⟨-, ⟨q, place', hsome, hfinds⟩, hresolved⟩, rfl⟩
          obtain ⟨rfl, rfl⟩ := Prod.mk.inj (Option.some.inj (hprofile.symm.trans hsome))
          exact ⟨found, filter_isResolved_eq_some_iff.mpr ⟨hfinds, hresolved⟩,
            settled_of_resolved hresolved⟩

/-- What is known of an identifier: its DID, and the document that there is of it. -/
theorem contextOf_eq (r : Registry) (uaid : String) (parsed : Uaid) (past : History) :
    r.contextOf uaid parsed past = {
      uaid, parsed, did := parsed.baseDid?
      document := parsed.baseDid?.bind fun did => (r.didReply past did).toOption.join } := by
  unfold contextOf documentOf
  cases parsed.baseDid? with
  | none => rfl
  | some did =>
      simp only [← resolveDid_reply]
      rfl

/-! ### The answer -/

/--
**An accepted result is the answer, and what it leaves empty is what the DID and its document
say.**  Let a text be an identifier, and let the profiles and the resolvers be whatever they are.
What the DID that it points at and the document of this DID say of the agent is then settled
before any profile goes to work.

* When a profile is asked for, by whomever, and its result is accepted, there is an answer, and
  it is made of this result and of what the DID and its document say, each part from one of the
  two.  No other answer resolves the identifier.
* When all profiles are tried, the same holds of the first result that is accepted.  If there is
  none, the answer for an identifier of a DID is what the DID and its document say, and for any
  other one that nothing was found.
-/
theorem answers_merged (r : Registry) (w : World) {uaid : String} {parsed : Uaid}
    (hparse : Uaid.parse uaid = .ok parsed) (past : History) :
    let document := parsed.baseDid?.bind fun did => (r.didReply past did).toOption.join
    let c : Context := { uaid, parsed, did := parsed.baseDid?, document }
    let start := (r.documentOf parsed.baseDid? past).2
    ∃ said, Resolution.SaidByDid uaid parsed.baseDid? document said ∧
      (∀ above id found, r.AcceptsNamed w above id c start found →
        ∃ x, (r.delegated w above uaid id past).1 = .ok x ∧ Resolution.Merged found said x) ∧
      (∀ above id x, (r.delegated w above uaid id past).1 = .ok x → x.isResolved →
        ∃ found, r.AcceptsNamed w above id c start found) ∧
      (∀ found, r.AcceptsFirst w c r.profiles.zipIdx start found →
        ∃ x, (r.resolve w uaid past).1 = .ok x ∧ Resolution.Merged found said x) ∧
      ((∀ found, ¬ r.AcceptsFirst w c r.profiles.zipIdx start found) →
        (r.resolve w uaid past).1 =
          .ok (if parsed.target = .did then said else .unresolved uaid)) := by
  intro document c start
  have hc : r.contextOf uaid parsed past = c := contextOf_eq r uaid parsed past
  have hdistinct : c.Distinct := hc ▸ contextOf_distinct hparse r past
  have hdelegated (above : List String) (id : String) :
      r.delegated w above uaid id past = r.resolveFor w above id c start := by
    rw [delegated, knowing_of_ok hparse, hc]
  have hresolve : (r.resolve w uaid past).1 =
      .ok ((r.firstResolved w c r.profiles.zipIdx start).1.getD (unsolved c)) := by
    rw [resolve_of_ok hparse, hc]
  refine ⟨Resolution.fallback c, Resolution.saidByDid_fallback hdistinct, ?_, ?_, ?_, ?_⟩
  · intro above id found haccepts
    rw [hdelegated]
    obtain ⟨hx, -⟩ := resolveFor_resolved_iff.mpr ⟨found, haccepts, rfl⟩
    exact ⟨_, hx, Resolution.merged_filledFrom found _⟩
  · intro above id x hx hresolved
    rw [hdelegated] at hx
    obtain ⟨found, haccepts, -⟩ := resolveFor_resolved_iff.mp ⟨hx, hresolved⟩
    exact ⟨found, haccepts⟩
  · intro found haccepts
    rw [hresolve, firstResolved_eq_some_iff.mpr ⟨found, haccepts, rfl⟩]
    exact ⟨_, rfl, Resolution.merged_filledFrom found _⟩
  · intro hnone
    have hfirst : (r.firstResolved w c r.profiles.zipIdx start).1 = none := by
      refine Option.eq_none_iff_forall_ne_some.mpr fun x hx => ?_
      obtain ⟨found, haccepts, -⟩ := firstResolved_eq_some_iff.mp hx
      exact hnone found haccepts
    rw [hresolve, hfirst, Option.getD_none]
    unfold unsolved
    show _ = Except.ok (if c.parsed.target = .did then _ else _)
    cases c.parsed.target <;> rfl

/-- A registry with a profile that knows a name of every agent, and nothing else. -/
def namingRegistry : Registry :=
  { Profile.BaseDid.movedRegistry with
    profiles := [{
      id := "names"
      supports := fun _ _ => true
      resolve := fun c => return {
        id := c.uaid
        alsoKnownAs := ["helpdesk"]
        metadata := { resolved := true } } }] }

/-- The name is the profile's, and the key is the document's. -/
theorem answers_merged_namingRegistry :
    let uaid := "uaid:did:testnet:0.0.5;proto=a2a;nativeId=agent.example.com"
    Uaid.parse uaid = .ok Profile.BaseDid.ledgerAgent ∧
    ∃ x, (namingRegistry.resolve World.silent uaid []).1 = .ok x ∧
      x.alsoKnownAs = ["helpdesk"] ∧
      x.authentication = ["did:web:agent.example.com#key"] ∧
      x.did = some "did:hedera:testnet:0.0.5" ∧
      x.metadata.baseDidResolved = some true := by
  intro uaid
  have hparse : Uaid.parse uaid = .ok Profile.BaseDid.ledgerAgent := by decide +kernel
  have hbase : Profile.BaseDid.ledgerAgent.baseDid? = some "did:hedera:testnet:0.0.5" := by
    decide +kernel
  have hreply : namingRegistry.didReply [] "did:hedera:testnet:0.0.5" =
      .ok (some Profile.BaseDid.movedDocument) := by
    simp [didReply, namingRegistry, Profile.BaseDid.movedRegistry]
  obtain ⟨said, hsaid, -, -, hfirst, -⟩ := answers_merged namingRegistry World.silent hparse []
  obtain ⟨x, hx, merged⟩ := hfirst _ (.accepted rfl rfl rfl)
  rw [hbase, Option.bind_some, hreply] at hsaid
  refine ⟨hparse, x, hx, merged.alsoKnownAs.1 (by simp), ?_, ?_, ?_⟩
  · exact (merged.authentication.2 rfl).trans hsaid.authentication
  · exact (merged.did.2 rfl).trans hsaid.did
  · exact (merged.baseDidResolved.2 rfl).trans hsaid.baseDidResolved

end Registry

end AgentId
