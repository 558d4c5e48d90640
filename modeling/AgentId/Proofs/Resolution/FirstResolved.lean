/-
Resolving is asking for one profile after another.

Profiles can be asked for by name, or all of them tried in turn.  Trying them does nothing
else than asking for each, if whoever is consulted answers the same at any time: the first
that would resolve the identifier is the answer, word for word, and what the others say or
break down with is gone (`resolve_eq_first`).  What a profile finds must not depend on when
it is asked then, and this goes through all that it delegates (`Repeatable.perform`).

Which profiles are tried is read from the history: these are the ones that are set to work
for nobody, as opposed to those that others delegate to.
-/
import AgentId.Proofs.Resolution.Delegation

namespace AgentId.Registry

/-- Whoever is consulted answers the same at any time. -/
structure Repeatable (r : Registry) (w : World) : Prop where
  world : ∀ past past' c, w past c = w past' c
  did : ∀ x ∈ r.didResolvers, ∀ past past' did, x.resolve past did = x.resolve past' did
  didProfile : ∀ x ∈ r.didProfiles, ∀ past past' did, x.resolve past did = x.resolve past' did

/-! ### Answers that do not depend on the past -/

section
variable {r : Registry} {w : World} (h : r.Repeatable w)
include h

theorem Repeatable.resolveDid (did : String) (past past' : History) :
    (r.resolveDid did past).1 = (r.resolveDid did past').1 := by
  unfold Registry.resolveDid
  split
  · rfl
  · rename_i x place hfind
    have hmem := List.fst_mem_of_mem_zipIdx (List.mem_of_find?_eq_some hfind)
    exact h.did x hmem past past' did

theorem Repeatable.resolveDidProfile (did : String) (past past' : History) :
    (r.resolveDidProfile did past).1 = (r.resolveDidProfile did past').1 := by
  unfold Registry.resolveDidProfile
  split
  · rfl
  · rename_i x place hfind
    have hmem := List.fst_mem_of_mem_zipIdx (List.mem_of_find?_eq_some hfind)
    exact congrArg (Except.map some) (h.didProfile x hmem past past' did)

theorem Repeatable.contextOf (uaid : String) (parsed : Uaid) (past past' : History) :
    r.contextOf uaid parsed past = r.contextOf uaid parsed past' := by
  have hdocument : (r.documentOf parsed.baseDid? past).1 =
      (r.documentOf parsed.baseDid? past').1 := by
    cases parsed.baseDid? with
    | none => rfl
    | some did => exact congrArg (fun reply => reply.toOption.join) (h.resolveDid did past past')
  unfold Registry.contextOf
  rw [hdocument]

/-- **What is delegated has the same answer at any time.** -/
theorem Repeatable.perform (above : List String) (d : Delegation) (past past' : History) :
    (r.perform w above d past).1 = (r.perform w above d past').1 := by
  induction above using above_induction r generalizing d past past' with
  | step above ih =>
      cases d with
      | did did => exact h.resolveDid did past past'
      | didProfile did => exact h.resolveDidProfile did past past'
      | profile uaid id =>
          show (r.knowing uaid (some id) (r.resolveFor w above id) past).1 =
            (r.knowing uaid (some id) (r.resolveFor w above id) past').1
          cases hparse : Uaid.parse uaid with
          | error fault => rw [knowing_of_error hparse, knowing_of_error hparse]
          | ok parsed =>
              rw [knowing_of_ok hparse, knowing_of_ok hparse, h.contextOf uaid parsed past past']
              by_cases hmem : id ∈ above
              · rw [resolveFor_of_mem hmem, resolveFor_of_mem hmem]
              · cases hprofile : r.profile? id with
                | none =>
                    rw [resolveFor_of_profile?_eq_none hmem hprofile,
                      resolveFor_of_profile?_eq_none hmem hprofile]
                | some found =>
                    have hid : id ∈ r.profileIds := registered_of_profile? hprofile
                    rw [resolveFor_of_profile?_eq_some hmem hprofile,
                      resolveFor_of_profile?_eq_some hmem hprofile]
                    exact congrArg (Except.map _)
                      (Dialogue.run_reply h.world (ih id hid hmem) _ _ _)

end

/-! ### What a profile finds when it is asked for -/

theorem isResolved_settled (c : Context) (found : Resolution) :
    (Resolution.settled c found).isResolved = found.isResolved := by
  unfold Resolution.settled
  split <;> rfl

/-- What a profile finds when it is asked for, if that resolves the identifier. -/
def found? (r : Registry) (w : World) (uaid : String) (past : History) (p : Profile) :
    Option Resolution :=
  (r.resolveWith w uaid p.id past).1.toOption.filter (·.isResolved)

theorem found?_eq_some_iff {r : Registry} {w : World} {uaid : String} {past : History}
    {p : Profile} {found : Resolution} :
    r.found? w uaid past p = some found ↔
      (r.resolveWith w uaid p.id past).1 = .ok found ∧ found.isResolved :=
  filter_isResolved_eq_some_iff

theorem toOption_map_settled (c : Context) (reply : Except Fault Resolution) :
    (reply.map (Resolution.settled c)).toOption.filter (·.isResolved) =
      (reply.toOption.filter (·.isResolved)).map (Resolution.settled c) := by
  cases reply with
  | error fault => rfl
  | ok found =>
      by_cases hresolved : found.isResolved
      · simp [Except.map, Except.toOption, Option.filter, isResolved_settled, hresolved]
      · simp [Except.map, Except.toOption, Option.filter, isResolved_settled, hresolved]

/-- With one profile of each name, the name leads to the profile. -/
theorem profile?_of_mem {r : Registry} (distinct : r.profileIds.Nodup) {p : Profile}
    {place : Nat} (h : (p, place) ∈ r.profiles.zipIdx) : r.profile? p.id = some (p, place) := by
  unfold profile?
  cases hfind : r.profiles.zipIdx.find? (·.1.id == p.id) with
  | none => exact absurd (beq_self_eq_true p.id) (List.find?_eq_none.mp hfind (p, place) h)
  | some found =>
      obtain ⟨q, place'⟩ := found
      have hbeq := List.find?_some hfind
      have hid : q.id = p.id := beq_iff_eq.mp hbeq
      have hp : r.profiles[place]? = some p := List.mem_zipIdx_iff_getElem?.mp h
      have hq : r.profiles[place']? = some q :=
        List.mem_zipIdx_iff_getElem?.mp (List.mem_of_find?_eq_some hfind)
      have hplace : place < r.profileIds.length := by
        rw [profileIds, List.length_map]
        exact (List.getElem?_eq_some_iff.mp hp).1
      have hids : r.profileIds[place]? = r.profileIds[place']? := by
        rw [profileIds, List.getElem?_map, List.getElem?_map, hp, hq]
        exact congrArg some hid.symm
      obtain rfl := (List.getElem?_inj hplace distinct).mp hids
      rw [Option.some.inj (hp.symm.trans hq)]

/-- Asking for a profile is what trying it is. -/
theorem found?_eq {r : Registry} {w : World} (distinct : r.profileIds.Nodup)
    (repeatable : r.Repeatable w) {uaid : String} {parsed : Uaid}
    (hparse : Uaid.parse uaid = .ok parsed) {p : Profile} {place : Nat}
    (h : (p, place) ∈ r.profiles.zipIdx) {c : Context} {known : History}
    (hc : c = r.contextOf uaid parsed known) (asked past : History) :
    r.found? w uaid asked p =
      (((p.resolve c).run w (r.perform w [p.id]) past).1.toOption.filter (·.isResolved)).map
        (Resolution.settled c) := by
  unfold found? resolveWith delegated
  rw [knowing_of_ok hparse, repeatable.contextOf uaid parsed asked known, ← hc,
    resolveFor_of_profile?_eq_some List.not_mem_nil (profile?_of_mem distinct h)]
  simp only
  rw [toOption_map_settled, Dialogue.run_reply repeatable.world (repeatable.perform [p.id])
    (p.resolve c) _ past]

/-! ### Which profiles are tried -/

/-- The name of the profile that is set to work for nobody. -/
def tried? : Event → Option String
  | .invoked _ id [] _ => some id
  | _ => none

/-- The later history goes on from the past with the profiles of these names being tried, one
after the other. -/
def Tries (past later : History) (names : List String) : Prop :=
  ∃ events, later = events ++ past ∧ (events.filterMap tried?).reverse = names

section
variable {past later : History} {names : List String}

/-- Delegated work tries no profile. -/
theorem Adds.tries {r : Registry} {name : String} {above : List String}
    (h : r.Adds (name :: above) past later) : Tries past later [] := by
  obtain ⟨events, rfl, hevents⟩ := h
  refine ⟨events, rfl, ?_⟩
  have hnone : events.filterMap tried? = [] := by
    rw [List.filterMap_eq_nil_iff]
    intro e he
    cases e with
    | invoked place id others c =>
        obtain ⟨hsuffix, -⟩ := hevents _ he
        cases others with
        | nil => cases List.suffix_nil.mp hsuffix
        | cons _ _ => rfl
    | consulted _ _ => rfl
    | askedDid _ _ _ => rfl
    | askedDidProfile _ _ _ => rfl
  rw [hnone]
  rfl

theorem Quiet.tries (h : Quiet past later) : Tries past later [] :=
  (h.adds {} [""]).tries

theorem Tries.one (place : Nat) (id : String) (c : Context) (past : History) :
    Tries past (.invoked place id [] c :: past) [id] :=
  ⟨[.invoked place id [] c], rfl, rfl⟩

theorem Tries.trans {latest : History} {names' : List String} (h : Tries past later names)
    (h' : Tries later latest names') : Tries past latest (names ++ names') := by
  obtain ⟨events, rfl, rfl⟩ := h
  obtain ⟨events', rfl, rfl⟩ := h'
  exact ⟨events' ++ events, (List.append_assoc ..).symm, by simp⟩

end

/-! ### Trying one after the other -/

/-- A profile that is tried delegates to others, but no other is tried by it. -/
theorem tries_of_invoked {r : Registry} {p : Profile} {place : Nat}
    (h : (p, place) ∈ r.profiles.zipIdx) (w : World) (c : Context) (past : History) :
    Tries past ((p.resolve c).run w (r.perform w [p.id]) (.invoked place p.id [] c :: past)).2
      [p.id] := by
  obtain ⟨-, hdelegated⟩ := root_adds h w c past
  exact (Tries.one place p.id c past).trans hdelegated.tries

/-- **Trying profiles is asking for each until one resolves the identifier.** -/
theorem firstResolved_eq {r : Registry} {w : World} (distinct : r.profileIds.Nodup)
    (repeatable : r.Repeatable w) {uaid : String} {parsed : Uaid}
    (hparse : Uaid.parse uaid = .ok parsed) {c : Context} {known : History}
    (hc : c = r.contextOf uaid parsed known) (asked : History)
    {profiles : List (Profile × Nat)} (within : ∀ x ∈ profiles, x ∈ r.profiles.zipIdx)
    (past : History) :
    let supporting := (profiles.map (·.1)).filter (·.supports uaid parsed)
    (r.firstResolved w c profiles past).1 = supporting.findSome? (r.found? w uaid asked) ∧
      Tries past (r.firstResolved w c profiles past).2 ((supporting.take
        (supporting.findIdx (fun p => (r.found? w uaid asked p).isSome) + 1)).map (·.id)) := by
  have hsupports : ∀ p : Profile, p.supports c.uaid c.parsed = p.supports uaid parsed := by
    intro p
    rw [hc]
    rfl
  induction profiles generalizing past with
  | nil => exact ⟨rfl, (Quiet.refl past).tries⟩
  | cons profile rest ih =>
      obtain ⟨p, place⟩ := profile
      obtain ⟨hp, hrest⟩ := List.forall_mem_cons.mp within
      unfold firstResolved
      rw [List.map_cons, List.filter_cons, hsupports]
      by_cases hsupported : p.supports uaid parsed
      · have hfound := found?_eq distinct repeatable hparse hp hc asked
          (.invoked place p.id [] c :: past)
        have htries := tries_of_invoked hp w c past
        rw [if_pos hsupported, if_pos hsupported, invoke_eq]
        cases hreply : ((p.resolve c).run w (r.perform w [p.id])
            (.invoked place p.id [] c :: past)).1.toOption.filter (·.isResolved) with
        | some found =>
            rw [hreply, Option.map_some] at hfound
            simp only [List.findSome?_cons, List.findIdx_cons, hfound, hreply]
            exact ⟨trivial, htries⟩
        | none =>
            rw [hreply, Option.map_none] at hfound
            simp only [List.findSome?_cons, List.findIdx_cons, hfound, hreply]
            obtain ⟨hreply', htries'⟩ := ih hrest ((p.resolve c).run w (r.perform w [p.id])
              (.invoked place p.id [] c :: past)).2
            exact ⟨hreply', htries.trans htries'⟩
      · rw [if_neg hsupported, if_neg hsupported]
        exact ih hrest past

/-- A profile that does not support the identifier is passed over. -/
theorem firstResolved_of_not_supports {r : Registry} {w : World} {c : Context} {p : Profile}
    (h : p.supports c.uaid c.parsed = false) (place : Nat) (rest : List (Profile × Nat))
    (past : History) :
    r.firstResolved w c ((p, place) :: rest) past = r.firstResolved w c rest past := by
  rw [firstResolved, if_neg (by simp [h])]

/-- The last profile resolves the identifier, or none does. -/
theorem firstResolved_last {r : Registry} {w : World} {c : Context} {p : Profile}
    (h : p.supports c.uaid c.parsed = true) {x : Resolution}
    (hrun : ∀ past, ((p.resolve c).run w (r.perform w [p.id]) past).1 = .ok x) (place : Nat)
    (past : History) :
    (r.firstResolved w c [(p, place)] past).1 =
      if x.isResolved then some (Resolution.settled c x) else none := by
  rw [firstResolved, if_pos h, invoke_eq]
  simp only [hrun]
  by_cases hresolved : x.isResolved = true
  · simp [Except.toOption, Option.filter, hresolved]
  · simp [Except.toOption, Option.filter, hresolved, firstResolved]

/-- What resolving comes to for text that is an identifier. -/
theorem resolve_of_ok {r : Registry} {w : World} {uaid : String} {parsed : Uaid}
    (hparse : Uaid.parse uaid = .ok parsed) (past : History) :
    let c := r.contextOf uaid parsed past
    let trying := r.firstResolved w c r.profiles.zipIdx (r.documentOf parsed.baseDid? past).2
    r.resolve w uaid past = (.ok (trying.1.getD (unsolved c)), trying.2) := by
  rw [resolve, knowing_of_ok hparse]

/-- The answer that resolving takes, and the profiles that it tries. -/
theorem resolve_eq_findSome? {r : Registry} {w : World} (distinct : r.profileIds.Nodup)
    (repeatable : r.Repeatable w) {uaid : String} {parsed : Uaid}
    (hparse : Uaid.parse uaid = .ok parsed) {supporting : List Profile}
    (hsupporting : r.profiles.filter (·.supports uaid parsed) = supporting)
    (asked past : History) :
    (r.resolve w uaid past).1 = .ok ((supporting.findSome? (r.found? w uaid asked)).getD
        (unsolved (r.contextOf uaid parsed past))) ∧
      Tries past (r.resolve w uaid past).2 ((supporting.take
        (supporting.findIdx (fun p => (r.found? w uaid asked p).isSome) + 1)).map (·.id)) := by
  have hprofiles : r.profiles.zipIdx.map (·.1) = r.profiles := List.zipIdx_map_fst 0 r.profiles
  have hc : r.contextOf uaid parsed past = r.contextOf uaid parsed past := rfl
  obtain ⟨hreply, htries⟩ := firstResolved_eq distinct repeatable hparse hc asked
    (fun _ h => h) (r.documentOf parsed.baseDid? past).2
  rw [hprofiles, hsupporting] at hreply htries
  rw [resolve_of_ok hparse, ← hreply]
  exact ⟨rfl, (documentOf_quiet r parsed.baseDid? past).tries.trans htries⟩

/-- Every resolution has an answer, whoever breaks down. -/
theorem exists_resolve_eq_ok (r : Registry) (w : World) (uaid : String) (past : History) :
    ∃ found, (r.resolve w uaid past).1 = .ok found := by
  cases hparse : Uaid.parse uaid with
  | error fault =>
      refine ⟨malformed uaid none fault, ?_⟩
      rw [resolve, knowing_of_error hparse]
  | ok parsed =>
      rw [resolve_of_ok hparse]
      exact ⟨_, rfl⟩

/--
**The first profile that resolves an identifier is the answer.**  Let the profiles have
different names, and let whoever is consulted answer the same at any time.  Resolving then
always answers, and refuses text that is no identifier.  For an identifier it goes through
the profiles that support it.

* When one of them resolves the identifier if it is asked for, at any time, and none before
  it does, what it finds is the answer, and the profiles tried are those up to it.
* When none does, all are tried, and the answer is what the DID of the identifier says, or
  nothing for an identifier that is no DID.
-/
theorem resolve_eq_first {r : Registry} {w : World} (distinct : r.profileIds.Nodup)
    (repeatable : r.Repeatable w) (uaid : String) (asked past : History) :
    (∃ found, (r.resolve w uaid past).1 = .ok found) ∧
    (∀ fault, Uaid.parse uaid = .error fault →
      (r.resolve w uaid past).1 = .ok (malformed uaid none fault) ∧
      (malformed uaid none fault).code? = some .invalidUaid) ∧
    ∀ parsed, Uaid.parse uaid = .ok parsed →
      let supporting := r.profiles.filter (·.supports uaid parsed)
      (∀ before p after found, supporting = before ++ p :: after →
        (∀ q ∈ before, r.found? w uaid asked q = none) →
        (r.resolveWith w uaid p.id asked).1 = .ok found → found.isResolved →
        (r.resolve w uaid past).1 = .ok found ∧
          Tries past (r.resolve w uaid past).2 ((before ++ [p]).map (·.id))) ∧
      ((∀ q ∈ supporting, r.found? w uaid asked q = none) →
        (r.resolve w uaid past).1 = .ok (match parsed.target with
          | .aid => .unresolved uaid
          | .did => .fallback (r.contextOf uaid parsed past)) ∧
          Tries past (r.resolve w uaid past).2 (supporting.map (·.id))) := by
  refine ⟨exists_resolve_eq_ok r w uaid past, fun fault hparse => ?_, fun parsed hparse => ?_⟩
  · rw [resolve, knowing_of_error hparse]
    exact ⟨rfl, rfl⟩
  · intro supporting
    refine ⟨fun before p after found hsupporting hbefore hp hresolved => ?_, fun hnone => ?_⟩
    · obtain ⟨hreply, htries⟩ :=
        resolve_eq_findSome? distinct repeatable hparse hsupporting asked past
      have hfound : r.found? w uaid asked p = some found :=
        found?_eq_some_iff.mpr ⟨hp, hresolved⟩
      have hnobody : before.findSome? (r.found? w uaid asked) = none :=
        List.findSome?_eq_none_iff.mpr hbefore
      have hplace : before.findIdx (fun q => (r.found? w uaid asked q).isSome) = before.length :=
        List.findIdx_eq_length_of_false fun q hq => by rw [hbefore q hq]; rfl
      rw [List.findSome?_append, hnobody, List.findSome?_cons, hfound] at hreply
      rw [List.findIdx_append, hplace, if_neg (Nat.lt_irrefl _), List.findIdx_cons, hfound]
        at htries
      have htake : (before ++ p :: after).take (before.length + 1) = before ++ [p] := by
        rw [List.take_append, List.take_of_length_le (Nat.le_succ _)]
        simp
      simp only [Option.isSome_some, cond_true, Nat.zero_add, htake] at htries
      exact ⟨hreply, htries⟩
    · obtain ⟨hreply, htries⟩ := resolve_eq_findSome? distinct repeatable hparse rfl asked past
      have hplace : supporting.findIdx (fun q => (r.found? w uaid asked q).isSome) =
          supporting.length :=
        List.findIdx_eq_length_of_false fun q hq => by rw [hnone q hq]; rfl
      rw [List.findSome?_eq_none_iff.mpr hnone] at hreply
      rw [hplace, List.take_of_length_le (Nat.le_succ _)] at htries
      exact ⟨hreply, htries⟩

/-- A profile that answers at once. -/
def answering (id : String) (reply : Except Fault Resolution) : Profile where
  id
  supports := fun _ _ => true
  resolve := fun _ => .outcome reply

/-- A profile that breaks down, one that is silent, and two that find the agent. -/
def fourAnswers : Registry where
  profiles := [
    answering "broken" (.error (.dns "timeout")),
    answering "silent" (.ok (.unresolved "uaid:aid:abc")),
    answering "first" (.ok { id := "uaid:aid:abc", metadata := { resolved := true } }),
    answering "second" (.ok { id := "other", metadata := { resolved := true } })]

/-- Nobody is there. -/
def emptyWorld : World := fun _ c =>
  match c with
  | .txt _ => .ok []
  | .http _ => .error (.http "no route")
  | .verify .. => .ok false

/-- Three of the four are tried, and the third is the answer. -/
theorem resolve_eq_first_fourAnswers :
    fourAnswers.profileIds.Nodup ∧ fourAnswers.Repeatable emptyWorld ∧
      Uaid.parse "uaid:aid:abc" = .ok ⟨.aid, "abc", {}⟩ ∧
      (fourAnswers.resolve emptyWorld "uaid:aid:abc" []).1.toOption.map (·.id) =
        some "uaid:aid:abc" ∧
      Tries [] (fourAnswers.resolve emptyWorld "uaid:aid:abc" []).2
        ["broken", "silent", "first"] := by
  have distinct : fourAnswers.profileIds.Nodup := by decide
  have repeatable : fourAnswers.Repeatable emptyWorld := {
    world := fun _ _ _ => rfl
    did := fun _ h => absurd h List.not_mem_nil
    didProfile := fun _ h => absurd h List.not_mem_nil }
  have hparse : Uaid.parse "uaid:aid:abc" = .ok ⟨.aid, "abc", {}⟩ := rfl
  have hfound : ∀ id reply place, (answering id reply, place) ∈ fourAnswers.profiles.zipIdx →
      fourAnswers.found? emptyWorld "uaid:aid:abc" [] (answering id reply) =
        (reply.toOption.filter (·.isResolved)).map (Resolution.settled
          (fourAnswers.contextOf "uaid:aid:abc" ⟨.aid, "abc", {}⟩ [])) :=
    fun id reply place h => found?_eq distinct repeatable hparse h rfl [] []
  have hbroken := hfound "broken" (.error (.dns "timeout")) 0 (by simp [fourAnswers])
  have hsilent := hfound "silent" (.ok (.unresolved "uaid:aid:abc")) 1 (by simp [fourAnswers])
  have hfirst := hfound "first" (.ok { id := "uaid:aid:abc", metadata := { resolved := true } }) 2
    (by simp [fourAnswers])
  obtain ⟨hreply, hresolved⟩ := found?_eq_some_iff.mp hfirst
  obtain ⟨-, -, hidentifier⟩ := resolve_eq_first distinct repeatable "uaid:aid:abc" [] []
  obtain ⟨hanswer, -⟩ := hidentifier _ hparse
  have hbefore : ∀ q ∈ fourAnswers.profiles.take 2,
      fourAnswers.found? emptyWorld "uaid:aid:abc" [] q = none := by
    intro q hq
    rcases List.mem_cons.mp hq with rfl | hq
    · exact hbroken
    · obtain rfl := List.mem_singleton.mp hq
      exact hsilent
  obtain ⟨hsame, htries⟩ := hanswer (fourAnswers.profiles.take 2) _ _ _ rfl hbefore hreply hresolved
  refine ⟨distinct, repeatable, hparse, ?_, htries⟩
  rw [hsame]
  rfl

end AgentId.Registry
