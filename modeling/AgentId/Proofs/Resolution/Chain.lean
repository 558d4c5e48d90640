/-
No profile works for itself.

At every step of a resolution the profiles on the stack are a chain: each was set to work
for those below it, and was told their names.  So no name is on the chain twice, and since
all of them are registered the chain never gets longer than the list of distinct names.
What is shown is that one step keeps this (`step_ordered`); the rest is counting.

That a resolution ends belongs to the same statement, since it is for this reason that it
does (`delegation_ends`).
-/
import AgentId.Proofs.Resolution.Machine
import Mathlib.Data.List.Dedup
import Mathlib.Data.List.Perm.Subperm

namespace AgentId.Registry

/-- The profiles at work, the one that was set to work last first. -/
def State.chain : State → List Frame
  | .running _ waiting frame _ _ => frame :: waiting.map (·.1)
  | .done .. => []

/-- The profiles that are still to be tried once those at work are done. -/
def State.rest : State → List (Profile × Nat)
  | .running (.first _ rest) _ _ _ _ => rest
  | .running .one _ _ _ _ => []
  | .done .. => []

/-- Profiles of which each is at work for all that follow it, and was told their names. -/
structure Chained (r : Registry) (frames : List Frame) : Prop where
  nodup : (frames.map Frame.id).Nodup
  registered : ∀ f ∈ frames, f.id ∈ r.profileIds
  exclude : ∀ f above, f :: above <:+ frames → f.exclude = above.map Frame.id

/-- What every step keeps. -/
structure Ordered (r : Registry) (s : State) : Prop where
  chained : r.Chained s.chain
  rest : ∀ x ∈ s.rest, x ∈ r.profiles.zipIdx

/-! ### Chains -/

section
variable {r : Registry} {frames : List Frame} {f : Frame}

theorem Chained.nil (r : Registry) : r.Chained [] where
  nodup := List.nodup_nil
  registered := fun _ h => absurd h List.not_mem_nil
  exclude := fun _ _ h => absurd (List.suffix_nil.mp h) (List.cons_ne_nil _ _)

theorem Chained.cons (h : r.Chained frames) (new : f.id ∉ frames.map Frame.id)
    (registered : f.id ∈ r.profileIds) (exclude : f.exclude = frames.map Frame.id) :
    r.Chained (f :: frames) where
  nodup := List.nodup_cons.mpr ⟨new, h.nodup⟩
  registered := List.forall_mem_cons.mpr ⟨registered, h.registered⟩
  exclude := by
    intro g above hsuffix
    rcases List.suffix_cons_iff.mp hsuffix with heq | hsuffix
    · obtain ⟨rfl, rfl⟩ := List.cons.inj heq
      exact exclude
    · exact h.exclude g above hsuffix

theorem Chained.tail (h : r.Chained (f :: frames)) : r.Chained frames where
  nodup := (List.nodup_cons.mp h.nodup).2
  registered := fun g hg => h.registered g (List.mem_cons_of_mem f hg)
  exclude := fun g above hsuffix => h.exclude g above (hsuffix.trans (List.suffix_cons f frames))

/-- The top of a chain was told the names of all the others. -/
theorem Chained.exclude_head (h : r.Chained (f :: frames)) :
    f.exclude = frames.map Frame.id :=
  h.exclude f frames (List.suffix_refl _)

/-- Names that are registered, each once, are no more than are registered at all. -/
theorem length_le_of_nodup {names : List String} (nodup : names.Nodup)
    (registered : ∀ name ∈ names, name ∈ r.profileIds) :
    names.length ≤ r.profileIds.dedup.length :=
  (List.subperm_of_subset nodup fun name h => List.mem_dedup.mpr (registered name h)).length_le

theorem Chained.length_le (h : r.Chained frames) :
    frames.length ≤ r.profileIds.dedup.length := by
  have hregistered : ∀ name ∈ frames.map Frame.id, name ∈ r.profileIds := by
    intro name hname
    obtain ⟨f, hf, rfl⟩ := List.mem_map.mp hname
    exact h.registered f hf
  have hle := length_le_of_nodup h.nodup hregistered
  rwa [List.length_map] at hle

end

/-! ### Every step keeps the chain -/

theorem tryNext_ordered {r : Registry} {c : Context} {profiles : List (Profile × Nat)}
    (within : ∀ x ∈ profiles, x ∈ r.profiles.zipIdx) (past : History) :
    r.Ordered (tryNext c profiles past) := by
  induction profiles with
  | nil => exact ⟨.nil r, fun _ h => absurd h List.not_mem_nil⟩
  | cons profile rest ih =>
      obtain ⟨p, place⟩ := profile
      obtain ⟨hp, hrest⟩ := List.forall_mem_cons.mp within
      unfold tryNext
      split
      · have hchain : r.Chained [⟨place, p.id, [], c⟩] :=
          (Chained.nil r).cons List.not_mem_nil (mem_profileIds_of_mem_zipIdx hp) rfl
        exact ⟨hchain, hrest⟩
      · exact ih hrest

theorem Ordered.done (r : Registry) (reply : Except Fault Resolution) (past : History) :
    r.Ordered (.done reply past) :=
  ⟨.nil r, fun _ h => absurd h List.not_mem_nil⟩

theorem start_ordered (r : Registry) (uaid : String) (profile : Option String) (past : History) :
    r.Ordered (r.start uaid profile past) := by
  cases profile with
  | none =>
      cases hparse : Uaid.parse uaid with
      | error fault =>
          simp only [start, hparse]
          exact .done r _ _
      | ok parsed =>
          simp only [start, hparse]
          exact tryNext_ordered (fun _ h => h) _
  | some id =>
      rcases r.enter_cases uaid id [] past with ⟨reply, later, hentry, -, -⟩ |
        ⟨parsed, p, place, hnew, hregistered, hentry, -⟩
      · simp only [start, hentry]
        exact .done r _ _
      · simp only [start, hentry]
        exact ⟨(Chained.nil r).cons List.not_mem_nil hregistered rfl,
          fun _ h => absurd h List.not_mem_nil⟩

/-- **One step keeps the chain.** -/
theorem step_ordered {r : Registry} {s : State} (h : r.Ordered s) (w : World) :
    r.Ordered (r.step w s) := by
  cases s with
  | done reply past => exact .done r reply past
  | running root waiting frame work past =>
      have hchain : r.Chained (frame :: waiting.map (·.1)) := h.chained
      -- What is still to be tried does not depend on who is at work.
      have hsame : ∀ waiting' frame' work' past', r.Chained (frame' :: waiting'.map (·.1)) →
          r.Ordered (.running root waiting' frame' work' past') := by
        intro waiting' frame' work' past' hchain'
        refine ⟨hchain', ?_⟩
        cases root <;> exact h.rest
      cases work with
      | consult c next => exact hsame _ _ _ _ hchain
      | delegate d next =>
          cases d with
          | did did => exact hsame _ _ _ _ hchain
          | didProfile did => exact hsame _ _ _ _ hchain
          | profile uaid id =>
              have hexclude : frame.id :: frame.exclude =
                  (frame :: waiting.map (·.1)).map Frame.id := by
                rw [hchain.exclude_head]
                rfl
              rw [step_profile]
              rcases r.enter_cases uaid id (frame.id :: frame.exclude) past with
                ⟨reply, later, hentry, -, -⟩ | ⟨parsed, p, place, hnew, hregistered, hentry, -⟩
              · rw [hentry]
                exact hsame _ _ _ _ hchain
              · rw [hentry]
                rw [hexclude] at hnew
                exact hsame ((frame, next) :: waiting) _ _ _
                  (hchain.cons hnew hregistered hexclude)
      | outcome result =>
          cases waiting with
          | cons outer waiting => exact hsame waiting outer.1 _ _ hchain.tail
          | nil =>
              cases root with
              | one => exact .done r _ _
              | first c rest =>
                  simp only [step]
                  split
                  · exact .done r _ _
                  · exact tryNext_ordered h.rest _

theorem ordered_iterate (r : Registry) (w : World) (uaid : String) (profile : Option String)
    (past : History) (n : Nat) : r.Ordered ((r.step w)^[n] (r.start uaid profile past)) := by
  induction n with
  | zero => exact start_ordered r uaid profile past
  | succ n ih =>
      rw [Function.iterate_succ_apply']
      exact step_ordered ih w

/-! ### Asking for a profile on the chain -/

/-- A profile on the chain is not set to work again. -/
theorem step_of_mem_chain {r : Registry} {root : Root} {waiting : List Waiting} {frame : Frame}
    {uaid id : String} {parsed : Uaid} {next : Except Fault Resolution → Dialogue Resolution}
    {past : History} (hparse : Uaid.parse uaid = .ok parsed)
    (hmem : id ∈ frame.id :: frame.exclude) (w : World) :
    r.step w (.running root waiting frame (.delegate (.profile uaid id) next) past) =
      .running root waiting frame (next (.ok (alreadyAbove uaid id)))
        (r.documentOf parsed.baseDid? past).2 := by
  rw [step_profile, enter_of_mem hparse hmem]

/--
**Delegating comes to an end, and never comes back to a profile at work.**  Take the
machine for any resolution, whatever the profiles ask and the world answers.

* It stops, with the answer and the history that the resolution is defined to have.
* At every step, the profiles at work have different names, each was told exactly the
  names below it on the stack, and there are no more of them than names registered.
* When the top of the stack asks for a profile that is on it, by a text that is an
  identifier, it is told that this does not apply, and no profile is set to work.
* In the history that is left, too, every profile that was set to work was none of those
  that it worked for.
-/
theorem delegation_ends (r : Registry) (w : World) (uaid : String) (profile : Option String)
    (past : History) :
    let state := fun n => (r.step w)^[n] (r.start uaid profile past)
    (∃ n, state n = .done (r.request w uaid profile past).1 (r.request w uaid profile past).2) ∧
    (∀ n, ((state n).chain.map Frame.id).Nodup ∧
      (∀ f above, f :: above <:+ (state n).chain → f.exclude = above.map Frame.id) ∧
      (state n).chain.length ≤ r.profileIds.dedup.length) ∧
    (∀ n root waiting frame text id next now parsed,
      state n = .running root waiting frame (.delegate (.profile text id) next) now →
      id ∈ (state n).chain.map Frame.id → Uaid.parse text = .ok parsed →
      (alreadyAbove text id).code? = some .notApplicable ∧
      ∃ events, state (n + 1) =
          .running root waiting frame (next (.ok (alreadyAbove text id))) (events ++ now) ∧
        ∀ place id above c, .invoked place id above c ∉ events) ∧
    (∃ events, (r.request w uaid profile past).2 = events ++ past ∧
      ∀ place id above c, .invoked place id above c ∈ events →
        (id :: above).Nodup ∧ (id :: above).length ≤ r.profileIds.dedup.length) := by
  intro state
  refine ⟨reaches_done r w uaid profile past, fun n => ?_, ?_, ?_⟩
  · have hchained := (ordered_iterate r w uaid profile past n).chained
    exact ⟨hchained.nodup, hchained.exclude, hchained.length_le⟩
  · intro n root waiting frame text id next now parsed hstate hmem hparse
    have hchained := (ordered_iterate r w uaid profile past n).chained
    have hstep : state (n + 1) = r.step w (state n) := Function.iterate_succ_apply' _ _ _
    rw [show (r.step w)^[n] (r.start uaid profile past) = state n from rfl, hstate] at hchained
    rw [hstate] at hmem hstep
    have hexclude : id ∈ frame.id :: frame.exclude := by
      rw [hchained.exclude_head]
      exact hmem
    obtain ⟨events, hevents, hnone⟩ := documentOf_quiet r parsed.baseDid? now
    refine ⟨rfl, events, ?_, hnone⟩
    rw [hstep, step_of_mem_chain hparse hexclude, hevents]
  · obtain ⟨events, hevents, hallowed⟩ := request_adds r w uaid profile past
    refine ⟨events, hevents, fun place id above c hmem => ?_⟩
    obtain ⟨-, hnodup, hregistered⟩ := hallowed _ hmem
    exact ⟨hnodup, length_le_of_nodup hnodup hregistered⟩

-- A profile that asks for itself is refused at the first step.
example (w : World) :
    let self : Profile := ⟨"self", fun _ _ => true, fun c => .profile c.uaid "self"⟩
    let r : Registry := { profiles := [self] }
    let c : Context := ⟨"uaid:aid:abc", ⟨.aid, "abc", {}⟩, none, none⟩
    r.step w (r.start "uaid:aid:abc" (some "self") []) =
      .running .one [] ⟨0, "self", [], c⟩ (.outcome (.ok (alreadyAbove "uaid:aid:abc" "self")))
        [.invoked 0 "self" [] c] := by rfl

end AgentId.Registry
