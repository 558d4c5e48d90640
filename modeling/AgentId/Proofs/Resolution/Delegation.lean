/-
What is delegated, and what it leaves in the history.

A profile that is set to work may delegate to others, they to others again, and so on.
The names above become more with every delegation and are all registered, so whatever is
shown of delegated work for some names above can be shown from what it is for one name
more (`above_induction`).

Asking for a profile comes to an answer at once or to a profile at work, and `enter_cases`
says all that is to be known of either.  What happens meanwhile is bounded by it: each
profile that is set to work for the names above is set to work for these and perhaps
further ones, and no name among them comes twice (`perform_adds`).
-/
import AgentId.Proofs.Resolution.Dialogue
import AgentId.Resolution.Registry

namespace AgentId.Registry

/-- One name above more each time: an induction that ends when all names are used up. -/
theorem above_induction (r : Registry) {motive : List String → Prop}
    (step : ∀ above, (∀ id, id ∈ r.profileIds → id ∉ above → motive (id :: above)) →
      motive above) (above : List String) : motive above := by
  induction h : r.unused above using Nat.strongRecOn generalizing above with
  | ind n ih =>
      refine step above fun id registered new => ih _ ?_ (id :: above) rfl
      exact h ▸ unused_lt registered new

/-! ### Delegated work, equation by equation -/

/-- Does what is delegated for the names above. -/
def perform (r : Registry) (w : World) (above : List String) : (d : Delegation) → Run d.Answer
  | .did did => r.resolveDid did
  | .didProfile did => r.resolveDidProfile did
  | .profile uaid id => r.delegated w above uaid id

/-- What is known of an identifier. -/
def contextOf (r : Registry) (uaid : String) (parsed : Uaid) (past : History) : Context where
  uaid
  parsed
  did := parsed.baseDid?
  document := (r.documentOf parsed.baseDid? past).1

variable {r : Registry} {w : World} {above : List String} {uaid id : String} {c : Context}
  {past later : History}

theorem invoke_eq (r : Registry) (w : World) (above : List String) (p : Profile) (place : Nat)
    (c : Context) (past : History) :
    r.invoke w (r.delegated w (p.id :: above)) above p place c past =
      (p.resolve c).run w (r.perform w (p.id :: above)) (.invoked place p.id above c :: past) := by
  have hperform : r.perform w (p.id :: above) = fun d => match d with
      | .did did => r.resolveDid did
      | .didProfile did => r.resolveDidProfile did
      | .profile uaid id => r.delegated w (p.id :: above) uaid id := by
    funext d
    cases d <;> rfl
  rw [hperform]
  rfl

theorem knowing_of_error {fault : Uaid.Fault} {profile : Option String}
    {next : Context → Run Resolution} (h : Uaid.parse uaid = .error fault) :
    r.knowing uaid profile next past = (.ok (malformed uaid profile fault), past) := by
  unfold knowing
  rw [h]

theorem knowing_of_ok {parsed : Uaid} {profile : Option String}
    {next : Context → Run Resolution} (h : Uaid.parse uaid = .ok parsed) :
    r.knowing uaid profile next past =
      next (r.contextOf uaid parsed past) (r.documentOf parsed.baseDid? past).2 := by
  unfold knowing
  rw [h]
  rfl

theorem resolveFor_of_mem (h : id ∈ above) :
    r.resolveFor w above id c past = (.ok (alreadyAbove c.uaid id), past) := by
  rw [resolveFor, dif_pos h]

theorem resolveFor_of_profile?_eq_none (new : id ∉ above) (h : r.profile? id = none) :
    r.resolveFor w above id c past = (.ok (notRegistered c.uaid id), past) := by
  rw [resolveFor, dif_neg new]
  split
  · rfl
  · rename_i hsome
    rw [h] at hsome
    cases hsome

theorem resolveFor_of_profile?_eq_some {p : Profile} {place : Nat} (new : id ∉ above)
    (h : r.profile? id = some (p, place)) :
    r.resolveFor w above id c past =
      let done :=
        (p.resolve c).run w (r.perform w (id :: above)) (.invoked place id above c :: past)
      (done.1.map (Resolution.settled c), done.2) := by
  obtain rfl := profile?_id h
  rw [resolveFor, dif_neg new]
  split
  · rename_i hnone
    rw [h] at hnone
    cases hnone
  · rename_i profile place' hsome
    obtain ⟨rfl, rfl⟩ : p = profile ∧ place = place' := by
      rw [h] at hsome
      exact Prod.mk.inj (Option.some.inj hsome)
    rw [← invoke_eq]
    rfl

/-- What a registered profile comes to for an identifier. -/
theorem delegated_of_profile?_eq_some {parsed : Uaid} {p : Profile} {place : Nat}
    (hparse : Uaid.parse uaid = .ok parsed) (new : id ∉ above)
    (h : r.profile? id = some (p, place)) :
    r.delegated w above uaid id past =
      let c := r.contextOf uaid parsed past
      let done := (p.resolve c).run w (r.perform w (id :: above))
        (.invoked place id above c :: (r.documentOf parsed.baseDid? past).2)
      (done.1.map (Resolution.settled c), done.2) := by
  unfold delegated
  rw [knowing_of_ok hparse, resolveFor_of_profile?_eq_some new h]

/-! ### Looking up a DID is quiet -/

/-- The later history goes on from the past without a profile being set to work. -/
def Quiet (past later : History) : Prop :=
  ∃ events, later = events ++ past ∧ ∀ place id above c, .invoked place id above c ∉ events

theorem Quiet.refl (past : History) : Quiet past past :=
  ⟨[], rfl, fun _ _ _ _ => List.not_mem_nil⟩

theorem resolveDid_quiet (r : Registry) (did : String) (past : History) :
    Quiet past (r.resolveDid did past).2 := by
  unfold resolveDid
  split
  · exact .refl past
  · exact ⟨[_], rfl, fun _ _ _ _ h => nomatch List.mem_singleton.mp h⟩

theorem resolveDidProfile_quiet (r : Registry) (did : String) (past : History) :
    Quiet past (r.resolveDidProfile did past).2 := by
  unfold resolveDidProfile
  split
  · exact .refl past
  · exact ⟨[_], rfl, fun _ _ _ _ h => nomatch List.mem_singleton.mp h⟩

theorem documentOf_quiet (r : Registry) (did : Option String) (past : History) :
    Quiet past (r.documentOf did past).2 := by
  cases did with
  | none => exact .refl past
  | some did => exact resolveDid_quiet r did past

/-! ### Asking for a profile -/

/-- A profile at work: which one it is, the names that it was set to work for, and what it
was told. -/
structure Frame where
  place : Nat
  id : String
  exclude : List String
  context : Context

/-- What asking for a profile comes to at once. -/
inductive Entry where
  | answered (reply : Resolution)
  | entered (frame : Frame) (work : Dialogue Resolution)

/-- Asks for a profile that must be none of those in `exclude`. -/
def enter (r : Registry) (uaid id : String) (exclude : List String) (past : History) :
    Entry × History :=
  match Uaid.parse uaid with
  | .error fault => (.answered (malformed uaid (some id) fault), past)
  | .ok parsed =>
    let c := r.contextOf uaid parsed past
    let past := (r.documentOf parsed.baseDid? past).2
    if id ∈ exclude then (.answered (alreadyAbove uaid id), past)
    else
      match r.profile? id with
      | none => (.answered (notRegistered uaid id), past)
      | some (profile, place) =>
        (.entered ⟨place, id, exclude, c⟩ (profile.resolve c),
          .invoked place id exclude c :: past)

/-- **All that asking for a profile can come to.**  Either there is an answer at once, and
no profile is set to work for it, or a registered profile that is not excluded goes to
work, and its outcome settles the matter. -/
theorem enter_cases (r : Registry) (uaid id : String) (exclude : List String)
    (past : History) :
    (∃ reply later, r.enter uaid id exclude past = (.answered reply, later) ∧
      Quiet past later ∧ ∀ w, r.delegated w exclude uaid id past = (.ok reply, later)) ∨
    ∃ (parsed : Uaid) (p : Profile) (place : Nat), id ∉ exclude ∧ id ∈ r.profileIds ∧
      let c := r.contextOf uaid parsed past
      let later := .invoked place id exclude c :: (r.documentOf parsed.baseDid? past).2
      r.enter uaid id exclude past = (.entered ⟨place, id, exclude, c⟩ (p.resolve c), later) ∧
      ∀ w, r.delegated w exclude uaid id past =
        let run := (p.resolve c).run w (r.perform w (id :: exclude)) later
        (run.1.map (Resolution.settled c), run.2) := by
  cases hparse : Uaid.parse uaid with
  | error fault =>
      refine Or.inl ⟨malformed uaid (some id) fault, past, ?_, .refl past, fun w => ?_⟩
      · simp only [enter, hparse]
      · exact knowing_of_error hparse
  | ok parsed =>
      have hquiet := documentOf_quiet r parsed.baseDid? past
      have hdelegated : ∀ w, r.delegated w exclude uaid id past =
          r.resolveFor w exclude id (r.contextOf uaid parsed past)
            (r.documentOf parsed.baseDid? past).2 := fun w => knowing_of_ok hparse
      by_cases hmem : id ∈ exclude
      · refine Or.inl ⟨alreadyAbove uaid id, _, ?_, hquiet, fun w => ?_⟩
        · simp only [enter, hparse, if_pos hmem]
        · rw [hdelegated, resolveFor_of_mem hmem]
          rfl
      · cases hprofile : r.profile? id with
        | none =>
            refine Or.inl ⟨notRegistered uaid id, _, ?_, hquiet, fun w => ?_⟩
            · simp only [enter, hparse, if_neg hmem, hprofile]
            · rw [hdelegated, resolveFor_of_profile?_eq_none hmem hprofile]
              rfl
        | some found =>
            refine Or.inr ⟨parsed, found.1, found.2, hmem, registered_of_profile? hprofile, ?_,
              fun w => ?_⟩
            · simp only [enter, hparse, if_neg hmem, hprofile]
            · rw [hdelegated, resolveFor_of_profile?_eq_some hmem hprofile]

/-- A profile that is excluded is not set to work. -/
theorem enter_of_mem {r : Registry} {uaid id : String} {exclude : List String} {parsed : Uaid}
    (hparse : Uaid.parse uaid = .ok parsed) (hmem : id ∈ exclude) (past : History) :
    r.enter uaid id exclude past =
      (.answered (alreadyAbove uaid id), (r.documentOf parsed.baseDid? past).2) := by
  simp only [enter, hparse, if_pos hmem]

/-! ### What is left in the history -/

/-- An event that can happen while the profiles `above` wait: a profile that is set to work
then works for them, and is registered and none of those that it works for. -/
def Allows (r : Registry) (above : List String) : Event → Prop
  | .invoked _ id others _ =>
      above <:+ others ∧ (id :: others).Nodup ∧ ∀ name ∈ id :: others, name ∈ r.profileIds
  | _ => True

theorem Allows.of_cons {name : String} {e : Event} (h : r.Allows (name :: above) e) :
    r.Allows above e := by
  cases e with
  | invoked place id others c => exact ⟨(List.suffix_cons name above).trans h.1, h.2⟩
  | consulted _ _ => trivial
  | askedDid _ _ _ => trivial
  | askedDidProfile _ _ _ => trivial

/-- The later history goes on from the past by events that can happen meanwhile. -/
def Adds (r : Registry) (above : List String) (past later : History) : Prop :=
  ∃ events, later = events ++ past ∧ ∀ e ∈ events, r.Allows above e

theorem Quiet.adds (h : Quiet past later) (r : Registry) (above : List String) :
    r.Adds above past later := by
  obtain ⟨events, rfl, hevents⟩ := h
  refine ⟨events, rfl, fun e he => ?_⟩
  cases e with
  | invoked place id others c => exact absurd he (hevents place id others c)
  | consulted _ _ => trivial
  | askedDid _ _ _ => trivial
  | askedDidProfile _ _ _ => trivial

theorem Adds.refl (r : Registry) (above : List String) (past : History) : r.Adds above past past :=
  (Quiet.refl past).adds r above

theorem Adds.trans {latest : History} (h : r.Adds above past later)
    (h' : r.Adds above later latest) : r.Adds above past latest := by
  obtain ⟨events, rfl, hevents⟩ := h
  obtain ⟨events', rfl, hevents'⟩ := h'
  refine ⟨events' ++ events, (List.append_assoc ..).symm, fun e he => ?_⟩
  rcases List.mem_append.mp he with he | he
  · exact hevents' e he
  · exact hevents e he

theorem Adds.one {e : Event} (h : r.Allows above e) (past : History) :
    r.Adds above past (e :: past) :=
  ⟨[e], rfl, fun _ he => List.mem_singleton.mp he ▸ h⟩

theorem Adds.of_cons {name : String} (h : r.Adds (name :: above) past later) :
    r.Adds above past later := by
  obtain ⟨events, rfl, hevents⟩ := h
  exact ⟨events, rfl, fun e he => (hevents e he).of_cons⟩

theorem run_adds {α : Type} {perform : (d : Delegation) → Run d.Answer} (work : Dialogue α)
    (h : ∀ d past, r.Adds above past (perform d past).2) (past : History) :
    r.Adds above past (work.run w perform past).2 := by
  induction work generalizing past with
  | outcome result => exact .refl r above past
  | consult c next ih => exact (Adds.one (by trivial) past).trans (ih (w past c) _)
  | delegate d next ih => exact (h d past).trans (ih (perform d past).1 _)

/-- A profile at work adds that it was set to work, and what it delegates. -/
theorem invoked_adds {α : Type} (nodup : (id :: above).Nodup)
    (registered : ∀ name ∈ id :: above, name ∈ r.profileIds)
    (h : ∀ d past, r.Adds (id :: above) past (r.perform w (id :: above) d past).2)
    (work : Dialogue α) (place : Nat) (c : Context) (past : History) :
    r.Adds above past
      (work.run w (r.perform w (id :: above)) (.invoked place id above c :: past)).2 := by
  have hinvoked : r.Allows above (.invoked place id above c) :=
    ⟨List.suffix_refl above, nodup, registered⟩
  have hrun : r.Adds (id :: above) (.invoked place id above c :: past)
      (work.run w (r.perform w (id :: above)) (.invoked place id above c :: past)).2 :=
    run_adds work h _
  exact (Adds.one hinvoked past).trans hrun.of_cons

/-- **Delegated work sets no profile to work for itself.** -/
theorem perform_adds (r : Registry) (w : World) (above : List String) (nodup : above.Nodup)
    (registered : ∀ name ∈ above, name ∈ r.profileIds) (d : Delegation) (past : History) :
    r.Adds above past (r.perform w above d past).2 := by
  -- A profile that is set to work is one more name above what it delegates.
  induction above using above_induction r generalizing d past with
  | step above ih =>
      cases d with
      | did did => exact (resolveDid_quiet r did past).adds r above
      | didProfile did => exact (resolveDidProfile_quiet r did past).adds r above
      | profile uaid id =>
          show r.Adds above past (r.delegated w above uaid id past).2
          rcases r.enter_cases uaid id above past with ⟨reply, later, -, hquiet, hdelegated⟩ |
            ⟨parsed, p, place, hnew, hregistered, -, hdelegated⟩
          · rw [hdelegated]
            exact hquiet.adds r above
          · have hnodup' : (id :: above).Nodup := List.nodup_cons.mpr ⟨hnew, nodup⟩
            have hregistered' : ∀ name ∈ id :: above, name ∈ r.profileIds :=
              List.forall_mem_cons.mpr ⟨hregistered, registered⟩
            rw [hdelegated]
            exact ((documentOf_quiet r parsed.baseDid? past).adds r above).trans
              (invoked_adds hnodup' hregistered'
                (ih id hregistered hnew hnodup' hregistered') _ _ _ _)

theorem mem_profileIds_of_mem_zipIdx {r : Registry} {p : Profile} {place : Nat}
    (h : (p, place) ∈ r.profiles.zipIdx) : p.id ∈ r.profileIds :=
  List.mem_map_of_mem (List.fst_mem_of_mem_zipIdx h)

/-- What a profile adds that works for nobody, before and after it goes to work. -/
theorem root_adds {r : Registry} {p : Profile} {place : Nat}
    (h : (p, place) ∈ r.profiles.zipIdx) (w : World) (c : Context) (past : History) :
    let later := ((p.resolve c).run w (r.perform w [p.id]) (.invoked place p.id [] c :: past)).2
    r.Adds [] past later ∧ r.Adds [p.id] (.invoked place p.id [] c :: past) later := by
  have hnodup : [p.id].Nodup := by simp
  have hregistered : ∀ name ∈ [p.id], name ∈ r.profileIds := by
    intro name hname
    rw [List.mem_singleton.mp hname]
    exact mem_profileIds_of_mem_zipIdx h
  have hperform := perform_adds r w [p.id] hnodup hregistered
  exact ⟨invoked_adds hnodup hregistered hperform (p.resolve c) place c past,
    run_adds (p.resolve c) hperform _⟩

/-- Trying one profile after another sets none to work for itself either. -/
theorem firstResolved_adds (r : Registry) (w : World) (c : Context)
    {profiles : List (Profile × Nat)} (within : ∀ x ∈ profiles, x ∈ r.profiles.zipIdx)
    (past : History) : r.Adds [] past (r.firstResolved w c profiles past).2 := by
  induction profiles generalizing past with
  | nil => exact .refl r [] past
  | cons profile rest ih =>
      obtain ⟨p, place⟩ := profile
      obtain ⟨hp, hrest⟩ := List.forall_mem_cons.mp within
      unfold firstResolved
      split
      · rw [invoke_eq]
        obtain ⟨hinvoked, -⟩ := root_adds hp w c past
        simp only
        split
        · exact hinvoked
        · exact hinvoked.trans (ih hrest _)
      · exact ih hrest past

end AgentId.Registry
