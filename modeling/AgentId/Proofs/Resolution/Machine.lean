/-
Resolving step by step.

`Registry.resolve` and `Registry.resolveWith` are recursive functions, and that they are
functions at all was argued where they are defined.  This file has a machine for the same
work that was promised no end.  It keeps the profiles at work on a stack: one of them is
doing its dialogue, each of the others waits for the answer of the one that it delegated
to, and every one carries the names that it must not delegate to.  A step does one thing:
it has a question answered, sets a profile to work, or hands an answer down.

The machine comes to an end all the same, and with the answer and the history of the
functions (`reaches_done`).  The argument goes by the names on the stack for profiles that
delegate to profiles, and by the dialogue for what a single profile does.
-/
import AgentId.Proofs.Resolution.Delegation
import Mathlib.Logic.Function.Iterate

namespace AgentId.Registry

/-- What the profiles are at work for. -/
inductive Root where
  /-- One profile that was asked for. -/
  | one
  /-- The first that resolves the identifier, with those that are still to be tried. -/
  | first (c : Context) (rest : List (Profile × Nat))

/-- A profile that waits for what it delegated, and how it goes on with the answer. -/
abbrev Waiting := Frame × (Except Fault Resolution → Dialogue Resolution)

/-- Where the machine stands. -/
inductive State where
  | running (root : Root) (waiting : List Waiting) (frame : Frame) (work : Dialogue Resolution)
      (past : History)
  | done (reply : Except Fault Resolution) (past : History)

/-- Tries the next profile that supports an identifier, on an empty stack. -/
def tryNext (c : Context) : List (Profile × Nat) → History → State
  | [], past => .done (.ok (unsolved c)) past
  | (profile, place) :: rest, past =>
    if profile.supports c.uaid c.parsed then
      .running (.first c rest) [] ⟨place, profile.id, [], c⟩ (profile.resolve c)
        (.invoked place profile.id [] c :: past)
    else tryNext c rest past

/-- Where a resolution starts, with the profile that is asked for, if one is. -/
def start (r : Registry) (uaid : String) (profile : Option String) (past : History) : State :=
  match profile with
  | some id =>
    match r.enter uaid id [] past with
    | (.answered reply, past) => .done (.ok reply) past
    | (.entered frame work, past) => .running .one [] frame work past
  | none =>
    match Uaid.parse uaid with
    | .error fault => .done (.ok (malformed uaid none fault)) past
    | .ok parsed =>
      tryNext (r.contextOf uaid parsed past) r.profiles.zipIdx
        (r.documentOf parsed.baseDid? past).2

/-- One step. -/
def step (r : Registry) (w : World) : State → State
  | .done reply past => .done reply past
  | .running root waiting frame (.consult c next) past =>
    .running root waiting frame (next (w past c)) (.consulted c (w past c) :: past)
  | .running root waiting frame (.delegate (.did did) next) past =>
    .running root waiting frame (next (r.resolveDid did past).1) (r.resolveDid did past).2
  | .running root waiting frame (.delegate (.didProfile did) next) past =>
    .running root waiting frame (next (r.resolveDidProfile did past).1)
      (r.resolveDidProfile did past).2
  | .running root waiting frame (.delegate (.profile uaid id) next) past =>
    match r.enter uaid id (frame.id :: frame.exclude) past with
    | (.answered reply, past) => .running root waiting frame (next (.ok reply)) past
    | (.entered inner work, past) => .running root ((frame, next) :: waiting) inner work past
  | .running root ((outer, next) :: waiting) frame (.outcome result) past =>
    .running root waiting outer (next (result.map (Resolution.settled frame.context))) past
  | .running .one [] frame (.outcome result) past =>
    .done (result.map (Resolution.settled frame.context)) past
  | .running (.first c rest) [] _ (.outcome result) past =>
    match result.toOption.filter (·.isResolved) with
    | some found => .done (.ok (Resolution.settled c found)) past
    | none => tryNext c rest past

/-! ### The way to the end -/

/-- Some number of steps leads from one state to the other. -/
def Reaches (r : Registry) (w : World) (s t : State) : Prop :=
  ∃ n, (r.step w)^[n] s = t

section
variable {r : Registry} {w : World} {s t u : State}

theorem Reaches.refl (r : Registry) (w : World) (s : State) : r.Reaches w s s :=
  ⟨0, rfl⟩

theorem Reaches.head (h : r.Reaches w (r.step w s) t) : r.Reaches w s t := by
  obtain ⟨n, hn⟩ := h
  exact ⟨n + 1, hn⟩

theorem Reaches.trans (h : r.Reaches w s t) (h' : r.Reaches w t u) : r.Reaches w s u := by
  obtain ⟨n, rfl⟩ := h
  obtain ⟨m, rfl⟩ := h'
  exact ⟨m + n, Function.iterate_add_apply _ m n s⟩

end

/-! ### Single steps -/

section
variable (r : Registry) (w : World) (root : Root) (waiting : List Waiting) (frame : Frame)
  (past : History)

theorem step_profile (uaid id : String) (next : Except Fault Resolution → Dialogue Resolution) :
    r.step w (.running root waiting frame (.delegate (.profile uaid id) next) past) =
      match r.enter uaid id (frame.id :: frame.exclude) past with
      | (.answered reply, past) => .running root waiting frame (next (.ok reply)) past
      | (.entered inner work, past) =>
        .running root ((frame, next) :: waiting) inner work past := by
  simp only [step]

theorem step_return (outer : Frame) (next : Except Fault Resolution → Dialogue Resolution)
    (result : Except Fault Resolution) :
    r.step w (.running root ((outer, next) :: waiting) frame (.outcome result) past) =
      .running root waiting outer (next (result.map (Resolution.settled frame.context))) past :=
  rfl

end

/-- **A profile at work comes to its outcome**, with whatever is on the stack below it. -/
theorem reaches_outcome (r : Registry) (w : World) (root : Root) (waiting : List Waiting)
    (frame : Frame) (work : Dialogue Resolution) (past : History) :
    r.Reaches w (.running root waiting frame work past)
      (let run := work.run w (r.perform w (frame.id :: frame.exclude)) past
       .running root waiting frame (.outcome run.1) run.2) := by
  -- The outer induction is for the profiles set to work above this one, the inner one for
  -- what this one still has to ask.
  induction h : frame.id :: frame.exclude using above_induction r
    generalizing waiting frame work past with
  | step above ih =>
      subst h
      induction work generalizing past with
      | outcome result => exact .refl r w _
      | consult c next ihwork => exact .head (ihwork (w past c) _)
      | delegate d next ihwork =>
          cases d with
          | did did => exact .head (ihwork _ _)
          | didProfile did => exact .head (ihwork _ _)
          | profile uaid id =>
              refine .head ?_
              rw [step_profile, Dialogue.run_delegate]
              rcases r.enter_cases uaid id (frame.id :: frame.exclude) past with
                ⟨reply, later, hentry, -, hdelegated⟩ |
                ⟨parsed, p, place, hnew, hregistered, hentry, hdelegated⟩
              · have hreply : r.perform w (frame.id :: frame.exclude) (.profile uaid id) past =
                    (.ok reply, later) := hdelegated w
                rw [hentry, hreply]
                exact ihwork _ _
              · have hreply : r.perform w (frame.id :: frame.exclude) (.profile uaid id) past =
                    _ := hdelegated w
                let c := r.contextOf uaid parsed past
                have hinner := ih id hregistered hnew ((frame, next) :: waiting)
                  ⟨place, id, frame.id :: frame.exclude, c⟩ (p.resolve c)
                  (.invoked place id (frame.id :: frame.exclude) c ::
                    (r.documentOf parsed.baseDid? past).2) rfl
                rw [hentry, hreply]
                refine Reaches.trans hinner (Reaches.head ?_)
                rw [step_return]
                exact ihwork _ _

/-! ### The whole resolution -/

/-- What a resolution is to come to, with the profile that is asked for, if one is. -/
def request (r : Registry) (w : World) (uaid : String) : Option String → Run Resolution
  | some id => r.resolveWith w uaid id
  | none => r.resolve w uaid

theorem request_adds (r : Registry) (w : World) (uaid : String) (profile : Option String)
    (past : History) : r.Adds [] past (r.request w uaid profile past).2 := by
  cases profile with
  | some id =>
      exact perform_adds r w [] List.nodup_nil (fun _ h => absurd h List.not_mem_nil)
        (.profile uaid id) past
  | none =>
      cases hparse : Uaid.parse uaid with
      | error fault =>
          simp only [request, resolve, knowing_of_error hparse]
          exact .refl r [] past
      | ok parsed =>
          simp only [request, resolve, knowing_of_ok hparse]
          exact ((documentOf_quiet r _ past).adds r []).trans
            (firstResolved_adds r w _ (fun _ h => h) _)

theorem tryNext_reaches_done (r : Registry) (w : World) (c : Context)
    (profiles : List (Profile × Nat)) (past : History) :
    r.Reaches w (tryNext c profiles past)
      (let first := r.firstResolved w c profiles past
       .done (.ok (first.1.getD (unsolved c))) first.2) := by
  induction profiles generalizing past with
  | nil => exact .refl r w _
  | cons profile rest ih =>
      obtain ⟨p, place⟩ := profile
      unfold tryNext firstResolved
      by_cases hsupports : p.supports c.uaid c.parsed
      · rw [if_pos hsupports, if_pos hsupports, invoke_eq]
        refine (reaches_outcome r w _ _ _ _ _).trans (.head ?_)
        simp only [step]
        cases ((p.resolve c).run w (r.perform w [p.id])
            (.invoked place p.id [] c :: past)).1.toOption.filter (·.isResolved) with
        | none => exact ih _
        | some found => exact .refl r w _
      · rw [if_neg hsupports, if_neg hsupports]
        exact ih past

/-- **Resolving step by step comes to an end**, and comes to what resolving is. -/
theorem reaches_done (r : Registry) (w : World) (uaid : String) (profile : Option String)
    (past : History) :
    r.Reaches w (r.start uaid profile past)
      (.done (r.request w uaid profile past).1 (r.request w uaid profile past).2) := by
  cases profile with
  | none =>
      cases hparse : Uaid.parse uaid with
      | error fault =>
          simp only [start, request, resolve, knowing_of_error hparse, hparse]
          exact .refl r w _
      | ok parsed =>
          simp only [start, request, resolve, knowing_of_ok hparse, hparse]
          exact tryNext_reaches_done r w _ _ _
  | some id =>
      rcases r.enter_cases uaid id [] past with ⟨reply, later, hentry, -, hdelegated⟩ |
        ⟨parsed, p, place, -, -, hentry, hdelegated⟩
      · simp only [start, request, resolveWith, hentry, hdelegated]
        exact .refl r w _
      · simp only [start, request, resolveWith, hentry, hdelegated]
        exact (reaches_outcome r w _ _ _ _ _).trans (.head (.refl r w _))

end AgentId.Registry
