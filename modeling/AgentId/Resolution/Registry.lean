/-
The registry of resolvers.

A registry resolves an identifier in steps: the identifier is taken apart, the DID that it
points at is derived and its document fetched, and then one profile that was asked for, or
every profile that supports the identifier in the order of registration, goes to work; the
first that resolves the identifier is the answer, filled up from the document.

A profile can delegate to another by the registry, but never to one that it works for
itself, directly or through others: the registry keeps the names of the profiles `above`.
The names that are registered and not above become fewer with every delegation, and that
is why delegating comes to an end (`unused_lt`).
-/
import AgentId.Did.Resolver
import AgentId.Profile.Basic
import AgentId.Resolution.Fallback
import AgentId.Uaid.BaseDid
import AgentId.Uaid.Parser

namespace AgentId

/-- Resolvers in the order of their registration. -/
structure Registry where
  didResolvers : List DidResolver := []
  didProfiles : List DidProfile := []
  profiles : List Profile := []

namespace Registry

/-! ### Registration -/

/-- The registry with one more DID resolver. -/
def addDidResolver (r : Registry) (x : DidResolver) : Registry :=
  { r with didResolvers := r.didResolvers ++ [x] }

/-- The registry with one more DID profile. -/
def addDidProfile (r : Registry) (x : DidProfile) : Registry :=
  { r with didProfiles := r.didProfiles ++ [x] }

/-- The registry with one more profile. -/
def addProfile (r : Registry) (x : Profile) : Registry :=
  { r with profiles := r.profiles ++ [x] }

/-- The names of the profiles, in order. -/
def profileIds (r : Registry) : List String :=
  r.profiles.map (·.id)

/-- The first profile of a name, with its place. -/
def profile? (r : Registry) (id : String) : Option (Profile × Nat) :=
  r.profiles.zipIdx.find? (·.1.id == id)

/-! ### DIDs -/

/-- The document of a DID, from the first resolver that supports it. -/
def resolveDid (r : Registry) (did : String) : Run (Option DidDocument) := fun past =>
  match r.didResolvers.zipIdx.find? (·.1.supports did) with
  | none => (.ok none, past)
  | some (x, place) =>
    let reply := x.resolve past did
    (reply, .askedDid place did reply :: past)

/-- What the first DID profile that supports a DID finds for it. -/
def resolveDidProfile (r : Registry) (did : String) : Run (Option Resolution) := fun past =>
  match r.didProfiles.zipIdx.find? (·.1.supports did) with
  | none => (.ok none, past)
  | some (x, place) =>
    let reply := x.resolve past did
    (reply.map some, .askedDidProfile place did reply :: past)

/-! ### Identifiers -/

/-- The document of the DID that an identifier points at; a fault leaves it without one. -/
def documentOf (r : Registry) (did : Option String) (past : History) :
    Option DidDocument × History :=
  match did with
  | none => (none, past)
  | some did =>
    let (reply, past) := r.resolveDid did past
    (reply.toOption.join, past)

/-- The answer for text that is no identifier. -/
def malformed (uaid : String) (profile : Option String) (fault : Uaid.Fault) : Resolution :=
  .refused uaid profile .invalidUaid fault.message []

/-- The answer for a profile that works on the identifier already. -/
def alreadyAbove (uaid id : String) : Resolution :=
  .refused uaid (some id) .notApplicable
    ("Profile " ++ id ++ " is already resolving this UAID") []

/-- The answer for a profile that is not registered. -/
def notRegistered (uaid id : String) : Resolution :=
  .refused uaid (some id) .profileNotFound ("No profile registered as " ++ id) []

/-- Goes on with what is known of an identifier, unless the text is none. -/
def knowing (r : Registry) (uaid : String) (profile : Option String)
    (next : Context → Run Resolution) : Run Resolution := fun past =>
  match Uaid.parse uaid with
  | .error fault => (.ok (malformed uaid profile fault), past)
  | .ok parsed =>
    let (document, past) := r.documentOf parsed.baseDid? past
    next { uaid, parsed, did := parsed.baseDid?, document } past

/-- Sets a profile to work, with `nested` for what it delegates to other profiles. -/
def invoke (r : Registry) (w : World) (nested : (uaid id : String) → Run Resolution)
    (above : List String) (profile : Profile) (place : Nat) (c : Context) :
    Run Resolution := fun past =>
  let perform : (d : Delegation) → Run d.Answer
    | .did did => r.resolveDid did
    | .didProfile did => r.resolveDidProfile did
    | .profile uaid id => nested uaid id
  (profile.resolve c).run w perform (.invoked place profile.id above c :: past)

/-- How many profiles are registered and not above. -/
def unused (r : Registry) (above : List String) : Nat :=
  (r.profileIds.filter (!above.contains ·)).length

theorem profile?_id {r : Registry} {id : String} {p : Profile} {place : Nat}
    (h : r.profile? id = some (p, place)) : p.id = id := by
  simpa using List.find?_some h

theorem registered_of_profile? {r : Registry} {id : String} {p : Profile} {place : Nat}
    (h : r.profile? id = some (p, place)) : id ∈ r.profileIds := by
  have hmem := List.mem_of_find?_eq_some h
  exact profile?_id h ▸ List.mem_map_of_mem (List.fst_mem_of_mem_zipIdx hmem)

/-- One more profile above leaves fewer that are not. -/
theorem unused_lt {r : Registry} {above : List String} {id : String}
    (registered : id ∈ r.profileIds) (new : id ∉ above) :
    r.unused (id :: above) < r.unused above := by
  have fewer : (r.profileIds.filter (!(id :: above).contains ·)).length <
      (r.profileIds.filter (!above.contains ·)).length := by
    have split : (fun x => !(id :: above).contains x) =
        fun x => x != id && !above.contains x := by
      funext x
      by_cases h : x = id <;> simp [h]
    rw [split, ← List.filter_filter]
    refine List.length_filter_lt_length_iff_exists.2 ⟨id, ?_, by simp⟩
    simp [registered, new]
  exact fewer

/-- What one profile finds, for the profiles above it. -/
def resolveFor (r : Registry) (w : World) (above : List String) (id : String) (c : Context)
    (past : History) : Except Fault Resolution × History :=
  if _new : id ∈ above then (.ok (alreadyAbove c.uaid id), past)
  else
    match _found : r.profile? id with
    | none => (.ok (notRegistered c.uaid id), past)
    | some (profile, place) =>
      let nested := fun (uaid other : String) =>
        r.knowing uaid (some other) (r.resolveFor w (id :: above) other)
      let (reply, past) := r.invoke w nested above profile place c past
      (reply.map (Resolution.settled c), past)
termination_by r.unused above
decreasing_by exact unused_lt (registered_of_profile? _found) _new

/-- What a profile delegates to another, for the profiles above that. -/
def delegated (r : Registry) (w : World) (above : List String) (uaid id : String) :
    Run Resolution :=
  r.knowing uaid (some id) (r.resolveFor w above id)

/-- The first of the profiles that resolves an identifier, out of those that support it.
Faults and refusals leave it to the next. -/
def firstResolved (r : Registry) (w : World) (c : Context) :
    List (Profile × Nat) → History → Option Resolution × History
  | [], past => (none, past)
  | (profile, place) :: rest, past =>
    if profile.supports c.uaid c.parsed then
      let (reply, past) := r.invoke w (r.delegated w [profile.id]) [] profile place c past
      match reply.toOption.filter (·.isResolved) with
      | some found => (some (Resolution.settled c found), past)
      | none => r.firstResolved w c rest past
    else r.firstResolved w c rest past

/-- The answer when no profile resolves an identifier. -/
def unsolved (c : Context) : Resolution :=
  match c.parsed.target with
  | .aid => .unresolved c.uaid
  | .did => .fallback c

/-- What the profiles find for an identifier. -/
def resolve (r : Registry) (w : World) (uaid : String) : Run Resolution :=
  r.knowing uaid none fun c past =>
    let (found, past) := r.firstResolved w c r.profiles.zipIdx past
    (.ok (found.getD (unsolved c)), past)

/-- What one profile finds for an identifier, whether it supports it or not. -/
def resolveWith (r : Registry) (w : World) (uaid id : String) : Run Resolution :=
  r.delegated w [] uaid id

end Registry

end AgentId
