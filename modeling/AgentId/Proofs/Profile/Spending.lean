/-
Whom a profile may ask, and how often.

An identifier says where its agent is at home, and nobody but this host and whoever it names
for a card is to be asked about the agent.  `Permitted` says which events that leaves, given
what happened before: three names of the host have records to look up, and a page may be
fetched only right after the records were read that say where it is.

What a profile asks is bounded, too, whatever it is answered.  `Spends` says both at once and
adds up, and the bounds go by the name of the profile (`lookups`, `pages`): three profiles ask
by themselves, and that of bindings may have two of them ask once more.
-/
import AgentId.Proofs.Profile.Card.Name
import AgentId.Proofs.Profile.Course
import AgentId.Proofs.Profile.Followup
import Mathlib.Algebra.GroupWithZero.Nat

namespace AgentId

open Profile

/-! ### What may happen -/

/-- What may happen for an identifier, after the older events.  Verifiers and DID profiles are
never asked. -/
inductive Permitted (u : Uaid) (older : List Event) : Event → Prop where
  /-- The records of the host are looked up, under one of three names. -/
  | lookup {home host : String} {reply : Except Fault (List String)}
      (atHome : u.home? = some home)
      (named : host ∈ ["_uaid." ++ home, "_ans." ++ home, "_agent." ++ home]) :
      Permitted u older (.consulted (.txt host) reply)
  /-- A page is fetched from where a record of the host says that the card is, as soon as the
  host has answered. -/
  | page {home record url : String} {records : List String} {before : List Event}
      {reply : Except Fault HttpResponse} (atHome : u.home? = some home)
      (preceding : older = .consulted (.txt ("_ans." ++ home)) (.ok records) :: before)
      (member : record ∈ records) (lists : CardRecord.Lists u record url) :
      Permitted u older (.consulted (.http url) reply)
  /-- The document of a DID is asked for. -/
  | document {place : Nat} {did : String} {reply : Except Fault (Option DidDocument)} :
      Permitted u older (.askedDid place did reply)
  /-- A profile is set to work. -/
  | work {place : Nat} {id : String} {above : List String} {c : Context} :
      Permitted u older (.invoked place id above c)

/-- Each of these events, the last one first, may happen after those before it. -/
inductive Confined (u : Uaid) : List Event → Prop where
  | nil : Confined u []
  | cons {e : Event} {older : List Event} (permitted : Permitted u older e)
      (rest : Confined u older) : Confined u (e :: older)

/-- An event in which records are looked up. -/
def Event.isLookup : Event → Bool
  | .consulted (.txt _) _ => true
  | _ => false

/-- An event in which a page is fetched. -/
def Event.isPage : Event → Bool
  | .consulted (.http _) _ => true
  | _ => false

/-- The later history goes on from the past as it may, with at most so many lookups and
pages. -/
def Spends (u : Uaid) (lookups pages : Nat) (past later : History) : Prop :=
  ∃ events, later = events ++ past ∧ Confined u events ∧
    events.countP Event.isLookup ≤ lookups ∧ events.countP Event.isPage ≤ pages

section
variable {u : Uaid} {e : Event} {events older more : List Event}

/-- What happened before a longer time changes nothing. -/
theorem Permitted.append (h : Permitted u older e) (more : List Event) :
    Permitted u (older ++ more) e := by
  cases h with
  | lookup atHome named => exact .lookup atHome named
  | page atHome preceding member lists =>
      subst preceding
      exact .page atHome (List.cons_append ..) member lists
  | document => exact .document
  | work => exact .work

theorem Confined.append (h : Confined u events) (h' : Confined u older) :
    Confined u (events ++ older) := by
  induction h with
  | nil => exact h'
  | cons permitted _ ih => exact .cons (permitted.append older) ih

theorem Confined.permitted (h : Confined u (events ++ e :: older)) : Permitted u older e := by
  induction events with
  | nil =>
      cases h with
      | cons permitted _ => exact permitted
  | cons _ _ ih =>
      cases h with
      | cons _ rest => exact ih rest

end

section
variable {u : Uaid} {l n l' n' : Nat} {past later latest : History}

theorem Spends.refl (u : Uaid) (past : History) : Spends u 0 0 past past :=
  ⟨[], rfl, .nil, Nat.le_refl 0, Nat.le_refl 0⟩

theorem Spends.trans (h : Spends u l n past later) (h' : Spends u l' n' later latest) :
    Spends u (l + l') (n + n') past latest := by
  obtain ⟨events, rfl, hevents, hl, hn⟩ := h
  obtain ⟨events', rfl, hevents', hl', hn'⟩ := h'
  refine ⟨events' ++ events, (List.append_assoc ..).symm, hevents'.append hevents, ?_, ?_⟩
  · rw [List.countP_append, Nat.add_comm l]
    exact Nat.add_le_add hl' hl
  · rw [List.countP_append, Nat.add_comm n]
    exact Nat.add_le_add hn' hn

theorem Spends.mono (h : Spends u l n past later) (hl : l ≤ l') (hn : n ≤ n') :
    Spends u l' n' past later := by
  obtain ⟨events, hlater, hevents, hl₀, hn₀⟩ := h
  exact ⟨events, hlater, hevents, hl₀.trans hl, hn₀.trans hn⟩

/-- What asks nobody outside spends nothing. -/
theorem Spends.one {e : Event} (permitted : Permitted u [] e) (quiet : e.isLookup = false)
    (pageless : e.isPage = false) (past : History) : Spends u 0 0 past (e :: past) :=
  ⟨[e], rfl, .cons permitted .nil, by simp [quiet], by simp [pageless]⟩

theorem Spends.lookup {home host : String} (atHome : u.home? = some home)
    (named : host ∈ ["_uaid." ++ home, "_ans." ++ home, "_agent." ++ home])
    (reply : Except Fault (List String)) (past : History) :
    Spends u 1 0 past (.consulted (.txt host) reply :: past) :=
  ⟨[_], rfl, .cons (.lookup atHome named) .nil, Nat.le_refl 1, Nat.le_refl 0⟩

end

namespace Profile

/-! ### What each profile spends -/

section
variable {w : World} {perform : (d : Delegation) → Run d.Answer} {past : History} {c : Context}
variable {run : Except Fault Resolution × History} {schemes : SchemesConfig}

theorem Card.Course.spends (h : Card.Course schemes w past c run) :
    Spends c.parsed 1 1 past run.2 := by
  -- Its own question comes first in every case but the first one, for a host that is at home.
  have hasks : ∀ (q : Request) (reply : Except Fault (List String)), request c.parsed = .ok q →
      c.parsed.home? = some q.home ∧
        Spends c.parsed 1 0 past (.consulted (.txt (host q.home)) reply :: past) := by
    intro q reply asks
    have hhome := home_of_home? (request_eq_ok_iff.mp asks).1
    exact ⟨hhome, .lookup hhome (by simp [host]) reply past⟩
  have hfetches : ∀ (q : Request) (records : List String) (record : CardRecord)
      (reply : Except Fault HttpResponse), request c.parsed = .ok q →
      select q records = .ok record →
      Spends c.parsed 1 1 past (.consulted (.http record.url) reply ::
        .consulted (.txt (host q.home)) (.ok records) :: past) := by
    intro q records record reply asks selected
    obtain ⟨hhome, -⟩ := hasks q (.ok records) asks
    obtain ⟨text, hmem, hlists⟩ := exists_lists asks selected
    exact ⟨[_, _], rfl, .cons (.page hhome rfl hmem hlists)
      (.cons (.lookup hhome (by simp [host])) .nil), Nat.le_refl 1, Nat.le_refl 1⟩
  cases h with
  | notAsked _ => exact (Spends.refl _ _).mono (Nat.zero_le 1) (Nat.zero_le 1)
  | unanswered asks _ => exact (hasks _ _ asks).2.mono (Nat.le_refl 1) (Nat.zero_le 1)
  | unselected asks _ _ => exact (hasks _ _ asks).2.mono (Nat.le_refl 1) (Nat.zero_le 1)
  | unserved asks _ selected _ => exact hfetches _ _ _ _ asks selected
  | evaluated asks _ selected _ => exact hfetches _ _ _ _ asks selected

theorem Endpoint.Course.spends (h : Endpoint.Course schemes w past c run) :
    Spends c.parsed 1 0 past run.2 := by
  have hasks : ∀ (home : String) (reply : Except Fault (List String)),
      home? c.parsed = some home →
      Spends c.parsed 1 0 past (.consulted (.txt (host home)) reply :: past) := by
    intro home reply atHome
    exact .lookup (home?_eq_some_iff.mp atHome).2 (by simp [host]) reply past
  cases h with
  | notAsked _ _ => exact (Spends.refl _ _).mono (Nat.zero_le 1) (Nat.le_refl 0)
  | unanswered atHome _ => exact hasks _ _ atHome
  | unselected atHome _ _ => exact hasks _ _ atHome
  | taken atHome _ _ => exact hasks _ _ atHome

/-- The profile of documents asks nobody but for the document. -/
theorem BaseDid.Course.spends (h : BaseDid.Course perform past c run)
    (document : ∀ did, Spends c.parsed 0 0 past (perform (.did did) past).2) :
    Spends c.parsed 0 0 past run.2 := by
  cases h with
  | notAsked _ _ => exact .refl _ _
  | undetermined _ _ => exact .refl _ _
  | known _ _ _ => exact .refl _ _
  | @unanswered did _ _ _ _ asked => exact congrArg Prod.snd asked ▸ document did
  | @answered did _ _ _ _ asked => exact congrArg Prod.snd asked ▸ document did

/-- How often a profile looks up records, at most. -/
def lookups (id : String) : Nat :=
  if id = DnsBinding.id then 3 else if id = BaseDid.id then 0 else 1

/-- How often a profile fetches a page, at most. -/
def pages (id : String) : Nat :=
  if id = DnsBinding.id ∨ id = Card.id then 1 else 0

namespace DnsBinding

/-- **Going on spends what each of the profiles spends**, as far as it comes. -/
theorem follow_spends {u : Uaid} {uaid : String} {profiles : List String}
    (each : ∀ id ∈ profiles, ∀ past,
      Spends u (lookups id) (pages id) past (perform (.profile uaid id) past).2)
    (soFar : Followup) (past : History) :
    Spends u (profiles.map lookups).sum (profiles.map pages).sum past
      ((follow uaid soFar profiles).run w perform past).2 := by
  induction profiles generalizing soFar past with
  | nil => exact .refl u past
  | cons id rest ih =>
      obtain ⟨hfirst, hrest⟩ := List.forall_mem_cons.mp each
      have hhere := hfirst past
      simp only [follow, Dialogue.attempt, Dialogue.run_bind, Dialogue.run_delegate,
        Dialogue.run_outcome, List.map_cons, List.sum_cons]
      -- A profile that resolves the identifier leaves the rest unspent.
      cases (perform (.profile uaid id) past).1.toOption.filter (·.isResolved) with
      | some found => exact hhere.mono (Nat.le_add_right _ _) (Nat.le_add_right _ _)
      | none =>
          cases failure? (perform (.profile uaid id) past).1 with
          | some reason => exact hhere.trans (ih hrest _ _)
          | none => exact hhere.trans (ih hrest _ _)

/-- The profiles to go on with ask no more than two of them can. -/
theorem sum_followups (u : Uaid) :
    ((followups u).map lookups).sum ≤ 2 ∧ ((followups u).map pages).sum ≤ 1 := by
  unfold followups
  split
  · decide
  · split
    · decide
    · decide

theorem Course.spends {config : DnsBindingConfig} (h : Course config w perform past c run)
    (others : ∀ profile ∈ followups c.parsed, ∀ asked,
      Spends c.parsed (lookups profile) (pages profile) asked
        (perform (.profile c.uaid profile) asked).2) :
    Spends c.parsed 3 1 past run.2 := by
  cases h with
  | notAsked _ _ => exact (Spends.refl _ _).mono (Nat.zero_le 3) (Nat.zero_le 1)
  | unanswered atHome _ =>
      exact (Spends.lookup atHome (by simp [host]) _ _).mono (by decide) (Nat.zero_le 1)
  | unbound atHome _ _ =>
      exact (Spends.lookup atHome (by simp [host]) _ _).mono (by decide) (Nat.zero_le 1)
  | @bound home records binding ending later atHome answered selected followed =>
      generalize hprofiles : (if config.enableFollowup then followups c.parsed else []) =
        profiles at followed
      have hmay : ∀ id ∈ profiles, id ∈ followups c.parsed := by
        subst hprofiles
        exact fun id hid => mem_followups_of_enabled hid
      have hsum : (profiles.map lookups).sum ≤ 2 ∧ (profiles.map pages).sum ≤ 1 := by
        subst hprofiles
        split
        · exact sum_followups c.parsed
        · decide
      have hown : Spends c.parsed 1 0 past
          (.consulted (.txt (host home)) (.ok records) :: past) :=
        .lookup atHome (by simp [host]) _ _
      have hfollow := follow_spends (w := w) (fun id hid => others id (hmay id hid)) .noneApplied
        (.consulted (.txt (host home)) (.ok records) :: past)
      rw [followed] at hfollow
      exact (hown.trans hfollow).mono (Nat.add_le_add_left hsum.1 1) (by simpa using hsum.2)

end DnsBinding

end

end Profile

end AgentId
