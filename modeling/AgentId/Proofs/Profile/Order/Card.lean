/-
Card records in another order.

Of the records that fit one with the smallest place is taken, so the same page is fetched in
whatever order the host lists them.  But the same place can be named for several versions.  A
card without a name is compared with the version of the record that was taken, and of records
with one place this is the first in the list: what comes of it depends on the order
(`moved_only_by_version`).

An identifier that asks for a version is safe, for only records of that version fit.
-/
import AgentId.Proofs.Profile.Card.Name
import AgentId.Proofs.Record.Order
import AgentId.Proofs.Resolution.Relisting

namespace AgentId.Profile.Card

/-! ### The record that is taken -/

theorem perm_fitting (q : Request) {records records' : List String}
    (perm : records.Perm records') : (fitting q records).Perm (fitting q records') := by
  have hcards := perm.filterMap CardRecord.ofText?
  unfold fitting
  cases q.version with
  | none => exact hcards
  | some version => exact hcards.filter _

/-- From either order a record of the same place is taken, or none is. -/
theorem select_of_perm (q : Request) {records records' : List String}
    (perm : records.Perm records') :
    (∃ refusal, select q records = .error refusal ∧ select q records' = .error refusal) ∨
    ∃ record record', select q records = .ok record ∧ select q records' = .ok record' ∧
      record.url = record'.url := by
  have hrecords : records = [] ↔ records' = [] := by
    rw [← List.isEmpty_iff, ← List.isEmpty_iff, perm.isEmpty_eq]
  have hcards : records.filterMap CardRecord.ofText? = [] ↔
      records'.filterMap CardRecord.ofText? = [] := by
    rw [← List.isEmpty_iff, ← List.isEmpty_iff, (perm.filterMap CardRecord.ofText?).isEmpty_eq]
  simp only [select_eq, hrecords, hcards]
  split
  · exact Or.inl ⟨_, rfl, rfl⟩
  · split
    · exact Or.inl ⟨_, rfl, rfl⟩
    · rcases leastBy?_of_perm CardRecord.url (perm_fitting q perm) with
        ⟨hleast, hleast'⟩ | ⟨record, record', hleast, hleast', -, -, hurl⟩
      · rw [hleast, hleast']
        exact Or.inl ⟨_, rfl, rfl⟩
      · rw [hleast, hleast']
        exact Or.inr ⟨record, record', rfl, rfl, hurl⟩

/-! ### What its version decides -/

section
variable {schemes : SchemesConfig} {uaid : String} (q : Request) (record record' : CardRecord)

/-- The version of a record is looked at for a card that has no name. -/
theorem checkName_eq_or (card : AgentCard) :
    checkName q record card = checkName q record' card ∨
      record.version? ≠ record'.version? ∧ ∀ name, ¬ Declares card name := by
  by_cases hversion : record.version? = record'.version?
  · refine Or.inl ?_
    unfold checkName
    rw [hversion]
  · cases hname : card.ansName.filter (· ≠ "") with
    | some name =>
        refine Or.inl ?_
        unfold checkName
        rw [hname]
    | none =>
        refine Or.inr ⟨hversion, fun name hdeclares => ?_⟩
        rw [declares_iff.mpr hdeclares] at hname
        cases hname

/-- A page says the same at the place of either record, unless it is a card without a name and
the records are for different versions. -/
theorem evaluate_eq_or (response : HttpResponse) (hurl : record.url = record'.url) :
    evaluate schemes uaid q record response = evaluate schemes uaid q record' response ∨
    ∃ card, received record response = .ok card ∧ record.version? ≠ record'.version? ∧
      ∀ name, ¬ Declares card name := by
  have hreceived : received record response = received record' response := by
    unfold received
    rw [hurl]
  have hendpoint : ∀ card, endpoint schemes q record card = endpoint schemes q record' card := by
    intro card
    unfold endpoint
    rw [hurl]
  have hfound : ∀ name url, found uaid q record name url = found uaid q record' name url := by
    intro name url
    unfold found
    rw [hurl]
  unfold evaluate
  rw [← hreceived]
  cases hcard : received record response with
  | error refusal => exact Or.inl rfl
  | ok card =>
      rcases checkName_eq_or q record record' card with hname | hdiffer
      · refine Or.inl ?_
        simp only [bind, Except.bind, hname, hendpoint, hfound]
      · exact Or.inr ⟨card, rfl, hdiffer⟩

end

/-! ### The profile -/

/--
**The order of card records makes a difference only for a card without a name, by the version
of its record.**  Let the host of an agent list the same records in two orders, and let
everybody else answer the same.  Then the same page is fetched, if any.  The outcome is the same
too, unless the identifier asks for no version, the page is a card without a name, and it was
found by two records of one place that are for different versions.
-/
theorem moved_only_by_version (schemes : SchemesConfig) {c : Context} {home : String}
    {records records' : List String} {past : History} {w w' : World}
    {perform perform' : (d : Delegation) → Run d.Answer} (atHome : home? c.parsed = some home)
    (h : Relisting (host home) records records' past w w' perform perform') :
    let answer := ((Profile.card schemes).resolve c).run w perform past
    let answer' := ((Profile.card schemes).resolve c).run w' perform' past
    Relisted (host home) answer.2 answer'.2 ∧
    (answer.1 = answer'.1 ∨
      c.parsed.param? Uaid.Key.version = none ∧
      ∃ q record record' card,
        Visit w past c q record card ∧ Visit w' past c q record' card ∧
        record.url = record'.url ∧ record.version? ≠ record'.version? ∧
        ∀ name, ¬ Declares card name) := by
  intro answer answer'
  have hlisted := (Relisted.refl (host home) past).listed h.perm
  cases asks : request c.parsed with
  | error refusal =>
      rw [show answer = _ from run_of_refused asks, show answer' = _ from run_of_refused asks]
      exact ⟨Relisted.refl _ past, Or.inl rfl⟩
  | ok q =>
      obtain ⟨hhome, -, -, -, hversion⟩ := request_eq_ok_iff.mp asks
      obtain rfl : q.home = home := Option.some.inj (hhome.symm.trans atHome)
      rw [show answer = _ from run_of_listed asks h.lists,
        show answer' = _ from run_of_listed asks h.lists']
      rcases select_of_perm q h.perm with
        ⟨refusal, hselect, hselect'⟩ | ⟨record, record', hselect, hselect', hurl⟩
      · simp only [hselect, hselect']
        exact ⟨hlisted, Or.inl trivial⟩
      · obtain ⟨written, url⟩ := record
        obtain ⟨written', url'⟩ := record'
        obtain rfl : url = url' := hurl
        have hserved := h.consulted (.http url) (by simp) _ _ hlisted
        simp only [hselect, hselect', ← hserved]
        refine ⟨hlisted.cons _, ?_⟩
        cases hresponse : w (.consulted (.txt (host q.home)) (.ok records) :: past)
            (.http url) with
        | error fault => exact Or.inl rfl
        | ok response =>
            rcases evaluate_eq_or q ⟨written, url⟩ ⟨written', url⟩ response rfl with
              hsame | ⟨card, hcard, hdiffer, hunnamed⟩
            · exact Or.inl (by rw [Except.map, Except.map, hsame])
            · have hpage := received_eq_ok_iff.mp hcard
              refine Or.inr ⟨?_, q, ⟨written, url⟩, ⟨written', url⟩, card, ?_, ?_, rfl, hdiffer,
                hunnamed⟩
              · refine param?_of_requestedVersion ?_
                cases hasked : q.version with
                | none => rw [hversion, hasked]
                | some version =>
                    have hsame := (version?_of_select hselect hasked).trans
                      (version?_of_select hselect' hasked).symm
                    exact absurd hsame hdiffer
              · exact ⟨asks, records, response, h.lists, hselect, hresponse, hpage⟩
              · exact ⟨asks, records', response, h.lists', hselect', hserved ▸ hresponse, hpage⟩

/-! ### One place for two versions -/

/-- An agent that is named after its version and its host. -/
def versionNamed : Context where
  uaid := "uaid:aid:abc;uid=ans://v1.0.0.agent.example.com;registry=ans;proto=a2a;" ++
    "nativeId=agent.example.com"
  parsed := {
    target := .aid
    identifier := "abc"
    params := .ofList [("uid", "ans://v1.0.0.agent.example.com"), ("registry", "ans"),
      ("proto", "a2a"), ("nativeId", "agent.example.com")] }
  did := none
  document := none

/-- The same agent, by an identifier that asks for the version. -/
def versionAsked : Context :=
  { versionNamed with
    uaid := versionNamed.uaid ++ ";version=1.0.0"
    parsed := { versionNamed.parsed with
      params := versionNamed.parsed.params.insert Uaid.Key.version "1.0.0" } }

/-- The card is at one place for both versions. -/
def sharedPlace : List String := [
  "v=ans1; version=1.0.0; url=https://cards.example/a",
  "v=ans1; version=2.0.0; url=https://cards.example/a"]

/-- With a version that is asked for, the order makes no difference. -/
theorem moved_only_by_version_sharedPlace :
    (((Profile.card ⟨["https"]⟩).resolve versionAsked).run
        (latestWorld.listing (host "agent.example.com") sharedPlace) Dialogue.nobody []).1 =
      (((Profile.card ⟨["https"]⟩).resolve versionAsked).run
        (latestWorld.listing (host "agent.example.com") sharedPlace.reverse)
        Dialogue.nobody []).1 := by
  have atHome : home? versionAsked.parsed = some "agent.example.com" := by decide +kernel
  have hasked : versionAsked.parsed.param? Uaid.Key.version ≠ none := by decide +kernel
  have hrelisting := relisting_listing (w := latestWorld) (fun _ _ _ => rfl)
    (host "agent.example.com") (List.reverse_perm sharedPlace).symm []
  obtain ⟨-, hsame | ⟨hnone, -⟩⟩ := moved_only_by_version ⟨["https"]⟩ atHome hrelisting
  · exact hsame
  · exact absurd hnone hasked

/-- **The order of card records can make a difference**: an agent is found, or its card is
taken for that of another one. -/
theorem exists_card_moved :
    ∃ records records', records.Perm records' ∧
      (∃ found, (((Profile.card ⟨["https"]⟩).resolve versionNamed).run
          (latestWorld.listing (host "agent.example.com") records) Dialogue.nobody []).1 =
            .ok found ∧ found.isResolved) ∧
      (((Profile.card ⟨["https"]⟩).resolve versionNamed).run
          (latestWorld.listing (host "agent.example.com") records')
          Dialogue.nobody []).1.toOption.bind Resolution.code? = some .ansNameMismatch := by
  refine ⟨sharedPlace, sharedPlace.reverse, (List.reverse_perm _).symm, ?_, by decide +kernel⟩
  have hfound : ((((Profile.card ⟨["https"]⟩).resolve versionNamed).run
      (latestWorld.listing (host "agent.example.com") sharedPlace)
      Dialogue.nobody []).1.toOption.filter (·.isResolved)).isSome := by
    decide +kernel
  obtain ⟨found, hsome⟩ := Option.isSome_iff_exists.mp hfound
  exact ⟨found, filter_isResolved_eq_some_iff.mp hsome⟩

end AgentId.Profile.Card
