/-
Whose card it is.

A card says that its endpoints are those of an agent, but not always of which one.  `Matched`
says that the agent asked for is the one that the card is of: by its name, or by the version
of the record that led to it.  A card without a name, found by a record without a version,
is compared with nothing (`Unchecked`), and it is taken as well.

An answer is labelled as verified by the name all the same.  What holds of the label is said
here: it stands on every answer, and it is earned by every answer but those of unchecked
cards, which are none when a version is asked for (`labelled_unless_unchecked`).
-/
import AgentId.Proofs.Profile.Card.Selection

namespace AgentId.Profile.Card

/-- A card has a name, which is not empty. -/
def Declares (card : AgentCard) (name : String) : Prop :=
  card.ansName = some name ∧ name ≠ ""

/-- The card is of the agent asked for: by its own name, or when it has none by the name made
of the version of its record. -/
def Matched (q : Request) (record : CardRecord) (card : AgentCard) : Prop :=
  Declares card q.uid ∨
    (∀ name, ¬ Declares card name) ∧
      ∃ version, record.version? = some version ∧ q.uid = "ans://v" ++ version ++ "." ++ q.home

/-- There is no name that the agent could be compared with. -/
structure Unchecked (record : CardRecord) (card : AgentCard) : Prop where
  unnamed : ∀ name, ¬ Declares card name
  unversioned : record.version? = none

theorem Unchecked.not_matched {q : Request} {record : CardRecord} {card : AgentCard}
    (h : Unchecked record card) : ¬ Matched q record card := by
  rintro (hdeclares | ⟨-, version, hversion, -⟩)
  · exact h.unnamed q.uid hdeclares
  · rw [h.unversioned] at hversion
    cases hversion

/-! ### What the check lets pass -/

theorem declares_iff {card : AgentCard} {name : String} :
    card.ansName.filter (· ≠ "") = some name ↔ Declares card name := by
  unfold Declares
  rw [Option.filter_eq_some_iff, decide_eq_true_iff]

/-- **The check passes what matches, and what there is nothing to compare with.** -/
theorem checkName_eq_ok_iff {q : Request} {record : CardRecord} {card : AgentCard} :
    checkName q record card = .ok () ↔ Matched q record card ∨ Unchecked record card := by
  cases hname : card.ansName.filter (· ≠ "") with
  | some name =>
      have hdeclares : Declares card name := declares_iff.mp hname
      have hpasses : checkName q record card = .ok () ↔ name = q.uid := by
        unfold checkName
        rw [hname]
        by_cases hsame : name = q.uid
        · simp [hsame]
        · simp [hsame]
      rw [hpasses]
      constructor
      · rintro rfl
        exact Or.inl (Or.inl hdeclares)
      · rintro ((hmatched | ⟨hunnamed, -⟩) | hunchecked)
        · exact Option.some.inj (hdeclares.1.symm.trans hmatched.1)
        · exact absurd hdeclares (hunnamed name)
        · exact absurd hdeclares (hunchecked.unnamed name)
  | none =>
      have hunnamed : ∀ name, ¬ Declares card name := by
        intro name hdeclares
        rw [declares_iff.mpr hdeclares] at hname
        cases hname
      cases hversion : record.version? with
      | none =>
          refine iff_of_true ?_ (Or.inr ⟨hunnamed, hversion⟩)
          unfold checkName
          rw [hname, hversion]
      | some version =>
          have hpasses : checkName q record card = .ok () ↔ q.uid = ansName version q.home := by
            unfold checkName
            rw [hname, hversion]
            by_cases hsame : q.uid = ansName version q.home
            · simp [hsame]
            · simp [hsame]
          rw [hpasses]
          constructor
          · intro hsame
            exact Or.inl (Or.inr ⟨hunnamed, version, hversion, hsame⟩)
          · rintro ((hdeclares | ⟨-, other, hother, hsame⟩) | hunchecked)
            · exact absurd hdeclares (hunnamed q.uid)
            · obtain rfl : version = other := Option.some.inj (hversion.symm.trans hother)
              exact hsame
            · rw [hunchecked.unversioned] at hversion
              cases hversion

/-! ### What a version that is asked for comes to -/

/-- Only an identifier without a version asks for none. -/
theorem param?_of_requestedVersion {u : Uaid} (h : requestedVersion u = .ok none) :
    u.param? Uaid.Key.version = none := by
  obtain ⟨hacceptable, hnone⟩ := requestedVersion_eq_ok_iff.mp h
  cases hasked : u.param? Uaid.Key.version with
  | none => rfl
  | some asked =>
      rw [hasked] at hnone
      exact absurd hnone.symm (hacceptable asked hasked)

/--
**Every answer is labelled as verified by the name, and the label is earned unless the card
was unchecked.**  Let an identifier be resolved by its card.  The answer says that the level
is that of metadata and the method the name.  The name was matched then, or there was none
to match: the card has none, the record names no version, and the identifier asks for none.
-/
theorem labelled_unless_unchecked (schemes : SchemesConfig) (w : World)
    (perform : (d : Delegation) → Run d.Answer) (past : History) (c : Context)
    {result : Resolution}
    (h : (((Profile.card schemes).resolve c).run w perform past).1 = .ok result)
    (resolved : result.isResolved) :
    result.metadata.verificationLevel = some .metadata ∧
    result.metadata.verificationMethod = some "ans-name" ∧
    ∃ q record card, Visit w past c q record card ∧
      c.parsed.param? Uaid.Key.uid = some q.uid ∧ c.parsed.home? = some q.home ∧
      result.metadata.agentCardUrl = some record.url ∧
      (Matched q record card ∨
        Unchecked record card ∧ c.parsed.param? Uaid.Key.version = none) := by
  obtain ⟨q, record, card, visit, hjudge⟩ := exists_visit h resolved
  obtain ⟨hchecked, name, url, -, rfl⟩ := judge_eq_ok_iff.mp hjudge
  obtain ⟨hhome, huid, -, -, hrequested⟩ := request_eq_ok_iff.mp visit.asks
  refine ⟨rfl, rfl, q, record, card, visit, huid, home_of_home? hhome, rfl, ?_⟩
  rcases checkName_eq_ok_iff.mp hchecked with hmatched | hunchecked
  · exact Or.inl hmatched
  · refine Or.inr ⟨hunchecked, param?_of_requestedVersion ?_⟩
    cases hversion : q.version with
    | none => rw [hrequested, hversion]
    | some version =>
        obtain ⟨records, response, -, hselect, -⟩ := visit.reads
        have hrecord := version?_of_select hselect hversion
        rw [hunchecked.unversioned] at hrecord
        cases hrecord

/-! ### An answer whose label is not earned -/

/-- An agent with a name of its own choice. -/
def customName : Context where
  uaid := "uaid:aid:abc;uid=ans://custom.agent.example.com;registry=ans;proto=a2a;" ++
    "nativeId=agent.example.com"
  parsed := {
    target := .aid
    identifier := "abc"
    params := .ofList [("uid", "ans://custom.agent.example.com"), ("registry", "ans"),
      ("proto", "a2a"), ("nativeId", "agent.example.com")] }
  did := none
  document := none

/-- A card without a name. -/
def unnamedCard : AgentCard where
  endpoints := .ofList [("a2a", some "https://agent.example.com/a2a")]

/-- A record for a version that is none. -/
def latestRecord : CardRecord where
  version := some "latest"
  url := "https://cards.example/a"

/-- The record is everywhere, and the card is served wherever it is looked for. -/
def latestWorld : World := fun _ c =>
  match c with
  | .txt _ => .ok ["v=ans1; version=latest; url=https://cards.example/a"]
  | .http _ => .ok {
      status := 200
      body :=
        "\x7b\"endpoints\":\x7b\"a2a\":\"https://agent.example.com/a2a\"\x7d\x7d".toUTF8.toList }
  | .verify .. => .error (.verification "no verifier")

/-- What is asked for by the agent's identifier. -/
def customRequest : Request where
  home := "agent.example.com"
  uid := "ans://custom.agent.example.com"
  proto := "a2a"
  version := none

theorem unchecked_unnamedCard : Unchecked latestRecord unnamedCard where
  unnamed := by
    intro name hdeclares
    cases hdeclares.1
  unversioned := by decide +kernel

theorem visit_latestWorld :
    Visit latestWorld [] customName customRequest latestRecord unnamedCard where
  asks := by
    have hversion : requestedVersion customName.parsed = .ok none := rfl
    exact request_eq_ok_iff.mpr
      ⟨by decide +kernel, by decide +kernel, by decide +kernel, by decide +kernel, hversion⟩
  reads := by
    have hrecord : ["v=ans1; version=latest; url=https://cards.example/a"].filterMap
        CardRecord.ofText? = [latestRecord] := by decide +kernel
    have hcard : AgentCard.ofOctets?
        "\x7b\"endpoints\":\x7b\"a2a\":\"https://agent.example.com/a2a\"\x7d\x7d".toUTF8.toList =
          some unnamedCard := by decide +kernel
    refine ⟨_, _, rfl, ?_, rfl, by decide, by decide, hcard⟩
    unfold select
    rw [hrecord]
    rfl

/-- The card is taken. -/
theorem run_latestWorld :
    (((Profile.card ⟨["https"]⟩).resolve customName).run latestWorld Dialogue.nobody []).1 =
      .ok (found customName.uaid customRequest latestRecord "a2a"
        "https://agent.example.com/a2a") := by
  have hname : checkName customRequest latestRecord unnamedCard = .ok () :=
    checkName_eq_ok_iff.mpr (Or.inr unchecked_unnamedCard)
  have hallows : SchemesConfig.allows ⟨["https"]⟩ "https://agent.example.com/a2a" = true := by
    decide +kernel
  have hanchored : isAnchored customRequest.home "https://agent.example.com/a2a" = true := by
    decide +kernel
  have hsegment : hasSegment customRequest.proto "https://agent.example.com/a2a" = true := by
    decide +kernel
  have hcandidates : unnamedCard.candidates = [("a2a", "https://agent.example.com/a2a")] := by
    decide +kernel
  have hendpoint : endpoint ⟨["https"]⟩ customRequest latestRecord unnamedCard =
      .ok ("a2a", "https://agent.example.com/a2a") := by
    simp [endpoint, hcandidates, hallows, hanchored, hsegment, pure, Except.pure]
  rw [run_of_named visit_latestWorld hname, hendpoint]
  rfl

/-- The label is on an answer that was compared with nothing. -/
theorem labelled_unless_unchecked_latestWorld :
    ∃ result, (((Profile.card ⟨["https"]⟩).resolve customName).run latestWorld
        Dialogue.nobody []).1 = .ok result ∧ result.isResolved ∧
      result.metadata.verificationMethod = some "ans-name" ∧
      ∃ q record card, Visit latestWorld [] customName q record card ∧
        (Matched q record card ∨ Unchecked record card ∧
          customName.parsed.param? Uaid.Key.version = none) := by
  obtain ⟨-, hmethod, q, record, card, visit, -, -, -, hearned⟩ :=
    labelled_unless_unchecked ⟨["https"]⟩ latestWorld _ [] customName run_latestWorld rfl
  exact ⟨_, run_latestWorld, rfl, hmethod, q, record, card, visit, hearned⟩

/-- **Not every label is earned.**  The identifier is resolved and labelled, and its name is
neither that of the card nor made of the version of the record. -/
theorem exists_label_unmatched :
    ∃ (result : Resolution) (q : Request) (record : CardRecord) (card : AgentCard),
      (((Profile.card ⟨["https"]⟩).resolve customName).run latestWorld Dialogue.nobody []).1 =
        .ok result ∧
      result.isResolved ∧ result.metadata.verificationLevel = some .metadata ∧
      result.metadata.verificationMethod = some "ans-name" ∧
      Visit latestWorld [] customName q record card ∧ ¬ Matched q record card :=
  ⟨_, _, _, _, run_latestWorld, rfl, rfl, rfl, visit_latestWorld,
    unchecked_unnamedCard.not_matched⟩

end AgentId.Profile.Card
