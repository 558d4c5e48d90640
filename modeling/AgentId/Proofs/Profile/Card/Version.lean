/-
Which versions the profile of agent cards takes.

An identifier may ask for a version of the agent, and a record may say which version its card is
for.  Both are read as `Version.normalize?` reads them, so what is known of the grammar of versions
holds of every version that is compared, and of every one that a name is made of.  A version that
is asked for outside the grammar is refused before anybody is asked for anything
(`versions_taken_loosely`).

The grammar is not the one of the standard.  Digits of other scripts and numbers with zeros in
front of them come through, and with them texts that are no semantic versions
(`exists_unsemantic_version`).
-/
import AgentId.Proofs.Profile.Card.Fetching
import AgentId.Proofs.Version

namespace AgentId.Profile.Card

open Version (Parts AnyDigit Says)

/-- What asks for a version outside the grammar is refused, whatever else is the matter with it. -/
theorem exists_refusal_of_request {u : Uaid} (h : ¬ Acceptable u) :
    ∃ message, request u = .error (notApplicable message) := by
  unfold request
  split
  · split
    · split
      · obtain ⟨message, hrefused⟩ := exists_refusal_of_not_acceptable h
        rw [hrefused]
        exact ⟨message, rfl⟩
      · exact ⟨_, rfl⟩
    · exact ⟨_, rfl⟩
  · exact ⟨_, rfl⟩

/-- A version is acceptable if it is one in the grammar. -/
theorem acceptable_iff {u : Uaid} : Acceptable u ↔
    ∀ asked, u.param? Uaid.Key.version = some asked →
      ∃ p : Parts, p.WellFormed AnyDigit ∧ Says asked p.text := by
  refine forall₂_congr fun asked _ => ?_
  rw [Option.ne_none_iff_exists']
  simp only [Version.normalize?_eq_some_iff]
  constructor
  · rintro ⟨_, hsaid, p, hformed, rfl⟩
    exact ⟨p, hformed, hsaid⟩
  · rintro ⟨p, hformed, hsaid⟩
    exact ⟨_, hsaid, p, hformed, rfl⟩

/--
**Versions are taken in a grammar that is wider than that of semantic versions.**

* A text is normalized to the version that it says: what is left without white space around it and
  a `v` in front, if that is put together from well-formed parts.  These are the texts that the
  pattern matches once the white space is gone.
* The parts of a semantic version are those well-formed parts that have the ten digits of ASCII
  in their numbers, and no zeros in front of the numbers in the pre-release.
* What texts are normalized to is normalized to itself, and two texts are normalized to one version
  exactly if they say what is put together from the same parts.
* The version of a record, which the name of an agent is made of, is always such a version.
* An identifier that asks for anything else is refused as not applicable, and nobody is asked.
  So where a card is looked at, the version that is asked for is one in the grammar, and the
  record that led to the card is for it.
-/
theorem versions_taken_loosely (text text' version : String) (p : Parts) (record : CardRecord)
    (card : AgentCard) (q : Request) (schemes : SchemesConfig) (w : World)
    (perform : (d : Delegation) → Run d.Answer) (past : History) (c : Context) :
    (Version.normalize? text = some version ↔
      Says text version ∧ ∃ p : Parts, p.WellFormed AnyDigit ∧ p.text = version) ∧
    ((∃ version, Version.normalize? text = some version) ↔
      Text.trim text.toList ∈ Version.pattern) ∧
    (p.Semantic ↔ p.WellFormed AnyDigit ∧
      (∀ number ∈ [p.major, p.minor, p.patch], ∀ d ∈ number.toList, Caip.Digit d) ∧
      p.Unpadded) ∧
    ((∃ text, Version.normalize? text = some version) ↔
      Version.normalize? version = some version) ∧
    ((∃ version, Version.normalize? text = some version ∧
        Version.normalize? text' = some version) ↔
      ∃! p : Parts, p.WellFormed AnyDigit ∧ Says text p.text ∧ Says text' p.text) ∧
    (record.version? = some version ↔ ∃ written, record.version = some written ∧
      Says written version ∧ ∃ p : Parts, p.WellFormed AnyDigit ∧ p.text = version) ∧
    (∀ asked, c.parsed.param? Uaid.Key.version = some asked →
      let run := ((Profile.card schemes).resolve c).run w perform past
      ((∀ p : Parts, p.WellFormed AnyDigit → ¬ Says asked p.text) →
        run.2 = past ∧ run.1.toOption.bind Resolution.code? = some .notApplicable) ∧
      (Visit w past c q record card → ∃ p : Parts, p.WellFormed AnyDigit ∧
        Says asked p.text ∧ record.version? = some p.text)) := by
  refine ⟨Version.normalize?_eq_some_iff, Version.exists_normalize?_iff_mem_pattern,
    Parts.semantic_iff, ?_, ?_, ?_, ?_⟩
  · exact ⟨fun ⟨_, h⟩ => Version.normalize?_of_normalize? h, fun h => ⟨_, h⟩⟩
  · exact Version.exists_normalize?_iff
  · simp only [CardRecord.version?, Option.bind_eq_some_iff, Version.normalize?_eq_some_iff]
  · intro asked hasked run
    constructor
    · intro hunsaid
      have hrefused : ¬ Acceptable c.parsed := by
        rw [acceptable_iff]
        intro h
        obtain ⟨p, hformed, hsaid⟩ := h asked hasked
        exact hunsaid p hformed hsaid
      obtain ⟨message, hrequest⟩ := exists_refusal_of_request hrefused
      have hrun : run = _ := run_of_refused hrequest
      simp [hrun, Except.toOption, notApplicable]
    · intro visit
      obtain ⟨-, -, -, -, hrequested⟩ := request_eq_ok_iff.mp visit.asks
      obtain ⟨hacceptable, hversion⟩ := requestedVersion_eq_ok_iff.mp hrequested
      obtain ⟨p, hformed, hsaid⟩ := acceptable_iff.mp hacceptable asked hasked
      obtain ⟨records, response, -, hselect, -⟩ := visit.reads
      refine ⟨p, hformed, hsaid, version?_of_select hselect ?_⟩
      rw [hversion, hasked, Option.bind_some]
      exact Version.normalize?_eq_some_iff.mpr ⟨hsaid, p, hformed, rfl⟩

/-- An agent in whichever version is the latest. -/
def latestVersion : Context :=
  { customName with
    uaid := customName.uaid ++ ";version=latest"
    parsed := { customName.parsed with
      params := customName.parsed.params.insert Uaid.Key.version "latest" } }

/-- Nobody is asked for the latest version. -/
theorem versions_taken_loosely_latestVersion :
    let run := ((Profile.card ⟨["https"]⟩).resolve latestVersion).run latestWorld
      Dialogue.nobody []
    run.2 = [] ∧ run.1.toOption.bind Resolution.code? = some .notApplicable := by
  have hasked : latestVersion.parsed.param? Uaid.Key.version = some "latest" := by decide +kernel
  have hnone : Version.normalize? "latest" = none := by decide +kernel
  obtain ⟨-, -, -, -, -, -, hgate⟩ := versions_taken_loosely "" "" "" ⟨"1", "0", "0", [], []⟩
    latestRecord unnamedCard customRequest ⟨["https"]⟩ latestWorld Dialogue.nobody [] latestVersion
  refine (hgate "latest" hasked).1 fun p hformed hsaid => ?_
  have hsome := Version.normalize?_eq_some_iff.mpr ⟨hsaid, p, hformed, rfl⟩
  rw [hnone] at hsome
  cases hsome

/-- **Not every version that is taken is a semantic one**: the number in a pre-release may have a
zero in front, and a number may go on in the digits of another script. -/
theorem exists_unsemantic_version :
    (Version.normalize? "1.0.0-01" = some "1.0.0-01" ∧
      ¬ ∃ p : Parts, p.Semantic ∧ p.text = "1.0.0-01") ∧
    Version.normalize? "1.0.1٣" = some "1.0.1٣" ∧
      ¬ ∃ p : Parts, p.Semantic ∧ p.text = "1.0.1٣" := by
  have hzero : Parts.WellFormed AnyDigit ⟨"1", "0", "0", ["01"], []⟩ := by
    refine ⟨?_, ?_, by simp⟩
    · simp only [← Version.isNumber_iff]
      decide
    · simp only [← Version.isWord_iff]
      decide
  have hdigit : Parts.WellFormed AnyDigit ⟨"1", "0", "1٣", [], []⟩ := by
    refine ⟨?_, by simp, by simp⟩
    simp only [← Version.isNumber_iff]
    decide +kernel
  refine ⟨⟨by decide, ?_⟩, by decide +kernel, ?_⟩
  · rintro ⟨p, hp, htext⟩
    refine hp.text_ne hzero (fun h => ?_) htext
    have hdigits : ∀ c ∈ "01".toList, Caip.Digit c := by simp [Caip.Digit]
    have hnumber := h.unpadded "01" (by simp) hdigits
    rw [Version.number_digit_iff, ← Version.isNumber_iff] at hnumber
    exact absurd hnumber.1 (by decide)
  · rintro ⟨p, hp, htext⟩
    refine hp.text_ne hdigit (fun h => ?_) htext
    have hten := (Version.number_digit_iff.mp (h.formed.numbers "1٣" (by simp))).2 '٣' (by simp)
    unfold Caip.Digit at hten
    exact absurd hten (by decide +kernel)

end AgentId.Profile.Card
