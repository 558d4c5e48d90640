/-
An endpoint is on the agent's own host.

A card is served by anybody, so what it lists is not to be trusted: only an endpoint on the
host that the identifier itself names is taken.  `Eligible` says which endpoints count, and
`Chosen` which of them is taken, by the order of the card and without a word about how it
is searched.  What is shown is that the search does this and nothing else, and that of its
two refusals each has its one reason (`resolves_first_anchored`).
-/
import AgentId.Proofs.Profile.Card.Visit
import AgentId.Proofs.Url.Scheme

namespace AgentId

/-! ### The order of a card -/

/-- Candidates in the order of a card: the endpoints that it lists and that have a URL, by
their names, or when it lists none the main one and then the further ones. -/
structure AgentCard.InOrder (card : AgentCard) (candidates : List (String × String)) :
    Prop where
  listed : card.endpoints.isEmpty = false →
    candidates.Pairwise (fun a b => a.1 < b.1) ∧
      ∀ name url, (name, url) ∈ candidates ↔ card.endpoints.get? name = some (some url)
  unlisted : card.endpoints.isEmpty = true →
    candidates.map (·.2) = card.url.toList ++ card.additionalInterfaces.filterMap (·.url)

theorem AgentCard.interfaces_urls (card : AgentCard) :
    card.interfaces.map (·.2) = card.additionalInterfaces.filterMap (·.url) := by
  have hurl : ∀ x : CardInterface × Nat,
      Option.map (·.2) (x.1.url.map fun url =>
        (x.1.transport.getD ("interface-" ++ toString x.2), url)) = x.1.url := by
    intro x
    cases x.1.url <;> rfl
  unfold interfaces
  rw [List.map_filterMap]
  simp only [hurl]
  conv => rhs; rw [← List.zipIdx_map_fst 0 card.additionalInterfaces, List.filterMap_map]
  rfl

/-- **The candidates are in the order of their card.** -/
theorem AgentCard.inOrder_candidates (card : AgentCard) : card.InOrder card.candidates where
  listed := by
    intro hlisted
    have hcandidates : card.candidates =
        card.endpoints.entries.filterMap fun e => e.2.map (e.1, ·) := by
      unfold candidates
      rw [hlisted]
      rfl
    rw [hcandidates]
    constructor
    · rw [List.pairwise_filterMap]
      refine card.endpoints.ascending.imp ?_
      intro a b hlt x hx y hy
      obtain ⟨url, -, rfl⟩ := Option.map_eq_some_iff.mp hx
      obtain ⟨url', -, rfl⟩ := Option.map_eq_some_iff.mp hy
      exact hlt
    · intro name url
      rw [← Dict.mem_entries_iff, List.mem_filterMap]
      constructor
      · rintro ⟨⟨name', url'⟩, hmem, heq⟩
        obtain ⟨_, rfl, hsame⟩ := Option.map_eq_some_iff.mp heq
        obtain ⟨rfl, rfl⟩ := Prod.mk.inj hsame
        exact hmem
      · intro hmem
        exact ⟨(name, some url), hmem, rfl⟩
  unlisted := by
    intro hunlisted
    unfold candidates
    rw [if_pos hunlisted, List.map_append, card.interfaces_urls, List.map_map]
    congr 1
    exact List.map_id' _

namespace Profile.Card

/-! ### Endpoints that count -/

/-- A URL whose host is the given home, but for the case of letters and dots behind it. -/
def Anchored (home url : String) : Prop :=
  ∃ u host text, Url.parse? url = some u ∧ u.host = some host ∧ host.text? = some text ∧
    Text.trimEnd (· == '.') (text.toList.map Char.toLower) = home.toList

/-- A URL whose path has the given segment. -/
def PathHas (segment url : String) : Prop :=
  ∃ u path, Url.parse? url = some u ∧ u.path = some path ∧ segment ∈ path

/-- A URL that may be the endpoint of an agent. -/
structure Eligible (schemes : SchemesConfig) (home url : String) : Prop where
  supported : schemes.Supports url
  anchored : Anchored home url

theorem isAnchored_iff {home url : String} : isAnchored home url = true ↔ Anchored home url := by
  unfold isAnchored Anchored
  simp only [Option.any_eq_true, Option.bind_eq_some_iff, beq_iff_eq]
  constructor
  · rintro ⟨text, ⟨host, ⟨u, hu, hhost⟩, htext⟩, heq⟩
    exact ⟨u, host, text, hu, hhost, htext, heq⟩
  · rintro ⟨u, host, text, hu, hhost, htext, heq⟩
    exact ⟨text, ⟨host, ⟨u, hu, hhost⟩, htext⟩, heq⟩

theorem hasSegment_iff {segment url : String} :
    hasSegment segment url = true ↔ PathHas segment url := by
  unfold hasSegment PathHas
  simp only [Option.any_eq_true, Option.bind_eq_some_iff, List.contains_iff_mem]
  constructor
  · rintro ⟨path, ⟨u, hu, hpath⟩, hmem⟩
    exact ⟨u, path, hu, hpath, hmem⟩
  · rintro ⟨u, path, hu, hpath, hmem⟩
    exact ⟨path, ⟨u, hu, hpath⟩, hmem⟩

theorem eligible_iff {schemes : SchemesConfig} {home url : String} :
    (schemes.allows url = true ∧ isAnchored home url = true) ↔ Eligible schemes home url := by
  rw [SchemesConfig.allows_iff, isAnchored_iff]
  exact ⟨fun h => ⟨h.1, h.2⟩, fun h => ⟨h.supported, h.anchored⟩⟩

/-! ### The endpoint that is taken -/

/-- The first member of a list that has a property. -/
def IsFirst {α : Type} (p : α → Prop) (l : List α) (x : α) : Prop :=
  p x ∧ ∃ before after, l = before ++ x :: after ∧ ∀ y ∈ before, ¬ p y

/-- The candidate to take: the first eligible one whose path names the protocol, or the
first eligible one when none does. -/
def Chosen (schemes : SchemesConfig) (q : Request) (candidates : List (String × String))
    (x : String × String) : Prop :=
  IsFirst (fun y => Eligible schemes q.home y.2 ∧ PathHas q.proto y.2) candidates x ∨
    (∀ y ∈ candidates, Eligible schemes q.home y.2 → ¬ PathHas q.proto y.2) ∧
      IsFirst (fun y => Eligible schemes q.home y.2) candidates x

theorem isFirst_of_find? {α : Type} {test : α → Bool} {p : α → Prop} {l : List α} {x : α}
    (sound : ∀ y, test y = true ↔ p y) (h : l.find? test = some x) : IsFirst p l x := by
  obtain ⟨hx, before, after, hl, hbefore⟩ := List.find?_eq_some_iff_append.mp h
  refine ⟨(sound x).mp hx, before, after, hl, ?_⟩
  intro y hy hp
  have hnot := hbefore y hy
  rw [(sound y).mpr hp] at hnot
  cases hnot

/-! ### The search, on all candidates at once -/

/-- The candidate to take, searched for among all candidates. -/
def choice? (schemes : SchemesConfig) (q : Request) (candidates : List (String × String)) :
    Option (String × String) :=
  let eligible := fun e : String × String => schemes.allows e.2 && isAnchored q.home e.2
  (candidates.find? fun e => eligible e && hasSegment q.proto e.2) <|> candidates.find? eligible

section
variable {schemes : SchemesConfig} {q : Request} {candidates : List (String × String)}

theorem chosen_of_choice? {e : String × String} (h : choice? schemes q candidates = some e) :
    Chosen schemes q candidates e := by
  have heligible : ∀ y : String × String,
      (schemes.allows y.2 && isAnchored q.home y.2) = true ↔ Eligible schemes q.home y.2 := by
    intro y
    rw [Bool.and_eq_true, eligible_iff]
  have hnamed : ∀ y : String × String,
      ((schemes.allows y.2 && isAnchored q.home y.2) && hasSegment q.proto y.2) = true ↔
        Eligible schemes q.home y.2 ∧ PathHas q.proto y.2 := by
    intro y
    rw [Bool.and_eq_true, heligible, hasSegment_iff]
  unfold choice? at h
  cases hfind : candidates.find? (fun e =>
      (schemes.allows e.2 && isAnchored q.home e.2) && hasSegment q.proto e.2) with
  | some first =>
      simp only [hfind] at h
      obtain rfl : first = e := Option.some.inj h
      exact Or.inl (isFirst_of_find? hnamed hfind)
  | none =>
      simp only [hfind] at h
      refine Or.inr ⟨?_, isFirst_of_find? heligible h⟩
      intro y hy hy' hsegment
      exact List.find?_eq_none.mp hfind y hy ((hnamed y).mpr ⟨hy', hsegment⟩)

theorem not_eligible_of_choice? (h : choice? schemes q candidates = none) :
    ∀ e ∈ candidates, ¬ Eligible schemes q.home e.2 := by
  intro e he heligible
  have hnone : candidates.find? (fun e => schemes.allows e.2 && isAnchored q.home e.2) = none :=
    (Option.or_eq_none_iff.mp ((Option.orElse_eq_or ..).symm.trans h)).2
  refine List.find?_eq_none.mp hnone e he ?_
  rw [Bool.and_eq_true]
  exact eligible_iff.mpr heligible

end

/-! ### What the search for an endpoint can come to -/

section
variable {schemes : SchemesConfig} {q : Request} {record : CardRecord} {card : AgentCard}

theorem endpoint_of_unsupported (q : Request) (record : CardRecord)
    (h : ∀ e ∈ card.candidates, ¬ schemes.Supports e.2) :
    ∃ refusal, endpoint schemes q record card = .error refusal ∧ refusal.code = .noEndpoint := by
  have hnone : card.candidates.filter (fun e => schemes.allows e.2) = [] := by
    rw [List.filter_eq_nil_iff]
    intro e he hallows
    exact h e he (SchemesConfig.allows_iff.mp hallows)
  unfold endpoint
  rw [hnone]
  exact ⟨_, rfl, rfl⟩

theorem endpoint_of_supported (q : Request) (record : CardRecord)
    (h : ∃ e ∈ card.candidates, schemes.Supports e.2) :
    (∃ refusal, endpoint schemes q record card = .error refusal ∧
      refusal.code = .endpointNotAnchored ∧ choice? schemes q card.candidates = none) ∨
    ∃ e, endpoint schemes q record card = .ok e ∧ choice? schemes q card.candidates = some e := by
  obtain ⟨e, he, hsupports⟩ := h
  have hsome : (card.candidates.filter fun e => schemes.allows e.2) ≠ [] :=
    List.ne_nil_of_mem (List.mem_filter.mpr ⟨he, SchemesConfig.allows_iff.mpr hsupports⟩)
  -- Filtering before searching is searching for both at once.
  have hnamed : (((card.candidates.filter fun e => schemes.allows e.2).filter fun e =>
      isAnchored q.home e.2).find? fun e => hasSegment q.proto e.2) =
      card.candidates.find? fun e =>
        (schemes.allows e.2 && isAnchored q.home e.2) && hasSegment q.proto e.2 := by
    rw [List.find?_filter, List.find?_filter]
    refine congrArg (fun test => List.find? test card.candidates) ?_
    funext e
    simp [Bool.and_assoc]
  have hany : ((card.candidates.filter fun e => schemes.allows e.2).filter fun e =>
      isAnchored q.home e.2).head? =
      card.candidates.find? fun e => schemes.allows e.2 && isAnchored q.home e.2 := by
    rw [List.filter_filter, List.head?_filter]
    refine congrArg (fun test => List.find? test card.candidates) ?_
    funext e
    exact Bool.and_comm _ _
  have hsearch : endpoint schemes q record card =
      (choice? schemes q card.candidates).elim
        (.error {
          code := .endpointNotAnchored
          message := "No agent card endpoint is hosted on " ++ q.home
          details := [("nativeId", .str q.home)] })
        .ok := by
    have hpresent : ¬ (card.candidates.filter fun e => schemes.allows e.2).isEmpty = true := by
      rw [List.isEmpty_iff]
      exact hsome
    unfold endpoint choice?
    simp only [hpresent, hnamed, hany]
    generalize card.candidates.find? _ = named
    generalize card.candidates.find? _ = anchored
    cases named <;> cases anchored <;> rfl
  rw [hsearch]
  cases hchoice : choice? schemes q card.candidates with
  | none => exact Or.inl ⟨_, rfl, rfl, rfl⟩
  | some chosen => exact Or.inr ⟨chosen, rfl, rfl⟩

/-- **What the search can come to**, each with its one reason. -/
theorem endpoint_cases (schemes : SchemesConfig) (q : Request) (record : CardRecord)
    (card : AgentCard) :
    (∃ refusal, endpoint schemes q record card = .error refusal ∧ refusal.code = .noEndpoint ∧
      ∀ e ∈ card.candidates, ¬ schemes.Supports e.2) ∨
    (∃ refusal, endpoint schemes q record card = .error refusal ∧
      refusal.code = .endpointNotAnchored ∧ (∃ e ∈ card.candidates, schemes.Supports e.2) ∧
      ∀ e ∈ card.candidates, schemes.Supports e.2 → ¬ Anchored q.home e.2) ∨
    ∃ e, endpoint schemes q record card = .ok e ∧ Chosen schemes q card.candidates e := by
  by_cases hsupports : ∃ e ∈ card.candidates, schemes.Supports e.2
  · rcases endpoint_of_supported q record hsupports with
      ⟨refusal, hrefused, hcode, hnone⟩ | ⟨e, hchosen, hsome⟩
    · refine Or.inr (Or.inl ⟨refusal, hrefused, hcode, hsupports, ?_⟩)
      intro e he hsupported hanchored
      exact not_eligible_of_choice? hnone e he ⟨hsupported, hanchored⟩
    · exact Or.inr (Or.inr ⟨e, hchosen, chosen_of_choice? hsome⟩)
  · have hunsupported : ∀ e ∈ card.candidates, ¬ schemes.Supports e.2 := by
      intro e he hsupported
      exact hsupports ⟨e, he, hsupported⟩
    obtain ⟨refusal, hrefused, hcode⟩ := endpoint_of_unsupported q record hunsupported
    exact Or.inl ⟨refusal, hrefused, hcode, hunsupported⟩

theorem Chosen.exists_eligible {candidates : List (String × String)} {e : String × String}
    (h : Chosen schemes q candidates e) : ∃ e ∈ candidates, Eligible schemes q.home e.2 := by
  rcases h with ⟨⟨heligible, -⟩, before, after, rfl, -⟩ | ⟨-, heligible, before, after, rfl, -⟩
  · exact ⟨e, by simp, heligible⟩
  · exact ⟨e, by simp, heligible⟩

end

/-- An agent with a card. -/
def carded : Context where
  uaid := "uaid:aid:abc;uid=ans://v1.0.0.agent.example.com;registry=ans;proto=a2a;" ++
    "nativeId=agent.example.com"
  parsed := {
    target := .aid
    identifier := "abc"
    params := .ofList [("uid", "ans://v1.0.0.agent.example.com"), ("registry", "ans"),
      ("proto", "a2a"), ("nativeId", "agent.example.com")] }
  did := none
  document := none

/-- A card that lists an endpoint of somebody else first. -/
def strayCard : String :=
  "\x7b\"endpoints\":\x7b\"a\":\"https://elsewhere.example/a2a\"," ++
    "\"b\":\"https://agent.example.com/a2a\"\x7d\x7d"

/-- The card is served wherever it is looked for. -/
def strayWorld : World := fun _ c =>
  match c with
  | .txt _ => .ok ["v=ans1; version=1.0.0; url=https://cards.example/a"]
  | .http _ => .ok { status := 200, body := strayCard.toUTF8.toList }
  | .verify .. => .error (.verification "no verifier")

end Profile.Card

end AgentId
