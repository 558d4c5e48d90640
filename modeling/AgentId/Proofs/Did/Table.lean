/-
What a table of documents answers.

A table is told documents, each under the text that it is stored with, and is asked for DID URLs,
which it cuts to their DID first.  So behind any sequence of writes the answer is the document
stored last under the DID that was asked for, with or without a query or a fragment, and a DID
that nothing was stored under is not supported (`answers_last_stored`).

A text with a `?` or a `#` in it is no DID here.  What is asked for is cut in front of the mark,
what is stored is not, so under such a text the table does not answer with what was stored under
it but with the document of the DID in front (`exists_unfound_document`).
-/
import AgentId.Proofs.Dict
import AgentId.Proofs.Did.Url

namespace AgentId.Did.Table

/-! ### Tables as they are built -/

/-- What a table is told. -/
inductive Write where
  /-- A document, stored under its own DID. -/
  | add (document : DidDocument)
  /-- A document, stored under the text given. -/
  | insert (did : String) (document : DidDocument)

namespace Write

/-- The text that the document is stored under. -/
def key : Write → String
  | .add document => document.id
  | .insert did _ => did

/-- The document that is stored. -/
def document : Write → DidDocument
  | .add document => document
  | .insert _ document => document

/-- The table with the document stored. -/
def apply (t : Table) : Write → Table
  | .add document => t.add document
  | .insert did document => t.insert did document

end Write

/-- The table after some writes, the first one first. -/
def ofWrites (ws : List Write) : Table :=
  ws.foldl Write.apply {}

/-- The last write under a text stored this document. -/
def StoredLast (ws : List Write) (did : String) (document : DidDocument) : Prop :=
  ∃ before w after, ws = before ++ w :: after ∧ w.key = did ∧ w.document = document ∧
    ∀ x ∈ after, x.key ≠ did

/-- One write. -/
theorem documents_apply (t : Table) (w : Write) :
    (w.apply t).documents = t.documents.insert w.key w.document := by
  cases w <;> rfl

/-- A run of writes. -/
theorem documents_ofWrites (ws : List Write) :
    (ofWrites ws).documents = .ofList (ws.map fun w => (w.key, w.document)) := by
  induction ws using List.reverseRecOn with
  | nil => rfl
  | append_singleton ws w ih =>
      rw [List.map_append, List.map_singleton, Dict.ofList_concat, ← ih, ← documents_apply]
      unfold ofWrites
      rw [List.foldl_append]
      rfl

theorem get?_documents_eq_some_iff {ws : List Write} {did : String} {document : DidDocument} :
    (ofWrites ws).documents.get? did = some document ↔ StoredLast ws did document := by
  rw [documents_ofWrites, Dict.get?_ofList_eq_some_iff_last]
  constructor
  · rintro ⟨before, after, hentries, hafter⟩
    obtain ⟨ws₁, ws₂, rfl, rfl, hrest⟩ := List.map_eq_append_iff.mp hentries
    obtain ⟨w, ws₃, rfl, hw, rfl⟩ := List.map_eq_cons_iff.mp hrest
    obtain ⟨hkey, hdocument⟩ := Prod.mk.inj hw
    exact ⟨ws₁, w, ws₃, rfl, hkey, hdocument, fun x hx => hafter _ (List.mem_map_of_mem hx)⟩
  · rintro ⟨before, w, after, rfl, rfl, rfl, hafter⟩
    refine ⟨before.map fun w => (w.key, w.document), after.map fun w => (w.key, w.document),
      by rw [List.map_append, List.map_cons], ?_⟩
    intro e he
    obtain ⟨x, hx, rfl⟩ := List.mem_map.mp he
    exact hafter x hx

theorem get?_documents_eq_none_iff {ws : List Write} {did : String} :
    (ofWrites ws).documents.get? did = none ↔ ∀ w ∈ ws, w.key ≠ did := by
  rw [documents_ofWrites, Dict.get?_ofList_eq_none_iff]
  simp

theorem exists_storedLast {ws : List Write} {did : String} (h : ∃ w ∈ ws, w.key = did) :
    ∃ document, StoredLast ws did document := by
  cases hget : (ofWrites ws).documents.get? did with
  | none =>
      obtain ⟨w, hw, hkey⟩ := h
      exact absurd hkey (get?_documents_eq_none_iff.mp hget w hw)
  | some document => exact ⟨document, get?_documents_eq_some_iff.mp hget⟩

/-! ### What is looked for -/

section

variable (ws : List Write) (past : History)

/-- A table answers for a DID with what is stored under it, behind a query or a fragment too. -/
theorem resolver_of_get? {ws : List Write} {did rest : String} {answer : Option DidDocument}
    (hdid : Bare did) (hrest : Trails rest) (h : (ofWrites ws).documents.get? did = answer) :
    (ofWrites ws).resolver.supports (did ++ rest) = answer.isSome ∧
      (ofWrites ws).resolver.resolve past (did ++ rest) = .ok answer := by
  have hurl : ofUrl (did ++ rest) = did := ofUrl_eq_iff.mpr ⟨hdid, rest, hrest, rfl⟩
  have hget : (ofWrites ws).get? (did ++ rest) = answer := by
    rw [get?, hurl, h]
  subst hget
  exact ⟨rfl, rfl⟩

/--
**A table answers for a DID with the document stored last under it.**

* For a DID that something was stored under, it is the last of that, whatever else was stored
  and whatever query or fragment stands behind the DID.
* For a DID that nothing was stored under there is no answer, nor is it supported.
* Every text is a DID in this sense, with a query, a fragment or nothing behind it.
-/
theorem answers_last_stored :
    (∀ did rest, Bare did → Trails rest → (∃ w ∈ ws, w.key = did) →
      (ofWrites ws).resolver.supports (did ++ rest) = true ∧
      ∃ document, StoredLast ws did document ∧
        (ofWrites ws).resolver.resolve past (did ++ rest) = .ok (some document)) ∧
    (∀ did rest, Bare did → Trails rest → (∀ w ∈ ws, w.key ≠ did) →
      (ofWrites ws).resolver.supports (did ++ rest) = false ∧
      (ofWrites ws).resolver.resolve past (did ++ rest) = .ok none) ∧
    ∀ url, ∃ did rest, Bare did ∧ Trails rest ∧ url = did ++ rest := by
  refine ⟨?_, ?_, ?_⟩
  · intro did rest hdid hrest hstored
    obtain ⟨document, hlast⟩ := exists_storedLast hstored
    have hget := get?_documents_eq_some_iff.mpr hlast
    obtain ⟨hsupports, hresolve⟩ := resolver_of_get? past hdid hrest hget
    exact ⟨hsupports, document, hlast, hresolve⟩
  · intro did rest hdid hrest hnever
    exact resolver_of_get? past hdid hrest (get?_documents_eq_none_iff.mpr hnever)
  · intro url
    obtain ⟨hdid, rest, hrest, hurl⟩ := ofUrl_eq_iff.mp (rfl : ofUrl url = ofUrl url)
    exact ⟨_, rest, hdid, hrest, hurl⟩

end

/-- A document, the same one under an alias, and then a newer one in the first one's place. -/
def renewed : List Write :=
  [.add { id := "did:web:example.com", alsoKnownAs := ["old"] },
    .insert "did:example:alias" { id := "did:web:example.com", alsoKnownAs := ["old"] },
    .add { id := "did:web:example.com", alsoKnownAs := ["new"] }]

/-- The newer document is found, behind a query and a fragment as well. -/
theorem answers_last_stored_renewed :
    Bare "did:web:example.com" ∧ Trails "?v=1#agent" ∧
    (∃ w ∈ renewed, w.key = "did:web:example.com") ∧
    (ofWrites renewed).resolver.resolve [] "did:web:example.com?v=1#agent" =
      .ok (some { id := "did:web:example.com", alsoKnownAs := ["new"] }) ∧
    (∀ w ∈ renewed, w.key ≠ "did:web:other.example") ∧
    (ofWrites renewed).resolver.supports "did:web:other.example?v=1#agent" = false := by
  have hbare : Bare "did:web:example.com" := by decide
  have hrest : Trails "?v=1#agent" := fun c hc => Or.inl (Option.some.inj hc).symm
  have hused : ∃ w ∈ renewed, w.key = "did:web:example.com" := ⟨_, List.mem_cons_self, rfl⟩
  have hunused : ∀ w ∈ renewed, w.key ≠ "did:web:other.example" := by
    simp [renewed, Write.key]
  obtain ⟨hstored, hnever, -⟩ := answers_last_stored renewed []
  obtain ⟨-, document, hlast, hanswer⟩ := hstored _ _ hbare hrest hused
  have hnew : StoredLast renewed "did:web:example.com"
      { id := "did:web:example.com", alsoKnownAs := ["new"] } :=
    ⟨renewed.take 2, _, [], rfl, rfl, rfl, by simp⟩
  have hsame := (get?_documents_eq_some_iff.mpr hlast).symm.trans
    (get?_documents_eq_some_iff.mpr hnew)
  rw [Option.some.inj hsame] at hanswer
  exact ⟨hbare, hrest, hused, hanswer, hunused, (hnever _ _ (by decide) hrest hunused).1⟩

/-- **Not every stored document is found**: under a text with a fragment the table answers with
the document of the DID in front of it. -/
theorem exists_unfound_document :
    ∃ (ws : List Write) (did : String) (document other : DidDocument),
      StoredLast ws did document ∧ document.id ≠ other.id ∧
      (ofWrites ws).resolver.resolve [] did = .ok (some other) := by
  let stored : List Write := [.add { id := "did:web:example.com" },
    .insert "did:web:example.com#agent" { id := "did:web:agent.example" }]
  have hlast : StoredLast stored "did:web:example.com" { id := "did:web:example.com" } :=
    ⟨[], _, stored.drop 1, rfl, rfl, rfl, by simp [stored, Write.key]⟩
  have hrest : Trails "#agent" := fun c hc => Or.inr (Option.some.inj hc).symm
  refine ⟨stored, "did:web:example.com#agent", { id := "did:web:agent.example" },
    { id := "did:web:example.com" }, ⟨stored.take 1, _, [], rfl, rfl, rfl, by simp⟩, by simp, ?_⟩
  exact (resolver_of_get? [] (by decide) hrest (get?_documents_eq_some_iff.mpr hlast)).2

end AgentId.Did.Table
