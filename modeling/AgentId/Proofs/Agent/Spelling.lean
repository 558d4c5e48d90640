/-
Spellings of one description.

White space around the fields, the case of ASCII letters in the registry and the protocol
and the order of the skills are spelling, and `respelled` takes each of them out: trimming
forgets the white space, lower case the letters, sorting the order.  So two spellings of one
description fail with one fault or have one normal form (`normalized_eq`), and everything
that is made of the normal form is the same for both.

The normal form is a spelling too, which `respelled` leaves alone (`respelled_respelled`).
For that, lower case has to leave nothing to trim and nothing to put in lower case, whatever
scripts the fields are written in.
-/
import AgentId.Uaid.Minting
import AgentId.Proofs.Sorting
import AgentId.Proofs.Text.Lowercase

namespace AgentId

/-! ### White space and letters -/

namespace Text

/-- Lower case of what is left does not tell two spellings of a text apart. -/
theorem lowercase_trimmed_eq {s t u : String} (hcase : SameLetters s t) (hpad : Padded t u) :
    lowercase (trimmed u) = lowercase (trimmed s) := by
  have hletters : (trim t.toList).map Char.toLower = (trim s.toList).map Char.toLower := by
    rw [← trim_map_toLower, ← trim_map_toLower, hcase]
  have hnone : ∀ cs, lowerFrom [] cs = lowerFrom [] (cs.map Char.toLower) := by
    intro cs
    exact (lowerFrom_map_toLower [] cs).symm
  rw [hpad.trimmed_eq, lowercase, lowercase, trimmed, trimmed, String.toList_ofList,
    String.toList_ofList, hnone, hletters, ← hnone]

theorem trimmed_lowercase_trimmed (s : String) :
    trimmed (lowercase (trimmed s)) = lowercase (trimmed s) := by
  refine trimmed_of_isTrimmed ?_
  rw [lowercase, String.toList_ofList]
  exact isTrimmed_lowerFrom (isTrimmed_trimmed s) []

end Text

namespace Agent

/-! ### Two spellings -/

/-- The second description is the first one, spelled otherwise. -/
structure Respells (a b : Agent) : Prop where
  registry : ∃ s, Text.SameLetters a.registry s ∧ Text.Padded s b.registry
  name : Text.Padded a.name b.name
  version : Text.Padded a.version b.version
  protocol : ∃ s, Text.SameLetters a.protocol s ∧ Text.Padded s b.protocol
  nativeId : Text.Padded a.nativeId b.nativeId
  skills : a.skills.Perm b.skills

theorem respelled_eq {a b : Agent} (h : a.Respells b) : b.respelled = a.respelled := by
  obtain ⟨r, hr, hregistry⟩ := h.registry
  obtain ⟨p, hp, hprotocol⟩ := h.protocol
  simp only [respelled, Text.lowercase_trimmed_eq hr hregistry,
    Text.lowercase_trimmed_eq hp hprotocol, h.name.trimmed_eq, h.version.trimmed_eq,
    h.nativeId.trimmed_eq, sorted_eq_of_perm h.skills]

/-- **Spellings of one description have one normal form, or one fault.** -/
theorem normalized_eq {a b : Agent} (h : a.Respells b) : b.normalized = a.normalized := by
  rw [normalized, normalized, respelled_eq h]

/-! ### The normal form -/

theorem respelled_respelled (a : Agent) : a.respelled.respelled = a.respelled := by
  simp only [respelled, Text.trimmed_trimmed, Text.trimmed_lowercase_trimmed,
    Text.lowercase_lowercase, sorted_sorted]

theorem normalized_eq_ok_iff {a n : Agent} :
    a.normalized = .ok n ↔ n = a.respelled ∧ n.fault? = none := by
  unfold normalized
  cases hfault : a.respelled.fault? with
  | none =>
      constructor
      · intro h
        obtain rfl := Except.ok.inj h
        exact ⟨rfl, hfault⟩
      · rintro ⟨rfl, -⟩
        rfl
  | some f =>
      constructor
      · intro h
        cases h
      · rintro ⟨rfl, hnone⟩
        rw [hfault] at hnone
        cases hnone

theorem normalized_normalized {a n : Agent} (h : a.normalized = .ok n) : n.normalized = .ok n := by
  obtain ⟨rfl, hfault⟩ := normalized_eq_ok_iff.mp h
  exact normalized_eq_ok_iff.mpr ⟨(respelled_respelled a).symm, hfault⟩

theorem fault?_eq_none_iff {a : Agent} :
    a.fault? = none ↔ (∀ p ∈ a.texts, p.2 ≠ "") ∧
      (a.protocol = hcs10 → ∃ account, Caip.HederaAccount.parse a.nativeId = .ok account) ∧
      (a.protocol = acpVirtuals →
        ∃ account, Caip.AccountId.parseEip155 a.nativeId = .ok account) := by
  have hnames : hcs10 ≠ acpVirtuals := by decide
  unfold fault?
  cases hfind : a.texts.find? (·.2 = "") with
  | some p =>
      have hmem := List.mem_of_find?_eq_some hfind
      have hblank : p.2 = "" := by simpa using List.find?_some hfind
      constructor
      · intro h
        cases h
      · rintro ⟨hall, -⟩
        exact absurd hblank (hall p hmem)
  | none =>
      have hall : ∀ p ∈ a.texts, p.2 ≠ "" := by simpa using List.find?_eq_none.mp hfind
      rw [and_iff_right hall]
      by_cases hhedera : a.protocol = hcs10
      · rw [if_pos hhedera, hhedera]
        cases Caip.HederaAccount.parse a.nativeId <;> simp [hnames]
      · by_cases heip155 : a.protocol = acpVirtuals
        · rw [if_neg hhedera, if_pos heip155, heip155]
          cases Caip.AccountId.parseEip155 a.nativeId <;> simp [hnames.symm]
        · simp [hhedera, heip155]

/-- A field says something in the normal form if it does without the white space. -/
theorem texts_respelled (a : Agent) :
    (∀ p ∈ a.respelled.texts, p.2 ≠ "") ↔
      ∀ s ∈ [a.registry, a.name, a.version, a.protocol, a.nativeId], Text.trimmed s ≠ "" := by
  simp [texts, respelled, Text.lowercase_eq_empty_iff]

theorem exists_normalized_iff {a : Agent} :
    (∃ n, a.normalized = .ok n) ↔ a.respelled.fault? = none := by
  constructor
  · rintro ⟨n, h⟩
    obtain ⟨rfl, hfault⟩ := normalized_eq_ok_iff.mp h
    exact hfault
  · intro h
    exact ⟨a.respelled, normalized_eq_ok_iff.mpr ⟨rfl, h⟩⟩

/-! ### The spelling does not matter -/

/-- **A description is known by its normal form.**  Every other spelling of it has the same
normal form or the same fault, and so the same digest and, whatever the routing, the same
identifier.  The normal form is its own normal form.  There is one if each of the five fields
says something, and the native identifier is the account that the protocol asks for. -/
theorem spelling_irrelevant (a : Agent) :
    (∀ b, a.Respells b → b.normalized = a.normalized ∧ b.canonicalJson = a.canonicalJson ∧
      b.aid = a.aid ∧ (∀ routing, Uaid.ofAgent b routing = Uaid.ofAgent a routing) ∧
      Uaid.ofAgentBare b = Uaid.ofAgentBare a) ∧
    (∀ n, a.normalized = .ok n → n.normalized = .ok n) ∧
    ((∃ n, a.normalized = .ok n) ↔
      (∀ s ∈ [a.registry, a.name, a.version, a.protocol, a.nativeId], Text.trimmed s ≠ "") ∧
      (Text.lowercase (Text.trimmed a.protocol) = "hcs-10" →
        ∃ account, Caip.HederaAccount.parse (Text.trimmed a.nativeId) = .ok account) ∧
      (Text.lowercase (Text.trimmed a.protocol) = "acp-virtuals" →
        ∃ account, Caip.AccountId.parseEip155 (Text.trimmed a.nativeId) = .ok account)) := by
  refine ⟨?_, ?_, ?_⟩
  · intro b h
    have hsame := normalized_eq h
    have hjson : b.canonicalJson = a.canonicalJson := by rw [canonicalJson, canonicalJson, hsame]
    have hagent : ∀ routing, Uaid.ofAgent b routing = Uaid.ofAgent a routing := by
      intro routing
      rw [Uaid.ofAgent, Uaid.ofAgent, hsame]
    exact ⟨hsame, hjson, by rw [aid, aid, hjson], hagent,
      by rw [Uaid.ofAgentBare, Uaid.ofAgentBare, hagent]⟩
  · intro n h
    exact normalized_normalized h
  · rw [exists_normalized_iff, fault?_eq_none_iff, texts_respelled]
    rfl

/-- A description that is written loudly. -/
def shouted : Agent where
  registry := "\u00a0HOL-İ "
  name := "\u3000Νίκος"
  version := "1.0.0\n"
  protocol := "HCS-10\u2003"
  nativeId := "hedera:testnet:0.0.7"
  skills := [7, -2, 7]

/-- The same description with other white space, other ASCII letters and another order. -/
def muttered : Agent where
  registry := "\t\u00a0hol-İ "
  name := "\u3000Νίκος\u2028"
  version := "1.0.0\n"
  protocol := "\u0085hCS-10\u2003"
  nativeId := " hedera:testnet:0.0.7"
  skills := [-2, 7, 7]

/-- The normal form of both, where the dotted capital takes two characters. -/
def plain : Agent where
  registry := "hol-i\u0307"
  name := "Νίκος"
  version := "1.0.0"
  protocol := "hcs-10"
  nativeId := "hedera:testnet:0.0.7"
  skills := [-2, 7, 7]

theorem spelling_irrelevant_shouted :
    shouted.Respells muttered ∧ shouted.normalized = .ok plain ∧
      muttered.normalized = .ok plain ∧ plain.normalized = .ok plain := by
  have hspelling : shouted.Respells muttered := by
    constructor
    · exact ⟨"\u00a0hol-İ ", by decide +kernel, ['\t'], [], by decide, by decide,
        by decide +kernel⟩
    · exact ⟨[], ['\u2028'], by decide, by decide, by decide +kernel⟩
    · exact ⟨[], [], by decide, by decide, by decide +kernel⟩
    · exact ⟨"hCS-10\u2003", by decide +kernel, ['\u0085'], [], by decide, by decide,
        by decide +kernel⟩
    · exact ⟨[' '], [], by decide, by decide, by decide +kernel⟩
    · decide
  have hplain : shouted.normalized = .ok plain := by
    have hskills : shouted.skills.mergeSort (· ≤ ·) = plain.skills :=
      (sorted_eq_of_perm (by decide)).trans (List.mergeSort_of_pairwise (by decide))
    refine normalized_eq_ok_iff.mpr ⟨?_, by decide +kernel⟩
    rw [respelled, hskills]
    decide +kernel
  have hirrelevant := spelling_irrelevant shouted
  exact ⟨hspelling, hplain, (hirrelevant.1 muttered hspelling).1.trans hplain,
    hirrelevant.2.1 plain hplain⟩

end Agent

end AgentId
