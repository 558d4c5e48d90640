/-
Reading an identifier and building it from its parts agree.

An identifier can be given as text, or its parts one by one.  Text is held against one pattern
as a whole, then cut and built from what it was cut into, and each part is held against a
pattern of its own.  The two ways could differ in what they let pass: a part might hold the
colon, so that the text is cut elsewhere, or be one character too long for one pattern only.

They do not differ, for any parts.  No part that keeps the rules has a colon, and a text with
just as many colons as it needs can be cut in one way only, so the parts are back even if they
were not known to keep the rules before (`ofParts_eq_ok_iff_text`).  What is read at all is said
once more by lengths, kinds of characters and the rules of the families (`read_iff_built`).
-/
import AgentId.Proofs.Caip.Rules
import AgentId.Proofs.Json.Record

namespace AgentId.Caip

open Text

namespace ChainId

/-- Parts are known from the text that they make, if an identifier has it. -/
theorem ofParts_eq_ok_iff_text {family reference : String} {c : ChainId} :
    ofParts family reference = .ok c ↔ c.text = family ++ ":" ++ reference := by
  rw [ofParts_eq_ok]
  constructor
  · rintro ⟨rfl, rfl⟩
    rfl
  · intro h
    have hlist : family.toList ++ ':' :: reference.toList =
        c.family.toList ++ ':' :: c.reference.toList := by
      rw [← toList_text, h]
      simp
    obtain ⟨hfamily, hreference⟩ := two_parts_inj c.noColon.1 c.noColon.2 hlist
    exact ⟨String.toList_injective hfamily.symm, String.toList_injective hreference.symm⟩

end ChainId

namespace AccountId

/-- Only a string is read as a chain, and only the text of that chain. -/
theorem chain?_eq_some_iff {v : Json} {c : ChainId} : chain? v = some c ↔ v = .str c.text := by
  have hparse : ∀ s, (ChainId.parse s).toOption = some c ↔ s = c.text := by
    intro s
    rw [eq_comm (a := s), ← ChainId.parse_eq_ok_iff]
    cases ChainId.parse s <;> simp [Except.toOption]
  unfold chain?
  simp [Option.bind_eq_some_iff, Json.string?_eq_some_iff, hparse]

/-- The parts of an account are known from its text. -/
theorem parts_of_text {family reference address : String} {a : AccountId}
    (haddress : isAddress a.address = true)
    (h : a.text = family ++ ":" ++ reference ++ ":" ++ address) :
    ChainId.ofParts family reference = .ok a.chain ∧ a.address = address := by
  have hlist : family.toList ++ ':' :: (reference.toList ++ ':' :: address.toList) =
      a.chain.family.toList ++ ':' :: (a.chain.reference.toList ++ ':' :: a.address.toList) := by
    rw [← toList_text, h]
    simp
  obtain ⟨hfamily, hreference, hrest⟩ := three_parts_inj a.chain.noColon.1 a.chain.noColon.2
    (not_mem_of_fits haddress (by decide)) hlist
  exact ⟨ChainId.ofParts_eq_ok.mpr ⟨String.toList_injective hfamily.symm,
    String.toList_injective hreference.symm⟩, String.toList_injective hrest.symm⟩

/-- **Building the chain and then the account is reading their text.** -/
theorem ofParts_eq_ok_iff_parse {family reference address : String} {a : AccountId} :
    (ChainId.ofParts family reference).bind (ofParts · address) = .ok a ↔
      parse (family ++ ":" ++ reference ++ ":" ++ address) = .ok a := by
  rw [parse_eq_ok_iff]
  constructor
  · intro h
    cases hchain : ChainId.ofParts family reference with
    | error e =>
        rw [hchain] at h
        cases h
    | ok chain =>
        rw [hchain] at h
        obtain ⟨rfl, -⟩ := of_ofParts_eq_ok h
        refine ⟨?_, h⟩
        rw [text, ChainId.ofParts_eq_ok_iff_text.mp hchain]
  · rintro ⟨htext, h⟩
    obtain ⟨hchain, rfl⟩ := parts_of_text (of_ofParts_eq_ok h).2 htext
    rw [hchain]
    exact h

/-- **Text is an account's exactly if it has three parts between colons that keep the rules.** -/
theorem exists_parse_iff {s : String} : (∃ a, parse s = .ok a) ↔
    ∃ family reference address, s = family ++ ":" ++ reference ++ ":" ++ address ∧
      isFamily family = true ∧ isReference reference = true ∧ isAddress address = true ∧
      OwnRules family reference address := by
  constructor
  · rintro ⟨a, h⟩
    obtain ⟨rfl, hkept⟩ := parse_eq_ok_iff.mp h
    obtain ⟨-, haddress, hown⟩ := ofParts_eq_ok_iff.mp hkept
    exact ⟨a.chain.family, a.chain.reference, a.address, rfl, a.chain.family_ok,
      a.chain.reference_ok, haddress, hown⟩
  · rintro ⟨family, reference, address, rfl, hfamily, hreference, haddress, hown⟩
    refine ⟨⟨⟨family, reference, hfamily, hreference⟩, address⟩, ?_⟩
    exact parse_eq_ok_iff.mpr ⟨rfl, ofParts_eq_ok_iff.mpr ⟨rfl, haddress, hown⟩⟩

end AccountId

/--
**Reading an identifier and building it from its parts agree.**  Take any texts for the parts of
an identifier.

* The chain is built from the first two exactly if it is read from the text that they make with
  a colon between them, and exactly if it is read from this text as a JSON string.  Nothing else
  in JSON is a chain, and a chain is written as the string that it is read from.
* The chain and the account on it are built exactly if the account is read from the text of all
  three parts.
* An account is read from its own text and from no other.  There is one exactly if the text has
  three parts between colons: three to eight small letters, digits and hyphens, then one to
  sixty-four letters, digits, hyphens and underscores, then one to 128 letters, digits, hyphens,
  dots and percent signs, which keep the rules of the family.
-/
theorem read_iff_built (family reference address s : String) (v : Json) (c : ChainId)
    (a : AccountId) :
    (ChainId.ofParts family reference = .ok c ↔
      ChainId.parse (family ++ ":" ++ reference) = .ok c) ∧
    (ChainId.ofParts family reference = .ok c ↔
      AccountId.chain? (.str (family ++ ":" ++ reference)) = some c) ∧
    (AccountId.chain? v = some c ↔ v = .str c.text) ∧
    ((ChainId.ofParts family reference).bind (AccountId.ofParts · address) = .ok a ↔
      AccountId.parse (family ++ ":" ++ reference ++ ":" ++ address) = .ok a) ∧
    (AccountId.parse s = .ok a ↔ a.text = s ∧ AccountId.ofParts a.chain a.address = .ok a) ∧
    ((∃ a, AccountId.parse s = .ok a) ↔
      ∃ family reference address, s = family ++ ":" ++ reference ++ ":" ++ address ∧
        Spells 3 8 (fun x => x = '-' ∨ Small x ∨ Digit x) family ∧
        Spells 1 64 (fun x => x = '-' ∨ x = '_' ∨ Small x ∨ Capital x ∨ Digit x) reference ∧
        Spells 1 128 (fun x => x = '-' ∨ x = '.' ∨ x = '%' ∨ Small x ∨ Capital x ∨ Digit x)
          address ∧
        OwnRules family reference address) := by
  refine ⟨?_, ?_, AccountId.chain?_eq_some_iff, AccountId.ofParts_eq_ok_iff_parse,
    AccountId.parse_eq_ok_iff, ?_⟩
  · rw [ChainId.ofParts_eq_ok_iff_text, ChainId.parse_eq_ok_iff]
  · rw [ChainId.ofParts_eq_ok_iff_text, AccountId.chain?_eq_some_iff, Json.str.injEq, eq_comm]
  · simp only [← isFamily_iff, ← isReference_iff, ← isAddress_iff]
    exact AccountId.exists_parse_iff

end AgentId.Caip
