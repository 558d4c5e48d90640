/-
Accounts that come from records.

An account is read from its text, built on a chain, or taken from a record in JSON.  The first two
ways hold its address against the common grammar and the rules of its family, so what they give
keeps the rules and is read again from its own text.  Of a record only the chain is held against
anything: its string is read, while that of the address is taken as it is.  So an account of a
record may have any address at all, and then its text is not that of an account
(`rules_kept_unless_recorded`, `exists_unruly_record`).
-/
import AgentId.Proofs.Caip.Grammar
import AgentId.Proofs.Caip.Ledgers

namespace AgentId.Caip.AccountId

/-- An account keeps the common grammar of addresses and the rules of its family. -/
structure KeepsRules (a : AccountId) : Prop where
  grammar : Spells 1 128
    (fun c => c = '-' ∨ c = '.' ∨ c = '%' ∨ Small c ∨ Capital c ∨ Digit c) a.address
  own : OwnRules a.chain.family a.chain.reference a.address

/-- A value in JSON is the record of an account: an object that names the text of the chain and
the address, whatever else it has, or an array of both. -/
def Records (v : Json) (a : AccountId) : Prop :=
  (∃ members, v = .obj members ∧
    members.lookup "chain_id" = some (.str a.chain.text) ∧
    members.lookup "address" = some (.str a.address)) ∨
  v = .arr [.str a.chain.text, .str a.address]

/-! ### Accounts that were read or built -/

theorem ofParts_eq_ok_iff_keepsRules {chain : ChainId} {address : String} {a : AccountId} :
    ofParts chain address = .ok a ↔ a = ⟨chain, address⟩ ∧ a.KeepsRules := by
  rw [ofParts_eq_ok_iff]
  refine and_congr_right ?_
  rintro rfl
  rw [isAddress_iff]
  exact ⟨fun ⟨hgrammar, hown⟩ => ⟨hgrammar, hown⟩, fun h => ⟨h.grammar, h.own⟩⟩

theorem parse_eq_ok_iff_keepsRules {s : String} {a : AccountId} :
    parse s = .ok a ↔ a.text = s ∧ a.KeepsRules := by
  rw [parse_eq_ok_iff, ofParts_eq_ok_iff_keepsRules]
  exact and_congr_right fun _ => and_iff_right rfl

/-! ### Accounts of records -/

/-- **An account is taken from its record, and from nothing else**, with any address. -/
theorem ofJson?_eq_some_iff {v : Json} {a : AccountId} : ofJson? v = some a ↔ Records v a := by
  have hfields : ofJson? v = some a ↔ ∃ fields, v.fields? ["chain_id", "address"] = some fields ∧
      fields.lookup "chain_id" = some (.str a.chain.text) ∧
      fields.lookup "address" = some (.str a.address) := by
    obtain ⟨chain, address⟩ := a
    have hchain : ∀ {fields}, Json.required fields "chain_id" chain? = some chain ↔ _ :=
      Json.required_eq_some_iff fun _ => chain?_eq_some_iff
    have haddress : ∀ {fields}, Json.required fields "address" Json.string? = some address ↔ _ :=
      Json.required_eq_some_iff fun _ => Json.string?_eq_some_iff
    simp only [← hchain, ← haddress]
    unfold ofJson?
    simp only [Option.bind_eq_bind, Option.bind_eq_some_iff, Option.pure_def, Option.some.injEq,
      mk.injEq]
    constructor
    · rintro ⟨fields, hfields, chain, hread, address, hread', rfl, rfl⟩
      exact ⟨fields, hfields, hread, hread'⟩
    · rintro ⟨fields, hfields, hread, hread'⟩
      exact ⟨fields, hfields, chain, hread, address, hread', rfl, rfl⟩
  rw [hfields]
  exact Json.fields?_two_iff (by decide)

/--
**An account keeps the rules unless it was taken from a record.**

* What is read from text or built on a chain has the text or the parts that it was made from, and
  keeps the common grammar of addresses and the rules of its family.
* A record is taken at its word.  Its chain has to be the text of one, but the address may be any
  string, so that whatever account is written as a record is read again.
* The text of an account is read again exactly if the account keeps the rules.
-/
theorem rules_kept_unless_recorded (s address : String) (chain : ChainId) (v : Json)
    (a : AccountId) :
    (parse s = .ok a ↔ a.text = s ∧ a.KeepsRules) ∧
    (ofParts chain address = .ok a ↔ a = ⟨chain, address⟩ ∧ a.KeepsRules) ∧
    (ofJson? v = some a ↔ Records v a) ∧
    ofJson? a.toJson = some a ∧
    (parse a.text = .ok a ↔ a.KeepsRules) := by
  refine ⟨parse_eq_ok_iff_keepsRules, ofParts_eq_ok_iff_keepsRules, ofJson?_eq_some_iff, ?_, ?_⟩
  · exact ofJson?_eq_some_iff.mpr (Or.inl ⟨_, rfl, rfl, rfl⟩)
  · rw [parse_eq_ok_iff_keepsRules]
    exact and_iff_right rfl

/-- **Not every account of a record has a text that can be read**: an address may have spaces. -/
theorem exists_unruly_record :
    ∃ (v : Json) (a : AccountId), ofJson? v = some a ∧ parse a.text ≠ .ok a := by
  let a : AccountId := ⟨HederaNetwork.mainnet.chain, "not an account"⟩
  refine ⟨.obj [("chain_id", .str a.chain.text), ("address", .str a.address)], a,
    ofJson?_eq_some_iff.mpr (Or.inl ⟨_, rfl, rfl, rfl⟩), ?_⟩
  intro h
  have hspace := (parse_eq_ok_iff_keepsRules.mp h).2.grammar.2.2 ' ' (by decide)
  revert hspace
  unfold Small Capital Digit
  decide

end AgentId.Caip.AccountId
