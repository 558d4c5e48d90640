/-
Accounts come back from their text.

No part of an account holds a colon, so the text is cut into the parts it was put together
from.  Whatever has a text is read from it, and what was read has the text that it was read
from (`ChainId.parse_eq_ok_iff`, `AccountId.parse_eq_ok_iff`, `HederaAccount.text_of_parse`).
The parts are of visible ASCII characters, so there is no white space in that text
(`HederaAccount.noBlank_of_parse`).

A network stands in front of a text if its name does, with a colon behind.  The colon ends
the name, so there is one network at most (`HederaNetwork.lead?_eq_some_iff`).
-/
import AgentId.Caip.AccountId
import AgentId.Proofs.Text.Cutting
import AgentId.Proofs.Text.Escaping

namespace AgentId.Caip

open Text

/-! ### Networks -/

namespace HederaNetwork

theorem text_injective {m n : HederaNetwork} (h : m.text = n.text) : m = n := by
  revert h
  cases m <;> cases n <;> decide

theorem noColon_text (n : HederaNetwork) : ':' ∉ n.text.toList := by
  cases n <;> decide

/-- A network is read from its name, and from nothing else. -/
theorem parse_eq_ok_iff {s : String} {n : HederaNetwork} : parse s = .ok n ↔ n.text = s := by
  constructor
  · intro h
    unfold parse at h
    split at h
    · rename_i found hfound
      obtain rfl := Except.ok.inj h
      simpa using List.find?_some hfound
    · cases h
  · rintro rfl
    cases n <;> decide

/-- No network stands in front of a text exactly if the text starts with the name of none. -/
theorem lead?_eq_none_iff {s : String} :
    lead? s = none ↔ ∀ n : HederaNetwork, startsWith (n.text ++ ":") s = false := by
  unfold lead?
  rw [List.findSome?_eq_none_iff]
  constructor
  · intro h n
    have hnone := Option.map_eq_none_iff.mp (h n (mem_all n))
    rw [startsWith, hnone]
    rfl
  · intro h n _
    have hnot := h n
    rw [startsWith, Option.isSome_eq_false_iff, Option.isNone_iff_eq_none] at hnot
    rw [hnot]
    rfl

/-- **A network stands in front of a text if the text is its name, a colon and more.** -/
theorem lead?_eq_some_iff {s rest : String} {n : HederaNetwork} :
    lead? s = some (n, rest) ↔ s = n.text ++ ":" ++ rest := by
  have found : ∀ {m r}, lead? s = some (m, r) → s = m.text ++ ":" ++ r := by
    intro m r h
    obtain ⟨m', -, hbehind⟩ := List.exists_of_findSome?_eq_some h
    obtain ⟨own, hown, heq⟩ := Option.map_eq_some_iff.mp hbehind
    obtain ⟨rfl, rfl⟩ := Prod.mk.inj heq
    refine String.toList_injective ?_
    rw [behind?_eq_some_iff.mp hown]
    simp
  refine ⟨found, fun h => ?_⟩
  have hcut : ∀ {m : HederaNetwork} {r}, s = m.text ++ ":" ++ r →
      cut? ':' s.toList = some (m.text.toList, r.toList) := by
    intro m r hs
    refine cut?_eq_some_iff.mpr ⟨?_, noColon_text m⟩
    rw [hs]
    simp
  cases hlead : lead? s with
  | none =>
      have hstarts : startsWith (n.text ++ ":") s = true := by
        rw [startsWith_iff, h]
        exact ⟨rest.toList, by simp⟩
      rw [lead?_eq_none_iff.mp hlead n] at hstarts
      cases hstarts
  | some other =>
      obtain ⟨m, r⟩ := other
      have hsame := (hcut (found hlead)).symm.trans (hcut h)
      obtain ⟨hname, hrest⟩ := Prod.mk.inj (Option.some.inj hsame)
      rw [text_injective (String.toList_injective hname), String.toList_injective hrest]

end HederaNetwork

/-! ### Chains and accounts -/

/-- Letters, digits and the marks that a part may hold are no white space. -/
theorem noBlank_of_fits {p : Piece} {s : String} (h : fits [p] s.toList = true)
    (plain : ∀ c, p.accepts c = true → c.isAlphanum = true ∨ c ∈ ['-', '_', '.', '%']) :
    ∀ c ∈ s.toList, isBlank c = false := by
  obtain ⟨-, -, haccepts⟩ := fits_singleton_iff.mp h
  have marks : ∀ c ∈ ['-', '_', '.', '%'], isBlank c = false :=
    forall_mem_of_all (by decide)
  intro c hc
  rcases plain c (haccepts c hc) with halphanum | hmark
  · exact Percent.isBlank_of_isUnreserved (by simp [Percent.isUnreserved, halphanum])
  · exact marks c hmark

/-- What no piece takes is not in the text. -/
theorem not_mem_of_fits {p : Piece} {s : String} {c : Char} (h : fits [p] s.toList = true)
    (hc : p.accepts c = false) : c ∉ s.toList := by
  obtain ⟨-, -, haccepts⟩ := fits_singleton_iff.mp h
  intro hmem
  rw [haccepts c hmem] at hc
  cases hc

namespace ChainId

theorem toList_text (c : ChainId) :
    c.text.toList = c.family.toList ++ ':' :: c.reference.toList := by
  simp [text]

theorem noColon (c : ChainId) : ':' ∉ c.family.toList ∧ ':' ∉ c.reference.toList :=
  ⟨not_mem_of_fits c.family_ok (by decide), not_mem_of_fits c.reference_ok (by decide)⟩

/-- The text of an identifier has the pattern of the whole. -/
theorem fits_text (c : ChainId) : fits pattern c.text.toList = true := by
  rw [toList_text]
  exact fits_cons_iff.mpr ⟨_, _, rfl, fits_singleton_iff.mp c.family_ok,
    fits_mark_cons_iff.mpr ⟨_, rfl, c.reference_ok⟩⟩

/-- **An identifier is read from its text, and from no other.** -/
theorem parse_eq_ok_iff {s : String} {c : ChainId} : parse s = .ok c ↔ c.text = s := by
  constructor
  · intro h
    unfold parse at h
    split at h
    · cases h
    · split at h
      · cases h
      · rename_i family reference hcut
        obtain ⟨hfamily, hreference⟩ := ofParts_eq_ok.mp h
        obtain ⟨hs, -⟩ := cut?_eq_some_iff.mp hcut
        refine String.toList_injective ?_
        rw [toList_text, hfamily, hreference, hs]
        simp
  · rintro rfl
    have hcut : cut? ':' c.text.toList = some (c.family.toList, c.reference.toList) :=
      cut?_eq_some_iff.mpr ⟨c.toList_text, c.noColon.1⟩
    unfold parse
    rw [fits_text, hcut]
    simp only [Bool.not_true, Bool.false_eq_true, if_false, String.ofList_toList]
    exact ofParts_self c

end ChainId

namespace AccountId

theorem toList_text (a : AccountId) : a.text.toList =
    a.chain.family.toList ++ ':' :: (a.chain.reference.toList ++ ':' :: a.address.toList) := by
  simp [text, ChainId.toList_text]

/-- **An account is built if its address keeps the common grammar and nobody objects.** -/
theorem underRules_eq_ok_iff {rules : Rulebook} {chain : ChainId} {address : String}
    {a : AccountId} :
    underRules rules chain address = .ok a ↔ a = ⟨chain, address⟩ ∧ isAddress address = true ∧
      judge rules.references chain.family chain.reference = .ok () ∧
      judge rules.addresses chain.family address = .ok () := by
  unfold underRules
  by_cases haddress : isAddress address = true
  · cases judge rules.references chain.family chain.reference with
    | error reason => simp [haddress]
    | ok _ =>
        cases judge rules.addresses chain.family address with
        | error reason => simp [haddress]
        | ok _ => simp [haddress, eq_comm]
  · simp [haddress]

theorem of_ofParts_eq_ok {chain : ChainId} {address : String} {a : AccountId}
    (h : ofParts chain address = .ok a) : a = ⟨chain, address⟩ ∧ isAddress address = true := by
  obtain ⟨ha, haddress, -⟩ := underRules_eq_ok_iff.mp h
  exact ⟨ha, haddress⟩

/-- The text of an account has the pattern of the whole. -/
theorem fits_text {a : AccountId} (h : isAddress a.address = true) :
    fits pattern a.text.toList = true := by
  rw [toList_text]
  exact fits_cons_iff.mpr ⟨_, _, rfl, fits_singleton_iff.mp a.chain.family_ok,
    fits_mark_cons_iff.mpr ⟨_, rfl, fits_cons_iff.mpr ⟨_, _, rfl,
      fits_singleton_iff.mp a.chain.reference_ok, fits_mark_cons_iff.mpr ⟨_, rfl, h⟩⟩⟩⟩

/-- The parts of an account do not have the colon between them. -/
theorem splitOn_text {a : AccountId} (h : isAddress a.address = true) :
    a.text.toList.splitOn ':' =
      [a.chain.family.toList, a.chain.reference.toList, a.address.toList] := by
  obtain ⟨hfamily, hreference⟩ := a.chain.noColon
  exact splitOn_eq_three_iff.mpr
    ⟨a.toList_text, hfamily, hreference, not_mem_of_fits h (by decide)⟩

/-- **An account is read from its text, and from no other**, if it keeps the rules. -/
theorem parse_eq_ok_iff {s : String} {a : AccountId} :
    parse s = .ok a ↔ a.text = s ∧ ofParts a.chain a.address = .ok a := by
  constructor
  · intro h
    unfold parse at h
    split at h
    · cases h
    · split at h
      · rename_i family reference address hsplit
        obtain ⟨hs, -⟩ := splitOn_eq_three_iff.mp hsplit
        cases hchain : ChainId.ofParts (String.ofList family) (String.ofList reference) with
        | error e =>
            rw [hchain] at h
            cases h
        | ok chain =>
            rw [hchain] at h
            obtain ⟨rfl, -⟩ := of_ofParts_eq_ok h
            obtain ⟨hfamily, hreference⟩ := ChainId.ofParts_eq_ok.mp hchain
            refine ⟨String.toList_injective ?_, h⟩
            rw [toList_text, hfamily, hreference, hs]
            simp
      · cases h
  · rintro ⟨rfl, h⟩
    obtain ⟨-, haddress⟩ := of_ofParts_eq_ok h
    unfold parse
    rw [fits_text haddress, splitOn_text haddress]
    simp only [Bool.not_true, Bool.false_eq_true, if_false, String.ofList_toList,
      ChainId.ofParts_self]
    exact h

/-- What is read as an account has the text of the account, and its address keeps the common
grammar. -/
theorem of_parse_eq_ok {s : String} {a : AccountId} (h : parse s = .ok a) :
    a.text = s ∧ isAddress a.address = true := by
  obtain ⟨htext, hkept⟩ := parse_eq_ok_iff.mp h
  exact ⟨htext, (of_ofParts_eq_ok hkept).2⟩

/-- There is no white space in the text of an account whose address keeps the grammar. -/
theorem noBlank_text {a : AccountId} (h : isAddress a.address = true) :
    ∀ c ∈ a.text.toList, isBlank c = false := by
  have hfamily : ∀ c ∈ a.chain.family.toList, isBlank c = false := by
    refine noBlank_of_fits a.chain.family_ok fun c hc => ?_
    simp only [familyPiece, Bool.or_eq_true, beq_iff_eq] at hc
    rcases hc with hletter | rfl
    · left
      show (c.isUpper || c.isLower || c.isDigit) = true
      rcases hletter with hlower | hdigit
      · simp [hlower]
      · simp [hdigit]
    · exact Or.inr (by decide)
  have hreference : ∀ c ∈ a.chain.reference.toList, isBlank c = false :=
    noBlank_of_fits a.chain.reference_ok fun c hc => by grind [referencePiece]
  have haddress : ∀ c ∈ a.address.toList, isBlank c = false :=
    noBlank_of_fits h fun c hc => by grind [addressPiece]
  intro c hc
  rw [toList_text] at hc
  simp only [List.mem_append, List.mem_cons] at hc
  rcases hc with hc | rfl | hc | rfl | hc
  · exact hfamily c hc
  · decide
  · exact hreference c hc
  · decide
  · exact haddress c hc

end AccountId

namespace HederaAccount

/-- **An account on the Hedera ledger is one of its family, on a network that has a name.** -/
theorem parse_eq_ok_iff {s : String} {a : HederaAccount} :
    parse s = .ok a ↔ ∃ account : AccountId, AccountId.parse s = .ok account ∧
      account.chain.family = "hedera" ∧ account.chain.reference = a.network.text ∧
      account.address = a.account := by
  unfold parse
  cases haccount : AccountId.parse s with
  | error e => simp [bind, Except.bind]
  | ok account =>
      simp only [bind, Except.bind, pure, Except.pure, Except.ok.injEq, exists_eq_left']
      by_cases hfamily : account.chain.family = "hedera"
      · cases hnetwork : HederaNetwork.parse account.chain.reference with
        | error e =>
            have hnone : account.chain.reference ≠ a.network.text := by
              intro heq
              rw [HederaNetwork.parse_eq_ok_iff.mpr heq.symm] at hnetwork
              cases hnetwork
            simp [hfamily, hnone]
        | ok network =>
            have hname := HederaNetwork.parse_eq_ok_iff.mp hnetwork
            obtain ⟨own, address⟩ := a
            rw [← hname]
            simp only [hfamily, if_true, true_and, Except.ok.injEq, mk.injEq]
            exact and_congr_left fun _ => ⟨congrArg _, HederaNetwork.text_injective⟩
      · simp [hfamily]

theorem text_of_account {account : AccountId} {a : HederaAccount}
    (hfamily : account.chain.family = "hedera")
    (hnetwork : account.chain.reference = a.network.text)
    (haddress : account.address = a.account) : account.text = a.text := by
  rw [AccountId.text, ChainId.text, hfamily, hnetwork, haddress, text]
  rfl

/-- **What is read as an account on the Hedera ledger has the text of the account.** -/
theorem text_of_parse {s : String} {a : HederaAccount} (h : parse s = .ok a) : a.text = s := by
  obtain ⟨account, haccount, hfamily, hnetwork, haddress⟩ := parse_eq_ok_iff.mp h
  rw [← text_of_account hfamily hnetwork haddress, (AccountId.of_parse_eq_ok haccount).1]

theorem noBlank_of_parse {s : String} {a : HederaAccount} (h : parse s = .ok a) :
    ∀ c ∈ s.toList, isBlank c = false := by
  obtain ⟨account, haccount, -⟩ := parse_eq_ok_iff.mp h
  obtain ⟨rfl, haddress⟩ := AccountId.of_parse_eq_ok haccount
  exact AccountId.noBlank_text haddress

end HederaAccount

end AgentId.Caip
