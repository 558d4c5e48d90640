/-
The accounts of two ledgers, letter by letter.

An account of the Hedera ledger or of an `eip155` chain is read through several tests, one
after another: the pattern of the whole text, a pattern for each part, the rules of the family
for the chain and for the address, and the name of the network.  What passes all of them is said
here by one description of the text for each ledger (`ledgers_exact`).

The tests overlap, and only together do they say what an account is.  The rule for Hedera
addresses alone takes the digits of every script and an address of any length; it is the common
grammar of addresses that leaves the ten digits of ASCII and 128 characters.
-/
import AgentId.Proofs.Caip.Rules

namespace AgentId.Caip

open Text

/-- A number in digits of some kind, with any zeros in front. -/
def Numeral (digit : Char → Prop) (s : String) : Prop := s ≠ "" ∧ ∀ c ∈ s.toList, digit c

/-- `shard.realm.number` in digits of some kind, and perhaps a hyphen and five small letters. -/
def LedgerAddress (digit : Char → Prop) (address : String) : Prop :=
  ∃ shard realm number checksum,
    address = shard ++ "." ++ realm ++ "." ++ number ++ checksum ∧
    Numeral digit shard ∧ Numeral digit realm ∧ Numeral digit number ∧
    (checksum = "" ∨ ∃ letters, checksum = "-" ++ letters ∧ Spells 5 5 Small letters)

/-- The rule for addresses takes the digits of every script. -/
theorem Validator.hederaAddress_eq_ok_iff {address : String} :
    hederaAddress address = .ok () ↔ LedgerAddress (isDecimalDigit · = true) address := by
  have hnumeral : ∀ part : String, isNumeral part.toList = true ↔
      Numeral (isDecimalDigit · = true) part := by
    intro part
    rw [isNumeral, Bool.and_eq_true, List.all_eq_true, Numeral]
    simp
  rw [hederaAddress, ofTest_eq_ok_iff, isHederaAddress_iff_numerals]
  unfold LedgerAddress
  simp only [hnumeral]

/-! ### Addresses in the common grammar -/

/-- An address in ASCII digits keeps the common grammar unless it is too long. -/
theorem isAddress_of_ledgerAddress {address : String} (h : LedgerAddress Digit address)
    (hlength : address.length ≤ 128) : isAddress address = true := by
  obtain ⟨shard, realm, number, checksum, rfl, hshard, hrealm, hnumber, hchecksum⟩ := h
  have hletters : ∀ c ∈ checksum.toList, c = '-' ∨ Small c := by
    rcases hchecksum with rfl | ⟨letters, rfl, -, -, hsmall⟩
    · simp
    · simpa using fun c hc => Or.inr (hsmall c hc)
  refine isAddress_iff.mpr ⟨?_, hlength, fun c hc => ?_⟩
  · simp only [String.length_append, show ".".length = 1 from rfl]
    omega
  · simp only [String.toList_append, List.mem_append, show ".".toList = ['.'] from rfl,
      List.mem_singleton] at hc
    have hdigit : Digit c ∨ c = '.' ∨ c = '-' ∨ Small c := by
      rcases hc with ((((hc | hc) | hc) | hc) | hc) | hc
      · exact Or.inl (hshard.2 c hc)
      · exact Or.inr (Or.inl hc)
      · exact Or.inl (hrealm.2 c hc)
      · exact Or.inr (Or.inl hc)
      · exact Or.inl (hnumber.2 c hc)
      · exact Or.inr (Or.inr (hletters c hc))
    rcases hdigit with h | h | h | h <;> simp [h]

theorem HexDigit.alphanum {c : Char} (h : HexDigit c) : Small c ∨ Capital c ∨ Digit c := by
  rcases h with hdigit | hsmall | hcapital
  · exact Or.inr (Or.inr hdigit)
  · exact Or.inl ⟨hsmall.1, Char.le_trans hsmall.2 (by decide)⟩
  · exact Or.inr (Or.inl ⟨hcapital.1, Char.le_trans hcapital.2 (by decide)⟩)

/-- An address of an `eip155` chain keeps the common grammar. -/
theorem isAddress_hex {digits : String} (h : Spells 40 40 HexDigit digits) :
    isAddress ("0x" ++ digits) = true := by
  obtain ⟨hlow, hhigh, hkind⟩ := h
  refine isAddress_iff.mpr ⟨?_, ?_, fun c hc => ?_⟩
  · simp only [String.length_append]
    omega
  · simp only [String.length_append, show "0x".length = 2 from rfl]
    omega
  · rw [String.toList_append, List.mem_append] at hc
    refine Or.inr (Or.inr (Or.inr ?_))
    rcases hc with hlead | hdigit
    · have hlead' : c = '0' ∨ c = 'x' := by simpa using hlead
      rcases hlead' with rfl | rfl
      · exact Or.inr (Or.inr (by unfold Digit; decide))
      · exact Or.inl (by unfold Small; decide)
    · exact (hkind c hdigit).alphanum

/-- A reference in decimal digits is one in the common grammar. -/
theorem isReference_of_digits {reference : String} (h : Spells 1 64 Digit reference) :
    isReference reference = true := by
  obtain ⟨hlow, hhigh, hdigit⟩ := h
  refine isReference_iff.mpr ⟨hlow, hhigh, fun c hc => ?_⟩
  exact Or.inr (Or.inr (Or.inr (Or.inr (hdigit c hc))))

/-! ### The own rules of the two families -/

theorem ownRules_hedera_iff {reference address : String} :
    OwnRules "hedera" reference address ↔
      reference ∈ ["mainnet", "testnet", "previewnet", "devnet"] ∧
        LedgerAddress Digit address :=
  ⟨fun h => h.hedera rfl, fun h => ⟨fun hne => absurd hne (by decide), fun _ => h⟩⟩

theorem ownRules_eip155_iff {reference address : String} :
    OwnRules "eip155" reference address ↔
      Decimal reference ∧ ∃ digits, address = "0x" ++ digits ∧ Spells 40 40 HexDigit digits :=
  ⟨fun h => h.eip155 rfl, fun h => ⟨fun _ => h, fun hne => absurd hne (by decide)⟩⟩

/-! ### What is read -/

/-- The chain of a network. -/
def HederaNetwork.chain (n : HederaNetwork) : ChainId where
  family := "hedera"
  reference := n.text
  family_ok := by decide +kernel
  reference_ok := by cases n <;> decide +kernel

theorem HederaNetwork.text_mem (n : HederaNetwork) :
    n.text ∈ ["mainnet", "testnet", "previewnet", "devnet"] := by
  cases n <;> decide

/-- **An account on the Hedera ledger is read from its text, and from no other**, if its address
is one of the ledger. -/
theorem HederaAccount.parse_eq_ok_iff_text {s : String} {a : HederaAccount} :
    parse s = .ok a ↔
      a.text = s ∧ LedgerAddress Digit a.account ∧ a.account.length ≤ 128 := by
  rw [parse_eq_ok_iff]
  constructor
  · rintro ⟨⟨chain, address⟩, haccount, hfamily, hnetwork, rfl⟩
    obtain ⟨htext, hkept⟩ := AccountId.parse_eq_ok_iff.mp haccount
    obtain ⟨-, haddress, hown⟩ := AccountId.ofParts_eq_ok_iff.mp hkept
    dsimp only at hfamily
    rw [hfamily] at hown
    exact ⟨by rw [← htext, text_of_account hfamily hnetwork rfl],
      (ownRules_hedera_iff.mp hown).2, (isAddress_iff.mp haddress).2.1⟩
  · rintro ⟨rfl, hledger, hlength⟩
    refine ⟨⟨a.network.chain, a.account⟩, ?_, rfl, rfl, rfl⟩
    refine AccountId.parse_eq_ok_iff.mpr ⟨text_of_account rfl rfl rfl, ?_⟩
    exact AccountId.ofParts_eq_ok_iff.mpr ⟨rfl, isAddress_of_ledgerAddress hledger hlength,
      ownRules_hedera_iff.mpr ⟨a.network.text_mem, hledger⟩⟩

theorem AccountId.parseEip155_eq_ok_iff {s : String} {a : AccountId} :
    parseEip155 s = .ok a ↔ parse s = .ok a ∧ a.chain.family = "eip155" := by
  unfold parseEip155
  cases parse s with
  | error e => simp [bind, Except.bind]
  | ok b =>
      by_cases hfamily : b.chain.family = "eip155"
      · simp only [bind, Except.bind, hfamily, if_true, Except.ok.injEq]
        exact ⟨fun h => ⟨h, h ▸ hfamily⟩, And.left⟩
      · simp only [bind, Except.bind, hfamily, if_false, Except.ok.injEq, reduceCtorEq, false_iff]
        rintro ⟨rfl, h⟩
        exact hfamily h

/-- **An account of family `eip155` is read from its text, and from no other**, if its chain is
a number and its address hexadecimal. -/
theorem AccountId.parseEip155_eq_ok_iff_text {s : String} {a : AccountId} :
    parseEip155 s = .ok a ↔
      a.text = s ∧ a.chain.family = "eip155" ∧ Spells 1 64 Digit a.chain.reference ∧
        ∃ digits, a.address = "0x" ++ digits ∧ Spells 40 40 HexDigit digits := by
  rw [parseEip155_eq_ok_iff, parse_eq_ok_iff, ofParts_eq_ok_iff]
  constructor
  · rintro ⟨⟨htext, -, haddress, hown⟩, hfamily⟩
    rw [hfamily] at hown
    obtain ⟨hdecimal, hhex⟩ := ownRules_eip155_iff.mp hown
    obtain ⟨hlow, hhigh, -⟩ := isReference_iff.mp a.chain.reference_ok
    exact ⟨htext, hfamily, ⟨hlow, hhigh, hdecimal.2⟩, hhex⟩
  · rintro ⟨htext, hfamily, hreference, digits, haddress, hhex⟩
    refine ⟨⟨htext, rfl, ?_, ?_⟩, hfamily⟩
    · rw [haddress]
      exact isAddress_hex hhex
    · rw [hfamily]
      refine ownRules_eip155_iff.mpr ⟨⟨?_, hreference.2.2⟩, digits, haddress, hhex⟩
      rintro hempty
      have hlength := hreference.1
      rw [hempty] at hlength
      exact absurd hlength (by decide)

/--
**The texts of the accounts of two ledgers.**

* An account on the Hedera ledger is read from its own text and from no other, and its address is
  three numbers in the digits of ASCII, perhaps with a checksum, in 128 characters at most.
  Conversely all texts of this form with the name of a network are read.
* The rule for addresses alone takes the digits of every script, and there are more than those of
  ASCII.
* An account of family `eip155` is read from its own text and from no other, its chain is one to
  64 digits and its address `0x` with forty hexadecimal digits in either case.  Conversely all
  texts of this form are read.
-/
theorem ledgers_exact (s address : String) (account : HederaAccount) (a : AccountId) :
    (HederaAccount.parse s = .ok account ↔ account.text = s ∧
      LedgerAddress Digit account.account ∧ account.account.length ≤ 128) ∧
    ((∃ account, HederaAccount.parse s = .ok account) ↔ ∃ network address,
      s = "hedera:" ++ network ++ ":" ++ address ∧
      network ∈ ["mainnet", "testnet", "previewnet", "devnet"] ∧
      LedgerAddress Digit address ∧ address.length ≤ 128) ∧
    (Validator.hederaAddress address = .ok () ↔
      LedgerAddress (isDecimalDigit · = true) address) ∧
    (∃ c, isDecimalDigit c = true ∧ ¬ Digit c) ∧
    (AccountId.parseEip155 s = .ok a ↔ a.text = s ∧ a.chain.family = "eip155" ∧
      Spells 1 64 Digit a.chain.reference ∧
      ∃ digits, a.address = "0x" ++ digits ∧ Spells 40 40 HexDigit digits) ∧
    ((∃ a, AccountId.parseEip155 s = .ok a) ↔ ∃ reference digits,
      s = "eip155:" ++ reference ++ ":0x" ++ digits ∧
      Spells 1 64 Digit reference ∧ Spells 40 40 HexDigit digits) := by
  refine ⟨HederaAccount.parse_eq_ok_iff_text, ?_, Validator.hederaAddress_eq_ok_iff,
    ⟨'٣', by decide +kernel, fun h => absurd h.2 (by decide +kernel)⟩,
    AccountId.parseEip155_eq_ok_iff_text, ?_⟩
  · constructor
    · rintro ⟨account, h⟩
      obtain ⟨rfl, hledger, hlength⟩ := HederaAccount.parse_eq_ok_iff_text.mp h
      exact ⟨_, _, rfl, account.network.text_mem, hledger, hlength⟩
    · rintro ⟨network, address, rfl, hnetwork, hledger, hlength⟩
      obtain ⟨n, -, rfl⟩ := List.mem_map.mp
        (show network ∈ HederaNetwork.all.map HederaNetwork.text from hnetwork)
      exact ⟨⟨n, address⟩, HederaAccount.parse_eq_ok_iff_text.mpr ⟨rfl, hledger, hlength⟩⟩
  · constructor
    · rintro ⟨a, h⟩
      obtain ⟨rfl, hfamily, hreference, digits, haddress, hhex⟩ :=
        AccountId.parseEip155_eq_ok_iff_text.mp h
      refine ⟨a.chain.reference, digits, String.toList_injective ?_, hreference, hhex⟩
      rw [AccountId.toList_text, hfamily, haddress]
      simp
    · rintro ⟨reference, digits, rfl, hreference, hhex⟩
      let chain : ChainId :=
        ⟨"eip155", reference, by decide +kernel, isReference_of_digits hreference⟩
      refine ⟨⟨chain, "0x" ++ digits⟩, AccountId.parseEip155_eq_ok_iff_text.mpr
        ⟨String.toList_injective ?_, rfl, hreference, digits, rfl, hhex⟩⟩
      rw [AccountId.toList_text]
      simp [chain]

end AgentId.Caip
