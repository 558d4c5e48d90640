/-
The rules of chains and accounts, said without reading them.

The parts of an identifier are so many characters of one kind (`Spells`), and two families add
rules of their own (`OwnRules`).  Here these are held against the patterns and validators that
text is read with; what building an account lets pass is what keeps the rules
(`AccountId.ofParts_eq_ok_iff`).

A validator of the Hedera family takes the decimal digits of all scripts.  That makes no
difference, since the common grammar of addresses is asked as well and has those of ASCII only
(`isNumeral_iff_of_ascii`).
-/
import AgentId.Proofs.Caip.Account
import AgentId.Proofs.Dict

namespace AgentId.Caip

open Text

/-! ### Kinds of characters -/

/-- A decimal digit. -/
def Digit (c : Char) : Prop := '0' ≤ c ∧ c ≤ '9'

/-- A letter in lower case. -/
def Small (c : Char) : Prop := 'a' ≤ c ∧ c ≤ 'z'

/-- A letter in upper case. -/
def Capital (c : Char) : Prop := 'A' ≤ c ∧ c ≤ 'Z'

/-- A hexadecimal digit in either case. -/
def HexDigit (c : Char) : Prop := Digit c ∨ ('a' ≤ c ∧ c ≤ 'f') ∨ ('A' ≤ c ∧ c ≤ 'F')

/-- From `low` to `high` characters of one kind. -/
def Spells (low high : Nat) (kind : Char → Prop) (s : String) : Prop :=
  low ≤ s.length ∧ s.length ≤ high ∧ ∀ c ∈ s.toList, kind c

/-- A number in decimal digits, with any zeros in front. -/
def Decimal (s : String) : Prop := s ≠ "" ∧ ∀ c ∈ s.toList, Digit c

theorem isDigit_iff {c : Char} : c.isDigit = true ↔ Digit c := by
  show (decide ('0' ≤ c) && decide (c ≤ '9')) = true ↔ _
  rw [Bool.and_eq_true, decide_eq_true_iff, decide_eq_true_iff, Digit]

theorem isLower_iff {c : Char} : c.isLower = true ↔ Small c := by
  show (decide ('a' ≤ c) && decide (c ≤ 'z')) = true ↔ _
  rw [Bool.and_eq_true, decide_eq_true_iff, decide_eq_true_iff, Small]

theorem isUpper_iff {c : Char} : c.isUpper = true ↔ Capital c := by
  show decide ('A' ≤ c ∧ c ≤ 'Z') = true ↔ _
  rw [decide_eq_true_iff, Capital]

theorem isAlphanum_iff {c : Char} : c.isAlphanum = true ↔ Small c ∨ Capital c ∨ Digit c := by
  show (c.isUpper || c.isLower || c.isDigit) = true ↔ _
  rw [Bool.or_eq_true, Bool.or_eq_true, isUpper_iff, isLower_iff, isDigit_iff, or_assoc,
    or_left_comm]

theorem isSome_hexValue?_iff {c : Char} : (hexValue? c).isSome = true ↔ HexDigit c := by
  unfold hexValue? HexDigit Digit
  split_ifs <;> simp_all

/-! ### The common grammar -/

theorem fits_iff_spells {p : Piece} {kind : Char → Prop}
    (hkind : ∀ c, p.accepts c = true ↔ kind c) {s : String} :
    fits [p] s.toList = true ↔ Spells p.low p.high kind s := by
  rw [fits_singleton_iff]
  unfold Piece.Takes Spells
  simp only [String.length_toList, hkind]

theorem isFamily_iff {s : String} :
    isFamily s = true ↔ Spells 3 8 (fun c => c = '-' ∨ Small c ∨ Digit c) s := by
  refine fits_iff_spells fun c => ?_
  simp only [familyPiece, Bool.or_eq_true, beq_iff_eq, isLower_iff, isDigit_iff]
  exact or_comm

theorem isReference_iff {s : String} : isReference s = true ↔
    Spells 1 64 (fun c => c = '-' ∨ c = '_' ∨ Small c ∨ Capital c ∨ Digit c) s := by
  refine fits_iff_spells fun c => ?_
  simp only [referencePiece, Bool.or_eq_true, beq_iff_eq, isAlphanum_iff]
  grind

theorem isAddress_iff {s : String} : isAddress s = true ↔
    Spells 1 128 (fun c => c = '-' ∨ c = '.' ∨ c = '%' ∨ Small c ∨ Capital c ∨ Digit c) s := by
  refine fits_iff_spells fun c => ?_
  simp only [addressPiece, Bool.or_eq_true, beq_iff_eq, isAlphanum_iff]
  grind

/-! ### The rules of the families -/

/-- The rules that a family has of its own, for its references and its addresses. -/
structure OwnRules (family reference address : String) : Prop where
  eip155 : family = "eip155" →
    Decimal reference ∧ ∃ digits, address = "0x" ++ digits ∧ Spells 40 40 HexDigit digits
  hedera : family = "hedera" →
    reference ∈ ["mainnet", "testnet", "previewnet", "devnet"] ∧
    ∃ shard realm number checksum,
      address = shard ++ "." ++ realm ++ "." ++ number ++ checksum ∧
      Decimal shard ∧ Decimal realm ∧ Decimal number ∧
      (checksum = "" ∨ ∃ letters, checksum = "-" ++ letters ∧ Spells 5 5 Small letters)

namespace Validator

theorem ofTest_eq_ok_iff {test : List Char → Bool} {error : String → Error} {s : String} :
    ofTest test error s = .ok () ↔ test s.toList = true := by
  unfold ofTest
  split <;> simp_all

theorem isDecimal_iff {s : String} : isDecimal s.toList = true ↔ Decimal s := by
  simp only [isDecimal, Decimal, Bool.and_eq_true, List.all_eq_true, isDigit_iff]
  simp

theorem isEthereumAddress_iff {s : String} : isEthereumAddress s.toList = true ↔
    ∃ digits, s = "0x" ++ digits ∧ Spells 40 40 HexDigit digits := by
  unfold isEthereumAddress
  constructor
  · intro h
    split at h
    · rename_i digits hbehind
      rw [Bool.and_eq_true, beq_iff_eq, List.all_eq_true] at h
      refine ⟨String.ofList digits, String.toList_injective ?_, ?_⟩
      · rw [behind?_eq_some_iff.mp hbehind]
        simp
      · unfold Spells
        rw [← String.length_toList, String.toList_ofList, h.1]
        exact ⟨Nat.le_refl _, Nat.le_refl _, fun c hc => isSome_hexValue?_iff.mp (h.2 c hc)⟩
    · cases h
  · rintro ⟨digits, rfl, hlow, hhigh, hdigits⟩
    have hbehind : behind? "0x" ("0x" ++ digits).toList = some digits.toList :=
      behind?_eq_some_iff.mpr String.toList_append
    rw [hbehind]
    simp only [Bool.and_eq_true, beq_iff_eq, List.all_eq_true, String.length_toList]
    exact ⟨Nat.le_antisymm hhigh hlow, fun c hc => isSome_hexValue?_iff.mpr (hdigits c hc)⟩

theorem hederaReference_eq_ok_iff {s : String} : hederaReference s = .ok () ↔
    s ∈ ["mainnet", "testnet", "previewnet", "devnet"] := by
  have hnames : ["mainnet", "testnet", "previewnet", "devnet"] =
      HederaNetwork.all.map HederaNetwork.text := rfl
  rw [hnames, List.mem_map]
  unfold hederaReference HederaNetwork.parse
  cases hfind : HederaNetwork.all.find? (·.text == s) with
  | some n =>
      have hn := List.find?_some hfind
      exact iff_of_true rfl ⟨n, HederaNetwork.mem_all n, beq_iff_eq.mp hn⟩
  | none =>
      refine iff_of_false (by simp) ?_
      rintro ⟨n, hmem, hn⟩
      exact List.find?_eq_none.mp hfind n hmem (beq_iff_eq.mpr hn)

/-- A numeral holds no character of ASCII that is not one of the ten digits. -/
theorem not_mem_of_isNumeral {cs : List Char} {c : Char} (h : isNumeral cs = true)
    (hc : c.toNat < 0x80 ∧ c.isDigit = false) : c ∉ cs := by
  rw [isNumeral, Bool.and_eq_true, List.all_eq_true] at h
  intro hmem
  have hdigit := h.2 c hmem
  rw [isDecimalDigit_ascii hc.1, hc.2] at hdigit
  cases hdigit

/-- Without a checksum the number is all there is, and with one a hyphen is in front of it. -/
theorem isChecksummed_iff {cs : List Char} : isChecksummed cs = true ↔
    ∃ number checksum, cs = number ++ checksum ∧ isNumeral number = true ∧
      (checksum = [] ∨ ∃ letters, checksum = '-' :: letters ∧
        letters.length = 5 ∧ ∀ c ∈ letters, Small c) := by
  have noHyphen : ∀ {number}, isNumeral number = true → '-' ∉ number :=
    fun hnumber => not_mem_of_isNumeral hnumber (by decide)
  unfold isChecksummed
  constructor
  · intro h
    split at h
    · exact ⟨cs, [], (List.append_nil cs).symm, h, Or.inl rfl⟩
    · rename_i number letters hcut
      simp only [Bool.and_eq_true, beq_iff_eq, List.all_eq_true] at h
      obtain ⟨⟨hnumber, hlength⟩, hletters⟩ := h
      exact ⟨number, '-' :: letters, (cut?_eq_some_iff.mp hcut).1, hnumber,
        Or.inr ⟨letters, rfl, hlength, fun c hc => isLower_iff.mp (hletters c hc)⟩⟩
  · rintro ⟨number, checksum, rfl, hnumber, rfl | ⟨letters, rfl, hlength, hletters⟩⟩
    · rw [List.append_nil, cut?_eq_none_iff.mpr (noHyphen hnumber)]
      exact hnumber
    · rw [cut?_eq_some_iff.mpr ⟨rfl, noHyphen hnumber⟩]
      simp only [Bool.and_eq_true, beq_iff_eq, List.all_eq_true]
      exact ⟨⟨hnumber, hlength⟩, fun c hc => isLower_iff.mpr (hletters c hc)⟩

/-- An address is three numerals of any script, and perhaps a checksum. -/
theorem isHederaAddress_iff_numerals {s : String} : isHederaAddress s.toList = true ↔
    ∃ shard realm number checksum,
      s = shard ++ "." ++ realm ++ "." ++ number ++ checksum ∧
      isNumeral shard.toList = true ∧ isNumeral realm.toList = true ∧
      isNumeral number.toList = true ∧
      (checksum = "" ∨ ∃ letters, checksum = "-" ++ letters ∧ Spells 5 5 Small letters) := by
  unfold isHederaAddress
  constructor
  · intro h
    split at h
    · rename_i shard realm last hsplit
      simp only [Bool.and_eq_true] at h
      obtain ⟨⟨hshard, hrealm⟩, hlast⟩ := h
      obtain ⟨number, checksum, rfl, hnumber, hchecksum⟩ := isChecksummed_iff.mp hlast
      obtain ⟨hs, -⟩ := splitOn_eq_three_iff.mp hsplit
      refine ⟨String.ofList shard, String.ofList realm, String.ofList number,
        String.ofList checksum, String.toList_injective ?_, ?_, ?_, ?_, ?_⟩
      · rw [hs]
        simp
      · rwa [String.toList_ofList]
      · rwa [String.toList_ofList]
      · rwa [String.toList_ofList]
      · rcases hchecksum with rfl | ⟨letters, rfl, hlength, hletters⟩
        · exact Or.inl rfl
        · refine Or.inr ⟨String.ofList letters, String.toList_injective (by simp), ?_⟩
          unfold Spells
          rw [← String.length_toList, String.toList_ofList, hlength]
          exact ⟨Nat.le_refl 5, Nat.le_refl 5, hletters⟩
    · cases h
  · rintro ⟨shard, realm, number, checksum, rfl, hshard, hrealm, hnumber, hchecksum⟩
    have hlast : isChecksummed (number ++ checksum).toList = true ∧
        '.' ∉ (number ++ checksum).toList := by
      rw [String.toList_append, isChecksummed_iff, List.mem_append, not_or]
      rcases hchecksum with rfl | ⟨letters, rfl, hlow, hhigh, hletters⟩
      · exact ⟨⟨_, [], rfl, hnumber, Or.inl rfl⟩, not_mem_of_isNumeral hnumber (by decide), by simp⟩
      · refine ⟨⟨_, '-' :: letters.toList, by simp, hnumber, Or.inr ⟨_, rfl, ?_, hletters⟩⟩,
          not_mem_of_isNumeral hnumber (by decide), ?_⟩
        · rw [String.length_toList]
          exact Nat.le_antisymm hhigh hlow
        · intro hmem
          have hdot : '.' ∈ letters.toList := by simpa using hmem
          exact absurd (hletters _ hdot) (by unfold Small; decide)
    rw [splitOn_eq_three_iff.mpr ⟨?text, not_mem_of_isNumeral hshard (by decide),
      not_mem_of_isNumeral hrealm (by decide), hlast.2⟩]
    case text => simp
    simp only [hshard, hrealm, hlast.1, Bool.and_self]

/-- In ASCII the digits of all scripts are the ten. -/
theorem isNumeral_iff_of_ascii {s : String} (ascii : ∀ c ∈ s.toList, c.toNat < 0x80) :
    isNumeral s.toList = true ↔ Decimal s := by
  have hdigits : (∀ c ∈ s.toList, isDecimalDigit c = true) ↔ ∀ c ∈ s.toList, Digit c :=
    forall₂_congr fun c hc => by rw [isDecimalDigit_ascii (ascii c hc), isDigit_iff]
  rw [isNumeral, Bool.and_eq_true, List.all_eq_true, hdigits]
  unfold Decimal
  simp

/-- **An address of the Hedera family is three numbers, and perhaps a checksum.** -/
theorem isHederaAddress_iff {s : String} (ascii : ∀ c ∈ s.toList, c.toNat < 0x80) :
    isHederaAddress s.toList = true ↔ ∃ shard realm number checksum,
      s = shard ++ "." ++ realm ++ "." ++ number ++ checksum ∧
      Decimal shard ∧ Decimal realm ∧ Decimal number ∧
      (checksum = "" ∨ ∃ letters, checksum = "-" ++ letters ∧ Spells 5 5 Small letters) := by
  rw [isHederaAddress_iff_numerals]
  refine exists_congr fun shard => exists_congr fun realm => exists_congr fun number =>
    exists_congr fun checksum => and_congr_right fun hs => ?_
  subst hs
  rw [isNumeral_iff_of_ascii fun c hc => ascii c (by simp [hc]),
    isNumeral_iff_of_ascii fun c hc => ascii c (by simp [hc]),
    isNumeral_iff_of_ascii fun c hc => ascii c (by simp [hc])]

end Validator

/-! ### What is built -/

namespace AccountId

/-- Two families have validators. -/
theorem judge_eq_ok_iff {eip155 hedera : Validator} {family value : String} :
    judge (.ofList [("eip155", eip155), ("hedera", hedera)]) family value = .ok () ↔
      (family = "eip155" → eip155 value = .ok ()) ∧
        (family = "hedera" → hedera value = .ok ()) := by
  unfold judge Dict.ofList
  simp only [List.foldl_cons, List.foldl_nil, Dict.get?_insert, Dict.get?_empty]
  by_cases hhedera : family = "hedera"
  · subst hhedera
    simp
  · by_cases heip155 : family = "eip155"
    · subst heip155
      simp
    · simp [hhedera, heip155]

theorem ascii_of_isAddress {s : String} (h : isAddress s = true) :
    ∀ c ∈ s.toList, c.toNat < 0x80 := by
  obtain ⟨-, -, haccepts⟩ := fits_singleton_iff.mp h
  intro c hc
  have hkind := haccepts c hc
  simp only [addressPiece, Bool.or_eq_true, beq_iff_eq] at hkind
  rcases hkind with ((halphanum | rfl) | rfl) | rfl
  · have hplain : Percent.isUnreserved c = true := by simp [Percent.isUnreserved, halphanum]
    have hbound := Percent.toNat_of_isUnreserved hplain
    omega
  · decide
  · decide
  · decide

/-- **What is built is what keeps the rules**, those that all families share and those of its
own. -/
theorem ofParts_eq_ok_iff {chain : ChainId} {address : String} {a : AccountId} :
    ofParts chain address = .ok a ↔ a = ⟨chain, address⟩ ∧ isAddress address = true ∧
      OwnRules chain.family chain.reference address := by
  unfold ofParts Rulebook.standard
  rw [underRules_eq_ok_iff, judge_eq_ok_iff, judge_eq_ok_iff]
  refine and_congr_right fun _ => and_congr_right fun haddress => ?_
  rw [Validator.eip155Reference, Validator.ofTest_eq_ok_iff, Validator.isDecimal_iff,
    Validator.hederaReference_eq_ok_iff, Validator.eip155Address, Validator.ofTest_eq_ok_iff,
    Validator.isEthereumAddress_iff, Validator.hederaAddress, Validator.ofTest_eq_ok_iff,
    Validator.isHederaAddress_iff (ascii_of_isAddress haddress)]
  constructor
  · rintro ⟨⟨hreference, hreference'⟩, haddress, haddress'⟩
    exact ⟨fun h => ⟨hreference h, haddress h⟩, fun h => ⟨hreference' h, haddress' h⟩⟩
  · rintro ⟨heip155, hhedera⟩
    exact ⟨⟨fun h => (heip155 h).1, fun h => (hhedera h).1⟩, fun h => (heip155 h).2,
      fun h => (hhedera h).2⟩

end AccountId

end AgentId.Caip
