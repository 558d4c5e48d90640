/-
What an identifier points at.

The parameter `src` counts before everything else, if it holds a DID behind its `z`
(`sourceDid?_of_param?`).  The account of an agent counts under one protocol only
(`hederaAccount?_of_param?`).

A resolution leaves a DID out of what it says of an identifier when the two are one text.
For text that is an identifier this never comes about (`baseDid?_ne_self`): it starts with
`uaid:`, but for white space, and whatever DID is made from it starts with `did:`.
-/
import AgentId.Proofs.Caip.Account
import AgentId.Proofs.Codec.Base58
import AgentId.Proofs.Uaid.RoundTrip
import AgentId.Uaid.BaseDid

namespace AgentId.Uaid

open Text

/-! ### The parameters that count -/

/-- A DID that is kept in `src` is found there. -/
theorem sourceDid?_of_param? {u : Uaid} {did : String} (hdid : startsWith "did:" did = true)
    (h : u.param? Key.src = some (Codec.Multibase58.encodeString did)) :
    u.sourceDid? = some did := by
  have hne : did ≠ "" := by
    rintro rfl
    cases hdid
  simp [sourceDid?, h, Codec.Multibase58.decodeString_encodeString hne, Except.toOption, hdid]

theorem sourceDid?_of_param?_eq_none {u : Uaid} (h : u.param? Key.src = none) :
    u.sourceDid? = none := by
  rw [sourceDid?, h]
  rfl

/-- The account of an agent is the one that its parameters spell. -/
theorem hederaAccount?_of_param? {u : Uaid} {native : String} {account : Caip.HederaAccount}
    (hproto : u.param? Key.proto = some Agent.hcs10)
    (hnative : u.param? Key.nativeId = some native)
    (hparse : Caip.HederaAccount.parse native = .ok account) :
    u.hederaAccount? = some account := by
  rw [hederaAccount?, if_pos hproto, hnative, Option.bind_some, hparse]
  rfl

/-! ### Which of them counts -/

section
variable {u : Uaid}

theorem baseDid?_of_sourceDid? (htarget : u.target = .did) {did : String}
    (h : u.sourceDid? = some did) : u.baseDid? = some did := by
  rw [baseDid?, htarget, h]

/-- A network in front of the identifier counts before the account. -/
theorem baseDid?_of_lead? (htarget : u.target = .did) (hsource : u.sourceDid? = none)
    (h : Caip.HederaNetwork.lead? u.identifier ≠ none) :
    u.baseDid? = some ("did:hedera:" ++ u.identifier) := by
  have hlead : (Caip.HederaNetwork.lead? u.identifier).isSome = true :=
    Option.isSome_iff_ne_none.mpr h
  rw [baseDid?, htarget, hsource]
  exact if_pos hlead

theorem baseDid?_of_hederaAccount? (htarget : u.target = .did) (hsource : u.sourceDid? = none)
    (hlead : Caip.HederaNetwork.lead? u.identifier = none) {account : Caip.HederaAccount}
    (h : u.hederaAccount? = some account) :
    u.baseDid? = some (hederaDid account.network u.identifier) := by
  rw [baseDid?, htarget, hsource]
  simp only [hlead, h]
  rfl

/-- The digest of a description leads to the account and nowhere else. -/
theorem baseDid?_of_aid (htarget : u.target = .aid) {account : Caip.HederaAccount}
    (h : u.hederaAccount? = some account) :
    u.baseDid? = some (hederaDid account.network account.account) := by
  rw [baseDid?, htarget, h]
  rfl

end

/-! ### It is a DID, and never the text of the identifier -/

/-- The DID of an account is its text behind `did:`. -/
theorem hederaDid_account (account : Caip.HederaAccount) :
    hederaDid account.network account.account = "did:" ++ account.text := by
  refine String.toList_injective ?_
  simp [hederaDid, Caip.HederaAccount.text]

theorem startsWith_hederaDid (network : Caip.HederaNetwork) (identifier : String) :
    startsWith "did:" (hederaDid network identifier) = true := by
  have hlead : "did:".toList <+: "did:hedera:".toList := by decide
  rw [startsWith_iff, hederaDid, String.toList_append, String.toList_append,
    String.toList_append, List.append_assoc, List.append_assoc]
  exact hlead.trans (List.prefix_append _ _)

/-- What an identifier points at is a DID. -/
theorem startsWith_baseDid? {u : Uaid} {did : String} (h : u.baseDid? = some did) :
    startsWith "did:" did = true := by
  have hsource : ∀ d, u.sourceDid? = some d → startsWith "did:" d = true := by
    intro d hd
    simp only [sourceDid?, Option.bind_eq_bind] at hd
    obtain ⟨src, -, hd⟩ := Option.bind_eq_some_iff.mp hd
    obtain ⟨decoded, -, hd⟩ := Option.bind_eq_some_iff.mp hd
    split at hd
    · rename_i hstarts
      obtain rfl := Option.some.inj hd
      exact hstarts
    · cases hd
  unfold baseDid? at h
  cases htarget : u.target with
  | aid =>
      rw [htarget] at h
      obtain ⟨account, -, rfl⟩ := Option.map_eq_some_iff.mp h
      exact startsWith_hederaDid account.network account.account
  | did =>
      rw [htarget] at h
      cases hd : u.sourceDid? with
      | some source =>
          rw [hd] at h
          obtain rfl : source = did := Option.some.inj h
          exact hsource source hd
      | none =>
          simp only [hd] at h
          split at h
          · obtain rfl := Option.some.inj h
            rw [startsWith_iff, String.toList_append]
            have hlead : "did:".toList <+: "did:hedera:".toList := by decide
            exact hlead.trans (List.prefix_append _ _)
          · obtain ⟨account, -, rfl⟩ := Option.map_eq_some_iff.mp h
            exact startsWith_hederaDid account.network u.identifier

/-- Text that is an identifier is no DID. -/
theorem not_startsWith_did_of_parse {s : String} {u : Uaid} (h : parse s = .ok u) :
    startsWith "did:" s = false := by
  obtain ⟨name, fields, parts⟩ := parse_eq_ok_iff.mp h
  have hhead : (trim s.toList).head? = some 'u' := by
    rw [parts.text]
    rfl
  rw [Bool.eq_false_iff]
  intro hdid
  obtain ⟨rest, hrest⟩ := startsWith_iff.mp hdid
  -- The text starts with no white space, so trimming leaves its first character.
  have hstart : trimStart isBlank s.toList = s.toList := by
    refine trimStart_eq_self ?_
    intro c hc
    rw [← hrest] at hc
    obtain rfl : 'd' = c := Option.some.inj hc
    decide
  have hfirst : s.toList.head? = some 'u' := by
    rw [← hstart]
    exact head_trimEnd hhead
  rw [← hrest] at hfirst
  cases hfirst

/-- **An identifier is not the DID that it points at.** -/
theorem baseDid?_ne_self {s did : String} {u : Uaid} (h : parse s = .ok u)
    (hdid : u.baseDid? = some did) : did ≠ s := by
  rintro rfl
  have hstarts := startsWith_baseDid? hdid
  rw [not_startsWith_did_of_parse h] at hstarts
  cases hstarts

end AgentId.Uaid
