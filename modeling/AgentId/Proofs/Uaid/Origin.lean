/-
The DID that an identifier was minted from.

Minting takes the name from a part of the DID.  What it leaves out has to stand somewhere
else, if the identifier is to lead back.  A DID URL is kept whole in `src`, which counts
before everything else, so it leads back whatever the other parameters say
(`source_leads_back`).  The network of a Hedera DID is left out for the account of the agent
to give it back; but a name that starts with a network of its own counts before the account,
and then it is this network that the DID is on (`account_leads_back`).
-/
import AgentId.Proofs.Uaid.BaseDid
import AgentId.Proofs.Uaid.Minting

namespace AgentId.Uaid

open Text

/-! ### A DID URL -/

/-- **A DID URL leads back by `src`.**  Let a text be a DID with a method, and let there be a
mark in what stands behind the method, with more than white space before it (for a Hedera
DID, behind the network).  Then an identifier is minted and read back from its text.  Without
a `src` from the caller it points at the very text, trimmed; a `src` from the caller is kept
as it is, trimmed too. -/
theorem source_leads_back (existing : String) (routing : Routing) {method id : String}
    (whole : trimmed existing = "did:" ++ method ++ ":" ++ id) (named : method ≠ "")
    (noColon : ':' ∉ method.toList) (marked : ∃ c ∈ id.toList, isUrlMark c = true)
    (notBlank : ∃ c ∈ (dropNetwork method (String.ofList (breakAt isUrlMark id.toList).1)).toList,
      isBlank c = false) :
    ∃ u p, ofDid existing routing = .ok u ∧ parse u.text = .ok p ∧
      (Routing.Silent routing.src → p.baseDid? = some (trimmed existing)) ∧
      ∀ src, routing.src = some src → trimmed src ≠ "" →
        u.param? Key.src = some (trimmed src) ∧ p.param? Key.src = some (trimmed src) := by
  have hparts : didParts (trimmed existing) = .ok (method, id.toList) := by
    refine didParts_eq_ok_iff.mpr (Or.inr ⟨named, noColon, ?_⟩)
    rw [whole]
    simp
  have hname := trimmed_ne_empty_iff.mpr notBlank
  obtain ⟨u, hu, minted⟩ := exists_minted routing hparts fun hempty => by
    rw [hempty] at hname
    exact hname rfl
  -- Reading trims the name and leaves the parameters alone.
  obtain ⟨p, hp, htarget, hparams⟩ :
      ∃ p, parse u.text = .ok p ∧ p.target = .did ∧ p.params = u.params := by
    have hparse := minted.parse_text (isTrimmed_trimmed existing)
    rw [if_neg (minted.identifier ▸ hname)] at hparse
    exact ⟨_, hparse, minted.target, rfl⟩
  have hfield : (Key.src, routing.src) ∈ routing.pairs := by simp [Routing.pairs]
  have hsrc := minted.get?_src (breakAt_snd_ne_nil marked)
  refine ⟨u, p, hu, hp, ?_, ?_⟩
  · intro silent
    rw [(Routing.get?_params_eq_none_iff hfield).mpr silent, Option.none_or, ← hparams] at hsrc
    have hdid : startsWith "did:" (trimmed existing) = true := by
      rw [startsWith_iff, whole]
      exact ⟨_, by simp; rfl⟩
    have hsource : p.param? Key.src =
        some (Codec.Multibase58.encodeString (trimmed existing)) :=
      param?_eq_some_iff.mpr ⟨hsrc, Codec.Multibase58.encodeString_ne_empty _⟩
    exact baseDid?_of_sourceDid? htarget (sourceDid?_of_param? hdid hsource)
  · intro src given said
    have hkept : ∀ value, routing.params.get? Key.src = some value →
        u.params.get? Key.src = some value := by
      intro value hvalue
      rw [hsrc, hvalue, Option.some_or]
    exact ⟨param?_of_said hfield hkept given said,
      param?_of_said hfield (hparams ▸ hkept) given said⟩

/-- Parameters that would lead to another network, and a `src` that says nothing. -/
def otherNetwork : Routing where
  proto := some "hcs-10"
  nativeId := some "hedera:mainnet:0.0.7"
  src := some " \n"

theorem source_leads_back_otherNetwork :
    ∃ u p, ofDid "\u2003did:hedera:testnet:\u00e9 _0.0.5 ;v=1?q#\u2003f\n" otherNetwork = .ok u ∧
      parse u.text = .ok p ∧
      p.baseDid? = some "did:hedera:testnet:\u00e9 _0.0.5 ;v=1?q#\u2003f" := by
  have htrimmed : trimmed "\u2003did:hedera:testnet:\u00e9 _0.0.5 ;v=1?q#\u2003f\n" =
      "did:" ++ "hedera" ++ ":" ++ "testnet:\u00e9 _0.0.5 ;v=1?q#\u2003f" := by
    decide +kernel
  obtain ⟨u, p, hu, hp, hback, -⟩ := source_leads_back
    "\u2003did:hedera:testnet:\u00e9 _0.0.5 ;v=1?q#\u2003f\n" otherNetwork htrimmed (by decide)
    (by decide) ⟨'?', by decide +kernel, by decide⟩ ⟨'_', by decide +kernel, by decide⟩
  have silent : Routing.Silent otherNetwork.src := by
    rintro s ⟨⟩
    decide +kernel
  refine ⟨u, p, hu, hp, (hback silent).trans (congrArg some ?_)⟩
  rw [htrimmed]
  decide +kernel

/-! ### A DID on the Hedera ledger -/

theorem didParts_hederaDid (network : Caip.HederaNetwork) (id : String) :
    didParts (hederaDid network id) = .ok ("hedera", (network.text ++ ":" ++ id).toList) := by
  refine didParts_eq_ok_iff.mpr (Or.inr ⟨by decide, by decide, ?_⟩)
  simp [hederaDid]

theorem noBlank_hederaDid {id : String} (h : ∀ c ∈ id.toList, isBlank c = false)
    (network : Caip.HederaNetwork) : ∀ c ∈ (hederaDid network id).toList, isBlank c = false := by
  have hfront : ∀ c ∈ (hederaDid network "").toList, isBlank c = false := by
    cases network <;> exact forall_mem_of_all (by decide)
  have hwhole : hederaDid network id = hederaDid network "" ++ id := by simp [hederaDid]
  rw [hwhole, String.toList_append]
  exact List.forall_mem_append.mpr ⟨hfront, h⟩

/-- A name without marks is all that stands behind the network. -/
theorem breakAt_network {id : String} (h : ∀ c ∈ id.toList, isUrlMark c = false)
    (network : Caip.HederaNetwork) :
    breakAt isUrlMark (network.text ++ ":" ++ id).toList =
      ((network.text ++ ":" ++ id).toList, []) := by
  have hfront : ∀ c ∈ (network.text ++ ":").toList, isUrlMark c = false := by
    cases network <;> exact forall_mem_of_all (by decide)
  have hall : ∀ c ∈ (network.text ++ ":" ++ id).toList, isUrlMark c = false := by
    rw [String.toList_append]
    exact List.forall_mem_append.mpr ⟨hfront, h⟩
  simpa using @breakAt_eq isUrlMark _ [] hall (by simp)

theorem dropNetwork_hedera (network : Caip.HederaNetwork) (id : String) :
    dropNetwork "hedera" (network.text ++ ":" ++ id) = id := by
  rw [dropNetwork, if_pos rfl, Caip.HederaNetwork.lead?_eq_some_iff.mpr rfl]

/-- **The network of a Hedera DID comes back from the account.**  Let a name hold neither
white space nor a mark, and let the account of the agent be on the network of the DID.  Then
an identifier is minted and read back from its text.  It points at the DID again, unless the
name starts with a network of its own: this network counts before the account, and the
identifier points at the DID on it. -/
theorem account_leads_back {id native : String} {account : Caip.HederaAccount}
    {routing : Routing} (named : id ≠ "")
    (plain : ∀ c ∈ id.toList, isBlank c = false ∧ isUrlMark c = false)
    (owned : Caip.HederaAccount.parse native = .ok account)
    (proto : routing.proto = some Agent.hcs10) (owner : routing.nativeId = some native)
    (silent : Routing.Silent routing.src) :
    ∃ u, ofDid (hederaDid account.network id) routing = .ok u ∧ parse u.text = .ok u ∧
      ((∀ n rest, id ≠ Caip.HederaNetwork.text n ++ ":" ++ rest) →
        u.baseDid? = some (hederaDid account.network id)) ∧
      ∀ n rest, id = Caip.HederaNetwork.text n ++ ":" ++ rest →
        u.baseDid? = some (hederaDid n rest) := by
  have hblank := noBlank_hederaDid (fun c hc => (plain c hc).1) account.network
  have hbreak := breakAt_network (fun c hc => (plain c hc).2) account.network
  have hwhole : trimmed (hederaDid account.network id) = hederaDid account.network id :=
    trimmed_of_isTrimmed (isTrimmed_of_forall hblank)
  have hname : dropNetwork "hedera" (String.ofList
      (breakAt isUrlMark (account.network.text ++ ":" ++ id).toList).1) = id := by
    rw [hbreak, String.ofList_toList, dropNetwork_hedera]
  obtain ⟨u, hu, minted⟩ := exists_minted routing
    (hwhole.symm ▸ didParts_hederaDid account.network id) (hname.symm ▸ named)
  have hidentifier : u.identifier = id := minted.identifier.trans hname
  have hparams : u.params = routing.params := by
    rw [minted.params, hbreak]
    rfl
  have hparse : parse u.text = .ok u := by
    rw [minted.parse_text (isTrimmed_trimmed _),
      minted.trimmed_identifier (hwhole.symm ▸ hblank), if_neg minted.ne_empty]
  -- Nothing is cut off, so the name and the account are all that there is to go by.
  have hsource : u.sourceDid? = none := by
    refine sourceDid?_of_param?_eq_none ?_
    rw [param?, hparams, (Routing.get?_params_eq_none_iff (by simp [Routing.pairs])).mpr silent]
    rfl
  have haccount : u.hederaAccount? = some account := by
    have hkept : ∀ key value, routing.params.get? key = some value →
        u.params.get? key = some value := fun key value h => hparams ▸ h
    have htrimmed : trimmed native = native :=
      trimmed_of_isTrimmed (isTrimmed_of_forall (Caip.HederaAccount.noBlank_of_parse owned))
    have hne : native ≠ "" := by
      rw [← Caip.HederaAccount.text_of_parse owned]
      simp [Caip.HederaAccount.text]
    have hproto : u.param? Key.proto = some (trimmed Agent.hcs10) :=
      param?_of_said (by simp [Routing.pairs]) (hkept _) proto (by decide)
    have hnative : u.param? Key.nativeId = some (trimmed native) :=
      param?_of_said (by simp [Routing.pairs]) (hkept _) owner (htrimmed.symm ▸ hne)
    exact hederaAccount?_of_param? hproto (htrimmed ▸ hnative) owned
  refine ⟨u, hu, hparse, ?_, ?_⟩
  · intro plainName
    have hlead : Caip.HederaNetwork.lead? u.identifier = none := by
      rw [Option.eq_none_iff_forall_ne_some]
      rintro ⟨n, rest⟩ h
      exact plainName n rest (hidentifier ▸ Caip.HederaNetwork.lead?_eq_some_iff.mp h)
    rw [baseDid?_of_hederaAccount? minted.target hsource hlead haccount, hidentifier]
  · intro n rest h
    have hlead : Caip.HederaNetwork.lead? u.identifier = some (n, rest) :=
      Caip.HederaNetwork.lead?_eq_some_iff.mpr (hidentifier.trans h)
    rw [baseDid?_of_lead? minted.target hsource (by simp [hlead]), hidentifier, h]
    refine congrArg some (String.toList_injective ?_)
    simp [hederaDid]

/-- An agent with an account on a network that is not live. -/
def onPreviewnet : Routing where
  proto := some "hcs-10"
  nativeId := some "hedera:previewnet:0.0.7-abcde"
  version := some "1"

theorem account_leads_back_previewnet :
    ∃ u, ofDid "did:hedera:previewnet:zABC:mainnet_0.0.5" onPreviewnet = .ok u ∧
      parse u.text = .ok u ∧
      u.baseDid? = some "did:hedera:previewnet:zABC:mainnet_0.0.5" := by
  have owned : Caip.HederaAccount.parse "hedera:previewnet:0.0.7-abcde" =
      .ok ⟨.previewnet, "0.0.7-abcde"⟩ := by
    decide +kernel
  have noBlank : ∀ c ∈ "zABC:mainnet_0.0.5".toList, isBlank c = false :=
    forall_mem_of_all (by decide +kernel)
  have noMark : ∀ c ∈ "zABC:mainnet_0.0.5".toList, isUrlMark c = false :=
    forall_mem_of_all (by decide +kernel)
  obtain ⟨u, hu, hparse, hback, -⟩ := account_leads_back (by decide)
    (fun c hc => ⟨noBlank c hc, noMark c hc⟩) owned rfl rfl
    (show Routing.Silent onPreviewnet.src by rintro s ⟨⟩)
  refine ⟨u, hu, hparse, hback fun n rest h => ?_⟩
  have hlead : Caip.HederaNetwork.lead? "zABC:mainnet_0.0.5" = none := by decide +kernel
  rw [Caip.HederaNetwork.lead?_eq_some_iff.mpr h] at hlead
  cases hlead

/-- A name that starts with a network leads to a DID on this network, whatever network the
DID was on that it was minted from and the account is on. -/
theorem exists_network_lost :
    Caip.HederaAccount.parse "hedera:mainnet:0.0.7" = .ok ⟨.mainnet, "0.0.7"⟩ ∧
    ∃ u, ofDid "did:hedera:mainnet:testnet:zABC_0.0.5"
        { proto := some "hcs-10", nativeId := some "hedera:mainnet:0.0.7" } = .ok u ∧
      u.text = "uaid:did:testnet:zABC_0.0.5;proto=hcs-10;nativeId=hedera%3Amainnet%3A0.0.7" ∧
      parse u.text = .ok u ∧ u.baseDid? = some "did:hedera:testnet:zABC_0.0.5" ∧
      u.baseDid? ≠ some "did:hedera:mainnet:testnet:zABC_0.0.5" := by
  refine ⟨by decide +kernel, ⟨.did, "testnet:zABC_0.0.5", .ofList [("proto", "hcs-10"),
    ("nativeId", "hedera:mainnet:0.0.7")]⟩, ?_, ?_, ?_, ?_, ?_⟩
  all_goals decide +kernel

end AgentId.Uaid
