/-
The identifier of an agent.

The name of an identifier that is minted from a description is a digest in base58, and its
keys are known ones, so the identifier is read back from its text just as it was minted
(`parse_text_ofAgent`).  Its parameters are those of the routing, and where the routing says
nothing of the registry, the native identifier or `uid`, the description does.

A description whose protocol is on the Hedera ledger has a normal form only if its native
identifier is an account there.  The same reader looks for the account when the identifier is
to lead to a DID, so such an identifier always leads to the DID of its agent.
-/
import AgentId.Proofs.Agent.Digest
import AgentId.Proofs.Uaid.BaseDid
import AgentId.Proofs.Uaid.Routing

namespace AgentId.Uaid

open Text Fields

/-- What the description says where the routing says nothing. -/
def defaults (n : Agent) : Dict String :=
  .ofList [(Key.registry, n.registry), (Key.nativeId, n.nativeId), (Key.uid, "0")]

/-- What minting gives: the digest of the normal form, and the routing filled up from it. -/
structure Described (n : Agent) (routing : Routing) (u : Uaid) : Prop where
  target : u.target = .aid
  identifier : u.identifier = Agent.digestOf n.writeSorted
  get?_params : ∀ key,
    u.params.get? key = (routing.params.get? key).or ((defaults n).get? key)

/-- **Minting gives an identifier if the description has a normal form.** -/
theorem described_of_ofAgent {a : Agent} {routing : Routing} {u : Uaid}
    (h : ofAgent a routing = .ok u) : ∃ n, a.normalized = .ok n ∧ Described n routing u := by
  unfold ofAgent at h
  cases hnormal : a.normalized with
  | error f =>
      rw [hnormal] at h
      cases h
  | ok n =>
      rw [hnormal] at h
      obtain rfl := Except.ok.inj h
      refine ⟨n, rfl, rfl, rfl, fun key => ?_⟩
      have hdefaults : (defaults n).get? key = if key = Key.uid then some "0"
          else if key = Key.nativeId then some n.nativeId
          else if key = Key.registry then some n.registry else none := by
        simp [defaults, Dict.ofList]
      have hregistry : Key.registry ≠ Key.nativeId ∧ Key.registry ≠ Key.uid := by decide
      have hnative : Key.nativeId ≠ Key.uid := by decide
      simp only [hdefaults, Dict.get?_insertNew, Option.or_assoc]
      refine congrArg _ ?_
      by_cases huid : key = Key.uid
      · simp [huid, hregistry.2.symm, hnative.symm]
      · by_cases hkey : key = Key.nativeId
        · simp [hkey, hregistry.1.symm, hnative]
        · simp [huid, hkey]

/-- The digest of a text stands between semicolons as it is. -/
theorem isToken_digestOf (s : String) : IsToken (Agent.digestOf s) := by
  have hsymbol : ∀ c ∈ (Agent.digestOf s).toList, c ∈ Codec.Base58.alphabet := fun c hc =>
    Codec.Base58.mem_alphabet_of_mem_encode hc
  refine ⟨Codec.Base58.encode_eq_empty_iff.not.mpr ?_, ?_, isTrimmed_of_forall ?_⟩
  · intro hnil
    have hlength := Codec.Sha384.length_digest (Text.Utf8.encode s)
    rw [hnil] at hlength
    cases hlength
  · intro hmem
    exact absurd (hsymbol ';' hmem) (by decide)
  · have hblank : ∀ c ∈ Codec.Base58.alphabet, isBlank c = false :=
      forall_mem_of_all (by decide)
    exact fun c hc => hblank c (hsymbol c hc)

section
variable {n : Agent} {routing : Routing} {u : Uaid} (described : Described n routing u)
include described

/-- Every parameter can be written and says something, if every field of the description
does. -/
theorem Described.of_get?_params (said : ∀ p ∈ n.texts, p.2 ≠ "") {key value : String}
    (h : u.params.get? key = some value) : IsKey key ∧ value ≠ "" := by
  rw [described.get?_params, Option.or_eq_some_iff] at h
  rcases h with hrouting | ⟨-, hdefault⟩
  · obtain ⟨hkey, hvalue⟩ := Routing.of_get?_params hrouting
    exact ⟨isKey_of_mem_order hkey, hvalue⟩
  · have hmem := Dict.mem_of_get?_ofList hdefault
    simp only [List.mem_cons, Prod.mk.injEq, List.not_mem_nil, or_false] at hmem
    rcases hmem with ⟨rfl, rfl⟩ | ⟨rfl, rfl⟩ | ⟨rfl, rfl⟩
    · exact ⟨by decide, said ("registry", n.registry) (by simp [Agent.texts])⟩
    · exact ⟨by decide, said ("nativeId", n.nativeId) (by simp [Agent.texts])⟩
    · decide

/-- The text is read back with nothing lost. -/
theorem Described.parse_text (said : ∀ p ∈ n.texts, p.2 ≠ "") : parse u.text = .ok u := by
  obtain ⟨wellFormed, hsay⟩ := wellFormed_of_params (described.identifier ▸ isToken_digestOf _)
    fun key value hget => described.of_get?_params said hget
  exact parse_text_self wellFormed hsay

/-- An agent with an account leads to the DID of the account. -/
theorem Described.baseDid? {account : Caip.HederaAccount} {proto : String}
    (owned : Caip.HederaAccount.parse n.nativeId = .ok account)
    (given : routing.proto = some proto) (isHcs10 : trimmed proto = Agent.hcs10)
    (silent : Routing.Silent routing.nativeId) : u.baseDid? = some ("did:" ++ n.nativeId) := by
  have hkept : ∀ value, routing.params.get? Key.proto = some value →
      u.params.get? Key.proto = some value := by
    intro value hvalue
    rw [described.get?_params, hvalue, Option.some_or]
  have hproto : u.param? Key.proto = some (trimmed proto) :=
    param?_of_said (by simp [Routing.pairs]) hkept given (isHcs10 ▸ by decide)
  have hnone : routing.params.get? Key.nativeId = none :=
    (Routing.get?_params_eq_none_iff (by simp [Routing.pairs])).mpr silent
  have hnative : u.param? Key.nativeId = some n.nativeId := by
    refine param?_eq_some_iff.mpr ⟨?_, ?_⟩
    · rw [described.get?_params, hnone, Option.none_or]
      simp [defaults, Dict.ofList, Key.nativeId, Key.uid]
    · rw [← Caip.HederaAccount.text_of_parse owned]
      simp [Caip.HederaAccount.text]
  have haccount := hederaAccount?_of_param? (isHcs10 ▸ hproto) hnative owned
  rw [baseDid?_of_aid described.target haccount, hederaDid_account,
    Caip.HederaAccount.text_of_parse owned]

end

/-- **The identifier of an agent is read back as it was minted.**  Its name is the digest of
the description, and its parameters are those of the routing, filled up from the normal form
where the routing says nothing.  Up to the first semicolon the text is the one that is minted
without parameters.  If the protocol is `hcs-10`, for the description and for the routing, and
the native identifier is left to the description, then the identifier points at the DID of
the account. -/
theorem parse_text_ofAgent {a : Agent} {routing : Routing} {u : Uaid}
    (h : ofAgent a routing = .ok u) :
    ∃ n, a.normalized = .ok n ∧ parse u.text = .ok u ∧ u.target = .aid ∧
      a.aid = .ok u.identifier ∧
      (∀ key, u.params.get? key = (routing.params.get? key).or ((defaults n).get? key)) ∧
      (∃ bare, ofAgentBare a = .ok bare ∧
        bare.text.toList = u.text.toList.takeWhile (· ≠ ';')) ∧
      (n.protocol = Agent.hcs10 →
        (∃ proto, routing.proto = some proto ∧ trimmed proto = Agent.hcs10) →
        Routing.Silent routing.nativeId → u.baseDid? = some ("did:" ++ n.nativeId)) := by
  obtain ⟨n, hnormal, described⟩ := described_of_ofAgent h
  obtain ⟨-, hfault⟩ := Agent.normalized_eq_ok_iff.mp hnormal
  obtain ⟨said, account, -⟩ := Agent.fault?_eq_none_iff.mp hfault
  have haid : a.aid = .ok u.identifier := by rw [Agent.aid_eq hnormal, described.identifier]
  refine ⟨n, hnormal, described.parse_text said, described.target, haid,
    described.get?_params, ?_, ?_⟩
  · have hbare : ofAgentBare a = .ok ⟨u.target, u.identifier, {}⟩ := by
      rw [ofAgentBare, ofAgent, hnormal, described.target, described.identifier]
      rfl
    have hsemi : ';' ∉ u.identifier.toList :=
      described.identifier ▸ (isToken_digestOf _).noSemicolon
    exact ⟨_, hbare, (takeWhile_text hsemi).symm⟩
  · rintro hprotocol ⟨proto, given, isHcs10⟩ silent
    obtain ⟨owner, owned⟩ := account hprotocol
    exact described.baseDid? owned given isHcs10 silent

/-- An agent with an account on the ledger. -/
def helpdesk : Agent where
  registry := " HOL-İ"
  name := "Γραφείο"
  version := "2"
  protocol := "HCS-10\u2003"
  nativeId := "\thedera:testnet:0.0.7-abcde"
  skills := [-1, 4]

/-- Its normal form. -/
def helpdeskNormal : Agent where
  registry := "hol-i\u0307"
  name := "Γραφείο"
  version := "2"
  protocol := "hcs-10"
  nativeId := "hedera:testnet:0.0.7-abcde"
  skills := [-1, 4]

/-- How it is reached, with marks in a value and nothing said of the account. -/
def toHelpdesk : Routing where
  uid := some "7;x=%41 "
  proto := some " hcs-10"
  nativeId := some "\u0085"

theorem parse_text_ofAgent_helpdesk :
    ∃ u, ofAgent helpdesk toHelpdesk = .ok u ∧ parse u.text = .ok u ∧
      helpdesk.aid = .ok u.identifier ∧ u.params.get? Key.uid = some "7;x=%41" ∧
      u.params.get? Key.registry = some "hol-i\u0307" ∧
      u.baseDid? = some "did:hedera:testnet:0.0.7-abcde" := by
  have hnormal : helpdesk.normalized = .ok helpdeskNormal := by
    refine Agent.normalized_eq_ok_iff.mpr ⟨?_, by decide +kernel⟩
    rw [Agent.respelled, List.mergeSort_of_pairwise (by decide)]
    decide +kernel
  obtain ⟨u, hu⟩ : ∃ u, ofAgent helpdesk toHelpdesk = .ok u := by
    rw [ofAgent, hnormal]
    exact ⟨_, rfl⟩
  obtain ⟨n, hn, hparse, -, haid, hget, -, hback⟩ := parse_text_ofAgent hu
  obtain rfl := Except.ok.inj (hn.symm.trans hnormal)
  have silent : Routing.Silent toHelpdesk.nativeId := by
    rintro s ⟨⟩
    decide +kernel
  refine ⟨u, hu, hparse, haid, ?_, ?_, ?_⟩
  · rw [hget]
    decide +kernel
  · rw [hget]
    decide +kernel
  · rw [hback rfl ⟨_, rfl, by decide +kernel⟩ silent]
    decide +kernel

end AgentId.Uaid
