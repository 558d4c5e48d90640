/-
What minting from a DID gives, and what reading makes of it.

Minting takes the name from a part of the DID, just as it stands there, and reading trims
the name.  So what reading returns is what was minted less the white space around its name
(`Minted.parse_text`), and where the name is nothing but white space the text is
refused.  That a DID holds no white space is asked nowhere, but where it holds none the
minted text is canonical.
-/
import AgentId.Uaid.Minting
import AgentId.Proofs.Caip.Account
import AgentId.Proofs.Codec.Base58
import AgentId.Proofs.Uaid.RoundTrip
import AgentId.Proofs.Uaid.Routing

namespace AgentId.Uaid

open Text Fields

/-! ### The parts of a DID -/

theorem didParts_eq_ok_iff {whole method : String} {rest : List Char} :
    didParts whole = .ok (method, rest) ↔
      method = "aid" ∧ whole.toList = "uaid:aid:".toList ++ rest ∨
      method ≠ "" ∧ ':' ∉ method.toList ∧
        whole.toList = "did:".toList ++ (method.toList ++ ':' :: rest) := by
  constructor
  · intro h
    unfold didParts at h
    split at h
    · rename_i own hown
      obtain ⟨rfl, rfl⟩ := Prod.mk.inj (Except.ok.inj h)
      exact Or.inl ⟨rfl, behind?_eq_some_iff.mp hown⟩
    · split at h
      · cases h
      · rename_i own hown
        split at h
        · rename_i c name after hcut
          obtain ⟨rfl, rfl⟩ := Prod.mk.inj (Except.ok.inj h)
          obtain ⟨hsplit, hcolon⟩ := cut?_eq_some_iff.mp hcut
          refine Or.inr ⟨?_, by rwa [String.toList_ofList], ?_⟩
          · intro hempty
            have hnil := String.toList_eq_nil_iff.mpr hempty
            rw [String.toList_ofList] at hnil
            cases hnil
          · rw [behind?_eq_some_iff.mp hown, hsplit, String.toList_ofList (l := c :: name)]
        · cases h
  · rintro (⟨rfl, hwhole⟩ | ⟨hne, hcolon, hwhole⟩)
    · have hbehind := behind?_eq_some_iff.mpr hwhole
      simp only [didParts, hbehind]
    · obtain ⟨c, name, hmethod⟩ :=
        List.exists_cons_of_ne_nil (mt String.toList_eq_nil_iff.mp hne)
      have haid : behind? "uaid:aid:" whole.toList = none := by
        rw [hwhole]
        rfl
      have hdid := behind?_eq_some_iff.mpr hwhole
      have hcut : cut? ':' (method.toList ++ ':' :: rest) = some (method.toList, rest) :=
        cut?_eq_some_iff.mpr ⟨rfl, hcolon⟩
      have hback : String.ofList (c :: name) = method := by rw [← hmethod, String.ofList_toList]
      simp only [didParts, haid, hdid, hcut]
      rw [hmethod]
      simp only [hback]

theorem didParts_suffix {whole method : String} {rest : List Char}
    (h : didParts whole = .ok (method, rest)) : rest <:+ whole.toList := by
  rcases didParts_eq_ok_iff.mp h with ⟨-, hwhole⟩ | ⟨-, -, hwhole⟩
  · exact ⟨_, hwhole.symm⟩
  · refine ⟨"did:".toList ++ method.toList ++ [':'], ?_⟩
    rw [hwhole]
    simp

theorem dropNetwork_suffix (method identifier : String) :
    (dropNetwork method identifier).toList <:+ identifier.toList := by
  unfold dropNetwork
  split
  · split
    · rename_i network rest hlead
      rw [Caip.HederaNetwork.lead?_eq_some_iff.mp hlead, String.toList_append]
      exact List.suffix_append _ _
    · exact List.suffix_rfl
  · exact List.suffix_rfl

/-- What stands in a text and in the identifier that is minted from it: `own` goes up to the
first mark of a DID URL, and `url` is the rest. -/
structure Minted (whole : String) (routing : Routing) (u : Uaid) (method : String)
    (own url : List Char) : Prop where
  parts : didParts whole = .ok (method, own ++ url)
  noMark : ∀ c ∈ own, isUrlMark c = false
  url_head : ∀ c, url.head? = some c → isUrlMark c = true
  target : u.target = .did
  identifier : u.identifier = dropNetwork method (String.ofList own)
  ne_empty : u.identifier ≠ ""
  params : u.params =
    if url.isEmpty then routing.params
    else routing.params.insertNew Key.src (Codec.Multibase58.encodeString whole)

/-- A name is minted from what stands before the first mark, if anything is left there. -/
theorem exists_minted {existing method : String} {rest : List Char} (routing : Routing)
    (parts : didParts (trimmed existing) = .ok (method, rest))
    (hne : dropNetwork method (String.ofList (breakAt isUrlMark rest).1) ≠ "") :
    ∃ u, ofDid existing routing = .ok u ∧ Minted (trimmed existing) routing u method
      (breakAt isUrlMark rest).1 (breakAt isUrlMark rest).2 := by
  have hmint : ofDid existing routing = .ok {
      target := .did
      identifier := dropNetwork method (String.ofList (breakAt isUrlMark rest).1)
      params :=
        if (breakAt isUrlMark rest).2.isEmpty then routing.params
        else routing.params.insertNew Key.src
          (Codec.Multibase58.encodeString (trimmed existing)) } := by
    simp only [ofDid, parts, bind, Except.bind, if_neg hne]
  refine ⟨_, hmint, ?_, fun _ => not_of_mem_breakAt, fun _ => head_breakAt, rfl, rfl, hne, rfl⟩
  rw [breakAt_append, parts]

/-- **Minting gives an identifier exactly when the text has its parts.** -/
theorem ofDid_eq_ok_iff {existing : String} {routing : Routing} {u : Uaid} :
    ofDid existing routing = .ok u ↔
      ∃ method own url, Minted (trimmed existing) routing u method own url := by
  constructor
  · intro h
    cases hparts : didParts (trimmed existing) with
    | error f =>
        simp only [ofDid, hparts, bind, Except.bind] at h
        cases h
    | ok parts =>
        obtain ⟨method, rest⟩ := parts
        have hne : dropNetwork method (String.ofList (breakAt isUrlMark rest).1) ≠ "" := by
          intro hempty
          simp only [ofDid, hparts, bind, Except.bind, if_pos hempty] at h
          cases h
        obtain ⟨v, hv, minted⟩ := exists_minted routing hparts hne
        obtain rfl := Except.ok.inj (hv.symm.trans h)
        exact ⟨method, _, _, minted⟩
  · rintro ⟨method, own, url, h⟩
    have hbreak : breakAt isUrlMark (own ++ url) = (own, url) := breakAt_eq h.noMark h.url_head
    have hne : dropNetwork method (String.ofList own) ≠ "" := h.identifier ▸ h.ne_empty
    simp only [ofDid, h.parts, bind, Except.bind, hbreak, if_neg hne]
    rw [← h.identifier, ← h.params, ← h.target]

/-! ### The parameters -/

namespace Minted

variable {whole : String} {routing : Routing} {u : Uaid} {method : String} {own url : List Char}

/-- The parameters are those given, and the whole text if it goes on behind the name. -/
theorem params_cases (h : Minted whole routing u method own url) :
    u.params = routing.params ∨ routing.params.get? Key.src = none ∧
      u.params = routing.params.insert Key.src (Codec.Multibase58.encodeString whole) := by
  have hparams := h.params
  unfold Dict.insertNew at hparams
  split at hparams
  · exact Or.inl hparams
  · split at hparams
    · exact Or.inl hparams
    · rename_i hcontains
      refine Or.inr ⟨?_, hparams⟩
      simpa [Dict.contains] using hcontains

theorem get?_params (h : Minted whole routing u method own url) {key value : String}
    (hget : u.params.get? key = some value) : IsKey key ∧ value ≠ "" := by
  rcases h.params_cases with hparams | ⟨-, hparams⟩
  · rw [hparams] at hget
    obtain ⟨hkey, hvalue⟩ := Routing.of_get?_params hget
    exact ⟨isKey_of_mem_order hkey, hvalue⟩
  · rw [hparams, Dict.get?_insert] at hget
    by_cases hsrc : key = Key.src
    · rw [if_pos hsrc] at hget
      obtain rfl := Option.some.inj hget
      exact ⟨hsrc ▸ isKey_of_mem_order (by decide), Codec.Multibase58.encodeString_ne_empty whole⟩
    · rw [if_neg hsrc] at hget
      obtain ⟨hkey, hvalue⟩ := Routing.of_get?_params hget
      exact ⟨isKey_of_mem_order hkey, hvalue⟩

/-- Behind a name that is cut off, `src` is what the caller says or else the whole text. -/
theorem get?_src (h : Minted whole routing u method own url) (hurl : url ≠ []) :
    u.params.get? Key.src = (routing.params.get? Key.src).or
      (some (Codec.Multibase58.encodeString whole)) := by
  rw [h.params, if_neg (by simpa using hurl), Dict.get?_insertNew, if_pos rfl]

/-! ### The text -/

theorem suffix (h : Minted whole routing u method own url) :
    u.identifier.toList <:+ own := by
  have hsuffix := dropNetwork_suffix method (String.ofList own)
  rwa [← h.identifier, String.toList_ofList] at hsuffix

theorem noSemicolon (h : Minted whole routing u method own url) :
    ';' ∉ u.identifier.toList := by
  intro hmem
  have hmark := h.noMark ';' (h.suffix.subset hmem)
  cases hmark

/-- White space ends the name only where the text goes on behind it. -/
theorem last_of_url_eq_nil (h : Minted whole routing u method own url) (hurl : url = [])
    (hwhole : IsTrimmed whole.toList) {c : Char}
    (hc : u.identifier.toList.getLast? = some c) : isBlank c = false := by
  have hown : own <:+ whole.toList := by
    have hparts := didParts_suffix h.parts
    rwa [hurl, List.append_nil] at hparts
  obtain ⟨lead, hlead⟩ := h.suffix.trans hown
  refine hwhole.last c ?_
  rw [← hlead, List.getLast?_append, hc, Option.some_or]

theorem isTrimmed_text (h : Minted whole routing u method own url)
    (hwhole : IsTrimmed whole.toList) : IsTrimmed u.text.toList := by
  refine isTrimmed_text_of_last h.ne_empty ?_ ?_
  · exact writable_writtenFields fun key value hget _ => (h.get?_params hget).1
  · intro hnone c hc
    by_cases hurl : url = []
    · exact h.last_of_url_eq_nil hurl hwhole hc
    · obtain ⟨value, hget⟩ : ∃ value, u.params.get? Key.src = some value := by
        rw [h.get?_src hurl]
        cases routing.params.get? Key.src <;> exact ⟨_, rfl⟩
      have hmem := mem_writtenFields.mpr ⟨value, hget, (h.get?_params hget).2, rfl⟩
      rw [hnone] at hmem
      cases hmem

/-- **Reading takes the white space off the name**, and refuses a name that is nothing else. -/
theorem parse_text (h : Minted whole routing u method own url)
    (hwhole : IsTrimmed whole.toList) : parse u.text =
      if trimmed u.identifier = "" then .error (.noIdentifier u.text)
      else .ok { u with identifier := trimmed u.identifier } := by
  have htrimmed := trim_of_isTrimmed (h.isTrimmed_text hwhole)
  have hkeys : ∀ key value, u.params.get? key = some value → value ≠ "" → IsKey key :=
    fun key value hget _ => (h.get?_params hget).1
  have hsame : substance u.params = u.params :=
    substance_eq_self fun key value hget => (h.get?_params hget).2
  have hempty : (trim u.identifier.toList).isEmpty = true ↔ trimmed u.identifier = "" := by
    rw [List.isEmpty_iff, ← String.toList_eq_nil_iff, trimmed, String.toList_ofList]
  rw [parse_eq (htrimmed.trans (toList_text u)) h.noSemicolon fun _ => head_lines,
    parseParams_writtenFields hkeys, hsame, trimmed, htrimmed, String.ofList_toList]
  simp only [hempty]
  rfl

/-- A text without white space gives a name without any. -/
theorem trimmed_identifier (h : Minted whole routing u method own url)
    (hblank : ∀ c ∈ whole.toList, isBlank c = false) :
    trimmed u.identifier = u.identifier := by
  refine trimmed_of_isTrimmed (isTrimmed_of_forall fun c hc => hblank c ?_)
  exact (didParts_suffix h.parts).subset (List.mem_append_left url (h.suffix.subset hc))

end Minted

/-! ### Minted identifiers -/

/-- **What minting from a DID gives.**  The identifier has target `did`, the parameters that
were given and at most `src` besides.  Its text is read as the same identifier but for the
white space around the name, and is refused if the name is nothing else.  So the text is
canonical exactly if the name has no white space around it, as the name of a DID without
any white space has. -/
theorem parse_text_ofDid {existing : String} {routing : Routing} {u : Uaid}
    (h : ofDid existing routing = .ok u) :
    u.target = .did ∧
    (u.params = routing.params ∨ routing.params.get? Key.src = none ∧
      u.params = routing.params.insert Key.src
        (Codec.Multibase58.encodeString (trimmed existing))) ∧
    parse u.text =
      (if trimmed u.identifier = "" then .error (.noIdentifier u.text)
      else .ok { u with identifier := trimmed u.identifier }) ∧
    ((∃ v, parse u.text = .ok v ∧ v.text = u.text) ↔ trimmed u.identifier = u.identifier) ∧
    ((∀ c ∈ trim existing.toList, isBlank c = false) → parse u.text = .ok u) := by
  obtain ⟨method, own, url, minted⟩ := ofDid_eq_ok_iff.mp h
  have hwhole : IsTrimmed (trimmed existing).toList := isTrimmed_trimmed existing
  have hparse := minted.parse_text hwhole
  have hself : trimmed u.identifier = u.identifier → parse u.text = .ok u := by
    intro htrimmed
    rw [hparse, htrimmed, if_neg minted.ne_empty]
  refine ⟨minted.target, minted.params_cases, hparse, ?_, ?_⟩
  · constructor
    · rintro ⟨v, hv, htext⟩
      rw [hparse] at hv
      split at hv
      · cases hv
      · obtain rfl := Except.ok.inj hv
        have hlist := congrArg String.toList htext
        rw [toList_text, toList_text] at hlist
        have hrest := (List.cons.inj (List.append_cancel_left (List.append_cancel_left hlist))).2
        exact String.toList_injective (List.append_cancel_right hrest)
    · intro htrimmed
      exact ⟨u, hself htrimmed, rfl⟩
  · intro hblank
    refine hself (minted.trimmed_identifier ?_)
    rwa [trimmed, String.toList_ofList]

theorem parse_text_ofDid_key :
    ∃ u, ofDid "did:web:example.com#key" {} = .ok u ∧
      u.text = "uaid:did:example.com;src=z35Hj82YEBbmZMi6HqoxqVGoJRTw6EDrQ" ∧
      parse u.text = .ok u := by
  have hminted : ofDid "did:web:example.com#key" {} = .ok
      ⟨.did, "example.com", .ofList [("src", "z35Hj82YEBbmZMi6HqoxqVGoJRTw6EDrQ")]⟩ := by
    decide +kernel
  obtain ⟨-, -, -, -, hread⟩ := parse_text_ofDid hminted
  exact ⟨_, hminted, by decide +kernel, hread (forall_mem_of_all (by decide +kernel))⟩

/-- White space before a mark makes a name that reading refuses, and white space before a
name a text that is not canonical. -/
theorem exists_ofDid_untrimmed :
    (∃ u, ofDid "did:web: ;x" {} = .ok u ∧ u.text = "uaid:did: ;src=zRuBBd3a99TeCMLK" ∧
      parse u.text = .error (.noIdentifier u.text)) ∧
    ∃ u v, ofDid "did:web: x" {} = .ok u ∧ u.text = "uaid:did: x" ∧
      parse u.text = .ok v ∧ v.text = "uaid:did:x" := by
  refine ⟨⟨⟨.did, " ", .ofList [("src", "zRuBBd3a99TeCMLK")]⟩, ?_, ?_, ?_⟩,
    ⟨.did, " x", {}⟩, ⟨.did, "x", {}⟩, ?_, ?_, ?_, ?_⟩
  all_goals decide +kernel

end AgentId.Uaid
