/-
From a DID URL to the document of its DID.

Minting cuts a DID URL at its first mark and keeps the whole of it in the parameter `src`.
Resolving leads back by `src`: the whole DID URL is looked up, first by the registry and then
by the profile of documents, the only one that supports an identifier without other
parameters.  So the answer is what the table says of the DID URL.

The table cuts a DID URL too, but at two marks and not at all three.  Behind `?` and `#` it
finds the document of the DID (`ofUrl_append`).  Behind `;` it looks for another text, and
unless that text is an entry of its own nothing is found (`ofUrl_append_ne`).
-/
import AgentId.Proofs.Did.Url
import AgentId.Proofs.Profile.BaseDid
import AgentId.Proofs.Resolution.Fallback
import AgentId.Proofs.Resolution.FirstResolved
import AgentId.Proofs.Uaid.BaseDid
import AgentId.Proofs.Uaid.Minting
import AgentId.Resolution.Standard

namespace AgentId

open Text

/-! ### The identifier of a DID URL -/

namespace Uaid

/-- The identifier of a DID URL, with nothing but the URL for a parameter. -/
structure LeadsTo (u : Uaid) (url : String) : Prop where
  target : u.target = .did
  params : u.params = ({} : Dict String).insert Key.src (Codec.Multibase58.encodeString url)
  parse_text : parse u.text = .ok u

theorem leadsTo_of_ofDid {did method id s : String} (plain : Did.Plain did method id)
    (suffix : Did.Suffix s) {u : Uaid} (h : ofDid (did ++ s) {} = .ok u) :
    u.LeadsTo (did ++ s) := by
  have hblank : ∀ c ∈ (did ++ s).toList, isBlank c = false := by
    intro c hc
    rw [String.toList_append] at hc
    rcases List.mem_append.mp hc with hdid | hs
    · exact plain.noBlank c hdid
    · exact suffix.noBlank c hs
  have hwhole : IsTrimmed (did ++ s).toList := isTrimmed_of_forall hblank
  obtain ⟨name, own, url, minted⟩ := ofDid_eq_ok_iff.mp h
  rw [trimmed_of_isTrimmed hwhole] at minted
  have hurl : url ≠ [] := by
    have hparts : didParts (did ++ s) = .ok (method, id.toList ++ s.toList) := by
      refine didParts_eq_ok_iff.mpr (Or.inr ⟨plain.method_ne_empty, plain.noColon, ?_⟩)
      rw [String.toList_append, plain.toList_eq]
      simp
    rw [minted.parts] at hparts
    obtain ⟨-, hsplit⟩ := Prod.mk.inj (Except.ok.inj hparts)
    obtain ⟨c, hc, hmark⟩ := suffix.mark
    intro hnil
    have hmem : c ∈ own := by
      rw [hnil, List.append_nil] at hsplit
      rw [hsplit]
      exact List.mem_append_right _ (List.mem_of_mem_head? hc)
    rw [minted.noMark c hmem] at hmark
    cases hmark
  refine ⟨minted.target, ?_, ?_⟩
  · rw [minted.params, if_neg (by simpa using hurl)]
    rfl
  · rw [minted.parse_text hwhole, minted.trimmed_identifier hblank, if_neg minted.ne_empty]

section
variable {u : Uaid} {url : String} (h : u.LeadsTo url)
include h

theorem LeadsTo.param? (key : String) :
    u.param? key =
      if key = Key.src then some (Codec.Multibase58.encodeString url) else none := by
  rw [Uaid.param?, h.params, Dict.get?_insert]
  split
  · exact Option.filter_some_pos (decide_eq_true (Codec.Multibase58.encodeString_ne_empty url))
  · rfl

theorem LeadsTo.sourceDid? (hdid : startsWith "did:" url = true) : u.sourceDid? = some url := by
  refine sourceDid?_of_param? hdid ?_
  rw [h.param?, if_pos rfl]

theorem LeadsTo.baseDid? (hdid : startsWith "did:" url = true) : u.baseDid? = some url :=
  baseDid?_of_sourceDid? h.target (h.sourceDid? hdid)

end

end Uaid

/-! ### Looking up a DID URL -/

namespace Registry

/-- The standard registry with a table. -/
def withTable (config : Config) (t : Did.Table) : Registry :=
  (standard config).addDidResolver t.resolver

/-- What is known of an identifier that leads to a DID URL, from the table. -/
def knownOf (t : Did.Table) (u : Uaid) (url : String) : Context where
  uaid := u.text
  parsed := u
  did := some url
  document := t.get? url

section
variable {config : Config} {t : Did.Table} {url : String}

/-- What is no DID of method `key` is looked up in the table. -/
theorem resolveDid_withTable (hkey : startsWith "did:key:" url = false) (past : History) :
    ((withTable config t).resolveDid url past).1 = .ok (t.get? url) := by
  have hresolvers : (withTable config t).didResolvers.zipIdx =
      [(Did.Key.resolver, 0), (t.resolver, 1)] := rfl
  unfold resolveDid
  rw [hresolvers, List.find?_cons_of_neg (by simp [Did.Key.resolver, hkey])]
  cases hget : t.get? url with
  | none =>
      rw [List.find?_cons_of_neg (by simp [Did.Table.resolver, Did.Table.contains, hget])]
      rfl
  | some document =>
      rw [List.find?_cons_of_pos (by simp [Did.Table.resolver, Did.Table.contains, hget])]
      exact congrArg Except.ok hget

theorem contextOf_leadsTo {u : Uaid} (h : u.LeadsTo url) (hdid : startsWith "did:" url = true)
    (hkey : startsWith "did:key:" url = false) (past : History) :
    (withTable config t).contextOf u.text u past = knownOf t u url := by
  have hdocument : ((withTable config t).documentOf (some url) past).1 = t.get? url := by
    show ((withTable config t).resolveDid url past).1.toOption.join = t.get? url
    rw [resolveDid_withTable hkey]
    rfl
  rw [contextOf, h.baseDid? hdid, hdocument]
  rfl

end

/-! ### What the profiles find -/

open Profile

/-- The profile of documents is the only one that supports the identifier. -/
theorem firstResolved_leadsTo {config : Config} {t : Did.Table} {w : World} {c : Context}
    {url : String} (h : c.parsed.LeadsTo url) (past : History) :
    (withTable config t).firstResolved w c (withTable config t).profiles.zipIdx past =
      (withTable config t).firstResolved w c [(baseDid, 3)] past := by
  have hnative : c.parsed.param? Uaid.Key.nativeId = none := by
    rw [h.param?, if_neg (by decide)]
  have hprofiles : (withTable config t).profiles.zipIdx = [(dnsBinding config.dnsBinding, 0),
      (card config.agentCard, 1), (endpoint config.agentRecord, 2), (baseDid, 3)] := rfl
  rw [hprofiles, firstResolved_of_not_supports, firstResolved_of_not_supports,
    firstResolved_of_not_supports]
  · simp [endpoint, Endpoint.home?, h.target]
  · simp [card, Card.home?, h.target]
  · simp [dnsBinding, Uaid.home?, hnative]

section
variable {config : Config} {t : Did.Table} {u : Uaid} {url : String}

/-- **An identifier that leads to a DID URL is resolved by what the table has for the URL.** -/
theorem resolve_leadsTo (h : u.LeadsTo url) (hdid : startsWith "did:" url = true)
    (hkey : startsWith "did:key:" url = false) (w : World) (past : History) :
    ((withTable config t).resolve w u.text past).1 =
      .ok (match BaseDid.evaluate (knownOf t u url) url (t.get? url) with
        | .ok found => .settled (knownOf t u url) found
        | .error _ => .fallback (knownOf t u url)) := by
  have hcontext : (withTable config t).contextOf u.text u past = knownOf t u url :=
    contextOf_leadsTo h hdid hkey past
  have hsource : BaseDid.did? (knownOf t u url) = some url := by
    show (u.sourceDid? <|> some url) = some url
    rw [h.sourceDid? hdid]
    rfl
  have hsupports : baseDid.supports (knownOf t u url).uaid (knownOf t u url).parsed = true :=
    decide_eq_true h.target
  have hrun : ∀ past, ((baseDid.resolve (knownOf t u url)).run w
      ((withTable config t).perform w [baseDid.id]) past).1 =
        .ok (settleRefusal BaseDid.id u.text
          (BaseDid.evaluate (knownOf t u url) url (t.get? url))) :=
    BaseDid.run_resolve h.target hsource fun past => resolveDid_withTable hkey past
  have hunsolved : unsolved (knownOf t u url) = .fallback (knownOf t u url) := by
    have htarget : (knownOf t u url).parsed.target = .did := h.target
    rw [unsolved, htarget]
  rw [resolve_of_ok h.parse_text]
  simp only [hcontext]
  rw [firstResolved_leadsTo (c := knownOf t u url) h, firstResolved_last hsupports hrun]
  cases hevaluate : BaseDid.evaluate (knownOf t u url) url (t.get? url) with
  | ok found =>
      obtain ⟨document, -, rfl⟩ := BaseDid.of_evaluate_eq_ok hevaluate
      rfl
  | error refusal => exact congrArg Except.ok hunsolved

end

/-- The parameters hint at no service. -/
theorem hintedService_leadsTo {t : Did.Table} {u : Uaid} {url : String} (h : u.LeadsTo url) :
    BaseDid.hintedService (knownOf t u url) = [] := by
  have hhint : BaseDid.hint u = "" := by
    simp [BaseDid.hint, h.param?, Uaid.Key.proto, Uaid.Key.nativeId, Uaid.Key.domain,
      Uaid.Key.src]
  exact if_pos hhint

/-- What the registry says of a document that the table has for the DID URL. -/
theorem settled_found {t : Did.Table} {u : Uaid} {url : String} (h : u.LeadsTo url)
    {document : DidDocument} (held : t.get? url = some document) :
    let c := knownOf t u url
    let answer := Resolution.settled c (BaseDid.found c url document)
    answer.isResolved ∧ answer.metadata.profile = some BaseDid.id ∧
      answer.did = some document.id ∧ answer.metadata.baseDid = some url ∧
      answer.verificationMethod = document.verificationMethod ∧
      answer.authentication = document.authentication ∧
      answer.assertionMethod = document.assertionMethod ∧
      answer.service = document.service.map (Service.foundIn Resolution.documentSource) := by
  intro c answer
  have hdocument : c.document = some document := held
  have hsame : document = c.document.getD { id := "" } := by rw [hdocument, Option.getD_some]
  have hservice : (BaseDid.found c url document).service =
      document.service.map (Service.foundIn Resolution.documentSource) := by
    show Resolution.orElse _ (BaseDid.hintedService c) = _
    rw [hintedService_leadsTo h, Resolution.orElse_nil]
  -- Filling up gives every list that is empty another time.
  refine ⟨rfl, rfl, rfl, rfl, ?_, ?_, ?_, ?_⟩
  · exact Resolution.orElse_of_eq (congrArg (·.verificationMethod) hsame)
  · exact Resolution.orElse_of_eq (congrArg (·.authentication) hsame)
  · exact Resolution.orElse_of_eq (congrArg (·.assertionMethod) hsame)
  · refine (Resolution.orElse_of_eq ?_).trans hservice
    rw [hservice, hsame]
    rfl

/-- What is said of an identifier when the table has nothing for the DID URL. -/
theorem fallback_of_none {t : Did.Table} {u : Uaid} {url : String} (h : t.get? url = none)
    (hother : url ≠ u.text) :
    let answer := Resolution.fallback (knownOf t u url)
    answer.isResolved = false ∧ answer.did = some url ∧
      answer.metadata.baseDidResolved = some false ∧ answer.verificationMethod = [] ∧
      answer.service = [] := by
  simp [Resolution.fallback, Resolution.isResolved, knownOf, h, hother]

/-- **A DID URL with a query or a fragment leads back to the document of its DID.**  Let a
table hold a document for a DID of another method than `key`, and let an identifier be minted
from the DID with more behind it.  The standard registry with the table then answers with
what the document says, by the profile of documents, whatever else the world has to say.

Behind a semicolon the table looks for another text than the DID.  Where it has none for
that, the identifier stays unresolved, and the answer is the DID URL and nothing else. -/
theorem resolves_minted (config : Config) (t : Did.Table) (w : World) (past : History)
    {did method id s : String} (plain : Did.Plain did method id) (suffix : Did.Suffix s)
    {u : Uaid} (minted : Uaid.ofDid (did ++ s) {} = .ok u) {document : DidDocument}
    (held : t.documents.get? did = some document) (own : document.id = did) :
    (∀ c, s.toList.head? = some c → c = '?' ∨ c = '#' →
      ∃ found, ((withTable config t).resolve w u.text past).1 = .ok found ∧ found.isResolved ∧
        found.metadata.profile = some BaseDid.id ∧ found.did = some did ∧
        found.metadata.baseDid = some (did ++ s) ∧
        found.verificationMethod = document.verificationMethod ∧
        found.authentication = document.authentication ∧
        found.assertionMethod = document.assertionMethod ∧
        found.service = document.service.map (Service.foundIn Resolution.documentSource)) ∧
    (s.toList.head? = some ';' → Did.ofUrl (did ++ s) ≠ did ∧
      (t.documents.get? (Did.ofUrl (did ++ s)) = none →
        ∃ found, ((withTable config t).resolve w u.text past).1 = .ok found ∧
          found.isResolved = false ∧ found.did = some (did ++ s) ∧
          found.metadata.baseDidResolved = some false ∧ found.verificationMethod = [] ∧
          found.service = [])) := by
  have leads : u.LeadsTo (did ++ s) := Uaid.leadsTo_of_ofDid plain suffix minted
  have hanswer : ((withTable config t).resolve w u.text past).1 = _ :=
    resolve_leadsTo leads (plain.isDid s) (plain.not_key s) w past
  constructor
  · intro c hc hmark
    have hheld : t.get? (did ++ s) = some document := by
      rw [Did.Table.get?, Did.ofUrl_append plain hc hmark]
      exact held
    have hne : document.id ≠ "" := by
      rw [own, plain.text]
      simp
    rw [hheld, BaseDid.evaluate, if_neg hne] at hanswer
    have hsays := settled_found leads hheld
    rw [own] at hsays
    exact ⟨_, hanswer, hsays⟩
  · intro hc
    refine ⟨Did.ofUrl_append_ne plain hc, fun hnone => ?_⟩
    have hother : did ++ s ≠ u.text :=
      Uaid.baseDid?_ne_self leads.parse_text (leads.baseDid? (plain.isDid s))
    have hget : t.get? (did ++ s) = none := hnone
    rw [hget, BaseDid.evaluate] at hanswer
    exact ⟨_, hanswer, fallback_of_none hget hother⟩

/-- The document of an agent on the web. -/
def webDocument : DidDocument where
  id := "did:web:example.com"
  authentication := ["did:web:example.com#agent"]
  service := [{ id := "#a2a", kind := "A2A", endpoint := "https://example.com/a2a" }]

theorem plain_web : Did.Plain "did:web:example.com" "web" "example.com" where
  text := by decide +kernel
  method_ne_empty := by decide
  method_ne_key := by decide
  noColon := by decide +kernel
  id_ne_empty := by decide
  noMark := forall_mem_of_all (by decide +kernel)
  noBlank := forall_mem_of_all (by decide +kernel)

/-- A table with this document. -/
def webTable : Did.Table := ({} : Did.Table).add webDocument

/-- Nobody has anything to say. -/
def silentWorld : World := fun _ _ => .error (.config "nobody asked")

theorem resolves_minted_fragment :
    ∃ u found, Uaid.ofDid "did:web:example.com#agent" {} = .ok u ∧
      ((withTable {} webTable).resolve silentWorld u.text []).1 = .ok found ∧
      found.isResolved ∧ found.did = some "did:web:example.com" ∧
      found.metadata.baseDid = some "did:web:example.com#agent" ∧
      found.authentication = ["did:web:example.com#agent"] := by
  have suffix : Did.Suffix "#agent" :=
    ⟨⟨'#', by decide +kernel, by decide⟩, forall_mem_of_all (by decide +kernel)⟩
  have minted : Uaid.ofDid "did:web:example.com#agent" {} =
      .ok ⟨.did, "example.com", .ofList [("src", "zhQQaUzVHgbeiLE9EknbbpUqyES2wzr1bcF")]⟩ := by
    decide +kernel
  have held : webTable.documents.get? "did:web:example.com" = some webDocument := rfl
  obtain ⟨hfragment, -⟩ :=
    resolves_minted {} webTable silentWorld [] plain_web suffix minted held rfl
  obtain ⟨found, hfound, hresolved, -, hdid, hbase, -, hauthentication, -⟩ :=
    hfragment '#' (by decide +kernel) (Or.inr rfl)
  exact ⟨_, found, minted, hfound, hresolved, hdid, hbase, hauthentication⟩

/-- The same DID with a service behind a semicolon, as an identifier. -/
def semicolonUaid : Uaid where
  target := .did
  identifier := "example.com"
  params := .ofList [("src", "zWq45WnE712kp6fi54epdjjxo9KTDMYNUfMUjr22SK3LXm")]

/-- The document is not found for it. -/
theorem exists_minted_unresolved :
    Did.Plain "did:web:example.com" "web" "example.com" ∧ Did.Suffix ";service=agent" ∧
    webTable.documents.get? "did:web:example.com" = some webDocument ∧
    Uaid.ofDid "did:web:example.com;service=agent" {} = .ok semicolonUaid ∧
    ∃ found, ((withTable {} webTable).resolve silentWorld semicolonUaid.text []).1 = .ok found ∧
      found.isResolved = false ∧ found.did = some "did:web:example.com;service=agent" := by
  have suffix : Did.Suffix ";service=agent" :=
    ⟨⟨';', by decide +kernel, by decide⟩, forall_mem_of_all (by decide +kernel)⟩
  have hsays : (((withTable {} webTable).resolve silentWorld semicolonUaid.text
      []).1.toOption.map fun found => (found.isResolved, found.did)) =
      some (false, some "did:web:example.com;service=agent") := by
    decide +kernel
  refine ⟨plain_web, suffix, rfl, by decide +kernel, ?_⟩
  cases hfound : ((withTable {} webTable).resolve silentWorld semicolonUaid.text []).1 with
  | error fault =>
      rw [hfound] at hsays
      cases hsays
  | ok found =>
      rw [hfound] at hsays
      obtain ⟨hresolved, hdid⟩ := Prod.mk.inj (Option.some.inj hsays)
      exact ⟨found, rfl, hresolved, hdid⟩

end Registry

end AgentId
