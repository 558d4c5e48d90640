/-
The document that is known, and the document that is asked for.

Before a profile goes to work the registry derives the DID of an identifier and fetches its
document.  The profile of documents derives the DID for itself, and it takes the document that
is known only if this has the DID for its id, since resolvers may answer with a document of
another one.  Both could go wrong: the two DIDs might not be the same, and the document might
not be what asking would give.

They do not, as long as the resolvers answer the same at any time.  The outcome then depends on
two things only: the DID that the identifier points at, and what the first resolver that
supports this DID says of it (`resolves_document`).
-/
import AgentId.Proofs.Profile.BaseDid
import AgentId.Proofs.Resolution.Delegation
import AgentId.Proofs.Resolution.Relisting

namespace AgentId

/-! ### What resolvers answer -/

namespace Registry

/-- What the first resolver that supports a DID says of it; nothing where there is none. -/
def didReply (r : Registry) (past : History) (did : String) : Except Fault (Option DidDocument) :=
  match r.didResolvers.find? (·.supports did) with
  | none => .ok none
  | some x => x.resolve past did

/-- DID resolvers that answer the same at any time. -/
def SteadyDids (r : Registry) : Prop :=
  ∀ x ∈ r.didResolvers, ∀ past past' did, x.resolve past did = x.resolve past' did

section
variable {r : Registry}

theorem resolveDid_reply (r : Registry) (did : String) (past : History) :
    (r.resolveDid did past).1 = r.didReply past did := by
  have hfind : r.didResolvers.find? (·.supports did) =
      (r.didResolvers.zipIdx.find? (·.1.supports did)).map (·.1) := by
    have hmap := List.find?_map (p := (·.supports did)) (f := Prod.fst)
      (l := r.didResolvers.zipIdx)
    rw [List.zipIdx_map_fst] at hmap
    exact hmap
  unfold resolveDid didReply
  rw [hfind]
  cases r.didResolvers.zipIdx.find? (·.1.supports did) <;> rfl

theorem SteadyDids.didReply_eq (h : r.SteadyDids) (did : String) (past past' : History) :
    r.didReply past did = r.didReply past' did := by
  unfold didReply
  cases hfind : r.didResolvers.find? (·.supports did) with
  | none => rfl
  | some x => exact h x (List.mem_of_find?_eq_some hfind) past past' did

/-- A document that is known of an identifier is what its resolver says. -/
theorem didReply_of_known {uaid : String} {parsed : Uaid} {known : History} {did : String}
    {document : DidDocument} (hdid : parsed.baseDid? = some did)
    (h : (r.contextOf uaid parsed known).document = some document) :
    r.didReply known did = .ok (some document) := by
  have hreply : (r.didReply known did).toOption.join = some document := by
    rw [← resolveDid_reply, ← h]
    unfold contextOf documentOf
    rw [hdid]
  cases hstated : r.didReply known did with
  | error fault => rw [hstated] at hreply; cases hreply
  | ok reply =>
      rw [hstated] at hreply
      exact congrArg Except.ok hreply

end

end Registry

namespace Profile.BaseDid

/-! ### The DID -/

/-- **The profile derives the DID that the registry does.** -/
theorem did?_eq_baseDid? {c : Context} (htarget : c.parsed.target = .did)
    (hdid : c.did = c.parsed.baseDid?) : did? c = c.parsed.baseDid? := by
  unfold did?
  rw [hdid]
  unfold Uaid.baseDid?
  rw [htarget]
  cases c.parsed.sourceDid? <;> rfl

/-! ### The document -/

section
variable {w : World} {perform : (d : Delegation) → Run d.Answer} {past : History} {c : Context}
variable {did : String}

/-- A document that is known is not asked for, and asking would have given it. -/
theorem document_reply (h : ∀ document, c.document = some document →
      (perform (.did did) past).1 = .ok (some document)) :
    ((document c did).run w perform past).1 = (perform (.did did) past).1 := by
  unfold document
  cases hkept : c.document.filter (·.id == did) with
  | some kept => exact (h kept (Option.filter_eq_some_iff.mp hkept).1).symm
  | none => rfl

theorem resolve_reply (htarget : c.parsed.target = .did) (hdid : did? c = some did) :
    ((baseDid.resolve c).run w perform past).1 =
      ((document c did).run w perform past).1.map fun document? =>
        settleRefusal id c.uaid (evaluate c did document?) := by
  show ((resolve c >>= fun result => pure (settleRefusal id c.uaid result)).run w perform past).1 =
    _
  rw [Dialogue.run_bind_pure]
  unfold resolve
  rw [if_neg (not_not_intro htarget), hdid]
  simp only [Dialogue.run_bind_pure]
  cases ((document c did).run w perform past).1 <;> rfl

theorem resolve_reply_of_none (htarget : c.parsed.target = .did) (hdid : did? c = none) :
    ((baseDid.resolve c).run w perform past).1 = .ok (Refusal.resolution {
      code := .baseDidUndetermined
      message := "Could not determine the base DID" } id c.uaid) := by
  show ((resolve c >>= fun result => pure (settleRefusal id c.uaid result)).run w perform past).1 =
    _
  unfold resolve
  rw [if_neg (not_not_intro htarget), hdid]
  rfl

end

/-! ### What a document says -/

/-- The parameters that hint at a service, as they are written. -/
def hints (u : Uaid) : List String :=
  [Uaid.Key.proto, Uaid.Key.nativeId, Uaid.Key.domain].filterMap fun key =>
    (u.param? key).map fun value => key ++ "=" ++ value

theorem hint_eq_empty_iff (u : Uaid) : hint u = "" ↔ hints u = [] := by
  show ";".intercalate (hints u) = "" ↔ hints u = []
  have hwritten : "" ∉ hints u := by
    intro hmem
    obtain ⟨key, -, hkey⟩ := List.mem_filterMap.mp hmem
    obtain ⟨value, -, hempty⟩ := Option.map_eq_some_iff.mp hkey
    simp at hempty
  cases hhints : hints u with
  | nil => simp
  | cons first rest =>
      have hfirst : first ≠ "" := by
        rintro rfl
        exact hwritten (hhints ▸ List.mem_cons_self)
      cases rest <;> simp [String.intercalate_cons_cons, hfirst]

/-- The answer is what a document says, with the hint in place of services if it has none. -/
structure Documents (c : Context) (base : String) (document : DidDocument) (x : Resolution) :
    Prop where
  id : x.id = c.uaid
  did : x.did = some document.id
  baseDid : x.metadata.baseDid = some base
  baseDidResolved : x.metadata.baseDidResolved = some true
  alsoKnownAs : x.alsoKnownAs = document.alsoKnownAs
  verificationMethod : x.verificationMethod = document.verificationMethod
  authentication : x.authentication = document.authentication
  assertionMethod : x.assertionMethod = document.assertionMethod
  services : document.service ≠ [] → x.service = document.service.map fun s =>
    { s with source := some (s.source.getD "did-document") }
  hinted : document.service = [] → hints c.parsed ≠ [] → x.service = [{
    id := c.uaid ++ "#hinted-service"
    kind := "HintedService"
    endpoint := ";".intercalate (hints c.parsed)
    source := some "uaid-parameters" }]
  unhinted : document.service = [] → hints c.parsed = [] → x.service = []

theorem documents_found (c : Context) (did : String) (document : DidDocument) :
    Documents c did document (found c did document) where
  id := rfl
  did := rfl
  baseDid := rfl
  baseDidResolved := rfl
  alsoKnownAs := rfl
  verificationMethod := rfl
  authentication := rfl
  assertionMethod := rfl
  services := by
    intro hservice
    unfold found Resolution.orElse
    simp only [List.isEmpty_iff, List.map_eq_nil_iff, hservice]
    rfl
  hinted := by
    intro hservice hhints
    unfold found hintedService Resolution.orElse
    rw [hservice, if_neg (mt (hint_eq_empty_iff c.parsed).mp hhints)]
    rfl
  unhinted := by
    intro hservice hhints
    unfold found hintedService Resolution.orElse
    rw [hservice, if_pos ((hint_eq_empty_iff c.parsed).mpr hhints)]
    rfl

/-! ### What is answered -/

section
variable (c : Context) (did : String)

/-- The answer to what a resolver says of the DID. -/
def answerTo : Except Fault (Option DidDocument) → Except Fault Resolution :=
  Except.map fun document? => settleRefusal BaseDid.id c.uaid (evaluate c did document?)

theorem answerTo_none :
    ∃ refusal : Refusal, refusal.code = .didResolutionFailed ∧
      answerTo c did (.ok none) = .ok (refusal.resolution BaseDid.id c.uaid) :=
  ⟨_, rfl, rfl⟩

theorem answerTo_of_id_eq {document : DidDocument} (h : document.id = "") :
    ∃ refusal : Refusal, refusal.code = .didDocumentInvalid ∧
      answerTo c did (.ok (some document)) = .ok (refusal.resolution BaseDid.id c.uaid) := by
  simp only [answerTo, Except.map, evaluate, if_pos h]
  exact ⟨_, rfl, rfl⟩

theorem answerTo_of_id_ne {document : DidDocument} (h : document.id ≠ "") :
    answerTo c did (.ok (some document)) = .ok (found c did document) := by
  simp only [answerTo, Except.map, evaluate, if_neg h]
  rfl

/-- The answer resolves the identifier exactly if there is a document with an id. -/
theorem answerTo_resolved_iff {said : Except Fault (Option DidDocument)} :
    (∃ x, answerTo c did said = .ok x ∧ x.isResolved) ↔
      ∃ document, said = .ok (some document) ∧ document.id ≠ "" := by
  have hrefused : ∀ refusal : Refusal, ¬ ∃ x, Except.ok (refusal.resolution BaseDid.id c.uaid) =
      (.ok x : Except Fault Resolution) ∧ x.isResolved := by
    rintro refusal ⟨x, hx, hresolved⟩
    exact resolution_ne_of_resolved hresolved refusal (Except.ok.inj hx)
  match said with
  | .error fault => simp [answerTo, Except.map]
  | .ok none =>
      obtain ⟨refusal, -, hanswer⟩ := answerTo_none c did
      rw [hanswer]
      exact iff_of_false (hrefused refusal) (by simp)
  | .ok (some document) =>
      by_cases hid : document.id = ""
      · obtain ⟨refusal, -, hanswer⟩ := answerTo_of_id_eq c did hid
        rw [hanswer]
        exact iff_of_false (hrefused refusal) (by simp [hid])
      · rw [answerTo_of_id_ne c did hid]
        exact iff_of_true ⟨_, rfl, rfl⟩ ⟨document, rfl, hid⟩

end

/-! ### The profile -/

/-- What the profile answers is its answer to what the resolver of the DID says. -/
theorem reply_eq {r : Registry} (steady : r.SteadyDids) {w : World} {above : List String}
    {c : Context} {did : String} (htarget : c.parsed.target = .did) (hdid : did? c = some did)
    {asked : History} (known : ∀ document, c.document = some document →
      r.didReply asked did = .ok (some document)) (past : History) :
    ((baseDid.resolve c).run w (r.perform w above) past).1 =
      answerTo c did (r.didReply asked did) := by
  have hperform : (r.perform w above (.did did) past).1 = r.didReply asked did :=
    (r.resolveDid_reply did past).trans (steady.didReply_eq did past asked)
  rw [resolve_reply htarget hdid, document_reply, hperform]
  · rfl
  · intro document hdocument
    rw [hperform]
    exact known document hdocument

/--
**The outcome is what the resolver says of the DID that the identifier points at.**  Let the DID
resolvers of a registry answer the same at any time, and let an identifier be one of a DID.  The
profile derives the DID that the registry derives, and whether it takes the document that the
registry has fetched or asks for it again makes no difference.

The identifier is resolved exactly if there is such a DID and the first resolver that supports
it has a document for it, with an id.  Otherwise the outcome says what is missing, and it is the
fault of the resolver if that has one.  The answer is what the document says.
-/
theorem resolves_document {r : Registry} (steady : r.SteadyDids) {parsed : Uaid}
    (htarget : parsed.target = .did) (uaid : String) (w : World) (above : List String)
    (known asked past : History) :
    let c := r.contextOf uaid parsed known
    let answer := ((baseDid.resolve c).run w (r.perform w above) past).1
    let refuses := fun code => ∃ x, answer = .ok x ∧ x.code? = some code
    did? c = parsed.baseDid? ∧
    ((baseDid.resolve { c with document := none }).run w (r.perform w above) past).1 = answer ∧
    ((∃ x, answer = .ok x ∧ x.isResolved) ↔ ∃ did document, parsed.baseDid? = some did ∧
      r.didReply asked did = .ok (some document) ∧ document.id ≠ "") ∧
    (parsed.baseDid? = none → refuses .baseDidUndetermined) ∧
    ∀ did, parsed.baseDid? = some did →
      (∀ fault, r.didReply asked did = .error fault → answer = .error fault) ∧
      (r.didReply asked did = .ok none → refuses .didResolutionFailed) ∧
      ∀ document, r.didReply asked did = .ok (some document) →
        (document.id = "" → refuses .didDocumentInvalid) ∧
        (document.id ≠ "" →
          ∃ x, answer = .ok x ∧ x.isResolved ∧ Documents c did document x) := by
  intro c answer refuses
  have hdid : did? c = parsed.baseDid? := did?_eq_baseDid? htarget rfl
  have hanew : did? { c with document := none } = parsed.baseDid? := hdid
  cases hbase : parsed.baseDid? with
  | none =>
      have hanswer : answer = _ := resolve_reply_of_none htarget (hdid.trans hbase)
      refine ⟨hdid.trans hbase, ?_, ?_, ?_, ?_⟩
      · rw [hanswer]
        exact resolve_reply_of_none htarget (hanew.trans hbase)
      · rw [hanswer]
        refine iff_of_false ?_ (by simp)
        rintro ⟨x, hx, hresolved⟩
        exact resolution_ne_of_resolved hresolved _ (Except.ok.inj hx)
      · exact fun _ => ⟨_, hanswer, rfl⟩
      · simp
  | some did =>
      have hknown : ∀ document, c.document = some document →
          r.didReply asked did = .ok (some document) := by
        intro document hdocument
        rw [steady.didReply_eq did asked known]
        exact Registry.didReply_of_known hbase hdocument
      have hanswer : answer = answerTo c did (r.didReply asked did) :=
        reply_eq steady htarget (hdid.trans hbase) hknown past
      refine ⟨hdid.trans hbase, ?_, ?_, by simp, ?_⟩
      · rw [hanswer]
        exact reply_eq steady htarget (hanew.trans hbase) (by simp) past
      · rw [hanswer, answerTo_resolved_iff]
        simp
      · rintro _ ⟨⟩
        refine ⟨?_, ?_, ?_⟩
        · intro fault hsaid
          rw [hanswer, hsaid]
          rfl
        · intro hsaid
          obtain ⟨refusal, hcode, hrefused⟩ := answerTo_none c did
          exact ⟨refusal.resolution BaseDid.id c.uaid, by rw [hanswer, hsaid, hrefused],
            congrArg some hcode⟩
        · intro document hsaid
          refine ⟨fun hid => ?_, fun hid => ?_⟩
          · obtain ⟨refusal, hcode, hrefused⟩ := answerTo_of_id_eq c did hid
            exact ⟨refusal.resolution BaseDid.id c.uaid, by rw [hanswer, hsaid, hrefused],
              congrArg some hcode⟩
          · refine ⟨found c did document, ?_, rfl, documents_found c did document⟩
            rw [hanswer, hsaid, answerTo_of_id_ne c did hid]

/-- An agent on a ledger. -/
def ledgerAgent : Uaid where
  target := .did
  identifier := "testnet:0.0.5"
  params := .ofList [("proto", "a2a"), ("nativeId", "agent.example.com")]

/-- The document of the agent has moved to another DID, and names no services. -/
def movedDocument : DidDocument where
  id := "did:web:agent.example.com"
  authentication := ["did:web:agent.example.com#key"]

/-- A registry with one resolver, which knows the one document. -/
def movedRegistry : Registry where
  didResolvers := [{
    supports := fun did => did == "did:hedera:testnet:0.0.5"
    resolve := fun _ _ => .ok (some movedDocument) }]

/-- The agent is found under the DID that its document has now. -/
theorem resolves_document_movedRegistry :
    let uaid := "uaid:did:testnet:0.0.5;proto=a2a;nativeId=agent.example.com"
    Uaid.parse uaid = .ok ledgerAgent ∧
    ∃ x, ((baseDid.resolve (movedRegistry.contextOf uaid ledgerAgent [])).run World.silent
        (movedRegistry.perform World.silent []) []).1 = .ok x ∧ x.isResolved ∧
      x.did = some "did:web:agent.example.com" ∧
      x.metadata.baseDid = some "did:hedera:testnet:0.0.5" ∧
      x.service.map (·.endpoint) = ["proto=a2a;nativeId=agent.example.com"] := by
  intro uaid
  have steady : movedRegistry.SteadyDids := by
    intro x hx past past' did
    obtain rfl := List.mem_singleton.mp hx
    rfl
  have htarget : ledgerAgent.target = .did := rfl
  have hbase : ledgerAgent.baseDid? = some "did:hedera:testnet:0.0.5" := by decide +kernel
  have hreply : movedRegistry.didReply [] "did:hedera:testnet:0.0.5" =
      .ok (some movedDocument) := by
    simp [Registry.didReply, movedRegistry]
  have hhints : hints (movedRegistry.contextOf uaid ledgerAgent []).parsed =
      ["proto=a2a", "nativeId=agent.example.com"] := by
    show hints ledgerAgent = _
    decide +kernel
  obtain ⟨-, -, -, -, hcases⟩ := resolves_document steady htarget uaid World.silent [] [] [] []
  obtain ⟨-, -, hdocument⟩ := hcases _ hbase
  obtain ⟨x, hx, hresolved, documents⟩ := (hdocument movedDocument hreply).2 (by decide)
  refine ⟨by decide +kernel, x, hx, hresolved, documents.did, documents.baseDid, ?_⟩
  rw [documents.hinted rfl (by simp [hhints]), hhints]
  rfl

end Profile.BaseDid

end AgentId
