/-
No profile looks at how an identifier is spelt.

A profile is told the identifier as it was given and in parts.  It decides by the parts; the
text it puts into its answer and hands on to the profiles that it delegates to, and that is all
it does with it.  So for two spellings of one identifier a profile goes in step with itself
(`IgnoresSpelling`).

For the profile of bindings this goes through the profiles that it delegates to: what counts of
their answers is whether the agent was found and with which code not, and on that answers agree
that are alike.
-/
import AgentId.Proofs.Profile.Course
import AgentId.Proofs.Resolution.InStep

namespace AgentId.Profile

open Resolution

/-- A profile does not look at how an identifier is spelt. -/
structure IgnoresSpelling (p : Profile) : Prop where
  supports : ∀ u u' parsed, p.supports u parsed = p.supports u' parsed
  resolve : ∀ c u', InStep c.uaid u' (Resolution.Alike c.uaid u') (p.resolve c)
    (p.resolve (c.respelled u'))

section
variable {u u' profile : String}

/-- What a profile answers is alike if what it finds is; a refusal says the same for both
spellings. -/
theorem alike_settleRefusal {result result' : Except Refusal Resolution}
    (h : Agree (Resolution.Alike u u') result result') :
    (settleRefusal profile u result).Alike u u' (settleRefusal profile u' result') := by
  cases h with
  | error refusal => exact alike_refused _ _ _ _ _ _
  | ok related => exact related

/-- A profile goes in step if what it works out does. -/
theorem inStep_settled {work work' : Dialogue (Except Refusal Resolution)}
    (h : InStep u u' (Agree (Resolution.Alike u u')) work work') :
    InStep u u' (Resolution.Alike u u') (do return settleRefusal profile u (← work))
      (do return settleRefusal profile u' (← work')) :=
  h.bind fun _ _ hresult => .pure (alike_settleRefusal hresult)

end

/-! ### Agent cards -/

namespace Card

theorem alike_found (u u' : String) (q : Request) (record : CardRecord) (name url : String) :
    (found u q record name url).Alike u u' (found u' q record name url) where
  id := rfl
  id' := rfl
  did := rfl
  alsoKnownAs := rfl
  verificationMethod := .nil
  authentication := .nil
  assertionMethod := rfl
  service := .cons ⟨.named u u' name, rfl, rfl, rfl⟩ .nil
  metadata := rfl
  failure := rfl

theorem agree_evaluate (schemes : SchemesConfig) (u u' : String) (q : Request)
    (record : CardRecord) (response : HttpResponse) :
    Agree (Resolution.Alike u u') (evaluate schemes u q record response)
      (evaluate schemes u' q record response) := by
  unfold evaluate
  cases received record response with
  | error refusal => exact .error refusal
  | ok card =>
      simp only [bind, Except.bind]
      cases checkName q record card with
      | error refusal => exact .error refusal
      | ok _ =>
          cases endpoint schemes q record card with
          | error refusal => exact .error refusal
          | ok e => exact .ok (alike_found u u' q record e.1 e.2)

end Card

theorem ignoresSpelling_card (schemes : SchemesConfig) : (card schemes).IgnoresSpelling where
  supports := fun _ _ _ => rfl
  resolve := by
    intro c u'
    refine inStep_settled ?_
    unfold Card.resolve
    rw [Context.respelled_parsed]
    cases Card.request c.parsed with
    | error refusal => exact .pure (.error refusal)
    | ok q =>
        refine (InStep.txt (Card.host q.home)).bind ?_
        rintro records _ rfl
        cases Card.select q records with
        | error refusal => exact .pure (.error refusal)
        | ok record =>
            refine (InStep.http record.url).bind ?_
            rintro response _ rfl
            exact .pure (Card.agree_evaluate schemes c.uaid u' q record response)

/-! ### Endpoint records -/

namespace Endpoint

theorem alike_found (u u' : String) (record : AgentRecord) :
    (found u record .none).Alike u u' (found u' record .none) where
  id := rfl
  id' := rfl
  did := rfl
  alsoKnownAs := rfl
  verificationMethod := by
    unfold found
    cases record.publicKey with
    | none => exact .nil
    | some key => exact .cons ⟨.named u u' _, .self u u', rfl, rfl, rfl⟩ .nil
  authentication := by
    unfold found
    cases record.publicKey with
    | none => exact .nil
    | some key => exact .cons (.named u u' _) .nil
  assertionMethod := rfl
  service := .cons ⟨.named u u' _, rfl, rfl, rfl⟩ .nil
  metadata := rfl
  failure := rfl

end Endpoint

theorem ignoresSpelling_endpoint (schemes : SchemesConfig) :
    (endpoint schemes).IgnoresSpelling where
  supports := fun _ _ _ => rfl
  resolve := by
    intro c u'
    refine inStep_settled ?_
    unfold Endpoint.resolve
    rw [Context.respelled_parsed]
    cases Endpoint.home? c.parsed with
    | none => exact .pure (.error _)
    | some home =>
        refine (InStep.txt (Endpoint.host home)).bind ?_
        rintro records _ rfl
        cases Endpoint.select schemes home records with
        | error refusal => exact .pure (.error refusal)
        | ok record =>
            simp only [Endpoint.verified_of_nobody]
            exact .pure (.ok (Endpoint.alike_found c.uaid u' record))

/-! ### Documents -/

namespace BaseDid

theorem alike_found (c : Context) (u' did : String) (document : DidDocument) :
    (found c did document).Alike c.uaid u' (found (c.respelled u') did document) where
  id := rfl
  id' := rfl
  did := rfl
  alsoKnownAs := rfl
  verificationMethod := List.forall₂_same.mpr fun m _ => .refl _ _ m
  authentication := List.forall₂_same.mpr fun s _ => .refl _ _ s
  assertionMethod := rfl
  service := by
    refine forall₂_orElse (List.forall₂_same.mpr fun s _ => .refl _ _ s) ?_
    unfold hintedService
    rw [Context.respelled_parsed]
    split
    · exact .nil
    · exact .cons ⟨(Respelt.self c.uaid u').append _, rfl, rfl, rfl⟩ .nil
  metadata := rfl
  failure := rfl

theorem agree_evaluate (c : Context) (u' did : String) (document? : Option DidDocument) :
    Agree (Resolution.Alike c.uaid u') (evaluate c did document?)
      (evaluate (c.respelled u') did document?) := by
  unfold evaluate
  cases document? with
  | none => exact .error _
  | some document =>
      simp only
      split
      · exact .error _
      · exact .ok (alike_found c u' did document)

theorem inStep_document (c : Context) (u' did : String) :
    InStep c.uaid u' Eq (document c did) (document (c.respelled u') did) := by
  unfold document
  rw [Context.respelled_document]
  cases c.document.filter (·.id == did) with
  | some known => exact .pure rfl
  | none => exact .document did

end BaseDid

theorem ignoresSpelling_baseDid : baseDid.IgnoresSpelling where
  supports := fun _ _ _ => rfl
  resolve := by
    intro c u'
    refine inStep_settled ?_
    have hdid : BaseDid.did? (c.respelled u') = BaseDid.did? c := rfl
    unfold BaseDid.resolve
    rw [Context.respelled_parsed, hdid]
    split
    · exact .pure (.error _)
    · cases BaseDid.did? c with
      | none => exact .pure (.error _)
      | some did =>
          refine (BaseDid.inStep_document c u' did).bind ?_
          rintro document? _ rfl
          exact .pure (BaseDid.agree_evaluate c u' did document?)

/-! ### Bindings -/

namespace DnsBinding

/-- Going on ended in the same way. -/
inductive Followup.Alike (u u' : String) : Followup → Followup → Prop where
  | resolved (profile : String) {x x' : Resolution} (alike : x.Alike u u' x') :
      Followup.Alike u u' (.resolved profile x) (.resolved profile x')
  | failed (profile reason : String) :
      Followup.Alike u u' (.failed profile reason) (.failed profile reason)
  | noneApplied : Followup.Alike u u' .noneApplied .noneApplied

section
variable {u u' : String} {reply reply' : Except Fault Resolution}

/-- Replies that agree come to the same failure. -/
theorem failure?_of_agree (h : Agree (Resolution.Alike u u') reply reply') :
    failure? reply = failure? reply' := by
  cases h with
  | error fault => rfl
  | ok alike =>
      simp only [failure?, alike.code?]

/-- **Going on goes in step**, one profile after another. -/
theorem inStep_follow {soFar soFar' : Followup} (h : Followup.Alike u u' soFar soFar')
    (profiles : List String) :
    InStep u u' (Followup.Alike u u') (follow u soFar profiles) (follow u' soFar' profiles) := by
  induction profiles generalizing soFar soFar' with
  | nil => exact .pure h
  | cons profile rest ih =>
      unfold follow
      refine (InStep.attempt profile).bind fun reply reply' hreply => ?_
      -- All that is read off a reply is whether it resolves the identifier, and if not how it
      -- counts; in both it is the same.
      have hresolves := hreply.filter_isResolved
      simp only [← failure?_of_agree hreply]
      generalize reply.toOption.filter (·.isResolved) = found at hresolves ⊢
      generalize reply'.toOption.filter (·.isResolved) = found' at hresolves ⊢
      cases hresolves with
      | some alike => exact .pure (.resolved profile alike)
      | none =>
          cases failure? reply with
          | some reason => exact ih (.failed profile reason)
          | none => exact ih h

end

theorem agree_conclude (config : DnsBindingConfig) (c : Context) (u' : String) (binding : Binding)
    {ending ending' : Followup} (h : Followup.Alike c.uaid u' ending ending') :
    Agree (Resolution.Alike c.uaid u') (conclude config c binding ending)
      (conclude config (c.respelled u') binding ending') := by
  cases h with
  | resolved profile alike =>
      refine .ok { alike with did := ?_, metadata := ?_ }
      · simp only [adopt, alike.did, Context.respelled_did]
      · simp only [adopt, alike.metadata]
  | failed profile reason => exact .error _
  | noneApplied =>
      unfold conclude
      simp only
      split
      · exact .error _
      · exact .ok (alike_renamed (found c.uaid binding (binding.did <|> c.did)) u')

end DnsBinding

theorem ignoresSpelling_dnsBinding (config : DnsBindingConfig) :
    (dnsBinding config).IgnoresSpelling where
  supports := fun _ _ _ => rfl
  resolve := by
    intro c u'
    refine inStep_settled ?_
    unfold DnsBinding.resolve
    rw [Context.respelled_parsed]
    cases c.parsed.home? with
    | none => exact .pure (.error _)
    | some home =>
        refine (InStep.txt (DnsBinding.host home)).bind ?_
        rintro records _ rfl
        cases DnsBinding.select c.parsed home records with
        | error refusal => exact .pure (.error refusal)
        | ok binding =>
            refine (DnsBinding.inStep_follow .noneApplied _).bind fun ending ending' hending => ?_
            exact .pure (DnsBinding.agree_conclude config c u' binding hending)

end AgentId.Profile
