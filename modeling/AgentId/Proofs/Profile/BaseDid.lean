/-
What the profile of documents makes of a document.

The profile asks for the document of the base DID unless it is known already, and says what
the document says.  Where asking gives what is known, it makes no difference whether it asks
(`run_resolve`).
-/
import AgentId.Profile.BaseDid
import AgentId.Proofs.Profile.Refusal

namespace AgentId.Profile.BaseDid

/-- What is found is what a document says that has a DID of its own. -/
theorem of_evaluate_eq_ok {c : Context} {did : String} {document? : Option DidDocument}
    {x : Resolution} (h : evaluate c did document? = .ok x) :
    ∃ document, document? = some document ∧ found c did document = x := by
  unfold evaluate at h
  split at h
  · cases h
  · rename_i document
    split at h
    · cases h
    · exact ⟨document, rfl, Except.ok.inj h⟩

/-- **The profile of documents answers what the document of the base DID says**, whether it is
known already or has to be asked for. -/
theorem run_resolve {w : World} {perform : (d : Delegation) → Run d.Answer} {c : Context}
    {did : String} (htarget : c.parsed.target = .did) (hdid : did? c = some did)
    (hperform : ∀ past, (perform (.did did) past).1 = .ok c.document) (past : History) :
    ((baseDid.resolve c).run w perform past).1 =
      .ok (settleRefusal id c.uaid (evaluate c did c.document)) := by
  have hdocument : ∀ past, ((document c did).run w perform past).1 = .ok c.document := by
    intro past
    unfold document
    split
    · rename_i known hknown
      rw [(Option.filter_eq_some_iff.mp hknown).1]
      rfl
    · show ((Dialogue.delegate (.did did) .outcome).run w perform past).1 = _
      rw [Dialogue.run_delegate]
      exact hperform past
  show ((resolve c >>= fun found => pure (settleRefusal id c.uaid found)).run w perform past).1 = _
  rw [Dialogue.run_bind_pure]
  unfold resolve
  rw [if_neg (by simp [htarget]), hdid]
  simp only [Dialogue.run_bind_pure, hdocument]
  rfl

end AgentId.Profile.BaseDid
