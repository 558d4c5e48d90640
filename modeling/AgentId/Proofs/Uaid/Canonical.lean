/-
The canonical form tells identifiers apart.

Reading is lenient.  It trims names, keys and values, takes quotes off, lets the last of
several fields with one key count, drops fields that say nothing, and keeps a value as it
stands whose escapes are malformed or spell no text.  So many texts spell one identifier.
Writing has one text for each, and what reading returns is always read back from that text
(`parse_text_of_parse`): keys and names have nothing left to trim, and values are escaped
anew, those that were kept raw with their percent signs.

So the canonical form of a text is its own canonical form (`canonical_canonical`), and two
texts have the same one exactly if they are read as the same identifier
(`canonical_eq_iff`).
-/
import AgentId.Proofs.Uaid.RoundTrip

namespace AgentId.Uaid

open Text

/-- The canonical form of a text. -/
def canonical (s : String) : Except Fault String :=
  (parse s).map text

/-! ### Which texts are identifiers -/

/-- Text that names a target, with `rest` behind the colon. -/
def Names (s : String) (target : Target) (rest : List Char) : Prop :=
  (trimmed s).toList = "uaid:".toList ++ (target.text.toList ++ ':' :: rest)

/-- **A text is an identifier exactly if it names a target and something of it**: not all of
what stands before the first semicolon is white space.  No parameter is a reason to refuse. -/
theorem exists_parse_iff {s : String} :
    (∃ u, parse s = .ok u) ↔ ∃ target rest, Names s target rest ∧
      ∃ c ∈ rest.takeWhile (· ≠ ';'), isBlank c = false := by
  have htrimmed : (trimmed s).toList = trim s.toList := String.toList_ofList
  constructor
  · rintro ⟨u, h⟩
    obtain ⟨name, fields, parts⟩ := parse_eq_ok_iff.mp h
    refine ⟨u.target, name ++ fields, htrimmed.trans parts.text, ?_⟩
    rw [takeWhile_ne_append parts.noSemicolon parts.fields_head]
    exact trim_ne_nil_iff.mp parts.name_ne_nil
  · rintro ⟨target, rest, names, notBlank⟩
    have hcut : rest.takeWhile (· ≠ ';') ++ rest.dropWhile (· ≠ ';') = rest :=
      List.takeWhile_append_dropWhile
    have hsemi : ';' ∉ rest.takeWhile (· ≠ ';') := fun hmem =>
      absurd (List.mem_takeWhile_imp hmem) (by simp)
    have hfields : ∀ c, (rest.dropWhile (· ≠ ';')).head? = some c → c = ';' := by
      intro c hc
      have hnot := List.head?_dropWhile_not (· ≠ ';') rest
      rw [hc] at hnot
      simpa using hnot
    have hparse := parse_eq (by rw [hcut]; exact htrimmed.symm.trans names) hsemi hfields
    rw [if_neg (by simpa using trim_ne_nil_iff.mpr notBlank)] at hparse
    exact ⟨_, hparse⟩

/-! ### Reading, writing and reading again -/

/-- **What was read is read back from its canonical text.** -/
theorem parse_text_of_parse {s : String} {u : Uaid} (h : parse s = .ok u) :
    parse u.text = .ok u := by
  obtain ⟨wellFormed, hsay⟩ := wellFormed_of_parse h
  exact parse_text_self wellFormed (substance_eq_self hsay)

theorem canonical_of_parse {s : String} {u : Uaid} (h : parse s = .ok u) :
    canonical s = .ok u.text := by
  rw [canonical, h]
  rfl

theorem exists_parse_of_canonical {s t : String} (h : canonical s = .ok t) :
    ∃ u, parse s = .ok u ∧ u.text = t := by
  unfold canonical at h
  cases hs : parse s with
  | error fault =>
      rw [hs] at h
      cases h
  | ok u =>
      rw [hs] at h
      exact ⟨u, rfl, Except.ok.inj h⟩

theorem canonical_canonical {s t : String} (h : canonical s = .ok t) : canonical t = .ok t := by
  obtain ⟨u, hs, rfl⟩ := exists_parse_of_canonical h
  exact canonical_of_parse (parse_text_of_parse hs)

theorem canonical_eq_iff {s t : String} {u v : Uaid} (hs : parse s = .ok u)
    (ht : parse t = .ok v) : canonical s = canonical t ↔ u = v := by
  rw [canonical_of_parse hs, canonical_of_parse ht]
  constructor
  · intro h
    have htext : u.text = v.text := Except.ok.inj h
    have hback := parse_text_of_parse hs
    rw [htext, parse_text_of_parse ht] at hback
    exact (Except.ok.inj hback).symm
  · rintro rfl
    rfl

/-- **The canonical form is all there is to an identifier.**  Which texts are identifiers is
said by what stands before the first semicolon.  Each of them is read as an identifier that
comes back from its canonical text, so canonicalizing again changes nothing, and two texts
have one canonical form exactly if they are read alike. -/
theorem canonical_complete :
    (∀ s, (∃ u, parse s = .ok u) ↔ ∃ target rest, Names s target rest ∧
      ∃ c ∈ rest.takeWhile (· ≠ ';'), isBlank c = false) ∧
    (∀ s u, parse s = .ok u → parse u.text = .ok u) ∧
    (∀ s t, canonical s = .ok t → canonical t = .ok t) ∧
    ∀ s t u v, parse s = .ok u → parse t = .ok v → (canonical s = canonical t ↔ u = v) := by
  refine ⟨fun s => exists_parse_iff, ?_, ?_, ?_⟩
  · intro s u h
    exact parse_text_of_parse h
  · intro s t h
    exact canonical_canonical h
  · intro s t u v hs ht
    exact canonical_eq_iff hs ht

/-- A key twice, quotes, a plus sign for a space, values with escapes that are malformed or
spell no text, and fields that say nothing: all of it is spelling. -/
theorem canonical_complete_loosely :
    ∃ u s t, s = "\t uaid:did: a b ;k=1;k=\" x+y \";raw=100%+;bytes=%ff+;;=;v=\"\"" ∧
      t = "uaid:did:a b;raw=100%25%2B;k=x%20y;bytes=%25ff%2B" ∧
      parse s = .ok u ∧ parse t = .ok u ∧
      u.text = "uaid:did:a b;bytes=%25ff%2B;k=x%20y;raw=100%25%2B" ∧
      parse u.text = .ok u ∧ canonical u.text = .ok u.text ∧ canonical s = canonical t := by
  have hs : parse "\t uaid:did: a b ;k=1;k=\" x+y \";raw=100%+;bytes=%ff+;;=;v=\"\"" =
      .ok ⟨.did, "a b", .ofList [("k", "x y"), ("raw", "100%+"), ("bytes", "%ff+")]⟩ := by
    decide +kernel
  have ht : parse "uaid:did:a b;raw=100%25%2B;k=x%20y;bytes=%25ff%2B" =
      .ok ⟨.did, "a b", .ofList [("k", "x y"), ("raw", "100%+"), ("bytes", "%ff+")]⟩ := by
    decide +kernel
  obtain ⟨-, hback, hagain, hsame⟩ := canonical_complete
  refine ⟨_, _, _, rfl, rfl, hs, ht, by decide +kernel, hback _ _ hs, ?_, ?_⟩
  · exact hagain _ _ (canonical_of_parse hs)
  · exact (hsame _ _ _ _ hs ht).mpr rfl

end AgentId.Uaid
