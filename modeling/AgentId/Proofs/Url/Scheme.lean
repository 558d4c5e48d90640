/-
The scheme of a URL.

A scheme is read in lower case, whatever the URL has (`toLower_scheme`).  So a list of
schemes allows a URL exactly when its scheme is one of them but for the case of letters,
in the list as well as in the URL (`allows_iff`).
-/
import AgentId.Proofs.Text.Case
import AgentId.Record.Agent
import Mathlib.Data.Option.Basic

namespace AgentId

namespace Url

variable {u : Url} {cs : List Char}

theorem toLower_of_scheme? {scheme : String} {rest : List Char}
    (h : scheme? cs = some (scheme, rest)) :
    scheme.toList.map Char.toLower = scheme.toList := by
  unfold scheme? at h
  split at h
  · split at h
    · obtain ⟨rfl, rfl⟩ := Prod.mk.inj (Option.some.inj h)
      rw [String.toList_ofList, Text.map_toLower_map_toLower]
    · cases h
  · cases h

/-! ### Every family keeps the scheme -/

theorem scheme_withAuthority {scheme : String} {special : Bool}
    (h : withAuthority scheme special cs = some u) : u.scheme = scheme := by
  unfold withAuthority at h
  simp only [Option.bind_eq_bind] at h
  split at h
  · split at h
    · cases h
    · obtain rfl := Option.some.inj h
      rfl
  · split at h
    · obtain ⟨host, -, h⟩ := Option.bind_eq_some_iff.mp h
      obtain ⟨port, -, h⟩ := Option.bind_eq_some_iff.mp h
      obtain rfl := Option.some.inj h
      rfl
    · obtain ⟨host, -, h⟩ := Option.bind_eq_some_iff.mp h
      obtain ⟨port, -, h⟩ := Option.bind_eq_some_iff.mp h
      obtain rfl := Option.some.inj h
      rfl

theorem scheme_file (host : Option Host) (cs : List Char) :
    (fileOn.file host cs).scheme = "file" := by
  unfold fileOn.file
  simp only
  split
  · rfl
  · rfl

theorem scheme_fileOn (h : fileOn cs = some u) : u.scheme = "file" := by
  unfold fileOn at h
  simp only [Option.bind_eq_bind] at h
  split at h
  · obtain rfl := Option.some.inj h
    exact scheme_file ..
  · split at h
    · obtain rfl := Option.some.inj h
      exact scheme_file ..
    · obtain ⟨host, -, h⟩ := Option.bind_eq_some_iff.mp h
      obtain rfl := Option.some.inj h
      exact scheme_file ..

theorem family_eq_file {scheme : String} (h : family scheme = .file) : scheme = "file" := by
  unfold family at h
  split at h
  · cases h
  · split at h
    · assumption
    · cases h

/-- **The scheme of a URL is in lower case.** -/
theorem toLower_scheme {s : String} (h : parse? s = some u) :
    u.scheme.toList.map Char.toLower = u.scheme.toList := by
  unfold parse? at h
  simp only [Option.bind_eq_bind] at h
  obtain ⟨⟨scheme, rest⟩, hscheme, h⟩ := Option.bind_eq_some_iff.mp h
  suffices hsame : u.scheme = scheme by
    rw [hsame]
    exact toLower_of_scheme? hscheme
  cases hfamily : family scheme with
  | special =>
      simp only [hfamily] at h
      exact scheme_withAuthority h
  | file =>
      simp only [hfamily] at h
      rw [family_eq_file hfamily]
      split at h
      · split at h
        · exact scheme_fileOn h
        · obtain rfl := Option.some.inj h
          exact scheme_file ..
      · obtain rfl := Option.some.inj h
        exact scheme_file ..
  | other =>
      simp only [hfamily] at h
      split at h
      · exact scheme_withAuthority h
      · obtain rfl := Option.some.inj h
        rfl
      · obtain rfl := Option.some.inj h
        rfl

end Url

/-- A URL that has one of the schemes, whatever the case of their letters. -/
def SchemesConfig.Supports (c : SchemesConfig) (url : String) : Prop :=
  ∃ u, Url.parse? url = some u ∧
    ∃ s ∈ c.schemes, s.toList.map Char.toLower = u.scheme.toList.map Char.toLower

theorem SchemesConfig.allows_iff {c : SchemesConfig} {url : String} :
    c.allows url = true ↔ c.Supports url := by
  unfold allows Url.schemeOf? Supports
  cases hparse : Url.parse? url with
  | none => simp
  | some u =>
      have hlower := Url.toLower_scheme hparse
      simp only [Option.map_some, Option.any_some, List.any_eq_true, beq_iff_eq,
        Option.some.injEq, exists_eq_left', hlower, ← String.toList_inj, String.toList_ofList]

end AgentId
