/-
Normalized domain names stay as they are.

Names are compared in the form that `Fqdn.normalize` gives them, and a name that reached
the library in that form must not change when it is normalized once more.  It cannot: a
label holds nothing that is trimmed and nothing in upper case, and a name that ended with
a dot would have an empty label behind it (`normalize?_of_normalize?`).
-/
import AgentId.Fqdn
import AgentId.Proofs.Text.Case
import AgentId.Proofs.Text.Cutting
import AgentId.Proofs.Text.Trimming

namespace AgentId.Fqdn

open Text

/-- The spelling of a domain name: labels between dots, at least two, and not too long. -/
structure IsName (cs : List Char) : Prop where
  ne_nil : cs ≠ []
  size : (String.ofList cs).utf8ByteSize ≤ 253
  dotted : 2 ≤ (cs.splitOn '.').length
  labels : ∀ label ∈ cs.splitOn '.', isLabel label = true

/-- **A text spells a domain name exactly when its spelling is one.** -/
theorem normalize_eq_ok_iff {value name : String} :
    normalize value = .ok name ↔
      IsName (spelling value) ∧ name = String.ofList (spelling value) := by
  have hfind : ((spelling value).splitOn '.').find? (!isLabel ·) = none ↔
      ∀ label ∈ (spelling value).splitOn '.', isLabel label = true := by
    simp
  constructor
  · intro h
    simp only [normalize] at h
    split at h
    · cases h
    · rename_i hne
      split at h
      · cases h
      · rename_i hsize
        split at h
        · cases h
        · rename_i hdotted
          split at h
          · cases h
          · rename_i hlabels
            cases h
            exact ⟨⟨by simpa using hne, by omega, by omega, hfind.mp hlabels⟩, rfl⟩
  · rintro ⟨hname, rfl⟩
    have hne : (spelling value).isEmpty = false := by simpa using hname.ne_nil
    have hsize : ¬253 < (String.ofList (spelling value)).utf8ByteSize := by
      have := hname.size
      omega
    have hdotted : ¬((spelling value).splitOn '.').length < 2 := by
      have := hname.dotted
      omega
    simp only [normalize, hne, hsize, hdotted, hfind.mpr hname.labels, if_false, Bool.false_eq_true]

theorem normalize?_eq_some_iff {value name : String} :
    normalize? value = some name ↔
      IsName (spelling value) ∧ name = String.ofList (spelling value) := by
  rw [← normalize_eq_ok_iff]
  unfold normalize?
  cases normalize value <;> simp [Except.toOption]

/-! ### The characters of a name -/

theorem toNat_of_isLabelChar {c : Char} (h : isLabelChar c = true) :
    45 ≤ c.toNat ∧ c.toNat ≤ 57 ∨ 97 ≤ c.toNat ∧ c.toNat ≤ 122 := by
  delta isLabelChar Char.isLower Char.isDigit at h
  simp only [Bool.or_eq_true, Bool.and_eq_true, decide_eq_true_eq, beq_iff_eq, ge_iff_le,
    UInt32.le_iff_toNat_le, Char.toNat_val] at h
  rcases h with (h | h) | rfl
  · exact Or.inr h
  · exact Or.inl ⟨Nat.le_trans (by decide) h.1, h.2⟩
  · exact Or.inl ⟨by decide, by decide⟩

/-- Nothing in a name is trimmed or in upper case. -/
theorem toNat_of_mem_name {cs : List Char} (h : IsName cs) {c : Char} (hc : c ∈ cs) :
    45 ≤ c.toNat ∧ c.toNat ≤ 57 ∨ 97 ≤ c.toNat ∧ c.toNat ≤ 122 := by
  have hcut : c = '.' ∨ ∃ label ∈ cs.splitOn '.', c ∈ label := eq_or_mem_splitOn hc
  rcases hcut with rfl | ⟨label, hlabel, hmem⟩
  · exact Or.inl ⟨by decide, by decide⟩
  · have hvalid := h.labels label hlabel
    simp only [isLabel, Bool.and_eq_true, List.all_eq_true] at hvalid
    exact toNat_of_isLabelChar (hvalid.1.1.2 c hmem)

theorem trim_name {cs : List Char} (h : IsName cs) : trim cs = cs := by
  refine trim_of_isTrimmed (isTrimmed_of_forall fun c hc => ?_)
  have hrange := toNat_of_mem_name h hc
  exact isBlank_eq_false (by omega) (by omega)

theorem toLower_name {cs : List Char} (h : IsName cs) : cs.map Char.toLower = cs := by
  have hlower : ∀ c ∈ cs, c.toLower = id c := by
    intro c hc
    have hrange := toNat_of_mem_name h hc
    exact toLower_eq_self (by omega)
  rw [List.map_congr_left hlower, List.map_id]

/-- A name does not end with a dot: there would be an empty label behind it. -/
theorem last_name {cs : List Char} (h : IsName cs) : cs.getLast? ≠ some '.' := by
  intro hlast
  obtain ⟨front, rfl⟩ := List.getLast?_eq_some_iff.mp hlast
  have hempty : [] ∈ (front ++ ['.']).splitOn '.' := by
    rw [List.splitOn_append_cons_self]
    simp
  have hvalid := h.labels [] hempty
  exact absurd hvalid (by decide)

theorem spelling_name {cs : List Char} (h : IsName cs) : spelling (String.ofList cs) = cs := by
  simp only [spelling, String.toList_ofList, trim_name h, if_neg (last_name h), toLower_name h]

/-- **Normalizing a normalized name changes nothing.** -/
theorem normalize?_of_normalize? {value name : String} (h : normalize? value = some name) :
    normalize? name = some name := by
  obtain ⟨hname, rfl⟩ := normalize?_eq_some_iff.mp h
  rw [normalize?_eq_some_iff, spelling_name hname]
  exact ⟨hname, rfl⟩

end AgentId.Fqdn
