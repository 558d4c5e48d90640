/-
Domain names and the texts that spell them.

A name is labels between dots, and a label is letters, digits and hyphens with no hyphen at an
end, which is the language of the pattern `[a-z0-9](-*[a-z0-9])*` (`label_iff_mem_pattern`).
`Name` says what is put together from labels, and `Writes` which texts spell a name: those that
differ from it in white space around it, in the case of letters and in one dot behind it.

Normalizing a text finds the name that it spells, if it does (`normalizes_exactly`).  There is
no more than one, although the three ways in which spellings differ could be thought to get in
each other's way: neither white space nor a dot is part of a label, so what stands around a name
cannot be taken for a part of it.
-/
import AgentId.Profile.Basic
import AgentId.Proofs.Caip.Rules
import AgentId.Proofs.Record.Binding
import AgentId.Proofs.Text.Lowercase
import AgentId.Proofs.Text.Language

namespace AgentId.Fqdn

open Text
open Caip (Digit)
open scoped Computability

/-! ### Labels -/

/-- One label of a name. -/
structure Label (label : String) : Prop where
  shortest : 1 ≤ label.length
  longest : label.length ≤ 63
  chars : ∀ c ∈ label.toList, Caip.Small c ∨ Digit c ∨ c = '-'
  first : label.toList.head? ≠ some '-'
  last : label.toList.getLast? ≠ some '-'

/-- The language of `[a-z0-9]`. -/
def alphanum : Language Char := oneOf fun c => Caip.Small c ∨ Digit c

/-- The language of `-*`. -/
def hyphens : Language Char := (oneOf (· = '-'))∗

/-- The language of `[a-z0-9](-*[a-z0-9])*`. -/
def pattern : Language Char := alphanum * (hyphens * alphanum)∗

/-- Hyphens, with a letter or a digit behind them. -/
theorem mem_hyphens_mul_iff {cs : List Char} : cs ∈ hyphens * alphanum ↔
    ∃ front c, cs = front ++ [c] ∧ (∀ d ∈ front, d = '-') ∧ (Caip.Small c ∨ Digit c) := by
  rw [Language.mem_mul]
  constructor
  · rintro ⟨front, hfront, _, ⟨c, hc, rfl⟩, rfl⟩
    exact ⟨front, c, rfl, mem_kstar_oneOf_iff.mp hfront, hc⟩
  · rintro ⟨front, c, rfl, hfront, hc⟩
    exact ⟨front, mem_kstar_oneOf_iff.mpr hfront, [c], ⟨c, hc, rfl⟩, rfl⟩

theorem ne_hyphen {c : Char} (h : Caip.Small c ∨ Digit c) : c ≠ '-' := by
  rintro rfl
  revert h
  unfold Caip.Small Digit
  decide

/-- What may stand behind the first letter of a label: anything that does not end with a
hyphen. -/
theorem mem_kstar_iff {cs : List Char} : cs ∈ (hyphens * alphanum)∗ ↔
    (∀ c ∈ cs, Caip.Small c ∨ Digit c ∨ c = '-') ∧ cs.getLast? ≠ some '-' := by
  rw [Language.mem_kstar]
  constructor
  · rintro ⟨words, rfl, hwords⟩
    induction words with
    | nil => simp
    | cons word words ih =>
        obtain ⟨hchars, hlast⟩ := ih fun w hw => hwords w (List.mem_cons_of_mem _ hw)
        obtain ⟨front, c, rfl, hfront, hc⟩ := mem_hyphens_mul_iff.mp (hwords word (by simp))
        rw [List.flatten_cons]
        constructor
        · intro d hd
          simp only [List.mem_append, List.mem_singleton] at hd
          rcases hd with (hd | rfl) | hd
          · exact Or.inr (Or.inr (hfront d hd))
          · exact hc.imp_right Or.inl
          · exact hchars d hd
        · rw [List.getLast?_append, List.getLast?_concat]
          cases hrest : words.flatten.getLast? with
          | none => simpa using ne_hyphen hc
          | some d => rwa [hrest] at hlast
  · rintro ⟨hchars, hlast⟩
    induction cs with
    | nil => exact ⟨[], rfl, by simp⟩
    | cons c cs ih =>
        obtain ⟨hc, hchars⟩ := List.forall_mem_cons.mp hchars
        have hrest : cs.getLast? ≠ some '-' := by
          intro hrest
          rw [List.getLast?_cons, hrest] at hlast
          exact hlast rfl
        obtain ⟨words, hwords, hmem⟩ := ih hchars hrest
        rw [← or_assoc] at hc
        rcases hc with hc | rfl
        · -- A letter or a digit is a word alone.
          refine ⟨[c] :: words, by simp [hwords], List.forall_mem_cons.mpr ⟨?_, hmem⟩⟩
          exact mem_hyphens_mul_iff.mpr ⟨[], c, rfl, by simp, hc⟩
        · -- A hyphen belongs to the word behind it, and there is one.
          cases words with
          | nil =>
              rw [hwords] at hlast
              exact absurd rfl hlast
          | cons word words =>
              obtain ⟨hword, hothers⟩ := List.forall_mem_cons.mp hmem
              obtain ⟨front, d, rfl, hfront, hd⟩ := mem_hyphens_mul_iff.mp hword
              refine ⟨('-' :: (front ++ [d])) :: words, by simp [hwords],
                List.forall_mem_cons.mpr ⟨?_, hothers⟩⟩
              exact mem_hyphens_mul_iff.mpr
                ⟨'-' :: front, d, rfl, List.forall_mem_cons.mpr ⟨rfl, hfront⟩, hd⟩

/-- **The pattern says that no hyphen stands at an end.** -/
theorem mem_pattern_iff {cs : List Char} : cs ∈ pattern ↔
    cs ≠ [] ∧ (∀ c ∈ cs, Caip.Small c ∨ Digit c ∨ c = '-') ∧ cs.head? ≠ some '-' ∧
      cs.getLast? ≠ some '-' := by
  rw [pattern, Language.mem_mul]
  constructor
  · rintro ⟨_, ⟨c, hc, rfl⟩, rest, hrest, rfl⟩
    obtain ⟨hchars, hlast⟩ := mem_kstar_iff.mp hrest
    refine ⟨by simp, List.forall_mem_cons.mpr ⟨hc.imp_right Or.inl, hchars⟩,
      by simpa using ne_hyphen hc, ?_⟩
    rw [List.singleton_append, List.getLast?_cons]
    cases hrest : rest.getLast? with
    | none => simpa using ne_hyphen hc
    | some d => rwa [hrest] at hlast
  · rintro ⟨hne, hchars, hfirst, hlast⟩
    obtain ⟨c, rest, rfl⟩ := List.exists_cons_of_ne_nil hne
    obtain ⟨hc, hchars⟩ := List.forall_mem_cons.mp hchars
    refine ⟨[c], ⟨c, ?_, rfl⟩, rest, mem_kstar_iff.mpr ⟨hchars, ?_⟩, rfl⟩
    · rw [← or_assoc] at hc
      exact hc.resolve_right fun heq => hfirst (by rw [heq]; rfl)
    · intro hrest
      rw [List.getLast?_cons, hrest] at hlast
      exact hlast rfl

/-- **A label is what the pattern says, up to 63 characters of it.** -/
theorem label_iff_mem_pattern {label : String} :
    Label label ↔ label.length ≤ 63 ∧ label.toList ∈ pattern := by
  rw [mem_pattern_iff, ← List.length_pos_iff, String.length_toList]
  exact ⟨fun h => ⟨h.longest, h.shortest, h.chars, h.first, h.last⟩,
    fun ⟨hlong, hshort, hchars, hfirst, hlast⟩ => ⟨hshort, hlong, hchars, hfirst, hlast⟩⟩

theorem isLabelChar_iff {c : Char} : isLabelChar c = true ↔ Caip.Small c ∨ Digit c ∨ c = '-' := by
  rw [isLabelChar, Bool.or_eq_true, Bool.or_eq_true, beq_iff_eq, Caip.isLower_iff,
    Caip.isDigit_iff, or_assoc]

theorem isLabel_iff {label : String} : isLabel label.toList = true ↔ Label label := by
  simp only [isLabel, Bool.and_eq_true, decide_eq_true_iff, List.all_eq_true, isLabelChar_iff,
    bne_iff_ne, String.length_toList]
  constructor
  · rintro ⟨⟨⟨⟨hlow, hhigh⟩, hchars⟩, hfirst⟩, hlast⟩
    exact ⟨hlow, hhigh, hchars, hfirst, hlast⟩
  · intro h
    exact ⟨⟨⟨⟨h.shortest, h.longest⟩, h.chars⟩, h.first⟩, h.last⟩

/-! ### Names -/

/-- A domain name. -/
structure Name (name : String) : Prop where
  size : name.utf8ByteSize ≤ 253
  labels : ∃ labels : List String, 2 ≤ labels.length ∧ (∀ label ∈ labels, Label label) ∧
    name = ".".intercalate labels

theorem Label.noDot {label : String} (h : Label label) : '.' ∉ label.toList := by
  intro hdot
  have hkind := h.chars '.' hdot
  revert hkind
  unfold Caip.Small Digit
  decide

/-- A name is what is put together from labels, as well as what is cut into labels. -/
theorem isName_iff {name : String} : IsName name.toList ↔ Name name := by
  constructor
  · intro h
    refine ⟨by simpa using h.size, (name.toList.splitOn '.').map String.ofList,
      by simpa using h.dotted, ?_, ?_⟩
    · intro label hlabel
      obtain ⟨cs, hcs, rfl⟩ := List.mem_map.mp hlabel
      rw [← isLabel_iff, String.toList_ofList]
      exact h.labels cs hcs
    · rw [intercalate_splitOn_dot, String.ofList_toList]
  · rintro ⟨hsize, labels, hlength, hlabels, rfl⟩
    have hcut : (".".intercalate labels).toList.splitOn '.' = labels.map String.toList := by
      refine splitOn_dot_intercalate ?_ fun label hlabel => (hlabels label hlabel).noDot
      rintro rfl
      exact absurd hlength (by decide)
    refine ⟨?_, by rwa [String.ofList_toList], by rwa [hcut, List.length_map], ?_⟩
    · intro hnil
      have hone := congrArg List.length hcut
      rw [hnil, List.length_map] at hone
      simp at hone
      omega
    · intro label hlabel
      rw [hcut] at hlabel
      obtain ⟨l, hl, rfl⟩ := List.mem_map.mp hlabel
      exact isLabel_iff.mpr (hlabels l hl)

/-! ### Spellings -/

/-- A text spells a name: it differs from it in the case of letters, in one dot behind it and in
white space around it at most. -/
def Writes (text name : String) : Prop :=
  ∃ written dot, SameLetters written name ∧ (dot = "" ∨ dot = ".") ∧ Padded (written ++ dot) text

/-- There is no white space in what spells a name, but around it. -/
theorem noBlank_of_sameLetters {written name : String} (hname : IsName name.toList)
    (hcase : SameLetters written name) : ∀ c ∈ written.toList, isBlank c = false := by
  intro c hc
  rw [SameLetters, toLower_name hname] at hcase
  have hmem : c.toLower ∈ name.toList := hcase ▸ List.mem_map_of_mem hc
  have hrange := toNat_of_mem_name hname hmem
  rw [← isBlank_toLower]
  exact isBlank_eq_false (by omega) (by omega)

/-- A text that spells a name is brought to the name. -/
theorem spelling_of_writes {text name : String} (hname : IsName name.toList)
    (h : Writes text name) : spelling text = name.toList := by
  obtain ⟨written, dot, hcase, hdot, hpad⟩ := h
  have hblank := noBlank_of_sameLetters hname hcase
  rw [SameLetters, toLower_name hname] at hcase
  have htrim : trim text.toList = written.toList ++ dot.toList := by
    have hpadded := congrArg String.toList hpad.trimmed_eq
    rw [trimmed, trimmed, String.toList_ofList, String.toList_ofList, String.toList_append]
      at hpadded
    rw [hpadded]
    refine trim_of_isTrimmed (isTrimmed_of_forall fun c hc => ?_)
    rcases List.mem_append.mp hc with hc | hc
    · exact hblank c hc
    · rcases hdot with rfl | rfl
      · simp at hc
      · obtain rfl : c = '.' := by simpa using hc
        decide
  unfold spelling
  rw [htrim]
  rcases hdot with rfl | rfl
  · have hlast : written.toList.getLast? ≠ some '.' := by
      intro hlast
      refine last_name hname ?_
      rw [← hcase, List.getLast?_map, hlast]
      rfl
    rw [show "".toList = [] from rfl, List.append_nil]
    simp only [if_neg hlast, hcase]
  · have hlast : (written.toList ++ ['.']).getLast? = some '.' := List.getLast?_concat
    rw [show ".".toList = ['.'] from rfl]
    simp only [if_pos hlast, List.dropLast_concat, hcase]

/-- What a text is brought to is spelt by the text. -/
theorem writes_of_spelling {text name : String} (h : spelling text = name.toList) :
    Writes text name := by
  obtain ⟨before, after, hbefore, hafter, htext⟩ := exists_append_trim text.toList
  have hcase : ∀ written : String, written.toList.map Char.toLower = name.toList →
      SameLetters written name := by
    intro written hwritten
    rw [SameLetters, ← hwritten, map_toLower_map_toLower]
  unfold spelling at h
  by_cases hlast : (trim text.toList).getLast? = some '.'
  · obtain ⟨front, hfront⟩ := List.getLast?_eq_some_iff.mp hlast
    simp only [if_pos hlast] at h
    rw [hfront, List.dropLast_concat] at h
    refine ⟨String.ofList front, ".", hcase _ (by simpa using h), Or.inr rfl, before, after,
      hbefore, hafter, ?_⟩
    rw [htext, hfront]
    simp
  · simp only [if_neg hlast] at h
    refine ⟨String.ofList (trim text.toList), "", hcase _ (by simpa using h), Or.inl rfl, before,
      after, hbefore, hafter, ?_⟩
    simpa using htext

/-- **A text is normalized to the name that it spells.** -/
theorem normalize?_eq_some_iff_writes {text name : String} :
    normalize? text = some name ↔ Name name ∧ Writes text name := by
  rw [normalize?_eq_some_iff, ← isName_iff]
  constructor
  · rintro ⟨hname, rfl⟩
    rw [String.toList_ofList]
    exact ⟨hname, writes_of_spelling String.toList_ofList.symm⟩
  · rintro ⟨hname, hwrites⟩
    rw [spelling_of_writes hname hwrites, String.ofList_toList]
    exact ⟨hname, rfl⟩

/--
**A text is normalized to the domain name that it spells, and to nothing if it spells none.**

* What is normalized at all is what comes to a name when the white space around it, one dot
  behind it and the case of its letters are taken away, and it is normalized to that name.
* This is the name that it spells, so all texts that differ from a name in these three ways only
  are normalized to it, and two texts are normalized to one name exactly if they spell one.
* The home of an agent is the name that its native identifier spells, and the domain of a record
  the one that its field spells.
* A label is what its pattern says, up to 63 characters of it.
-/
theorem normalizes_exactly (text text' name label : String) (u : Uaid) (fields : Dict String) :
    (normalize? text = some name ↔ Name name ∧ name = String.ofList (spelling text)) ∧
    (normalize? text = some name ↔ Name name ∧ Writes text name) ∧
    ((∃ name, normalize? text = some name ∧ normalize? text' = some name) ↔
      ∃ name, Name name ∧ Writes text name ∧ Writes text' name) ∧
    (u.home? = some name ↔ ∃ native, u.param? Uaid.Key.nativeId = some native ∧
      Name name ∧ Writes native name) ∧
    (Binding.domain? fields = some (some name) ↔ ∃ domain,
      fields.get? Uaid.Key.domain = some domain ∧ Name name ∧ Writes domain name) ∧
    (Label label ↔ label.length ≤ 63 ∧ label.toList ∈ pattern) := by
  refine ⟨?_, normalize?_eq_some_iff_writes, ?_, ?_, ?_, label_iff_mem_pattern⟩
  · rw [normalize?_eq_some_iff]
    refine and_congr_left ?_
    rintro rfl
    rw [← isName_iff, String.toList_ofList]
  · simp only [normalize?_eq_some_iff_writes]
    exact exists_congr fun name => ⟨fun ⟨⟨hname, h⟩, _, h'⟩ => ⟨hname, h, h'⟩,
      fun ⟨hname, h, h'⟩ => ⟨⟨hname, h⟩, hname, h'⟩⟩
  · simp only [Uaid.home?, Option.bind_eq_some_iff, normalize?_eq_some_iff_writes]
  · simp only [← normalize?_eq_some_iff_writes]
    rw [Binding.domain?_eq_some_iff, Option.bind_eq_some_iff]
    refine and_iff_left_of_imp ?_
    rintro ⟨domain, hdomain, hname⟩ other hother
    obtain rfl : domain = other := Option.some.inj (hdomain.symm.trans hother)
    rw [hname]
    rfl

end AgentId.Fqdn
