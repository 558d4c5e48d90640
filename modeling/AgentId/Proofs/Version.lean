/-
The grammar of versions.

A version is put together from three numbers and from the words of a pre-release and of a build
(`Parts`).  `Parts.WellFormed` says which parts there may be, for numbers in digits of a given
kind, and `Parts.Semantic` which of them the standard for semantic versions allows.

The reader does not build the parts.  It cuts the text at the first plus sign, what is in front of
that at the first hyphen, and what is left at its dots.  Since no mark can stand in what is in
front of it, this finds the parts whenever there are any (`isVersion_iff`), and there is one way
only to have them (`Parts.text_injective`).  The pattern that versions are known by matches the
same texts, with a `v` in front or without (`mem_pattern_iff`).

The reader takes more than the standard allows, and in two ways: behind its first digit a number
may have digits of every script, and a number among the words of a pre-release may have zeros in
front of it (`Parts.semantic_iff`).
-/
import AgentId.Version
import AgentId.Proofs.Caip.Rules
import AgentId.Proofs.Text.Language

namespace AgentId.Version

open Text
open Caip (Capital Digit)
open scoped Computability

/-! ### Numbers and words -/

/-- A decimal digit of any script. -/
def AnyDigit (c : Char) : Prop := isDecimalDigit c = true

/-- A number without zeros in front, in digits of some kind behind its first. -/
def Number (digit : Char → Prop) (number : String) : Prop :=
  number = "0" ∨ ∃ first rest, number.toList = first :: rest ∧ '1' ≤ first ∧ first ≤ '9' ∧
    ∀ c ∈ rest, digit c

/-- A letter, a digit or a hyphen. -/
def WordChar (c : Char) : Prop := c = '-' ∨ Caip.Small c ∨ Capital c ∨ Digit c

/-- A word of letters, digits and hyphens. -/
def Word (word : String) : Prop := word ≠ "" ∧ ∀ c ∈ word.toList, WordChar c

theorem anyDigit_of_digit {c : Char} (h : Digit c) : AnyDigit c :=
  isDecimalDigit_of_isDigit (Caip.isDigit_iff.mpr h)

theorem isNumber_iff {number : String} :
    isNumber number.toList = true ↔ Number AnyDigit number := by
  unfold Number AnyDigit
  rw [← String.toList_inj]
  cases number.toList with
  | nil => simp [isNumber]
  | cons c cs =>
      simp only [isNumber, Bool.or_eq_true, Bool.and_eq_true, beq_iff_eq, List.isEmpty_iff,
        decide_eq_true_iff, List.all_eq_true]
      simp [and_assoc]

theorem isWord_iff {word : String} : isWord word.toList = true ↔ Word word := by
  simp only [isWord, Word, Bool.and_eq_true, List.all_eq_true, Bool.or_eq_true, beq_iff_eq,
    Caip.isAlphanum_iff]
  refine and_congr (by simp) (forall₂_congr fun c _ => or_comm)

/-- The first character of a number is one of the ten digits. -/
theorem Number.exists_first {digit : Char → Prop} {number : String} (h : Number digit number) :
    ∃ first rest, number.toList = first :: rest ∧ Digit first ∧ ∀ c ∈ rest, digit c := by
  rcases h with rfl | ⟨first, rest, hnumber, hlow, hhigh, hrest⟩
  · exact ⟨'0', [], rfl, by unfold Digit; decide, by simp⟩
  · exact ⟨first, rest, hnumber, ⟨Char.le_trans (by decide) hlow, hhigh⟩, hrest⟩

theorem Number.anyDigit {number : String} (h : Number AnyDigit number) :
    ∀ c ∈ number.toList, AnyDigit c := by
  obtain ⟨first, rest, hnumber, hfirst, hrest⟩ := h.exists_first
  rw [hnumber, List.forall_mem_cons]
  exact ⟨anyDigit_of_digit hfirst, hrest⟩

/-- A number has no character of ASCII but the ten digits. -/
theorem Number.not_mem {number : String} (h : Number AnyDigit number) {c : Char}
    (hc : c.toNat < 0x80 ∧ c.isDigit = false) : c ∉ number.toList := by
  intro hmem
  have hdigit : isDecimalDigit c = true := h.anyDigit c hmem
  rw [isDecimalDigit_ascii hc.1, hc.2] at hdigit
  cases hdigit

/-- In digits of ASCII only, a number is one in digits of any script. -/
theorem number_digit_iff {number : String} :
    Number Digit number ↔ Number AnyDigit number ∧ ∀ c ∈ number.toList, Digit c := by
  constructor
  · intro h
    obtain ⟨first, rest, hnumber, hfirst, hrest⟩ := h.exists_first
    refine ⟨h.imp_right ?_, ?_⟩
    · rintro ⟨first, rest, hnumber, hlow, hhigh, hrest⟩
      exact ⟨first, rest, hnumber, hlow, hhigh, fun c hc => anyDigit_of_digit (hrest c hc)⟩
    · rw [hnumber, List.forall_mem_cons]
      exact ⟨hfirst, hrest⟩
  · rintro ⟨h, hdigits⟩
    refine h.imp_right ?_
    rintro ⟨first, rest, hnumber, hlow, hhigh, -⟩
    rw [hnumber, List.forall_mem_cons] at hdigits
    exact ⟨first, rest, hnumber, hlow, hhigh, hdigits.2⟩

theorem Word.not_mem {word : String} (h : Word word) {c : Char} (hc : c = '.' ∨ c = '+') :
    c ∉ word.toList := by
  intro hmem
  have hkind := h.2 c hmem
  revert hkind
  unfold WordChar Caip.Small Capital Digit
  rcases hc with rfl | rfl <;> decide

/-! ### Words behind a mark -/

/-- Words between dots behind a mark, if there are any. -/
def suffix (mark : Char) : List String → String
  | [] => ""
  | word :: words => String.singleton mark ++ ".".intercalate (word :: words)

theorem toList_suffix_cons (mark : Char) (word : String) (words : List String) :
    (suffix mark (word :: words)).toList =
      mark :: (".".intercalate (word :: words)).toList := by
  simp [suffix]

theorem splitOn_words {words : List String} (hne : words ≠ [])
    (hwords : ∀ word ∈ words, Word word) :
    (".".intercalate words).toList.splitOn '.' = words.map String.toList :=
  splitOn_dot_intercalate hne fun word hword => (hwords word hword).not_mem (Or.inl rfl)

theorem areWords_iff {cs : List Char} : areWords cs = true ↔
    ∃ words : List String, words ≠ [] ∧ (∀ word ∈ words, Word word) ∧
      cs = (".".intercalate words).toList := by
  rw [areWords, List.all_eq_true]
  constructor
  · intro h
    refine ⟨(cs.splitOn '.').map String.ofList, by simp [List.splitOn_ne_nil], ?_, ?_⟩
    · intro word hword
      obtain ⟨piece, hpiece, rfl⟩ := List.mem_map.mp hword
      rw [← isWord_iff, String.toList_ofList]
      exact h piece hpiece
    · rw [intercalate_splitOn_dot, String.toList_ofList]
  · rintro ⟨words, hne, hwords, rfl⟩ piece hpiece
    rw [splitOn_words hne hwords] at hpiece
    obtain ⟨word, hword, rfl⟩ := List.mem_map.mp hpiece
    exact isWord_iff.mpr (hwords word hword)

/-- **What is in front of a mark does not have it**, and words are behind it. -/
theorem before?_eq_some_iff {mark : Char} {cs start : List Char} :
    before? mark cs = some start ↔ mark ∉ start ∧ ∃ words : List String,
      (∀ word ∈ words, Word word) ∧ cs = start ++ (suffix mark words).toList := by
  unfold before?
  constructor
  · intro h
    split at h
    · rename_i hcut
      obtain rfl := Option.some.inj h
      exact ⟨cut?_eq_none_iff.mp hcut, [], by simp, by simp [suffix]⟩
    · rename_i front behind hcut
      split at h
      · rename_i hwords
        obtain rfl := Option.some.inj h
        obtain ⟨rfl, hmark⟩ := cut?_eq_some_iff.mp hcut
        obtain ⟨words, hne, hword, rfl⟩ := areWords_iff.mp hwords
        obtain ⟨word, rest, rfl⟩ := List.exists_cons_of_ne_nil hne
        exact ⟨hmark, word :: rest, hword, by rw [toList_suffix_cons]⟩
      · cases h
  · rintro ⟨hmark, words, hwords, rfl⟩
    cases words with
    | nil =>
        have hcut : cut? mark (start ++ (suffix mark []).toList) = none := by
          rwa [cut?_eq_none_iff, suffix, String.toList_empty, List.append_nil]
        rw [hcut]
        simp [suffix]
    | cons word words =>
        have hwords : areWords (".".intercalate (word :: words)).toList = true :=
          areWords_iff.mpr ⟨word :: words, by simp, hwords, rfl⟩
        rw [toList_suffix_cons, cut?_eq_some_iff.mpr ⟨rfl, hmark⟩]
        simp only [hwords, if_true]

/-- Behind a mark there are dots and the characters of the words. -/
theorem mem_suffix {mark : Char} {words : List String} (hwords : ∀ word ∈ words, Word word)
    {c : Char} (h : c ∈ (suffix mark words).toList) :
    c = mark ∨ c = '.' ∨ ∃ word ∈ words, c ∈ word.toList := by
  cases words with
  | nil => simp [suffix] at h
  | cons word words =>
      rw [toList_suffix_cons, List.mem_cons] at h
      refine h.imp_right fun hmem => (eq_or_mem_splitOn hmem).imp_right ?_
      rintro ⟨piece, hpiece, hc⟩
      rw [splitOn_words (List.cons_ne_nil _ _) hwords] at hpiece
      obtain ⟨w, hw, rfl⟩ := List.mem_map.mp hpiece
      exact ⟨w, hw, hc⟩

/-- Words are known from what is behind a mark. -/
theorem suffix_injective {mark : Char} {words words' : List String}
    (hwords : ∀ word ∈ words, Word word) (hwords' : ∀ word ∈ words', Word word)
    (h : suffix mark words = suffix mark words') : words = words' := by
  cases words with
  | nil =>
      cases words' with
      | nil => rfl
      | cons word' words' => simpa [suffix] using congrArg String.toList h
  | cons word words =>
      cases words' with
      | nil => simpa [suffix] using congrArg String.toList h
      | cons word' words' =>
          have hjoined := (String.append_right_inj _).mp h
          have hsplit := congrArg (fun s : String => s.toList.splitOn '.') hjoined
          simp only [splitOn_words (List.cons_ne_nil _ _) hwords,
            splitOn_words (List.cons_ne_nil _ _) hwords'] at hsplit
          exact List.map_injective_iff.mpr (fun _ _ => String.toList_injective) hsplit

/-- Where a mark ends a text is known from the text, and so are the words behind it. -/
theorem append_suffix_inj {mark : Char} {start start' : String} {words words' : List String}
    (hmark : mark ∉ start.toList) (hmark' : mark ∉ start'.toList)
    (hwords : ∀ word ∈ words, Word word) (hwords' : ∀ word ∈ words', Word word)
    (h : start ++ suffix mark words = start' ++ suffix mark words') :
    start = start' ∧ words = words' := by
  have hbefore : before? mark (start ++ suffix mark words).toList = some start.toList :=
    before?_eq_some_iff.mpr ⟨hmark, words, hwords, String.toList_append⟩
  have hbefore' : before? mark (start ++ suffix mark words).toList = some start'.toList :=
    before?_eq_some_iff.mpr ⟨hmark', words', hwords', by rw [h, String.toList_append]⟩
  obtain rfl : start = start' :=
    String.toList_injective (Option.some.inj (hbefore.symm.trans hbefore'))
  exact ⟨rfl, suffix_injective hwords hwords' ((String.append_right_inj _).mp h)⟩

/-! ### Versions -/

/-- The parts of a version. -/
@[ext]
structure Parts where
  major : String
  minor : String
  patch : String
  prerelease : List String
  build : List String

namespace Parts

/-- The three numbers with dots between them. -/
def core (p : Parts) : String := p.major ++ "." ++ p.minor ++ "." ++ p.patch

/-- The version that is put together from its parts. -/
def text (p : Parts) : String := p.core ++ suffix '-' p.prerelease ++ suffix '+' p.build

/-- The numbers have no zeros in front, in digits of some kind, and the words are words. -/
structure WellFormed (digit : Char → Prop) (p : Parts) : Prop where
  numbers : ∀ number ∈ [p.major, p.minor, p.patch], Number digit number
  prerelease : ∀ word ∈ p.prerelease, Word word
  build : ∀ word ∈ p.build, Word word

/-- No word of the pre-release is a number with zeros in front. -/
def Unpadded (p : Parts) : Prop :=
  ∀ word ∈ p.prerelease, (∀ c ∈ word.toList, Digit c) → Number Digit word

/-- The parts of a semantic version, by the standard. -/
structure Semantic (p : Parts) : Prop where
  formed : p.WellFormed Digit
  unpadded : p.Unpadded

end Parts

theorem isCore_iff {cs : List Char} : isCore cs = true ↔
    ∃ major minor patch : String, (∀ number ∈ [major, minor, patch], Number AnyDigit number) ∧
      cs = (major ++ "." ++ minor ++ "." ++ patch).toList := by
  unfold isCore
  simp only [Bool.and_eq_true, beq_iff_eq, List.all_eq_true, List.length_eq_three]
  constructor
  · rintro ⟨⟨a, b, c, hsplit⟩, hnumbers⟩
    rw [hsplit] at hnumbers
    refine ⟨String.ofList a, String.ofList b, String.ofList c, ?_, ?_⟩
    · simpa [← isNumber_iff] using hnumbers
    · rw [(splitOn_eq_three_iff.mp hsplit).1]
      simp
  · rintro ⟨major, minor, patch, hnumbers, rfl⟩
    have hsplit : (major ++ "." ++ minor ++ "." ++ patch).toList.splitOn '.' =
        [major.toList, minor.toList, patch.toList] := by
      refine splitOn_eq_three_iff.mpr ⟨by simp, ?_, ?_, ?_⟩ <;>
        exact (hnumbers _ (by simp)).not_mem (by decide)
    refine ⟨⟨_, _, _, hsplit⟩, ?_⟩
    rw [hsplit]
    simpa [← isNumber_iff] using hnumbers

namespace Parts

variable {p q : Parts}

theorem mem_core {c : Char} (h : c ∈ p.core.toList) :
    c = '.' ∨ ∃ number ∈ [p.major, p.minor, p.patch], c ∈ number.toList := by
  simp only [core, String.toList_append, List.mem_append] at h
  simp only [List.exists_mem_cons_iff]
  grind

/-- The numbers have neither a hyphen nor a plus sign. -/
theorem WellFormed.not_mem_core (h : p.WellFormed AnyDigit) {mark : Char}
    (hmark : mark = '-' ∨ mark = '+') : mark ∉ p.core.toList := by
  intro hmem
  rcases mem_core hmem with rfl | ⟨number, hnumber, hin⟩
  · exact absurd hmark (by decide)
  · refine (h.numbers number hnumber).not_mem ?_ hin
    rcases hmark with rfl | rfl <;> decide

/-- No plus sign is in front of the build. -/
theorem WellFormed.not_mem_front (h : p.WellFormed AnyDigit) :
    '+' ∉ (p.core ++ suffix '-' p.prerelease).toList := by
  rw [String.toList_append, List.mem_append, not_or]
  refine ⟨h.not_mem_core (Or.inr rfl), fun hmem => ?_⟩
  rcases mem_suffix h.prerelease hmem with hmark | hdot | ⟨word, hword, hin⟩
  · exact absurd hmark (by decide)
  · exact absurd hdot (by decide)
  · exact (h.prerelease word hword).not_mem (Or.inr rfl) hin

/-- **A version has its parts in one way only.** -/
theorem text_injective (hp : p.WellFormed AnyDigit) (hq : q.WellFormed AnyDigit)
    (h : p.text = q.text) : p = q := by
  obtain ⟨hfront, hbuild⟩ :=
    append_suffix_inj hp.not_mem_front hq.not_mem_front hp.build hq.build h
  obtain ⟨hcore, hprerelease⟩ := append_suffix_inj (hp.not_mem_core (Or.inl rfl))
    (hq.not_mem_core (Or.inl rfl)) hp.prerelease hq.prerelease hfront
  have hnumbers : p.major.toList = q.major.toList ∧ p.minor.toList = q.minor.toList ∧
      p.patch.toList = q.patch.toList := by
    have hdot : ∀ number ∈ [q.major, q.minor, q.patch], '.' ∉ number.toList :=
      fun number hmem => (hq.numbers number hmem).not_mem (by decide)
    refine three_parts_inj (hdot _ (by simp)) (hdot _ (by simp)) (hdot _ (by simp)) ?_
    simpa [core] using congrArg String.toList hcore
  obtain ⟨hmajor, hminor, hpatch⟩ := hnumbers
  exact Parts.ext (String.toList_injective hmajor) (String.toList_injective hminor)
    (String.toList_injective hpatch) hprerelease hbuild

end Parts

/-! ### What is read -/

/-- **The texts that are read are those that are put together from well-formed parts.** -/
theorem isVersion_iff {cs : List Char} :
    isVersion cs = true ↔ ∃ p : Parts, p.WellFormed AnyDigit ∧ p.text.toList = cs := by
  simp only [isVersion, Option.any_eq_true, Option.bind_eq_some_iff]
  constructor
  · rintro ⟨_, ⟨front, hfront, hcore⟩, hread⟩
    obtain ⟨-, build, hbuild, rfl⟩ := before?_eq_some_iff.mp hfront
    obtain ⟨-, prerelease, hprerelease, rfl⟩ := before?_eq_some_iff.mp hcore
    obtain ⟨major, minor, patch, hnumbers, rfl⟩ := isCore_iff.mp hread
    exact ⟨⟨major, minor, patch, prerelease, build⟩, ⟨hnumbers, hprerelease, hbuild⟩,
      by simp only [Parts.text, Parts.core, String.toList_append]⟩
  · rintro ⟨p, h, rfl⟩
    refine ⟨p.core.toList, ⟨(p.core ++ suffix '-' p.prerelease).toList, ?_, ?_⟩, ?_⟩
    · exact before?_eq_some_iff.mpr
        ⟨h.not_mem_front, p.build, h.build, String.toList_append⟩
    · exact before?_eq_some_iff.mpr
        ⟨h.not_mem_core (Or.inl rfl), p.prerelease, h.prerelease, String.toList_append⟩
    · exact isCore_iff.mpr ⟨p.major, p.minor, p.patch, h.numbers, rfl⟩

/-! ### White space and the letter in front -/

/-- No decimal digit of any script is white space: the table has no run where there is any. -/
theorem isBlank_of_anyDigit {c : Char} (h : AnyDigit c) : isBlank c = false := by
  have hclear : ∀ run ∈ foreignDigits.runs.toList, 0xA1 ≤ run.1 ∧ run.2 ≤ 0x167F ∨
      0x1681 ≤ run.1 ∧ run.2 ≤ 0x1FFF ∨ 0x3001 ≤ run.1 := by
    decide +kernel
  rw [AnyDigit, isDecimalDigit, Bool.or_eq_true, Bool.and_eq_true] at h
  rcases h with hten | ⟨-, hforeign⟩
  · exact Percent.isBlank_of_isUnreserved (by simp [Percent.isUnreserved, Char.isAlphanum, hten])
  · rw [CodeSet.contains, ← Array.any_toList, List.any_eq_true] at hforeign
    obtain ⟨run, hrun, hin⟩ := hforeign
    have hrange := hclear run hrun
    simp only [Bool.and_eq_true, decide_eq_true_iff] at hin
    simp only [isBlank, Bool.or_eq_false_iff, Bool.and_eq_false_iff, decide_eq_false_iff_not,
      beq_eq_false_iff_ne]
    omega

theorem Word.isBlank_of_mem {word : String} (h : Word word) {c : Char} (hc : c ∈ word.toList) :
    isBlank c = false := by
  rcases h.2 c hc with rfl | halphanum
  · decide
  · rw [← Caip.isAlphanum_iff] at halphanum
    exact Percent.isBlank_of_isUnreserved (by simp [Percent.isUnreserved, halphanum])

namespace Parts

variable {p q : Parts}

theorem WellFormed.isBlank_of_mem (h : p.WellFormed AnyDigit) {c : Char}
    (hc : c ∈ p.text.toList) : isBlank c = false := by
  have hwords : ∀ mark words, (mark = '-' ∨ mark = '+') → (∀ word ∈ words, Word word) →
      c ∈ (suffix mark words).toList → isBlank c = false := by
    intro mark words hmark hwords hmem
    rcases mem_suffix hwords hmem with rfl | rfl | ⟨word, hword, hin⟩
    · rcases hmark with rfl | rfl <;> decide
    · decide
    · exact (hwords word hword).isBlank_of_mem hin
  rw [text, String.toList_append, String.toList_append, List.mem_append, List.mem_append] at hc
  rcases hc with (hcore | hprerelease) | hbuild
  · rcases mem_core hcore with rfl | ⟨number, hnumber, hin⟩
    · decide
    · exact isBlank_of_anyDigit ((h.numbers number hnumber).anyDigit c hin)
  · exact hwords '-' p.prerelease (Or.inl rfl) h.prerelease hprerelease
  · exact hwords '+' p.build (Or.inr rfl) h.build hbuild

/-- There is no white space in a version. -/
theorem WellFormed.trimmed_text (h : p.WellFormed AnyDigit) : trimmed p.text = p.text :=
  trimmed_of_isTrimmed (isTrimmed_of_forall fun _ hc => h.isBlank_of_mem hc)

/-- A version starts with a digit. -/
theorem WellFormed.exists_first (h : p.WellFormed AnyDigit) :
    ∃ first rest, p.text.toList = first :: rest ∧ Digit first := by
  obtain ⟨first, rest, hmajor, hfirst, -⟩ := (h.numbers p.major (by simp)).exists_first
  refine ⟨first, rest ++ ("." ++ p.minor ++ "." ++ p.patch ++ suffix '-' p.prerelease ++
    suffix '+' p.build).toList, ?_, hfirst⟩
  simp [text, core, hmajor]

/-- What a semantic version is besides what is read: its digits are those of ASCII, and its
pre-release has no numbers with zeros in front. -/
theorem semantic_iff : p.Semantic ↔ p.WellFormed AnyDigit ∧
    (∀ number ∈ [p.major, p.minor, p.patch], ∀ c ∈ number.toList, Digit c) ∧ p.Unpadded := by
  constructor
  · rintro ⟨⟨hnumbers, hprerelease, hbuild⟩, hunpadded⟩
    exact ⟨⟨fun number hmem => (number_digit_iff.mp (hnumbers number hmem)).1, hprerelease, hbuild⟩,
      fun number hmem => (number_digit_iff.mp (hnumbers number hmem)).2, hunpadded⟩
  · rintro ⟨⟨hnumbers, hprerelease, hbuild⟩, hdigits, hunpadded⟩
    exact ⟨⟨fun number hmem => number_digit_iff.mpr ⟨hnumbers number hmem, hdigits number hmem⟩,
      hprerelease, hbuild⟩, hunpadded⟩

/-- What is put together from other parts is no semantic version. -/
theorem Semantic.text_ne (hp : p.Semantic) (hq : q.WellFormed AnyDigit) (h : ¬ q.Semantic) :
    p.text ≠ q.text := by
  intro heq
  exact h (text_injective (semantic_iff.mp hp).1 hq heq ▸ hp)

end Parts

/-- A text says a version: with white space around it and a `v` in front of it at most. -/
def Says (text version : String) : Prop :=
  trimmed text = version ∨ trimmed text = "v" ++ version

theorem says_iff {text version : String} : Says text version ↔
    trim text.toList = version.toList ∨ trim text.toList = 'v' :: version.toList := by
  rw [Says, ← String.toList_inj, ← @String.toList_inj _ ("v" ++ version), trimmed,
    String.toList_ofList]
  simp

/-- **A text is normalized to the version that it says.** -/
theorem normalize?_eq_some_iff {text version : String} :
    normalize? text = some version ↔
      Says text version ∧ ∃ p : Parts, p.WellFormed AnyDigit ∧ p.text = version := by
  have hread : ∀ cs : List Char,
      (if isVersion cs = true then some (String.ofList cs) else none) = some version ↔
        cs = version.toList ∧ ∃ p : Parts, p.WellFormed AnyDigit ∧ p.text = version := by
    intro cs
    rw [Option.ite_none_right_eq_some, Option.some.injEq, isVersion_iff, and_comm,
      ← String.toList_inj, String.toList_ofList]
    refine and_congr_right ?_
    rintro rfl
    simp only [String.toList_inj]
  rw [says_iff]
  unfold normalize?
  generalize trim text.toList = cs
  dsimp only
  split
  · rename_i rest
    refine (hread rest).trans (and_congr_left ?_)
    rintro ⟨p, hformed, rfl⟩
    obtain ⟨first, behind, hfirst, hdigit⟩ := hformed.exists_first
    have hne : 'v' :: rest ≠ p.text.toList := by
      rw [hfirst]
      rintro heq
      rw [← (List.cons.inj heq).1] at hdigit
      exact absurd hdigit.2 (by decide)
    simp [hne]
  · rename_i hv
    have hne : cs ≠ 'v' :: version.toList := hv _
    simp only [hread, hne, or_false]

/-- A normalized version says itself. -/
theorem normalize?_of_normalize? {text version : String} (h : normalize? text = some version) :
    normalize? version = some version := by
  obtain ⟨-, p, hformed, rfl⟩ := normalize?_eq_some_iff.mp h
  exact normalize?_eq_some_iff.mpr ⟨Or.inl hformed.trimmed_text, p, hformed, rfl⟩

/-- **Two texts are normalized to one version if they say one**, and it has its parts in one way. -/
theorem exists_normalize?_iff {text text' : String} :
    (∃ version, normalize? text = some version ∧ normalize? text' = some version) ↔
      ∃! p : Parts, p.WellFormed AnyDigit ∧ Says text p.text ∧ Says text' p.text := by
  constructor
  · rintro ⟨_, h, h'⟩
    obtain ⟨hsaid, p, hformed, rfl⟩ := normalize?_eq_some_iff.mp h
    refine ⟨p, ⟨hformed, hsaid, (normalize?_eq_some_iff.mp h').1⟩, ?_⟩
    rintro q ⟨hformed', hsaid', -⟩
    have hsame := normalize?_eq_some_iff.mpr ⟨hsaid', q, hformed', rfl⟩
    exact Parts.text_injective hformed' hformed (Option.some.inj (hsame.symm.trans h))
  · rintro ⟨p, ⟨hformed, hsaid, hsaid'⟩, -⟩
    exact ⟨p.text, normalize?_eq_some_iff.mpr ⟨hsaid, p, hformed, rfl⟩,
      normalize?_eq_some_iff.mpr ⟨hsaid', p, hformed, rfl⟩⟩

/-! ### The pattern -/

/-- The language of `0|[1-9]\d*`, for digits of any script. -/
def numberPattern : Language Char :=
  oneOf (· = '0') + oneOf (fun c => '1' ≤ c ∧ c ≤ '9') * (oneOf AnyDigit)∗

/-- The language of `[0-9A-Za-z-]+`. -/
def wordPattern : Language Char := oneOf WordChar * (oneOf WordChar)∗

/-- The language of words behind a mark, such as `(-[0-9A-Za-z-]+(\.[0-9A-Za-z-]+)*)?`. -/
def suffixPattern (mark : Char) : Language Char :=
  optional (oneOf (· = mark) * joined '.' wordPattern)

/-- The language of three numbers with dots between them. -/
def corePattern : Language Char :=
  numberPattern * oneOf (· = '.') * numberPattern * oneOf (· = '.') * numberPattern

/-- The language of the pattern that versions are matched with. -/
def pattern : Language Char :=
  optional (oneOf (· = 'v')) * corePattern * suffixPattern '-' * suffixPattern '+'

theorem mem_numberPattern_iff {number : String} :
    number.toList ∈ numberPattern ↔ Number AnyDigit number := by
  rw [numberPattern, Language.mem_add, mem_oneOf_mul_kstar_iff, Number, ← String.toList_inj]
  simp [mem_oneOf_iff, and_assoc]

theorem mem_wordPattern_iff {word : String} : word.toList ∈ wordPattern ↔ Word word := by
  rw [wordPattern, mem_oneOf_mul_kstar_iff, Word, Ne, ← String.toList_inj]
  cases word.toList with
  | nil => simp
  | cons c cs => simp [WordChar]

theorem mem_suffixPattern_iff {mark : Char} {cs : List Char} : cs ∈ suffixPattern mark ↔
    ∃ words : List String, (∀ word ∈ words, Word word) ∧ cs = (suffix mark words).toList := by
  simp only [suffixPattern, mem_optional_iff, mem_mark_mul_iff, mem_joined_iff]
  constructor
  · rintro (rfl | ⟨_, ⟨pieces, hne, hpieces, rfl⟩, rfl⟩)
    · exact ⟨[], by simp, rfl⟩
    · obtain ⟨piece, pieces, rfl⟩ := List.exists_cons_of_ne_nil hne
      refine ⟨(piece :: pieces).map String.ofList, fun word hword => ?_, ?_⟩
      · obtain ⟨w, hw, rfl⟩ := List.mem_map.mp hword
        rw [← mem_wordPattern_iff, String.toList_ofList]
        exact hpieces w hw
      · simp [suffix, Function.comp_def]
  · rintro ⟨words, hwords, rfl⟩
    cases words with
    | nil => exact Or.inl rfl
    | cons word words =>
        refine Or.inr ⟨_, ⟨(word :: words).map String.toList, by simp, ?_, rfl⟩, ?_⟩
        · intro piece hpiece
          obtain ⟨w, hw, rfl⟩ := List.mem_map.mp hpiece
          exact mem_wordPattern_iff.mpr (hwords w hw)
        · simp [suffix]

theorem mem_corePattern_iff {cs : List Char} : cs ∈ corePattern ↔
    ∃ major minor patch : String, (∀ number ∈ [major, minor, patch], Number AnyDigit number) ∧
      cs = (major ++ "." ++ minor ++ "." ++ patch).toList := by
  constructor
  · intro h
    simp only [corePattern, Language.mem_mul] at h
    obtain ⟨_, ⟨_, ⟨_, ⟨major, hmajor, _, ⟨_, rfl, rfl⟩, rfl⟩, minor, hminor, rfl⟩, _,
      ⟨_, rfl, rfl⟩, rfl⟩, patch, hpatch, rfl⟩ := h
    refine ⟨String.ofList major, String.ofList minor, String.ofList patch, ?_, by simp⟩
    simp only [← mem_numberPattern_iff, List.forall_mem_cons, String.toList_ofList]
    exact ⟨hmajor, hminor, hpatch, by simp⟩
  · rintro ⟨major, minor, patch, hnumbers, rfl⟩
    simp only [← mem_numberPattern_iff, List.forall_mem_cons] at hnumbers
    obtain ⟨hmajor, hminor, hpatch, -⟩ := hnumbers
    have hdot : ['.'] ∈ oneOf (· = '.') := ⟨'.', rfl, rfl⟩
    simp only [String.toList_append]
    exact Language.append_mem_mul (Language.append_mem_mul (Language.append_mem_mul
      (Language.append_mem_mul hmajor hdot) hminor) hdot) hpatch

/-- **The pattern matches the versions and nothing else**, with a `v` in front or without. -/
theorem mem_pattern_iff {cs : List Char} : cs ∈ pattern ↔
    ∃ p : Parts, p.WellFormed AnyDigit ∧ (cs = p.text.toList ∨ cs = 'v' :: p.text.toList) := by
  constructor
  · intro h
    simp only [pattern, Language.mem_mul, mem_optional_iff] at h
    obtain ⟨_, ⟨_, ⟨lead, hlead, _, hcore, rfl⟩, _, hminus, rfl⟩, _, hplus, rfl⟩ := h
    obtain ⟨major, minor, patch, hnumbers, rfl⟩ := mem_corePattern_iff.mp hcore
    obtain ⟨prerelease, hprerelease, rfl⟩ := mem_suffixPattern_iff.mp hminus
    obtain ⟨build, hbuild, rfl⟩ := mem_suffixPattern_iff.mp hplus
    refine ⟨⟨major, minor, patch, prerelease, build⟩, ⟨hnumbers, hprerelease, hbuild⟩, ?_⟩
    rcases hlead with rfl | ⟨c, rfl, rfl⟩
    · exact Or.inl (by simp [Parts.text, Parts.core])
    · exact Or.inr (by simp [Parts.text, Parts.core])
  · rintro ⟨p, h, htext⟩
    have hcore : p.core.toList ∈ corePattern := mem_corePattern_iff.mpr ⟨_, _, _, h.numbers, rfl⟩
    have hprerelease : (suffix '-' p.prerelease).toList ∈ suffixPattern '-' :=
      mem_suffixPattern_iff.mpr ⟨_, h.prerelease, rfl⟩
    have hbuild : (suffix '+' p.build).toList ∈ suffixPattern '+' :=
      mem_suffixPattern_iff.mpr ⟨_, h.build, rfl⟩
    have hled : ∀ lead ∈ optional (oneOf (· = 'v')), lead ++ p.text.toList ∈ pattern := by
      intro lead hlead
      simp only [Parts.text, String.toList_append, ← List.append_assoc]
      exact Language.append_mem_mul (Language.append_mem_mul (Language.append_mem_mul hlead hcore)
        hprerelease) hbuild
    rcases htext with rfl | rfl
    · exact hled [] (mem_optional_iff.mpr (Or.inl rfl))
    · exact hled ['v'] (mem_optional_iff.mpr (Or.inr ⟨'v', rfl, rfl⟩))

/-- **A text is normalized if it matches the pattern**, without the white space around it. -/
theorem exists_normalize?_iff_mem_pattern {text : String} :
    (∃ version, normalize? text = some version) ↔ trim text.toList ∈ pattern := by
  rw [mem_pattern_iff]
  simp only [normalize?_eq_some_iff, says_iff]
  constructor
  · rintro ⟨_, hsaid, p, hformed, rfl⟩
    exact ⟨p, hformed, hsaid⟩
  · rintro ⟨p, hformed, hsaid⟩
    exact ⟨p.text, hsaid, p, hformed, rfl⟩

end AgentId.Version
