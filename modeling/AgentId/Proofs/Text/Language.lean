/-
Patterns as languages.

What a pattern matches is a language, put together from characters of given kinds by sequence,
choice and repetition.  A repetition is given by the pieces that a text falls into, and nothing is
said of which pieces these are.  For the two kinds of repetition that the patterns of the library
have, this is said here in plain words: characters of a kind, one after another, and words with a
mark between them.
-/
import Mathlib.Computability.Language

namespace AgentId.Text

open scoped Computability

/-- One character of a kind. -/
def oneOf (kind : Char → Prop) : Language Char := {cs | ∃ c, kind c ∧ cs = [c]}

/-- Words of a language with a mark between them, at least one. -/
def joined (mark : Char) (word : Language Char) : Language Char :=
  word * (oneOf (· = mark) * word)∗

/-- What a pattern matches, or nothing at all. -/
def optional (pattern : Language Char) : Language Char := 1 + pattern

theorem mem_oneOf_iff {kind : Char → Prop} {cs : List Char} :
    cs ∈ oneOf kind ↔ ∃ c, kind c ∧ cs = [c] :=
  Iff.rfl

theorem mem_optional_iff {pattern : Language Char} {cs : List Char} :
    cs ∈ optional pattern ↔ cs = [] ∨ cs ∈ pattern :=
  Iff.rfl

/-- A mark in front of what a pattern matches. -/
theorem mem_mark_mul_iff {mark : Char} {pattern : Language Char} {cs : List Char} :
    cs ∈ oneOf (· = mark) * pattern ↔ ∃ rest ∈ pattern, cs = mark :: rest := by
  rw [Language.mem_mul]
  constructor
  · rintro ⟨_, ⟨c, rfl, rfl⟩, rest, hrest, rfl⟩
    exact ⟨rest, hrest, rfl⟩
  · rintro ⟨rest, hrest, rfl⟩
    exact ⟨[mark], ⟨mark, rfl, rfl⟩, rest, hrest, rfl⟩

/-- **Repeating a kind of characters gives all texts of that kind.** -/
theorem mem_kstar_oneOf_iff {kind : Char → Prop} {cs : List Char} :
    cs ∈ (oneOf kind)∗ ↔ ∀ c ∈ cs, kind c := by
  rw [Language.mem_kstar]
  constructor
  · rintro ⟨pieces, rfl, hpieces⟩ c hc
    obtain ⟨piece, hpiece, hmem⟩ := List.mem_flatten.mp hc
    obtain ⟨d, hd, rfl⟩ := mem_oneOf_iff.mp (hpieces piece hpiece)
    obtain rfl : c = d := List.mem_singleton.mp hmem
    exact hd
  · intro h
    refine ⟨cs.map fun c => [c], (List.flatMap_singleton' cs).symm, fun piece hpiece => ?_⟩
    obtain ⟨c, hc, rfl⟩ := List.mem_map.mp hpiece
    exact ⟨c, h c hc, rfl⟩

/-- At least one character of a kind. -/
theorem mem_oneOf_mul_kstar_iff {first kind : Char → Prop} {cs : List Char} :
    cs ∈ oneOf first * (oneOf kind)∗ ↔
      ∃ c rest, cs = c :: rest ∧ first c ∧ ∀ d ∈ rest, kind d := by
  rw [Language.mem_mul]
  constructor
  · rintro ⟨_, ⟨c, hc, rfl⟩, rest, hrest, rfl⟩
    exact ⟨c, rest, rfl, hc, mem_kstar_oneOf_iff.mp hrest⟩
  · rintro ⟨c, rest, rfl, hc, hrest⟩
    exact ⟨[c], ⟨c, hc, rfl⟩, rest, mem_kstar_oneOf_iff.mpr hrest, rfl⟩

/-- Words that each have a mark in front. -/
theorem mem_kstar_mark_mul_iff {mark : Char} {word : Language Char} {cs : List Char} :
    cs ∈ (oneOf (· = mark) * word)∗ ↔ ∃ words : List (List Char),
      (∀ w ∈ words, w ∈ word) ∧ cs = words.flatMap (mark :: ·) := by
  rw [Language.mem_kstar]
  constructor
  · rintro ⟨pieces, rfl, hpieces⟩
    induction pieces with
    | nil => exact ⟨[], by simp, rfl⟩
    | cons piece pieces ih =>
        obtain ⟨hpiece, hothers⟩ := List.forall_mem_cons.mp hpieces
        obtain ⟨w, hw, rfl⟩ := mem_mark_mul_iff.mp hpiece
        obtain ⟨words, hwords, heq⟩ := ih hothers
        refine ⟨w :: words, List.forall_mem_cons.mpr ⟨hw, hwords⟩, ?_⟩
        rw [List.flatten_cons, heq, List.flatMap_cons]
  · rintro ⟨words, hwords, rfl⟩
    refine ⟨words.map (mark :: ·), List.flatMap_def .., fun piece hpiece => ?_⟩
    obtain ⟨w, hw, rfl⟩ := List.mem_map.mp hpiece
    exact mem_mark_mul_iff.mpr ⟨w, hwords w hw, rfl⟩

theorem intercalate_cons_eq_flatMap {mark : Char} (w : List Char) (words : List (List Char)) :
    [mark].intercalate (w :: words) = w ++ words.flatMap (mark :: ·) := by
  induction words generalizing w with
  | nil => simp
  | cons w' words ih =>
      rw [List.intercalate_cons_cons, ih, List.flatMap_cons]
      simp

/-- **Words with a mark between them are what its members are put together from.** -/
theorem mem_joined_iff {mark : Char} {word : Language Char} {cs : List Char} :
    cs ∈ joined mark word ↔ ∃ words : List (List Char), words ≠ [] ∧
      (∀ w ∈ words, w ∈ word) ∧ cs = [mark].intercalate words := by
  rw [joined, Language.mem_mul]
  constructor
  · rintro ⟨w, hw, rest, hrest, rfl⟩
    obtain ⟨words, hwords, rfl⟩ := mem_kstar_mark_mul_iff.mp hrest
    exact ⟨w :: words, List.cons_ne_nil w words, List.forall_mem_cons.mpr ⟨hw, hwords⟩,
      (intercalate_cons_eq_flatMap w words).symm⟩
  · rintro ⟨words, hne, hwords, rfl⟩
    obtain ⟨w, words, rfl⟩ := List.exists_cons_of_ne_nil hne
    obtain ⟨hw, hwords⟩ := List.forall_mem_cons.mp hwords
    exact ⟨w, hw, _, mem_kstar_mark_mul_iff.mpr ⟨words, hwords, rfl⟩,
      (intercalate_cons_eq_flatMap w words).symm⟩

end AgentId.Text
