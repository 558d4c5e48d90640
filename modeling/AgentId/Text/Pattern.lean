/-
Patterns of whole texts.

A pattern is a sequence of pieces, each of which takes so many characters of one kind.  A text
fits if it can be cut into such pieces, one after another, so that nothing is left.  Where
pieces of one kind follow one another there are several ways to cut; one that works is enough
(`fits_cons_iff`).
-/
namespace AgentId.Text

/-- From `low` to `high` characters that pass a test. -/
structure Piece where
  low : Nat
  high : Nat
  accepts : Char → Bool

/-- One certain character. -/
def Piece.mark (c : Char) : Piece := ⟨1, 1, (· == c)⟩

/-- Whether from `low` to `high` characters that pass a test can be taken so that the rest will
do. -/
def takes (p : Char → Bool) (rest : List Char → Bool) : Nat → Nat → List Char → Bool
  | low, _, [] => low == 0 && rest []
  | low, high, c :: cs =>
    (low == 0 && rest (c :: cs)) ||
      (high != 0 && p c && takes p rest (low - 1) (high - 1) cs)

/-- Whether a text is made of the pieces of a pattern. -/
def fits : List Piece → List Char → Bool
  | [] => List.isEmpty
  | p :: rest => takes p.accepts (fits rest) p.low p.high

/-! ### What fits -/

/-- The characters are what a piece takes. -/
def Piece.Takes (p : Piece) (cs : List Char) : Prop :=
  p.low ≤ cs.length ∧ cs.length ≤ p.high ∧ ∀ c ∈ cs, p.accepts c = true

theorem takes_iff {p : Char → Bool} {rest : List Char → Bool} {low high : Nat} {cs : List Char} :
    takes p rest low high cs = true ↔
      ∃ a b, cs = a ++ b ∧ Piece.Takes ⟨low, high, p⟩ a ∧ rest b = true := by
  induction cs generalizing low high with
  | nil =>
    simp only [takes, Bool.and_eq_true, beq_iff_eq]
    constructor
    · rintro ⟨rfl, hrest⟩
      exact ⟨[], [], rfl, ⟨Nat.le_refl 0, Nat.zero_le _, by simp⟩, hrest⟩
    · rintro ⟨a, b, hcut, ⟨hlow, -, -⟩, hrest⟩
      obtain ⟨rfl, rfl⟩ := List.append_eq_nil_iff.mp hcut.symm
      exact ⟨Nat.le_zero.mp hlow, hrest⟩
  | cons c cs ih =>
    simp only [takes, Bool.or_eq_true, Bool.and_eq_true, beq_iff_eq, bne_iff_ne, ih]
    constructor
    · rintro (⟨rfl, hrest⟩ | ⟨⟨hhigh, hc⟩, a, b, rfl, ⟨hlow, hle, ha⟩, hrest⟩)
      · exact ⟨[], c :: cs, rfl, ⟨Nat.le_refl 0, Nat.zero_le _, by simp⟩, hrest⟩
      · refine ⟨c :: a, b, rfl, ⟨?_, ?_, List.forall_mem_cons.mpr ⟨hc, ha⟩⟩, hrest⟩
        · simp only [List.length_cons] at *
          omega
        · simp only [List.length_cons] at *
          omega
    · rintro ⟨a, b, hcut, ⟨hlow, hle, ha⟩, hrest⟩
      cases a with
      | nil =>
        obtain rfl : b = c :: cs := hcut.symm
        exact Or.inl ⟨Nat.le_zero.mp hlow, hrest⟩
      | cons d a =>
        obtain ⟨rfl, rfl⟩ := List.cons.inj hcut
        obtain ⟨hc, ha⟩ := List.forall_mem_cons.mp ha
        simp only [List.length_cons] at hlow hle
        refine Or.inr ⟨⟨by omega, hc⟩, a, b, rfl, ⟨?_, ?_, ha⟩, hrest⟩
        · show _ - 1 ≤ a.length
          omega
        · show a.length ≤ _ - 1
          omega

/-- **The first piece is taken from the front, and the others make up the rest.** -/
theorem fits_cons_iff {p : Piece} {rest : List Piece} {cs : List Char} :
    fits (p :: rest) cs = true ↔ ∃ a b, cs = a ++ b ∧ p.Takes a ∧ fits rest b = true :=
  takes_iff

theorem fits_singleton_iff {p : Piece} {cs : List Char} :
    fits [p] cs = true ↔ p.Takes cs := by
  rw [fits_cons_iff]
  constructor
  · rintro ⟨a, b, rfl, htakes, hnil⟩
    obtain rfl := List.isEmpty_iff.mp hnil
    rwa [List.append_nil]
  · exact fun htakes => ⟨cs, [], (List.append_nil cs).symm, htakes, rfl⟩

/-- A mark takes itself. -/
theorem fits_mark_cons_iff {c : Char} {rest : List Piece} {cs : List Char} :
    fits (.mark c :: rest) cs = true ↔ ∃ b, cs = c :: b ∧ fits rest b = true := by
  rw [fits_cons_iff]
  constructor
  · rintro ⟨a, b, rfl, ⟨hlow, hhigh, ha⟩, hrest⟩
    obtain ⟨d, rfl⟩ := List.length_eq_one_iff.mp (Nat.le_antisymm hhigh hlow)
    obtain rfl : d = c := by simpa [Piece.mark] using ha d (List.mem_singleton.mpr rfl)
    exact ⟨b, rfl, hrest⟩
  · rintro ⟨b, rfl, hrest⟩
    exact ⟨[c], b, rfl, ⟨Nat.le_refl 1, Nat.le_refl 1, by simp [Piece.mark]⟩, hrest⟩

end AgentId.Text
