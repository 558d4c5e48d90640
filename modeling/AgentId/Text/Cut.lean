/-
Cutting text at a separator.

`cut?` parts a text at the first occurrence of a character: the part before it
cannot contain the character, the part after it is everything else, and putting
the character back between them gives the text again (`cut?_eq_some_iff`).
-/
namespace AgentId.Text

/-- The parts before and after the first `sep`, if there is one. -/
def cut? (sep : Char) : List Char → Option (List Char × List Char)
  | [] => none
  | c :: cs => if c = sep then some ([], cs) else (cut? sep cs).map fun (a, b) => (c :: a, b)

/-- The part before the first member of `p`, and the rest from there on. -/
def breakAt (p : Char → Bool) (cs : List Char) : List Char × List Char :=
  (cs.takeWhile (!p ·), cs.dropWhile (!p ·))

/-- The text behind `lead`, if it starts with it. -/
def behind? (lead : String) (cs : List Char) : Option (List Char) :=
  lead.toList.isPrefixOf? cs

/-- Whether a string starts with `lead`. -/
def startsWith (lead : String) (s : String) : Bool :=
  (behind? lead s.toList).isSome

/-! ### What a cut says about the text -/

theorem cut?_eq_none_iff {sep : Char} {cs : List Char} : cut? sep cs = none ↔ sep ∉ cs := by
  induction cs with
  | nil => simp [cut?]
  | cons c cs ih =>
    by_cases h : c = sep
    · simp [cut?, h]
    · simp [cut?, h, ih, Ne.symm h]

theorem cut?_eq_some_iff {sep : Char} {cs a b : List Char} :
    cut? sep cs = some (a, b) ↔ cs = a ++ sep :: b ∧ sep ∉ a := by
  induction cs generalizing a with
  | nil => simp [cut?]
  | cons c cs ih =>
    by_cases h : c = sep
    · subst h
      cases a with
      | nil => simp [cut?]
      | cons x a =>
        simp only [cut?, if_true, Option.some.injEq, Prod.mk.injEq, List.cons_append,
          List.cons.injEq, List.mem_cons, not_or]
        constructor
        · intro h; exact absurd h.1 (by simp)
        · rintro ⟨⟨rfl, _⟩, h, _⟩; exact absurd rfl h
    · cases a with
      | nil =>
        simp only [cut?, h, if_false, Option.map_eq_some_iff, List.nil_append, List.cons.injEq,
          false_and, iff_false]
        rintro ⟨⟨x, y⟩, _, hxy⟩
        simp at hxy
      | cons x a =>
        simp only [cut?, h, if_false, Option.map_eq_some_iff, Prod.mk.injEq, Prod.exists,
          List.cons_append, List.cons.injEq, List.mem_cons, not_or]
        constructor
        · rintro ⟨u, v, hu, ⟨rfl, rfl⟩, rfl⟩
          have := ih.1 hu
          exact ⟨⟨rfl, this.1⟩, Ne.symm h, this.2⟩
        · rintro ⟨⟨rfl, hcs⟩, _, ha⟩
          exact ⟨a, b, ih.2 ⟨hcs, ha⟩, ⟨rfl, rfl⟩, rfl⟩

theorem breakAt_append (p : Char → Bool) (cs : List Char) :
    (breakAt p cs).1 ++ (breakAt p cs).2 = cs :=
  List.takeWhile_append_dropWhile

end AgentId.Text
