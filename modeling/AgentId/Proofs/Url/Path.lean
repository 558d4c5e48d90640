/-
What is left of a path.

Dots in a path are directions, and no segment that is left is one of them
(`isPlace_of_mem_segments`).  They lead back at most to a segment that looks like the name of
a disk, whatever the scheme: once such a segment is done it stays, and so does everything
before it (`suffix_walk_of_isDrive`).

A walk does two things to the segments that are done, it goes back by one or it adds one, so
whatever both of these keep is kept by the walk (`walk_keeps`).
-/
import AgentId.Url.Basic

namespace AgentId.Url.Path

variable {drive segment : List Char} {done l : List (List Char)}

/-- A segment that is no direction. -/
structure IsPlace (segment : List Char) : Prop where
  notDouble : isDoubleDot segment = false
  notSingle : isSingleDot segment = false

theorem isPlace_nil : IsPlace [] where
  notDouble := by decide +kernel
  notSingle := by decide +kernel

theorem goBack_suffix (l : List (List Char)) : goBack l <:+ l := by
  cases l with
  | nil => exact List.suffix_rfl
  | cons last rest =>
      simp only [goBack]
      split
      · exact List.suffix_rfl
      · exact List.suffix_cons ..

/-- What going back and adding a place keep, a walk keeps. -/
theorem walk_keeps {P : List (List Char) → Prop} (back : ∀ l, P l → P (goBack l))
    (add : ∀ l segment, IsPlace segment → P l → P (segment :: l)) (h : P l)
    (segments : List (List Char)) : P (walk l segments) := by
  induction l, segments using walk.induct with
  | case1 l => exact h
  | case2 l last hback =>
      simp only [walk, hback, if_true]
      exact add _ _ isPlace_nil (back l h)
  | case3 l last hback hstay =>
      simp only [walk, hback, hstay, if_true]
      exact add _ _ isPlace_nil h
  | case4 l last hback hstay =>
      simp only [walk, hback, hstay]
      exact add _ _ ⟨by simpa using hback, by simpa using hstay⟩ h
  | case5 l segment rest hrest hback ih =>
      simp only [walk, hback, if_true]
      exact ih (back l h)
  | case6 l segment rest hrest hback hstay ih =>
      simp only [walk, hback, hstay, if_true]
      exact ih h
  | case7 l segment rest hrest hback hstay ih =>
      simp only [walk, hback, hstay]
      exact ih (add _ _ ⟨by simpa using hback, by simpa using hstay⟩ h)

/-- **No direction is left.** -/
theorem isPlace_of_mem_segments {special : Bool} {cs : List Char}
    (h : segment ∈ segments special cs) : IsPlace segment := by
  have hall : ∀ s ∈ walk [] (cs.splitOnP (isSlash special)), IsPlace s := by
    refine walk_keeps (P := fun l => ∀ s ∈ l, IsPlace s) ?_ ?_ ?_ _
    · intro l hl s hs
      exact hl s ((goBack_suffix l).mem hs)
    · intro l s hplace hl
      exact List.forall_mem_cons.mpr ⟨hplace, hl⟩
    · exact fun s hs => absurd hs List.not_mem_nil
  exact hall segment (List.mem_reverse.mp h)

/-- **A disk stays, and so does all that is before it.** -/
theorem suffix_walk_of_isDrive (hdrive : isDrive drive = true) (segments : List (List Char)) :
    drive :: done <:+ walk (drive :: done) segments := by
  refine walk_keeps (P := fun l => drive :: done <:+ l) ?_ ?_ List.suffix_rfl _
  · intro l hl
    cases l with
    | nil => exact hl
    | cons last rest =>
        simp only [goBack]
        split
        · exact hl
        · rename_i hplain
          rcases List.suffix_cons_iff.mp hl with heq | hrest
          · obtain ⟨rfl, -⟩ := List.cons.inj heq
            exact absurd hdrive hplain
          · exact hrest
  · intro l s _ hl
    exact hl.trans (List.suffix_cons ..)

-- The first segment that leads back comes to the disk, and the second no further.
example : (parse? "https://agent.example.com/a2a/c:/../../x").bind (·.path) =
    some ["a2a", "c:", "x"] := by decide +kernel

end AgentId.Url.Path
