/-
One record among several.

When a host has several records that would do, the one whose text comes first in order is
taken, and of several with one text the one that was listed first.
-/
namespace AgentId

/-- The first of the members with the smallest key. -/
def leastBy? {α : Type} (key : α → String) : List α → Option α
  | [] => none
  | x :: rest =>
    match leastBy? key rest with
    | none => some x
    | some y => if key y < key x then some y else some x

theorem leastBy?_eq_none_iff {α : Type} {key : α → String} {l : List α} :
    leastBy? key l = none ↔ l = [] := by
  cases l with
  | nil => simp [leastBy?]
  | cons x rest =>
    simp only [leastBy?, reduceCtorEq, iff_false]
    split
    · simp
    · split <;> simp

theorem leastBy?_mem {α : Type} {key : α → String} {l : List α} {x : α}
    (h : leastBy? key l = some x) : x ∈ l := by
  induction l generalizing x with
  | nil => simp [leastBy?] at h
  | cons y rest ih =>
    simp only [leastBy?] at h
    split at h
    · simp_all
    · rename_i z hz
      split at h
      · cases h; exact List.mem_cons_of_mem _ (ih hz)
      · cases h; exact List.mem_cons_self

/-- No member has a smaller key than the one that is taken. -/
theorem leastBy?_le {α : Type} {key : α → String} {l : List α} {x y : α}
    (h : leastBy? key l = some x) (hy : y ∈ l) : ¬ key y < key x := by
  induction l generalizing x with
  | nil => simp at hy
  | cons a rest ih =>
    simp only [leastBy?] at h
    split at h
    · rename_i hn
      rw [leastBy?_eq_none_iff] at hn
      subst hn
      simp_all only [Option.some.injEq, List.mem_cons, List.not_mem_nil, or_false]
      subst hy
      exact h ▸ String.lt_irrefl _
    · rename_i z hz
      split at h
      · rename_i hlt
        cases h
        rcases List.mem_cons.1 hy with rfl | hy
        · exact String.lt_asymm hlt
        · exact ih hz hy
      · rename_i hnlt
        cases h
        rcases List.mem_cons.1 hy with rfl | hy
        · exact String.lt_irrefl _
        · intro hlt
          exact ih hz hy (Std.lt_of_lt_of_le hlt (String.not_lt.1 hnlt))

end AgentId
