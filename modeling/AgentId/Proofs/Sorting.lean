/-
Sorting forgets the order.

Where a list is sorted its members count and their order does not: lists with the same members
are sorted into the same list, and sorting a second time changes nothing.
-/
import Mathlib.Data.List.Sort

namespace AgentId

variable {α : Type} [LE α] [DecidableLE α] [Std.IsLinearOrder α]

theorem pairwise_sorted (l : List α) : (l.mergeSort (· ≤ ·)).Pairwise (· ≤ ·) := by
  have hsorted := @List.pairwise_mergeSort α (fun a b => decide (a ≤ b))
    (by simpa using fun _ _ _ => Std.le_trans) (by simpa using fun _ _ => Std.le_total) l
  simpa using hsorted

/-- **Sorting forgets the order and nothing else.** -/
theorem sorted_eq_of_perm {l l' : List α} (h : l.Perm l') :
    l.mergeSort (· ≤ ·) = l'.mergeSort (· ≤ ·) := by
  have hperm : (l.mergeSort (· ≤ ·)).Perm (l'.mergeSort (· ≤ ·)) :=
    ((List.mergeSort_perm l _).trans h).trans (List.mergeSort_perm l' _).symm
  exact hperm.eq_of_pairwise (fun _ _ _ _ => Std.le_antisymm) (pairwise_sorted l)
    (pairwise_sorted l')

theorem sorted_sorted (l : List α) :
    (l.mergeSort (· ≤ ·)).mergeSort (· ≤ ·) = l.mergeSort (· ≤ ·) :=
  sorted_eq_of_perm (List.mergeSort_perm l _)

end AgentId
