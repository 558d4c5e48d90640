/-
What trimming leaves.

Every reader of the library trims what it takes from a text, so what a writer puts
between separators comes back only if there is nothing to trim.  `IsTrimmed` says that
of a text by its two ends, and `trim_eq_self_iff` says that trimming means no more and
no less: the trimmed texts are the fixed points of `trim`, and `trim` lands on them.
-/
import AgentId.Text.Blank
import Mathlib.Data.List.DropRight
import Mathlib.Data.List.TakeWhile

namespace AgentId.Text

/-- Text that neither starts nor ends with white space. -/
structure IsTrimmed (cs : List Char) : Prop where
  head : ∀ c, cs.head? = some c → isBlank c = false
  last : ∀ c, cs.getLast? = some c → isBlank c = false

/-! ### One end at a time -/

theorem trimStart_eq_self {p : Char → Bool} {cs : List Char}
    (h : ∀ c, cs.head? = some c → p c = false) : trimStart p cs = cs := by
  cases cs with
  | nil => rfl
  | cons c cs =>
      have hc := h c rfl
      simp [trimStart, hc]

theorem trimEnd_eq_self {p : Char → Bool} {cs : List Char}
    (h : ∀ c, cs.getLast? = some c → p c = false) : trimEnd p cs = cs := by
  have hrev : trimStart p cs.reverse = cs.reverse :=
    trimStart_eq_self fun c hc => h c (by rwa [List.head?_reverse] at hc)
  show (trimStart p cs.reverse).reverse = cs
  rw [hrev, List.reverse_reverse]

theorem head_trimStart {p : Char → Bool} {cs : List Char} {c : Char}
    (h : (trimStart p cs).head? = some c) : p c = false := by
  have hnot := List.head?_dropWhile_not p cs
  unfold trimStart at h
  rw [h] at hnot
  simpa using hnot

theorem last_trimEnd {p : Char → Bool} {cs : List Char} {c : Char}
    (h : (trimEnd p cs).getLast? = some c) : p c = false := by
  refine @head_trimStart p cs.reverse c ?_
  have hrev : (trimEnd p cs).reverse = trimStart p cs.reverse := List.reverse_reverse _
  rw [← hrev, List.head?_reverse]
  exact h

/-- Trimming the end keeps the start, as long as anything is left. -/
theorem head_trimEnd {p : Char → Bool} {cs : List Char} {c : Char}
    (h : (trimEnd p cs).head? = some c) : cs.head? = some c := by
  obtain ⟨rest, hrest⟩ := List.rdropWhile_prefix p (l := cs)
  rw [← hrest, List.head?_append]
  show (trimEnd p cs).head?.or rest.head? = some c
  rw [h, Option.some_or]

/-! ### Both ends -/

theorem isTrimmed_trim (cs : List Char) : IsTrimmed (trim cs) where
  head := fun _ hc => head_trimStart (head_trimEnd hc)
  last := fun _ hc => last_trimEnd hc

theorem trim_of_isTrimmed {cs : List Char} (h : IsTrimmed cs) : trim cs = cs := by
  unfold trim
  rw [trimStart_eq_self h.head, trimEnd_eq_self h.last]

/-- **The trimmed texts are what trimming leaves alone.** -/
theorem trim_eq_self_iff {cs : List Char} : trim cs = cs ↔ IsTrimmed cs :=
  ⟨fun h => h ▸ isTrimmed_trim cs, trim_of_isTrimmed⟩

/-- White space around a text is trimmed, whatever the text is. -/
theorem trim_append_append {before after : List Char} (hbefore : ∀ c ∈ before, isBlank c = true)
    (hafter : ∀ c ∈ after, isBlank c = true) (cs : List Char) :
    trim (before ++ cs ++ after) = trim cs := by
  have hend : ∀ ds, trimEnd isBlank (ds ++ after) = trimEnd isBlank ds := by
    intro ds
    rw [trimEnd, List.reverse_append, List.dropWhile_append_of_pos, trimEnd]
    intro c hc
    exact hafter c (List.mem_reverse.mp hc)
  unfold trim
  rw [List.append_assoc, trimStart, List.dropWhile_append_of_pos hbefore, List.dropWhile_append]
  split
  · rename_i hempty
    rw [trimStart, List.isEmpty_iff.mp hempty, ← List.nil_append (after.dropWhile isBlank),
      List.dropWhile_eq_nil_iff.mpr hafter]
    rfl
  · exact hend _

/-- A text is what is left of it with white space around. -/
theorem exists_append_trim (cs : List Char) : ∃ before after : List Char,
    before.all isBlank ∧ after.all isBlank ∧ cs = before ++ trim cs ++ after := by
  refine ⟨cs.takeWhile isBlank, ((trimStart isBlank cs).reverse.takeWhile isBlank).reverse,
    List.all_takeWhile, ?_, ?_⟩
  · rw [List.all_reverse]
    exact List.all_takeWhile
  · have hend : trim cs ++ ((trimStart isBlank cs).reverse.takeWhile isBlank).reverse =
        trimStart isBlank cs := by
      rw [trim, trimEnd, ← List.reverse_append, List.takeWhile_append_dropWhile,
        List.reverse_reverse]
    rw [List.append_assoc, hend]
    exact List.takeWhile_append_dropWhile.symm

theorem mem_of_mem_trim {cs : List Char} {c : Char} (h : c ∈ trim cs) : c ∈ cs := by
  unfold trim trimEnd at h
  rw [List.mem_reverse] at h
  have hmem := List.dropWhile_subset _ h
  rw [List.mem_reverse] at hmem
  exact List.dropWhile_subset _ hmem

/-- Nothing is left exactly of a text that is nothing but white space. -/
theorem trim_eq_nil_iff {cs : List Char} : trim cs = [] ↔ ∀ c ∈ cs, isBlank c = true := by
  constructor
  · intro h
    have hstart : ∀ c ∈ trimStart isBlank cs, isBlank c = true := by
      intro c hc
      have hend := List.dropWhile_eq_nil_iff.mp (List.reverse_eq_nil_iff.mp h)
      exact hend c (List.mem_reverse.mpr hc)
    cases hcs : trimStart isBlank cs with
    | nil => exact List.dropWhile_eq_nil_iff.mp hcs
    | cons c rest =>
        have hhead : isBlank c = false := head_trimStart (by rw [hcs]; rfl)
        rw [hstart c (by rw [hcs]; exact List.mem_cons_self)] at hhead
        cases hhead
  · intro h
    have hstart : trimStart isBlank cs = [] := List.dropWhile_eq_nil_iff.mpr h
    rw [trim, hstart, trimEnd_nil]

/-- Something is left of a text exactly if not all of it is white space. -/
theorem trim_ne_nil_iff {cs : List Char} : trim cs ≠ [] ↔ ∃ c ∈ cs, isBlank c = false := by
  rw [Ne, trim_eq_nil_iff]
  simp

theorem isTrimmed_of_forall {cs : List Char} (h : ∀ c ∈ cs, isBlank c = false) : IsTrimmed cs where
  head := fun c hc => h c (List.mem_of_mem_head? hc)
  last := fun c hc => h c (List.mem_of_getLast? hc)

/-- No visible ASCII character is white space. -/
theorem isBlank_eq_false {c : Char} (h : 33 ≤ c.toNat) (h' : c.toNat ≤ 126) :
    isBlank c = false := by
  simp only [isBlank, Bool.or_eq_false_iff, Bool.and_eq_false_iff, decide_eq_false_iff_not,
    beq_eq_false_iff_ne]
  omega

/-- Only the start of the first part and the end of the last one count. -/
theorem isTrimmed_append {a b : List Char} (hne : a ≠ []) (hne' : b ≠ [])
    (head : ∀ c, a.head? = some c → isBlank c = false)
    (last : ∀ c, b.getLast? = some c → isBlank c = false) : IsTrimmed (a ++ b) := by
  constructor
  · intro c hc
    rw [List.head?_append_of_ne_nil _ hne] at hc
    exact head c hc
  · intro c hc
    rw [List.getLast?_append_of_ne_nil _ hne'] at hc
    exact last c hc

instance (cs : List Char) : Decidable (IsTrimmed cs) :=
  decidable_of_iff _ trim_eq_self_iff

/-! ### Strings -/

theorem isTrimmed_trimmed (s : String) : IsTrimmed (trimmed s).toList := by
  rw [trimmed, String.toList_ofList]
  exact isTrimmed_trim s.toList

theorem trimmed_ne_empty_iff {s : String} :
    trimmed s ≠ "" ↔ ∃ c ∈ s.toList, isBlank c = false := by
  rw [← trim_ne_nil_iff, Ne, ← String.toList_eq_nil_iff, trimmed, String.toList_ofList]

theorem trimmed_of_isTrimmed {s : String} (h : IsTrimmed s.toList) : trimmed s = s := by
  rw [trimmed, trim_of_isTrimmed h, String.ofList_toList]

theorem trimmed_trimmed (s : String) : trimmed (trimmed s) = trimmed s :=
  trimmed_of_isTrimmed (isTrimmed_trimmed s)

/-! ### White space around a text -/

/-- The second text is the first one with white space around it. -/
def Padded (s t : String) : Prop :=
  ∃ before after : List Char, before.all isBlank ∧ after.all isBlank ∧
    t.toList = before ++ s.toList ++ after

theorem Padded.trimmed_eq {s t : String} (h : Padded s t) : trimmed t = trimmed s := by
  obtain ⟨before, after, hbefore, hafter, ht⟩ := h
  rw [trimmed, ht, trim_append_append (List.all_eq_true.mp hbefore) (List.all_eq_true.mp hafter),
    trimmed]

theorem Padded.trim_eq {s t : String} (h : Padded s t) : trim t.toList = trim s.toList :=
  String.ofList_injective h.trimmed_eq

/-- Only white space is added. -/
theorem Padded.not_mem {s t : String} (h : Padded s t) {c : Char} (hc : isBlank c = false)
    (hs : c ∉ s.toList) : c ∉ t.toList := by
  obtain ⟨before, after, hbefore, hafter, ht⟩ := h
  intro hmem
  rw [ht, List.mem_append, List.mem_append] at hmem
  rcases hmem with (hmem | hmem) | hmem
  · rw [List.all_eq_true.mp hbefore c hmem] at hc
    cases hc
  · exact hs hmem
  · rw [List.all_eq_true.mp hafter c hmem] at hc
    cases hc

end AgentId.Text
