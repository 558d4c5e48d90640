/-
Cutting a text that was put together.

A text made of parts with a mark between them is cut into those parts again, provided no
part holds the mark.  The facts here say so for the three ways in which the library cuts
a text: behind a lead, at the first member of a set, and at every separator.
-/
import AgentId.Text.Cut
import Mathlib.Data.List.Basic

namespace AgentId.Text

/-- A test has one outcome for all characters of a text. -/
theorem forall_mem_of_all {p : Char → Bool} {outcome : Bool} {cs : List Char}
    (h : cs.all (p · == outcome) = true) : ∀ c ∈ cs, p c = outcome := by
  intro c hc
  exact beq_iff_eq.mp (List.all_eq_true.mp h c hc)

/-! ### Behind a lead -/

theorem behind?_eq_some_iff {lead : String} {cs rest : List Char} :
    behind? lead cs = some rest ↔ cs = lead.toList ++ rest := by
  unfold behind?
  rw [List.isPrefixOf?_eq_some_iff_append_eq, eq_comm]

theorem startsWith_iff {lead s : String} :
    startsWith lead s = true ↔ lead.toList <+: s.toList := by
  unfold startsWith behind?
  rw [List.isSome_isPrefixOf?_eq_isPrefixOf, List.isPrefixOf_iff_prefix]

/-! ### At the first member of a set -/

/-- The part before the first member of `p`, and what starts with that member. -/
theorem breakAt_eq {p : Char → Bool} {a b : List Char} (ha : ∀ c ∈ a, p c = false)
    (hb : ∀ c, b.head? = some c → p c = true) : breakAt p (a ++ b) = (a, b) := by
  have hkeep : ∀ c ∈ a, (!p c) = true := fun c hc => by rw [ha c hc]; rfl
  unfold breakAt
  rw [List.takeWhile_append_of_pos hkeep, List.dropWhile_append_of_pos hkeep]
  cases b with
  | nil => simp
  | cons c cs =>
      have hc := hb c rfl
      simp [hc]

theorem not_of_mem_breakAt {p : Char → Bool} {cs : List Char} {c : Char}
    (h : c ∈ (breakAt p cs).1) : p c = false := by
  have hall : ((breakAt p cs).1.all (!p ·)) = true := List.all_takeWhile
  simpa using List.all_eq_true.mp hall c h

theorem head_breakAt {p : Char → Bool} {cs : List Char} {c : Char}
    (h : (breakAt p cs).2.head? = some c) : p c = true := by
  have hnot := List.head?_dropWhile_not (!p ·) cs
  unfold breakAt at h
  rw [h] at hnot
  simpa using hnot

/-- What starts with the first member is there if any member is. -/
theorem breakAt_snd_ne_nil {p : Char → Bool} {cs : List Char} (h : ∃ c ∈ cs, p c = true) :
    (breakAt p cs).2 ≠ [] := by
  obtain ⟨c, hc, hp⟩ := h
  intro hnil
  have happend := breakAt_append p cs
  rw [hnil, List.append_nil] at happend
  rw [← happend] at hc
  rw [not_of_mem_breakAt hc] at hp
  cases hp

/-- The part before the first separator. -/
theorem takeWhile_ne_append {sep : Char} {a b : List Char} (ha : sep ∉ a)
    (hb : ∀ c, b.head? = some c → c = sep) : (a ++ b).takeWhile (· ≠ sep) = a := by
  have hkeep : ∀ c ∈ a, decide (c ≠ sep) = true := by
    intro c hc
    exact decide_eq_true fun heq => ha (heq ▸ hc)
  rw [List.takeWhile_append_of_pos hkeep]
  cases b with
  | nil => simp
  | cons c cs => simp [hb c rfl]

/-! ### At every separator -/

/-- Two parts that do not have the separator are known from the text with it between them. -/
theorem two_parts_inj {sep : Char} {a b a' b' : List Char} (ha : sep ∉ a) (hb : sep ∉ b)
    (h : a' ++ sep :: b' = a ++ sep :: b) : a' = a ∧ b' = b := by
  obtain ⟨rfl, -, rfl⟩ := (List.append_cons_inj_of_notMem ha hb).mp h.symm
  exact ⟨rfl, rfl⟩

/-- The same of three parts.  The others cannot have the separator either, since both texts
have it twice. -/
theorem three_parts_inj {sep : Char} {a b c a' b' c' : List Char} (ha : sep ∉ a) (hb : sep ∉ b)
    (hc : sep ∉ c) (h : a' ++ sep :: (b' ++ sep :: c') = a ++ sep :: (b ++ sep :: c)) :
    a' = a ∧ b' = b ∧ c' = c := by
  have hcount := congrArg (List.count sep) h
  simp only [List.count_append, List.count_cons_self, List.count_eq_zero.mpr ha,
    List.count_eq_zero.mpr hb, List.count_eq_zero.mpr hc] at hcount
  have ha' : sep ∉ a' := List.count_eq_zero.mp (by omega)
  have hcut : cut? sep (a ++ sep :: (b ++ sep :: c)) = some (a, b ++ sep :: c) :=
    cut?_eq_some_iff.mpr ⟨rfl, ha⟩
  have hcut' : cut? sep (a ++ sep :: (b ++ sep :: c)) = some (a', b' ++ sep :: c') :=
    cut?_eq_some_iff.mpr ⟨h.symm, ha'⟩
  obtain ⟨hfirst, hrest⟩ := Prod.mk.inj (Option.some.inj (hcut'.symm.trans hcut))
  exact ⟨hfirst, two_parts_inj hb hc hrest⟩

theorem not_mem_of_mem_splitOn {sep : Char} {cs piece : List Char}
    (h : piece ∈ cs.splitOn sep) : sep ∉ piece := by
  induction cs generalizing piece with
  | nil =>
      rw [List.splitOn_nil, List.mem_singleton] at h
      simp [h]
  | cons c cs ih =>
      rw [List.splitOn_cons_eq_if_modifyHead] at h
      obtain ⟨first, rest, hsplit⟩ := List.exists_cons_of_ne_nil (List.splitOn_ne_nil sep cs)
      rw [hsplit] at h ih
      split at h
      · rcases List.mem_cons.mp h with rfl | hmem
        · simp
        · exact ih hmem
      · rename_i hc
        simp only [List.modifyHead_cons, List.mem_cons] at h
        rcases h with rfl | hmem
        · have hfirst := ih List.mem_cons_self
          simp only [List.mem_cons, not_or]
          exact ⟨fun heq => hc (by simp [heq]), hfirst⟩
        · exact ih (List.mem_cons_of_mem _ hmem)

/-- Cutting loses nothing but separators. -/
theorem eq_or_mem_splitOn {sep : Char} {cs : List Char} {c : Char} (h : c ∈ cs) :
    c = sep ∨ ∃ piece ∈ cs.splitOn sep, c ∈ piece := by
  induction cs with
  | nil => simp at h
  | cons d cs ih =>
      rw [List.splitOn_cons_eq_if_modifyHead]
      obtain ⟨first, rest, hsplit⟩ := List.exists_cons_of_ne_nil (List.splitOn_ne_nil sep cs)
      rw [hsplit] at ih ⊢
      by_cases hd : d = sep
      · rw [if_pos (by simpa using hd)]
        rcases List.mem_cons.mp h with rfl | hmem
        · exact Or.inl hd
        · refine (ih hmem).imp_right ?_
          rintro ⟨piece, hpiece, hc⟩
          exact ⟨piece, List.mem_cons_of_mem _ hpiece, hc⟩
      · rw [if_neg (by simpa using hd), List.modifyHead_cons]
        rcases List.mem_cons.mp h with rfl | hmem
        · exact Or.inr ⟨c :: first, by simp, by simp⟩
        · refine (ih hmem).imp_right ?_
          rintro ⟨piece, hpiece, hc⟩
          rcases List.mem_cons.mp hpiece with rfl | hrest
          · exact ⟨d :: piece, by simp, by simp [hc]⟩
          · exact ⟨piece, by simp [hrest], hc⟩

/-- Pieces without the separator are what a text is cut into that has it before each of
them but the first. -/
theorem splitOn_flatMap_cons {sep : Char} {first : List Char} {pieces : List (List Char)}
    (hfirst : sep ∉ first) (hpieces : ∀ piece ∈ pieces, sep ∉ piece) :
    (first ++ pieces.flatMap (sep :: ·)).splitOn sep = first :: pieces := by
  induction pieces generalizing first with
  | nil => simp [List.splitOn_eq_singleton hfirst]
  | cons piece pieces ih =>
      rw [List.flatMap_cons, List.cons_append, List.splitOn_append_cons_self_of_not_mem hfirst,
        ih (hpieces piece (by simp)) fun p hp => hpieces p (by simp [hp])]

/-- A text is cut into three pieces if it has the separator between these and nowhere else. -/
theorem splitOn_eq_three_iff {sep : Char} {cs a b c : List Char} :
    cs.splitOn sep = [a, b, c] ↔
      cs = a ++ sep :: (b ++ sep :: c) ∧ sep ∉ a ∧ sep ∉ b ∧ sep ∉ c := by
  constructor
  · intro h
    have hjoin : [sep].intercalate (cs.splitOn sep) = cs := List.intercalate_splitOn sep
    have hpieces : ∀ piece ∈ [a, b, c], sep ∉ piece :=
      fun piece hpiece => not_mem_of_mem_splitOn (h ▸ hpiece)
    refine ⟨?_, hpieces a (by simp), hpieces b (by simp), hpieces c (by simp)⟩
    rw [← hjoin, h]
    simp [List.intercalate]
  · rintro ⟨rfl, ha, hb, hc⟩
    rw [List.splitOn_append_cons_self_of_not_mem ha, List.splitOn_append_cons_self_of_not_mem hb,
      List.splitOn_eq_singleton hc]

/-! ### Words between dots -/

/-- Words without dots are what the text with dots between them is cut into. -/
theorem splitOn_dot_intercalate {words : List String} (hne : words ≠ [])
    (hwords : ∀ word ∈ words, '.' ∉ word.toList) :
    (".".intercalate words).toList.splitOn '.' = words.map String.toList := by
  rw [String.toList_intercalate]
  refine List.splitOn_intercalate '.' ?_ (by simpa using hne)
  intro cs hcs
  obtain ⟨word, hword, rfl⟩ := List.mem_map.mp hcs
  exact hwords word hword

/-- What a text is cut into gives the text with dots between. -/
theorem intercalate_splitOn_dot (cs : List Char) :
    ".".intercalate ((cs.splitOn '.').map String.ofList) = String.ofList cs := by
  have hid : String.toList ∘ String.ofList = id := funext fun _ => String.toList_ofList
  refine String.toList_injective ?_
  rw [String.toList_intercalate, List.map_map, hid, List.map_id, String.toList_ofList (l := cs)]
  exact List.intercalate_splitOn '.'

end AgentId.Text
