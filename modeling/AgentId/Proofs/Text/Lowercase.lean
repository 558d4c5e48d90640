/-
Lower case is final.

A text in lower case stays as it is in lower case (`lowercase_lowercase`), whatever letters
of whatever script it was made of.  That is a fact about the table of letters: no run of it
lands on a member of another run, or of the same one.  The runs are compared by their ends,
and by their parity where they go in steps of two, so the table is asked once for each pair
of runs and never for each letter (`lowerForms_avoids`).

The same question put to the runs of white space says that lower case makes no blank of a
letter, so trimmed text stays trimmed.  And lower case does not see which case an ASCII
letter had, not even by the final sigma, which looks at the letters around it: they are
letters in either case (`lowerFrom_map_toLower`).
-/
import AgentId.Proofs.Text.Case
import AgentId.Proofs.Text.Trimming
import AgentId.Text.Lowercase

namespace AgentId.Text

/-! ### Where runs land -/

namespace CodeRun

/-- A run of consecutive code points. -/
def span (first last : Nat) : CodeRun := ⟨first, last, 1, []⟩

/-- Whether every member goes to one character, which no other run has for a member. -/
def avoids (r : CodeRun) (others : List CodeRun) : Bool :=
  match r.image with
  | [a] =>
    a + (r.last - r.first) < 0x110000 && others.all fun s =>
      s.last < a || a + (r.last - r.first) < s.first ||
        ((r.first == r.last || r.step == 2) && s.step == 2 && (a + s.first) % 2 == 1)
  | _ => false

theorem send?_eq_none_iff {r : CodeRun} {n : Nat} :
    r.send? n = none ↔ ¬(r.first ≤ n ∧ n ≤ r.last ∧ (n - r.first) % r.step = 0) := by
  unfold send?
  split
  · rename_i hmem
    cases r.image <;> simp [hmem]
  · rename_i hmem
    simp only [hmem, not_false_eq_true]

theorem send?_span_eq_none_iff {first last n : Nat} :
    (span first last).send? n = none ↔ n < first ∨ last < n := by
  rw [send?_eq_none_iff]
  show ¬(first ≤ n ∧ n ≤ last ∧ (n - first) % 1 = 0) ↔ n < first ∨ last < n
  omega

/-- **What the comparison of the runs says of their members.** -/
theorem send?_of_avoids {r : CodeRun} {others : List CodeRun} (h : r.avoids others = true)
    {n : Nat} {image : List Nat} (hsend : r.send? n = some image) :
    ∃ d, image = [d] ∧ d < 0x110000 ∧ ∀ s ∈ others, s.send? d = none := by
  unfold avoids at h
  split at h
  · rename_i a himage
    simp only [Bool.and_eq_true, Bool.or_eq_true, List.all_eq_true, decide_eq_true_eq,
      beq_iff_eq] at h
    obtain ⟨hlt, hothers⟩ := h
    unfold send? at hsend
    split at hsend
    · rename_i hmem
      obtain ⟨hfirst, hlast, hstep⟩ := hmem
      rw [himage] at hsend
      refine ⟨a + (n - r.first), (Option.some.inj hsend).symm, by omega, ?_⟩
      intro s hs
      rw [send?_eq_none_iff]
      rintro ⟨hlow, hhigh, hgrid⟩
      rcases hothers s hs with (habove | hbelow) | ⟨⟨hr, hs2⟩, hparity⟩
      · omega
      · omega
      · -- Both go in steps of two, from ends of different parity.
        rw [hs2] at hgrid
        rcases hr with hsingle | hr2
        · omega
        · rw [hr2] at hstep
          omega
    · cases hsend
  · cases h

end CodeRun

/-- White space, as runs. -/
def blankRuns : List CodeRun := [
  .span 9 13, .span 0x20 0x20, .span 0x85 0x85, .span 0xA0 0xA0, .span 0x1680 0x1680,
  .span 0x2000 0x200A, .span 0x2028 0x2029, .span 0x202F 0x202F, .span 0x205F 0x205F,
  .span 0x3000 0x3000]

/-- The code points that are no lower-case form: the letters that have one, white space, and
those that are no characters. -/
def unsettled : List CodeRun :=
  lowerForms.runs.toList ++ blankRuns ++
    [.span 0x41 0x5A, .span 0x130 0x130, .span 0x3A3 0x3A3, .span 0xD800 0xDFFF]

/-- **No letter goes to a letter that goes on to another**, nor to white space. -/
theorem lowerForms_avoids : lowerForms.runs.toList.all (·.avoids unsettled) = true := by
  decide +kernel

/-! ### The form of one character -/

/-- A character that no run of the table has for a member, and that is no white space. -/
def Settled (c : Char) : Prop :=
  ∀ s ∈ unsettled, s.send? c.toNat = none

instance (c : Char) : Decidable (Settled c) :=
  inferInstanceAs (Decidable (∀ s ∈ unsettled, s.send? c.toNat = none))

/-- A settled character is its own form. -/
theorem Settled.lowerChar {c : Char} (h : Settled c) : lowerChar c = [c] := by
  have hcapital : c.toNat < 0x41 ∨ 0x5A < c.toNat :=
    CodeRun.send?_span_eq_none_iff.mp (h _ (by simp [unsettled]))
  have hdotted : c.toNat < 0x130 ∨ 0x130 < c.toNat :=
    CodeRun.send?_span_eq_none_iff.mp (h _ (by simp [unsettled]))
  have hsigma : c.toNat < 0x3A3 ∨ 0x3A3 < c.toNat :=
    CodeRun.send?_span_eq_none_iff.mp (h _ (by simp [unsettled]))
  have hforms : lowerForms.get? c = none := by
    unfold CodeMap.get?
    rw [← Array.findSome?_toList, Option.map_eq_none_iff, List.findSome?_eq_none_iff]
    intro r hr
    exact h r (List.mem_append_left _ (List.mem_append_left _ hr))
  unfold Text.lowerChar
  split
  · rw [toLower_eq_self hcapital]
  · rw [if_neg (by rintro rfl; revert hdotted; decide),
      if_neg (by rintro rfl; revert hsigma; decide), hforms]
    rfl

theorem Settled.isBlank {c : Char} (h : Settled c) : isBlank c = false := by
  have hblank : ∀ s ∈ blankRuns, s.send? c.toNat = none := by
    intro s hs
    exact h s (List.mem_append_left _ (List.mem_append_right _ hs))
  simp only [blankRuns, List.forall_mem_cons, CodeRun.send?_span_eq_none_iff] at hblank
  simp only [Text.isBlank, Bool.or_eq_false_iff, Bool.and_eq_false_iff, decide_eq_false_iff_not,
    beq_eq_false_iff_ne]
  omega

/-- Where a run lands is settled. -/
theorem settled_of_get? {c : Char} {form : List Char} (h : lowerForms.get? c = some form) :
    ∃ d, form = [d] ∧ Settled d := by
  unfold CodeMap.get? at h
  rw [← Array.findSome?_toList] at h
  obtain ⟨image, hfind, rfl⟩ := Option.map_eq_some_iff.mp h
  obtain ⟨r, hr, hsend⟩ := List.exists_of_findSome?_eq_some hfind
  have havoids := List.all_eq_true.mp lowerForms_avoids r hr
  obtain ⟨d, rfl, hlt, hnone⟩ := CodeRun.send?_of_avoids havoids hsend
  have hscalar : d < 0xD800 ∨ 0xDFFF < d :=
    CodeRun.send?_span_eq_none_iff.mp (hnone _ (by simp [unsettled]))
  have hvalid : d.isValidChar := by
    rcases hscalar with hlow | hhigh
    · exact Or.inl hlow
    · exact Or.inr ⟨hhigh, hlt⟩
  have hd : (Char.ofNat d).toNat = d := by
    rw [Char.ofNat, dif_pos hvalid]
    rfl
  refine ⟨Char.ofNat d, rfl, fun s hs => ?_⟩
  rw [hd]
  exact hnone s hs

/-- The form of a character: in ASCII the other case of a letter, outside it settled
characters, and for all others the character itself. -/
theorem lowerChar_cases (c : Char) :
    (c.toNat < 0x80 ∧ lowerChar c = [c.toLower]) ∨ lowerChar c = [c] ∨
      (lowerChar c ≠ [] ∧ ∀ d ∈ lowerChar c, Settled d) := by
  unfold lowerChar
  by_cases hascii : c.toNat < 0x80
  · exact Or.inl ⟨hascii, if_pos hascii⟩
  rw [if_neg hascii]
  by_cases hdotted : c = 'İ'
  · rw [if_pos hdotted]
    refine Or.inr (Or.inr ⟨by simp, ?_⟩)
    rw [List.forall_mem_cons, List.forall_mem_singleton]
    decide +kernel
  rw [if_neg hdotted]
  by_cases hsigma : c = 'Σ'
  · rw [if_pos hsigma]
    refine Or.inr (Or.inr ⟨by simp, ?_⟩)
    rw [List.forall_mem_singleton]
    decide +kernel
  rw [if_neg hsigma]
  cases hget : lowerForms.get? c with
  | none => exact Or.inr (Or.inl rfl)
  | some form =>
      obtain ⟨d, rfl, hsettled⟩ := settled_of_get? hget
      refine Or.inr (Or.inr ⟨by simp, ?_⟩)
      intro e he
      rwa [List.mem_singleton.mp he]

theorem lowerChar_ne_nil (c : Char) : lowerChar c ≠ [] := by
  rcases lowerChar_cases c with ⟨-, hform⟩ | hform | ⟨hne, -⟩
  · simp [hform]
  · simp [hform]
  · exact hne

theorem toNat_toLower_lt {c : Char} (h : c.toNat < 0x80) : c.toLower.toNat < 0x80 := by
  by_cases hcapital : 65 ≤ c.toNat ∧ c.toNat ≤ 90
  · rw [toNat_toLower hcapital.1 hcapital.2]
    omega
  · rw [toLower_eq_self (by omega)]
    exact h

/-- **A lower-case form has no other form.** -/
theorem lowerChar_of_mem_lowerChar {c d : Char} (h : d ∈ lowerChar c) : lowerChar d = [d] := by
  rcases lowerChar_cases c with ⟨hascii, hform⟩ | hform | ⟨-, hsettled⟩
  · rw [hform] at h
    obtain rfl := List.mem_singleton.mp h
    rw [lowerChar, if_pos (toNat_toLower_lt hascii), toLower_toLower]
  · rw [hform] at h
    obtain rfl := List.mem_singleton.mp h
    exact hform
  · exact (hsettled d h).lowerChar

/-! ### What does not look at the case of ASCII letters -/

/-- A test that does not tell the cases of a letter apart, put to a letter. -/
theorem test_toLower {p : Char → Bool} (answer : Bool)
    (h : ∀ c : Char, 65 ≤ c.toNat ∧ c.toNat ≤ 90 ∨ 97 ≤ c.toNat ∧ c.toNat ≤ 122 → p c = answer)
    (c : Char) : p c.toLower = p c := by
  by_cases hcapital : 65 ≤ c.toNat ∧ c.toNat ≤ 90
  · have hlower := toNat_toLower hcapital.1 hcapital.2
    rw [h c (Or.inl hcapital), h c.toLower (Or.inr (by omega))]
  · rw [toLower_eq_self (by omega)]

theorem isBlank_toLower (c : Char) : isBlank c.toLower = isBlank c := by
  refine test_toLower false ?_ c
  intro c hc
  exact isBlank_eq_false (by omega) (by omega)

theorem caseIgnorable_toLower (c : Char) :
    caseIgnorable.contains c.toLower = caseIgnorable.contains c := by
  have houtside : caseIgnorable.runs.toList.all (fun r =>
      (r.2 < 65 || 90 < r.1) && (r.2 < 97 || 122 < r.1)) = true := by decide +kernel
  refine test_toLower false ?_ c
  intro c hc
  rw [Bool.eq_false_iff]
  intro hcontains
  rw [CodeSet.contains, ← Array.any_toList] at hcontains
  obtain ⟨r, hr, hin⟩ := List.any_eq_true.mp hcontains
  have hout := List.all_eq_true.mp houtside r hr
  simp only [Bool.and_eq_true, Bool.or_eq_true, decide_eq_true_eq] at hout hin
  omega

theorem casedLetters_toLower (c : Char) :
    casedLetters.contains c.toLower = casedLetters.contains c := by
  have hletters : (65, 90) ∈ casedLetters.runs.toList ∧ (97, 122) ∈ casedLetters.runs.toList := by
    decide +kernel
  refine test_toLower true ?_ c
  intro c hc
  rw [CodeSet.contains, ← Array.any_toList]
  rcases hc with hcapital | hsmall
  · exact List.any_eq_true.mpr ⟨_, hletters.1, by simpa using hcapital⟩
  · exact List.any_eq_true.mpr ⟨_, hletters.2, by simpa using hsmall⟩

theorem dropWhile_map_toLower {p : Char → Bool} (h : ∀ c : Char, p c.toLower = p c)
    (cs : List Char) : (cs.map Char.toLower).dropWhile p = (cs.dropWhile p).map Char.toLower := by
  rw [List.dropWhile_map]
  congr 2
  funext c
  exact h c

/-- Trimming takes the same characters off. -/
theorem trim_map_toLower (cs : List Char) :
    trim (cs.map Char.toLower) = (trim cs).map Char.toLower := by
  unfold trim trimEnd trimStart
  rw [dropWhile_map_toLower isBlank_toLower, ← List.map_reverse,
    dropWhile_map_toLower isBlank_toLower, ← List.map_reverse]

theorem startsCased_map_toLower (cs : List Char) :
    startsCased (cs.map Char.toLower) = startsCased cs := by
  unfold startsCased
  rw [dropWhile_map_toLower caseIgnorable_toLower]
  cases cs.dropWhile caseIgnorable.contains with
  | nil => rfl
  | cons c rest => exact casedLetters_toLower c

theorem lowerChar_toLower (c : Char) : lowerChar c.toLower = lowerChar c := by
  by_cases hcapital : 65 ≤ c.toNat ∧ c.toNat ≤ 90
  · rw [lowerChar, if_pos (toNat_toLower_lt (by omega)), toLower_toLower, lowerChar,
      if_pos (by omega)]
  · rw [toLower_eq_self (by omega)]

theorem toLower_eq_sigma_iff (c : Char) : c.toLower = 'Σ' ↔ c = 'Σ' := by
  by_cases hcapital : 65 ≤ c.toNat ∧ c.toNat ≤ 90
  · have hlower := toNat_toLower hcapital.1 hcapital.2
    constructor
    · intro h
      rw [h] at hlower
      have hsigma : 'Σ'.toNat = 931 := rfl
      omega
    · rintro rfl
      revert hcapital
      decide
  · rw [toLower_eq_self (by omega)]

/-! ### Lower case of a text -/

/-- **Lower case does not see the case of ASCII letters**, neither of those it changes nor
of those around a sigma. -/
theorem lowerFrom_map_toLower (before cs : List Char) :
    lowerFrom (before.map Char.toLower) (cs.map Char.toLower) = lowerFrom before cs := by
  induction cs generalizing before with
  | nil => rfl
  | cons c cs ih =>
      have hrest := ih (c :: before)
      rw [List.map_cons] at hrest
      simp only [List.map_cons, lowerFrom, hrest, lowerChar_toLower, startsCased_map_toLower,
        toLower_eq_sigma_iff]

/-- The first character goes to some characters, which are their own forms and no white
space unless it is. -/
theorem exists_lowerFrom_cons (before : List Char) (c : Char) (cs : List Char) :
    ∃ form, lowerFrom before (c :: cs) = form ++ lowerFrom (c :: before) cs ∧ form ≠ [] ∧
      ∀ d ∈ form, lowerChar d = [d] ∧ (isBlank c = false → isBlank d = false) := by
  rw [lowerFrom]
  refine ⟨_, rfl, ?_⟩
  split
  · have hfinal : Settled 'ς' := by decide +kernel
    refine ⟨by simp, ?_⟩
    intro d hd
    obtain rfl := List.mem_singleton.mp hd
    exact ⟨hfinal.lowerChar, fun _ => hfinal.isBlank⟩
  · refine ⟨lowerChar_ne_nil c, fun d hd => ⟨lowerChar_of_mem_lowerChar hd, fun hc => ?_⟩⟩
    rcases lowerChar_cases c with ⟨-, hform⟩ | hform | ⟨-, hsettled⟩
    · rw [hform] at hd
      rw [List.mem_singleton.mp hd, isBlank_toLower]
      exact hc
    · rw [hform] at hd
      rwa [List.mem_singleton.mp hd]
    · exact (hsettled d hd).isBlank

theorem lowerChar_of_mem_lowerFrom {before cs : List Char} {d : Char}
    (h : d ∈ lowerFrom before cs) : lowerChar d = [d] := by
  induction cs generalizing before with
  | nil => cases h
  | cons c cs ih =>
      obtain ⟨form, hform, -, hall⟩ := exists_lowerFrom_cons before c cs
      rw [hform] at h
      rcases List.mem_append.mp h with hd | hd
      · exact (hall d hd).1
      · exact ih hd

/-- Characters that are their own forms stay, wherever they stand. -/
theorem lowerFrom_eq_self {cs : List Char} (h : ∀ c ∈ cs, lowerChar c = [c])
    (before : List Char) : lowerFrom before cs = cs := by
  induction cs generalizing before with
  | nil => rfl
  | cons c cs ih =>
      have hc := h c List.mem_cons_self
      have hsigma : c ≠ 'Σ' := by
        rintro rfl
        revert hc
        decide
      simp only [lowerFrom, hsigma, decide_false, Bool.false_and, Bool.false_eq_true, if_false,
        hc, ih (fun d hd => h d (List.mem_cons_of_mem c hd)), List.singleton_append]

/-- **Lower case is final.** -/
theorem lowercase_lowercase (s : String) : lowercase (lowercase s) = lowercase s := by
  unfold lowercase
  rw [String.toList_ofList, lowerFrom_eq_self (fun d hd => lowerChar_of_mem_lowerFrom hd)]

theorem lowerFrom_eq_nil_iff {before cs : List Char} : lowerFrom before cs = [] ↔ cs = [] := by
  cases cs with
  | nil => simp [lowerFrom]
  | cons c cs =>
      obtain ⟨form, hform, hne, -⟩ := exists_lowerFrom_cons before c cs
      simp [hform, hne]

/-- Only nothing is nothing in lower case. -/
theorem lowercase_eq_empty_iff {s : String} : lowercase s = "" ↔ s = "" := by
  rw [← String.toList_eq_nil_iff, ← String.toList_eq_nil_iff, lowercase, String.toList_ofList,
    lowerFrom_eq_nil_iff]

theorem last_lowerFrom {before cs : List Char} {d : Char}
    (last : ∀ c, cs.getLast? = some c → isBlank c = false)
    (h : (lowerFrom before cs).getLast? = some d) : isBlank d = false := by
  induction cs generalizing before with
  | nil => cases h
  | cons c cs ih =>
      obtain ⟨form, hform, hne, hall⟩ := exists_lowerFrom_cons before c cs
      rw [hform] at h
      cases cs with
      | nil =>
          have hlast : form.getLast? = some d := by simpa [lowerFrom] using h
          exact (hall d (List.mem_of_getLast? hlast)).2 (last c rfl)
      | cons e cs =>
          rw [List.getLast?_append_of_ne_nil _ (mt lowerFrom_eq_nil_iff.mp (by simp))] at h
          exact ih (fun b hb => last b (by rwa [List.getLast?_cons_cons])) h

/-- Lower case leaves nothing to trim. -/
theorem isTrimmed_lowerFrom {cs : List Char} (h : IsTrimmed cs) (before : List Char) :
    IsTrimmed (lowerFrom before cs) where
  head := by
    intro d hd
    cases cs with
    | nil => cases hd
    | cons c cs =>
        obtain ⟨form, hform, hne, hall⟩ := exists_lowerFrom_cons before c cs
        rw [hform, List.head?_append_of_ne_nil _ hne] at hd
        exact (hall d (List.mem_of_mem_head? hd)).2 (h.head c rfl)
  last := fun _ hd => last_lowerFrom h.last hd

end AgentId.Text
