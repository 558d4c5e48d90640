/-
What field lists hold, and how to write one that is read back.

Cutting, trimming and unquoting only ever take characters away, so a key or a value that
was read is free of the separators it was cut at and has nothing left to trim
(`isKey_and_isToken_of_get?_parse`).  The other way round, entries of that kind come back
when they are written one behind the other (`parse_lines`), as long as no value starts
with the quote that reading would take off.
-/
import AgentId.Fields
import AgentId.Proofs.Dict
import AgentId.Proofs.Text.Cutting
import AgentId.Proofs.Text.Trimming

namespace AgentId.Fields

open Text

/-- Text that stands between semicolons and white space as it is. -/
structure IsToken (s : String) : Prop where
  ne_empty : s ≠ ""
  noSemicolon : ';' ∉ s.toList
  trimmed : IsTrimmed s.toList

/-- A token that can stand in front of an equals sign. -/
structure IsKey (s : String) : Prop extends IsToken s where
  noEquals : '=' ∉ s.toList

instance (s : String) : Decidable (IsToken s) :=
  decidable_of_iff (s ≠ "" ∧ ';' ∉ s.toList ∧ IsTrimmed s.toList)
    ⟨fun h => ⟨h.1, h.2.1, h.2.2⟩, fun h => ⟨h.ne_empty, h.noSemicolon, h.trimmed⟩⟩

instance (s : String) : Decidable (IsKey s) :=
  decidable_of_iff (IsToken s ∧ '=' ∉ s.toList)
    ⟨fun h => ⟨h.1, h.2⟩, fun h => ⟨h.toIsToken, h.noEquals⟩⟩

/-! ### What was read -/

theorem mem_of_mem_unquote {cs : List Char} {c : Char} (h : c ∈ unquote cs) : c ∈ cs := by
  unfold unquote at h
  split at h
  · split at h
    · exact List.mem_cons_of_mem _ (List.dropLast_subset _ h)
    · exact h
  · exact h

/-- What is left of a piece of text after trimming, unless nothing is. -/
theorem isToken_trim {cs : List Char} (hne : trim cs ≠ []) (hsemi : ';' ∉ cs) :
    IsToken (String.ofList (trim cs)) where
  ne_empty := by
    intro h
    exact hne (by rw [← String.toList_ofList (l := trim cs), h]; rfl)
  noSemicolon := by
    rw [String.toList_ofList]
    exact fun h => hsemi (mem_of_mem_trim h)
  trimmed := by
    rw [String.toList_ofList]
    exact isTrimmed_trim cs

theorem isKey_and_isToken_of_segment? {cs : List Char} {key value : String} (hsemi : ';' ∉ cs)
    (h : segment? cs = some (key, value)) : IsKey key ∧ IsToken value := by
  unfold segment? at h
  cases hcut : cut? '=' cs with
  | none => simp [hcut] at h
  | some parts =>
      obtain ⟨k, v⟩ := parts
      obtain ⟨hcs, hequals⟩ := cut?_eq_some_iff.mp hcut
      subst hcs
      simp only [hcut, Option.bind_eq_bind, Option.bind_some] at h
      split at h
      · simp at h
      · rename_i hblank
        simp only [Bool.or_eq_true, List.isEmpty_iff, not_or] at hblank
        obtain ⟨rfl, rfl⟩ := Prod.mk.inj (Option.some.inj h)
        have hk : ';' ∉ k := fun hmem => hsemi (List.mem_append_left _ hmem)
        have hv : ';' ∉ unquote (trim v) := fun hmem =>
          hsemi (List.mem_append_right _
            (List.mem_cons_of_mem _ (mem_of_mem_trim (mem_of_mem_unquote hmem))))
        refine ⟨⟨isToken_trim hblank.1 hk, ?_⟩, isToken_trim hblank.2 hv⟩
        rw [String.toList_ofList]
        exact fun hmem => hequals (mem_of_mem_trim hmem)

theorem isKey_and_isToken_of_get?_parse {s key value : String}
    (h : (parse s).get? key = some value) : IsKey key ∧ IsToken value := by
  obtain ⟨piece, hpiece, hsegment⟩ := List.mem_filterMap.mp (Dict.mem_of_get?_ofList h)
  exact isKey_and_isToken_of_segment? (not_mem_of_mem_splitOn hpiece) hsegment

/-! ### What is written -/

/-- An entry as it is written. -/
def line (entry : String × String) : List Char :=
  entry.1.toList ++ '=' :: entry.2.toList

/-- Entries that come back from their lines: reading takes no quotes off their values. -/
def Writable (entry : String × String) : Prop :=
  IsKey entry.1 ∧ IsToken entry.2 ∧ entry.2.toList.head? ≠ some '"'

theorem unquote_of_head? {cs : List Char} (h : cs.head? ≠ some '"') : unquote cs = cs := by
  unfold unquote
  split
  · simp at h
  · rfl

theorem segment?_line {entry : String × String} (h : Writable entry) :
    segment? (line entry) = some entry := by
  obtain ⟨hkey, hvalue, hquote⟩ := h
  have hcut : cut? '=' (line entry) = some (entry.1.toList, entry.2.toList) :=
    cut?_eq_some_iff.mpr ⟨rfl, hkey.noEquals⟩
  unfold segment?
  rw [hcut]
  simp [trim_of_isTrimmed hkey.trimmed, trim_of_isTrimmed hvalue.trimmed,
    unquote_of_head? hquote, hkey.ne_empty, hvalue.ne_empty]

theorem noSemicolon_line {entry : String × String} (h : Writable entry) :
    ';' ∉ line entry := by
  obtain ⟨hkey, hvalue, -⟩ := h
  intro hmem
  rcases List.mem_append.mp hmem with hk | hv
  · exact hkey.noSemicolon hk
  · exact hvalue.noSemicolon (by simpa using hv)

theorem filterMap_segment?_line {entries : List (String × String)}
    (h : ∀ e ∈ entries, Writable e) : (entries.map line).filterMap segment? = entries := by
  induction entries with
  | nil => rfl
  | cons e es ih =>
      rw [List.map_cons, List.filterMap_cons_some (segment?_line (h e (by simp))),
        ih fun e' he' => h e' (by simp [he'])]

/-- **Entries come back when they are written one behind the other**, each behind a
semicolon but the first. -/
theorem parse_lines {entries : List (String × String)} (h : ∀ e ∈ entries, Writable e) :
    parse (String.ofList ((entries.flatMap fun e => ';' :: line e).drop 1)) =
      .ofList entries := by
  cases entries with
  | nil => rfl
  | cons e es =>
      have hsplit : (line e ++ (es.map line).flatMap (';' :: ·)).splitOn ';' =
          (e :: es).map line := by
        refine splitOn_flatMap_cons (noSemicolon_line (h e (by simp))) fun piece hpiece => ?_
        obtain ⟨e', he', rfl⟩ := List.mem_map.mp hpiece
        exact noSemicolon_line (h e' (by simp [he']))
      have htext : ((e :: es).flatMap fun e => ';' :: line e).drop 1 =
          line e ++ (es.map line).flatMap (';' :: ·) := by
        rw [List.flatMap_cons, List.cons_append, List.drop_one, List.tail_cons, List.flatMap_map]
      unfold parse
      rw [String.toList_ofList, htext, hsplit, filterMap_segment?_line h]

end AgentId.Fields
