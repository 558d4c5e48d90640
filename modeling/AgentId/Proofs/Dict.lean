/-
What a map holds after it is built.

A `Dict` is known by its lookups (`Dict.ext_get?`), so each way to build one is described
by what it looks up.  Written from a list, a map keeps the last of the entries that the list
has for a key (`get?_ofList_eq_some_iff_last`), and when the list has no two for one key there
is nothing to choose: the map holds exactly the list (`get?_ofList_eq_some_iff`).
-/
import AgentId.Dict
import Mathlib.Data.List.Induction

namespace AgentId.Dict

variable {α β : Type}

/-! ### Changing a map that is there -/

@[simp] theorem get?_filter (p : String → α → Bool) (d : Dict α) (key : String) :
    (d.filter p).get? key = (d.get? key).filter (p key) := by
  refine Option.ext fun value => ?_
  rw [← mem_entries_iff, Option.filter_eq_some_iff, ← mem_entries_iff]
  exact List.mem_filter

@[simp] theorem get?_map (f : α → β) (d : Dict α) (key : String) :
    (d.map f).get? key = (d.get? key).map f := by
  refine Option.ext fun value => ?_
  rw [← mem_entries_iff, Option.map_eq_some_iff]
  show (key, value) ∈ d.entries.map _ ↔ _
  rw [List.mem_map]
  constructor
  · rintro ⟨⟨k, v⟩, hmem, heq⟩
    obtain ⟨rfl, rfl⟩ := Prod.mk.inj heq
    exact ⟨v, mem_entries_iff.mp hmem, rfl⟩
  · rintro ⟨v, hget, rfl⟩
    exact ⟨(key, v), mem_entries_iff.mpr hget, rfl⟩

/-- A key that has a value keeps it. -/
@[simp] theorem get?_insertNew (d : Dict α) (key k : String) (value : α) :
    (d.insertNew key value).get? k = (d.get? k).or (if k = key then some value else none) := by
  unfold insertNew
  cases hget : d.get? key with
  | none =>
      rw [if_neg (by simp [contains, hget]), get?_insert]
      by_cases hk : k = key
      · rw [hk, hget, if_pos rfl, Option.none_or]
      · rw [if_neg hk, if_neg hk, Option.or_none]
  | some kept =>
      rw [if_pos (by simp [contains, hget])]
      by_cases hk : k = key
      · rw [hk, hget, Option.some_or]
      · rw [if_neg hk, Option.or_none]

/-! ### Writing a map from a list -/

/-- The last entry is written over all others. -/
theorem ofList_concat (l : List (String × α)) (key : String) (value : α) :
    ofList (l ++ [(key, value)]) = (ofList l).insert key value := by
  unfold ofList
  rw [List.foldl_append]
  rfl

theorem mem_of_get?_ofList {l : List (String × α)} {key : String} {value : α}
    (h : (ofList l).get? key = some value) : (key, value) ∈ l := by
  induction l using List.reverseRecOn with
  | nil => simp [ofList] at h
  | append_singleton l e ih =>
      obtain ⟨k, v⟩ := e
      rw [ofList_concat, get?_insert] at h
      by_cases hk : key = k
      · rw [if_pos hk, Option.some.injEq] at h
        subst hk h
        simp
      · rw [if_neg hk] at h
        exact List.mem_append_left _ (ih h)

theorem get?_ofList_isSome {l : List (String × α)} {key : String} {value : α}
    (h : (key, value) ∈ l) : ((ofList l).get? key).isSome := by
  induction l using List.reverseRecOn with
  | nil => simp at h
  | append_singleton l e ih =>
      obtain ⟨k, v⟩ := e
      rw [ofList_concat, get?_insert]
      by_cases hk : key = k
      · rw [if_pos hk]
        rfl
      · rw [if_neg hk]
        rcases List.mem_append.mp h with hl | he
        · exact ih hl
        · exact absurd (Prod.mk.inj (List.mem_singleton.mp he)).1 hk

/-- Of two lists behind one another the second is written over the first. -/
theorem get?_ofList_append (l m : List (String × α)) (key : String) :
    (ofList (l ++ m)).get? key = ((ofList m).get? key).or ((ofList l).get? key) := by
  induction m using List.reverseRecOn with
  | nil =>
      rw [List.append_nil]
      exact (Option.none_or).symm
  | append_singleton m e ih =>
      obtain ⟨k, v⟩ := e
      rw [← List.append_assoc, ofList_concat, ofList_concat, get?_insert, get?_insert, ih]
      by_cases hk : key = k
      · rw [if_pos hk, if_pos hk, Option.some_or]
      · rw [if_neg hk, if_neg hk]

/-- A key has no value if the list has no entry for it. -/
theorem get?_ofList_eq_none_iff {l : List (String × α)} {key : String} :
    (ofList l).get? key = none ↔ ∀ e ∈ l, e.1 ≠ key := by
  constructor
  · rintro h ⟨k, v⟩ he rfl
    have hsome := get?_ofList_isSome he
    rw [h] at hsome
    cases hsome
  · intro h
    cases hget : (ofList l).get? key with
    | none => rfl
    | some value => exact absurd rfl (h _ (mem_of_get?_ofList hget))

/-- **The value of a key is that of the last entry for it.** -/
theorem get?_ofList_eq_some_iff_last {l : List (String × α)} {key : String} {value : α} :
    (ofList l).get? key = some value ↔
      ∃ before after, l = before ++ (key, value) :: after ∧ ∀ e ∈ after, e.1 ≠ key := by
  constructor
  · intro h
    induction l using List.reverseRecOn with
    | nil => cases h
    | append_singleton l e ih =>
        obtain ⟨k, v⟩ := e
        rw [ofList_concat, get?_insert] at h
        by_cases hk : key = k
        · rw [if_pos hk, Option.some.injEq] at h
          subst hk h
          exact ⟨l, [], rfl, by simp⟩
        · rw [if_neg hk] at h
          obtain ⟨before, after, rfl, hafter⟩ := ih h
          refine ⟨before, after ++ [(k, v)], by simp, fun e he => ?_⟩
          rcases List.mem_append.mp he with he | he
          · exact hafter e he
          · rw [List.mem_singleton.mp he]
            exact fun heq => hk heq.symm
  · rintro ⟨before, after, rfl, hafter⟩
    have hone : (ofList ((key, value) :: after)).get? key = some value := by
      rw [← List.singleton_append, get?_ofList_append, get?_ofList_eq_none_iff.mpr hafter,
        Option.none_or]
      exact (get?_insert _ _ _ _).trans (if_pos rfl)
    rw [get?_ofList_append, hone, Option.some_or]

/-- **A list with one value for each of its keys is what the map holds.** -/
theorem get?_ofList_eq_some_iff {l : List (String × α)}
    (single : ∀ k v v', (k, v) ∈ l → (k, v') ∈ l → v = v') {key : String} {value : α} :
    (ofList l).get? key = some value ↔ (key, value) ∈ l := by
  refine ⟨mem_of_get?_ofList, fun h => ?_⟩
  obtain ⟨v, hv⟩ := Option.isSome_iff_exists.mp (get?_ofList_isSome h)
  rw [hv, single key v value (mem_of_get?_ofList hv) h]

theorem eq_empty_of_isEmpty {d : Dict α} (h : d.isEmpty) : d = {} := by
  have hentries : d.entries = [] := List.isEmpty_iff.mp h
  refine ext_get? fun key => ?_
  show d.entries.lookup key = none
  rw [hentries]
  rfl

/-- A map is written by its own entries, in any order. -/
theorem ofList_of_perm {d : Dict α} {l : List (String × α)} (h : l.Perm d.toList) :
    ofList l = d := by
  have hmem : ∀ {key value}, (key, value) ∈ l ↔ d.get? key = some value :=
    h.mem_iff.trans mem_entries_iff
  refine ext_get? fun key => Option.ext fun value => ?_
  rw [get?_ofList_eq_some_iff, hmem]
  intro k v v' hv hv'
  exact Option.some.inj ((hmem.mp hv).symm.trans (hmem.mp hv'))

end AgentId.Dict
