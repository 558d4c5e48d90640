/-
Finite maps from strings.

A `Dict` lists its entries in ascending order of their keys, each key once, so a map
has one representation: two are equal when they give every key the same value
(`Dict.ext_get?`).  The order on strings is by code point, which is the order of their
UTF-8 octets.  Among several entries for one key the last one written wins.
-/
namespace AgentId

/-- Entries in ascending order of their keys. -/
structure Dict (α : Type) where
  entries : List (String × α)
  ascending : entries.Pairwise fun a b => a.1 < b.1

namespace Dict

variable {α β : Type}

instance [DecidableEq α] : DecidableEq (Dict α) := fun a b =>
  if h : a.entries = b.entries then
    isTrue (by cases a; cases b; simp_all)
  else isFalse fun e => h (by rw [e])

instance [Repr α] : Repr (Dict α) := ⟨fun d n => reprPrec d.entries n⟩

/-- The map without entries. -/
def empty : Dict α := ⟨[], .nil⟩

instance : EmptyCollection (Dict α) := ⟨empty⟩

instance : Inhabited (Dict α) := ⟨empty⟩

/-- The value of a key. -/
def get? (d : Dict α) (key : String) : Option α :=
  d.entries.lookup key

/-- Whether a key has a value. -/
def contains (d : Dict α) (key : String) : Bool :=
  (d.get? key).isSome

/-- The entries in order. -/
def toList (d : Dict α) : List (String × α) := d.entries

/-- The number of keys. -/
def size (d : Dict α) : Nat := d.entries.length

/-- Whether no key has a value. -/
def isEmpty (d : Dict α) : Bool := d.entries.isEmpty

/-- Entries with one more, which replaces the one of the same key. -/
def insertEntry (key : String) (value : α) : List (String × α) → List (String × α)
  | [] => [(key, value)]
  | (k, v) :: rest =>
    if key < k then (key, value) :: (k, v) :: rest
    else if key = k then (key, value) :: rest
    else (k, v) :: insertEntry key value rest

theorem mem_insertEntry {key : String} {value : α} {l : List (String × α)}
    {e : String × α} (h : e ∈ insertEntry key value l) : e = (key, value) ∨ e ∈ l := by
  induction l with
  | nil => simpa [insertEntry] using h
  | cons x rest ih =>
    obtain ⟨k, v⟩ := x
    simp only [insertEntry] at h
    split at h
    · simpa using h
    · split at h
      · rcases List.mem_cons.1 h with h | h
        · exact .inl h
        · exact .inr (List.mem_cons_of_mem _ h)
      · rcases List.mem_cons.1 h with h | h
        · exact .inr (h ▸ List.mem_cons_self)
        · exact (ih h).imp_right (List.mem_cons_of_mem _)

theorem ascending_insertEntry {key : String} {value : α} {l : List (String × α)}
    (h : l.Pairwise fun a b => a.1 < b.1) :
    (insertEntry key value l).Pairwise fun a b => a.1 < b.1 := by
  induction l with
  | nil => simp [insertEntry]
  | cons x rest ih =>
    obtain ⟨k, v⟩ := x
    have hx := List.pairwise_cons.1 h
    simp only [insertEntry]
    split
    · rename_i lt
      refine List.pairwise_cons.2 ⟨fun e he => ?_, h⟩
      rcases List.mem_cons.1 he with rfl | he
      · exact lt
      · exact String.lt_trans lt (hx.1 e he)
    · split
      · rename_i eq
        subst eq
        exact List.pairwise_cons.2 ⟨hx.1, hx.2⟩
      · rename_i ge ne
        refine List.pairwise_cons.2 ⟨fun e he => ?_, ih hx.2⟩
        rcases mem_insertEntry he with rfl | he
        · exact Std.lt_of_le_of_ne (String.not_lt.1 ge) (Ne.symm ne)
        · exact hx.1 e he

/-- The map with a key's value set. -/
def insert (d : Dict α) (key : String) (value : α) : Dict α :=
  ⟨insertEntry key value d.entries, ascending_insertEntry d.ascending⟩

/-- The map with a key's value set where it had none. -/
def insertNew (d : Dict α) (key : String) (value : α) : Dict α :=
  if d.contains key then d else d.insert key value

/-- The map that entries write, the last one for a key winning. -/
def ofList (l : List (String × α)) : Dict α :=
  l.foldl (fun d (key, value) => d.insert key value) empty

/-- The entries that pass a test. -/
def filter (p : String → α → Bool) (d : Dict α) : Dict α :=
  ⟨d.entries.filter fun (key, value) => p key value, d.ascending.filter _⟩

/-- Every value changed by the same function. -/
def map (f : α → β) (d : Dict α) : Dict β :=
  ⟨d.entries.map fun (key, value) => (key, f value), by
    rw [List.pairwise_map]; exact d.ascending⟩

/-! ### Looking up after writing -/

@[simp] theorem get?_empty (key : String) : (empty : Dict α).get? key = none := rfl

theorem lookup_cons_ite (k j : String) (v : α) (l : List (String × α)) :
    ((j, v) :: l).lookup k = if k = j then some v else l.lookup k := by
  by_cases h : k = j
  · simp [h]
  · have : (k == j) = false := by simpa using h
    simp [List.lookup_cons, this, h]

theorem lookup_insertEntry (key k : String) (value : α) (l : List (String × α)) :
    (insertEntry key value l).lookup k = if k = key then some value else l.lookup k := by
  induction l with
  | nil => simp [insertEntry, lookup_cons_ite]
  | cons x rest ih =>
    obtain ⟨j, v⟩ := x
    simp only [insertEntry]
    split
    · simp only [lookup_cons_ite]
    · split
      · rename_i eq
        subst eq
        simp only [lookup_cons_ite]
        split <;> rfl
      · rename_i ne
        simp only [lookup_cons_ite, ih]
        by_cases hk : k = key
        · subst hk
          simp [ne]
        · simp [hk]

@[simp] theorem get?_insert (d : Dict α) (key k : String) (value : α) :
    (d.insert key value).get? k = if k = key then some value else d.get? k :=
  lookup_insertEntry key k value d.entries

/-- An entry in order is the value of its key. -/
theorem mem_entries_iff {d : Dict α} {key : String} {value : α} :
    (key, value) ∈ d.entries ↔ d.get? key = some value := by
  obtain ⟨l, h⟩ := d
  simp only [get?]
  induction l with
  | nil => simp
  | cons x rest ih =>
    obtain ⟨k, v⟩ := x
    have hx := List.pairwise_cons.1 h
    rw [lookup_cons_ite, List.mem_cons, ih hx.2]
    by_cases hk : key = k
    · subst hk
      simp only [Prod.mk.injEq, true_and, if_true, Option.some.injEq]
      constructor
      · rintro (rfl | hm)
        · rfl
        · exact absurd (hx.1 _ ((ih hx.2).2 hm)) (String.lt_irrefl _)
      · rintro rfl; exact .inl rfl
    · simp [hk]

/-- A map is determined by its values. -/
theorem ext_get? {a b : Dict α} (h : ∀ key, a.get? key = b.get? key) : a = b := by
  have mem : ∀ e, e ∈ a.entries ↔ e ∈ b.entries := fun (k, v) => by
    rw [mem_entries_iff, mem_entries_iff, h]
  obtain ⟨l, hl⟩ := a
  obtain ⟨m, hm⟩ := b
  simp only at mem
  suffices l = m by subst this; rfl
  clear h
  induction l generalizing m with
  | nil =>
    cases m with
    | nil => rfl
    | cons y m => exact absurd ((mem y).2 List.mem_cons_self) (by simp)
  | cons x l ih =>
    cases m with
    | nil => exact absurd ((mem x).1 List.mem_cons_self) (by simp)
    | cons y m =>
      have hx := List.pairwise_cons.1 hl
      have hy := List.pairwise_cons.1 hm
      have xy : x = y := by
        rcases List.mem_cons.1 ((mem x).1 List.mem_cons_self) with h | h
        · exact h
        · rcases List.mem_cons.1 ((mem y).2 List.mem_cons_self) with h' | h'
          · exact h'.symm
          · exact absurd (String.lt_trans (hx.1 y h') (hy.1 x h)) (String.lt_irrefl _)
      subst xy
      rw [ih hx.2 m hy.2]
      intro e
      constructor
      · intro he
        rcases List.mem_cons.1 ((mem e).1 (List.mem_cons_of_mem _ he)) with rfl | h
        · exact absurd (hx.1 _ he) (String.lt_irrefl _)
        · exact h
      · intro he
        rcases List.mem_cons.1 ((mem e).2 (List.mem_cons_of_mem _ he)) with rfl | h
        · exact absurd (hy.1 _ he) (String.lt_irrefl _)
        · exact h

end Dict

end AgentId
