/-
Fields of records in JSON.

A field that must be there is read if its value is written in the way that the field is read.
Where one value is written in one way only, that is a look-up in the record
(`required_eq_some_iff`), and of a record with two fields nothing is left open but whether it is
an object or an array (`fields?_two_iff`).

What is written of a record is a table of its fields: those that have a value, under their names
and in their order (`map_fst_written`).  The names differ, so each field is found again under its
own (`lookup_written`), and read back if its kind of value is.
-/
import AgentId.Json.Record
import AgentId.Proofs.Dict
import Mathlib.Data.List.Forall2
import Mathlib.Data.List.Nodup

namespace AgentId.Json

theorem string?_eq_some_iff {v : Json} {s : String} : v.string? = some s ↔ v = .str s := by
  cases v <;> simp [string?]

/-- A field whose value can be written in one way is there if it is written so. -/
theorem required_eq_some_iff {α : Type} {fields : List (String × Json)} {name : String}
    {read : Json → Option α} {x : α} {written : Json}
    (hread : ∀ v, read v = some x ↔ v = written) :
    required fields name read = some x ↔ fields.lookup name = some written := by
  unfold required
  rw [Option.bind_eq_some_iff]
  simp [hread]

/-- **Two fields are those of an object, or the items of an array of two.** -/
theorem fields?_two_iff {first second : String} (hne : second ≠ first) {v x y : Json} :
    (∃ fields, v.fields? [first, second] = some fields ∧ fields.lookup first = some x ∧
        fields.lookup second = some y) ↔
      (∃ members, v = .obj members ∧ members.lookup first = some x ∧
        members.lookup second = some y) ∨ v = .arr [x, y] := by
  have hother : (second == first) = false := beq_eq_false_iff_ne.mpr hne
  constructor
  · rintro ⟨fields, hfields, hfirst, hsecond⟩
    cases v with
    | obj members =>
        obtain rfl : members = fields := Option.some.inj hfields
        exact Or.inl ⟨members, rfl, hfirst, hsecond⟩
    | arr items =>
        dsimp only [fields?] at hfields
        split at hfields
        · rename_i hlength
          obtain rfl := Option.some.inj hfields
          match items with
          | [] => cases hfirst
          | [a] => simp [List.lookup_cons, hother] at hsecond
          | [a, b] =>
              obtain rfl : a = x := by simpa using hfirst
              obtain rfl : b = y := by simpa [List.lookup_cons, hother] using hsecond
              exact Or.inr rfl
          | _ :: _ :: _ :: _ => simp at hlength
        · cases hfields
    | null => cases hfields
    | bool b => cases hfields
    | num n => cases hfields
    | str s => cases hfields
  · rintro (⟨members, rfl, hfirst, hsecond⟩ | rfl)
    · exact ⟨members, rfl, hfirst, hsecond⟩
    · exact ⟨_, rfl, by simp, by simp [List.lookup_cons, hother]⟩

/-- The value of a field of a record, be it an object or an array. -/
def field? (names : List String) (name : String) (v : Json) : Option Json :=
  (v.fields? names).bind (·.lookup name)

theorem field?_eq {names : List String} {name : String} {v : Json}
    {fields : List (String × Json)} (h : v.fields? names = some fields) :
    v.field? names name = fields.lookup name := by
  rw [field?, h, Option.bind_some]

/-! ### Fields that are there, absent or null -/

section

variable {α : Type} {fields : List (String × Json)} {name : String} {read : Json → Option α}

theorem required_of_lookup {v : Json} {x : α} (h : fields.lookup name = some v)
    (hread : read v = some x) : required fields name read = some x := by
  rw [required, h, Option.bind_some, hread]

/-- A field that may be absent has no value if it is absent or null. -/
theorem optional_eq_some_none_iff :
    optional fields name read = some none ↔
      fields.lookup name = none ∨ fields.lookup name = some .null := by
  unfold optional
  split
  · rename_i h
    simp [h]
  · rename_i h
    simp [h]
  · rename_i v hnull h
    simpa [h] using hnull

theorem optional_eq_some_some_iff {x : α} :
    optional fields name read = some (some x) ↔
      ∃ v, fields.lookup name = some v ∧ v ≠ .null ∧ read v = some x := by
  unfold optional
  split
  · rename_i h
    simp [h]
  · rename_i h
    simp [h]
  · rename_i v hnull h
    have hne : v ≠ .null := fun heq => hnull heq
    simp [h, hne]

/-- What a value of a field says, when a null says nothing. -/
theorem bind_lookup_of_optional {β : Type} {meaning : Json → Option β} {f : α → β} {x : Option α}
    (h : optional fields name read = some x) (hnull : meaning .null = none)
    (hread : ∀ v y, v ≠ .null → read v = some y → meaning v = some (f y)) :
    (fields.lookup name).bind meaning = x.map f := by
  cases x with
  | none =>
      rcases optional_eq_some_none_iff.mp h with hnone | hnone
      · rw [hnone]
        rfl
      · rw [hnone]
        exact hnull
  | some y =>
      obtain ⟨v, hv, hne, hy⟩ := optional_eq_some_some_iff.mp h
      rw [hv]
      exact hread v y hne hy

theorem getD_of_defaulted {fallback x : α} (h : defaulted fields name read fallback = some x) :
    ((fields.lookup name).bind read).getD fallback = x := by
  unfold defaulted at h
  split at h
  · rename_i hnone
    rw [hnone]
    exact Option.some.inj h
  · rename_i v hsome
    rw [hsome, Option.bind_some, h, Option.getD_some]

end

/-- A value, unless it is null. -/
def given? : Json → Option Json
  | .null => none
  | v => some v

theorem given?_of_ne_null {v : Json} (h : v ≠ .null) : v.given? = some v := by
  cases v <;> first | rfl | exact absurd rfl h

/-! ### Lists, every item read the same way -/

theorem mapM_eq_some_iff {α β : Type} {f : α → Option β} {l : List α} {m : List β} :
    l.mapM f = some m ↔ List.Forall₂ (fun x y => f x = some y) l m := by
  induction l generalizing m with
  | nil => cases m <;> simp
  | cons x xs ih =>
      rw [List.mapM_cons]
      cases m with
      | nil => simp [Option.bind_eq_some_iff]
      | cons y ys => simp [Option.bind_eq_some_iff, ← ih]

/-- Items that can be read from what is written of them are read together. -/
theorem mapM_map_eq_some {α β : Type} {read : β → Option α} {write : α → β} {l : List α}
    (h : ∀ x ∈ l, read (write x) = some x) : (l.map write).mapM read = some l := by
  rw [mapM_eq_some_iff, List.forall₂_map_left_iff, List.forall₂_same]
  exact h

/-- Whatever was read was read from an item. -/
theorem exists_of_mem_of_mapM {α β : Type} {f : α → Option β} {l : List α} {m : List β}
    (h : l.mapM f = some m) {y : β} (hy : y ∈ m) : ∃ x ∈ l, f x = some y := by
  have hall := mapM_eq_some_iff.mp h
  clear h
  induction hall with
  | nil => cases hy
  | cons hxy _ ih =>
      rcases List.mem_cons.mp hy with rfl | hy
      · exact ⟨_, List.mem_cons_self, hxy⟩
      · obtain ⟨x, hx, hread⟩ := ih hy
        exact ⟨x, List.mem_cons_of_mem _ hx, hread⟩

/-- The items of a list that may be absent. -/
def items : Option Json → List Json
  | some (.arr items) => items
  | _ => []

/-- A list that may be absent is read item by item. -/
theorem mapM_items_of_defaulted {α : Type} {fields : List (String × Json)} {name : String}
    {read : Json → Option α} {l : List α} (h : defaulted fields name (list? read) [] = some l) :
    (items (fields.lookup name)).mapM read = some l := by
  unfold defaulted at h
  split at h
  · rename_i hnone
    rw [hnone, ← Option.some.inj h]
    rfl
  · rename_i v hsome
    rw [hsome]
    cases v with
    | arr items => exact h
    | _ => cases h

/-! ### Records as tables

A record is written from a table of its fields, in which those that are left out have no value.
Its names are all different, so reading finds what the table has. -/

/-- The members of a record with the given table. -/
def written (table : List (String × Option Json)) : List (String × Json) :=
  table.filterMap fun (name, value) => value.map (name, ·)

/-- The names of those that are kept. -/
def kept (names : List (String × Bool)) : List String :=
  (names.filter (·.2)).map (·.1)

/-- A list as the value of a field, which has none if the list is empty. -/
def listed {α : Type} (write : α → Json) : List α → Option Json
  | [] => none
  | l => some (.arr (l.map write))

@[simp] theorem written_nil : written [] = [] := rfl

@[simp] theorem written_some (name : String) (v : Json) (table : List (String × Option Json)) :
    written ((name, some v) :: table) = (name, v) :: written table := rfl

@[simp] theorem written_map {α : Type} (name : String) (write : α → Json) (x : Option α)
    (table : List (String × Option Json)) :
    written ((name, x.map write) :: table) = ifSome name write x ++ written table := by
  cases x <;> rfl

@[simp] theorem written_listed {α : Type} (name : String) (write : α → Json) (l : List α)
    (table : List (String × Option Json)) :
    written ((name, listed write l) :: table) = ifAny name write l ++ written table := by
  cases l <;> rfl

theorem items_listed {α : Type} (write : α → Json) (l : List α) :
    items (listed write l) = l.map write := by
  cases l <;> rfl

theorem isSome_listed {α : Type} (write : α → Json) (l : List α) :
    (listed write l).isSome = !l.isEmpty := by
  cases l <;> rfl

/-- **What is left out of a record is what has no value.** -/
theorem map_fst_written (table : List (String × Option Json)) :
    (written table).map Prod.fst = kept (table.map fun (name, value) => (name, value.isSome)) := by
  induction table with
  | nil => rfl
  | cons field table ih =>
      obtain ⟨name, value⟩ := field
      cases value with
      | none => exact ih
      | some v => exact congrArg (name :: ·) ih

/-- **Reading a field finds what the table has for it.** -/
theorem lookup_written {table : List (String × Option Json)} (hnames : (table.map Prod.fst).Nodup)
    (name : String) : (written table).lookup name = (table.lookup name).join := by
  induction table with
  | nil => rfl
  | cons field table ih =>
      obtain ⟨first, value⟩ := field
      obtain ⟨hfirst, hrest⟩ := List.nodup_cons.mp hnames
      rw [Dict.lookup_cons_ite]
      cases value with
      | some v =>
          show List.lookup name ((first, v) :: written table) = _
          rw [Dict.lookup_cons_ite, ih hrest]
          split <;> rfl
      | none =>
          show List.lookup name (written table) = _
          rw [ih hrest]
          split
          · -- The field is not written, and no field behind it has its name.
            rename_i heq
            have habsent : table.lookup name = none := by
              rw [List.lookup_eq_none_iff]
              rintro ⟨other, v⟩ hfield
              rw [bne_iff_ne]
              intro hsame
              exact hfirst (List.mem_map.mpr ⟨_, hfield, hsame.symm.trans heq⟩)
            rw [habsent]
            rfl
          · rfl

/-- A value is an object that has those of the names that are kept, in their order, and no more. -/
def HasMembers (v : Json) (names : List (String × Bool)) : Prop :=
  ∃ members, v = .obj members ∧ members.map Prod.fst = kept names

/-- Values of a type are written from tables with the given names, in which the fields that are
present have a value. -/
structure Tabled {α : Type} (write : α → Json) (names : List String)
    (table : α → List (String × Option Json)) (present : α → List (String × Bool)) : Prop where
  distinct : names.Nodup
  named : ∀ x, (table x).map Prod.fst = names
  write_eq : ∀ x, write x = .obj (written (table x))
  present_eq : ∀ x, (table x).map (fun (name, value) => (name, value.isSome)) = present x

section

variable {α : Type} {write : α → Json} {names : List String}
  {table : α → List (String × Option Json)} {present : α → List (String × Bool)}
  (tabled : Tabled write names table present)
include tabled

/-- **Reading a field finds what was written for it.** -/
theorem Tabled.lookup (x : α) (name : String) :
    (written (table x)).lookup name = ((table x).lookup name).join :=
  lookup_written (tabled.named x ▸ tabled.distinct) name

theorem Tabled.fields? (x : α) : (write x).fields? names = some (written (table x)) := by
  rw [tabled.write_eq]
  rfl

theorem Tabled.field? (x : α) (name : String) :
    (write x).field? names name = ((table x).lookup name).join :=
  (field?_eq (tabled.fields? x)).trans (tabled.lookup x name)

/-- **What is left out is what is not present.** -/
theorem Tabled.hasMembers (x : α) : (write x).HasMembers (present x) := by
  refine ⟨_, tabled.write_eq x, ?_⟩
  rw [map_fst_written, tabled.present_eq]

theorem Tabled.forall₂_hasMembers (l : List α) :
    List.Forall₂ (fun x v => v.HasMembers (present x)) l (items (listed write l)) := by
  rw [items_listed, List.forall₂_map_right_iff, List.forall₂_same]
  exact fun x _ => tabled.hasMembers x

end

section

variable {α : Type} {fields : List (String × Json)} {name : String} {read : Json → Option α}
  {write : α → Json}

theorem optional_of_lookup {x : Option α} (h : fields.lookup name = x.map write)
    (hread : ∀ y, x = some y → write y ≠ .null ∧ read (write y) = some y) :
    optional fields name read = some x := by
  cases x with
  | none => exact optional_eq_some_none_iff.mpr (Or.inl h)
  | some y =>
      obtain ⟨hnull, hy⟩ := hread y rfl
      exact optional_eq_some_some_iff.mpr ⟨write y, h, hnull, hy⟩

theorem defaulted_of_lookup {l : List α} (h : fields.lookup name = listed write l)
    (hread : ∀ y ∈ l, read (write y) = some y) :
    defaulted fields name (list? read) [] = some l := by
  unfold defaulted
  rw [h]
  cases l with
  | nil => rfl
  | cons y ys => exact mapM_map_eq_some hread

end

/-! ### Maps -/

/-- A map is read back from the object that it is written as. -/
theorem dict?_ofDict {α : Type} {read : Json → Option α} {write : α → Json} (d : Dict α)
    (h : ∀ x, read (write x) = some x) : dict? read (ofDict write d) = some d := by
  have hitems : (d.toList.map fun e => (e.1, write e.2)).mapM
      (fun m => (read m.2).map (m.1, ·)) = some d.toList := by
    refine mapM_map_eq_some fun e _ => ?_
    rw [h]
    rfl
  show ((d.toList.map fun e => (e.1, write e.2)).mapM
    fun m => (read m.2).map (m.1, ·)).map Dict.ofList = some d
  rw [hitems, Option.map_some, Dict.ofList_of_perm (List.Perm.refl _)]

/-- A map as the value of a field, which has none if the map is empty. -/
def mapped {α : Type} (write : α → Json) (d : Dict α) : Option Json :=
  if d.isEmpty then none else some (ofDict write d)

theorem isSome_mapped {α : Type} (write : α → Json) (d : Dict α) :
    (mapped write d).isSome = !d.isEmpty := by
  unfold mapped
  cases d.isEmpty <;> rfl

theorem dict_of_lookup {α : Type} {fields : List (String × Json)} {name : String}
    {read : Json → Option α} {write : α → Json} {d : Dict α}
    (h : fields.lookup name = mapped write d) (hread : ∀ x, read (write x) = some x) :
    defaulted fields name (dict? read) {} = some d := by
  unfold defaulted
  rw [h, mapped]
  cases hempty : d.isEmpty with
  | true => rw [Dict.eq_empty_of_isEmpty hempty]; rfl
  | false => exact dict?_ofDict d hread

/-! ### Strings, truth values and alternatives -/

/-- An alternative is read from its name. -/
theorem tag?_of_find? {α : Type} {all : List α} {text : α → String} {v : Json} {x : α}
    (h : (v.tag?.bind fun name => all.find? (text · == name)) = some x) :
    v.tag? = some (text x) := by
  obtain ⟨name, htag, hfind⟩ := Option.bind_eq_some_iff.mp h
  have hname : text x = name := by simpa using List.find?_some hfind
  rw [htag, hname]

theorem bool?_eq_some_iff {v : Json} {b : Bool} : v.bool? = some b ↔ v = .bool b := by
  cases v <;> simp [bool?]

/-- An optional string is read back. -/
theorem optional_string_of_lookup {fields : List (String × Json)} {name : String}
    {x : Option String} (h : fields.lookup name = x.map .str) :
    optional fields name string? = some x :=
  optional_of_lookup h fun _ _ => ⟨nofun, rfl⟩

/-- A list of strings is read back. -/
theorem strings_of_lookup {fields : List (String × Json)} {name : String} {l : List String}
    (h : fields.lookup name = listed .str l) :
    defaulted fields name (list? string?) [] = some l :=
  defaulted_of_lookup h fun _ _ => rfl

/-! ### Values and what is written of them -/

/-- The second value is what is written of the one that the first is read as. -/
def Rewritten {α : Type} (read : Json → Option α) (write : α → Json) (v w : Json) : Prop :=
  ∃ x, read v = some x ∧ w = write x

/-- The list that is written holds the items that were read, each rewritten in its place. -/
theorem forall₂_rewritten {α : Type} {read : Json → Option α} {write : α → Json}
    {vs : List Json} {l : List α} (h : vs.mapM read = some l) :
    List.Forall₂ (Rewritten read write) vs (items (listed write l)) := by
  rw [items_listed, List.forall₂_map_right_iff]
  exact (mapM_eq_some_iff.mp h).imp fun v x hread => ⟨x, hread, rfl⟩

/-- A list of strings is written as it was read. -/
theorem items_listed_str {vs : List Json} {l : List String} (h : vs.mapM string? = some l) :
    items (listed .str l) = vs := by
  have hsame : List.Forall₂ (· = ·) vs (items (listed .str l)) := by
    refine (forall₂_rewritten h).imp ?_
    rintro v w ⟨x, hread, rfl⟩
    exact string?_eq_some_iff.mp hread
  rw [List.forall₂_eq_eq_eq] at hsame
  exact hsame.symm

section

variable {names : List String} {name : String} {v w : Json} {fields : List (String × Json)}
  (hfields : v.fields? names = some fields)
include hfields

/-- A field that holds strings is written as it was read. -/
theorem strings_kept {l : List String}
    (hread : defaulted fields name (list? string?) [] = some l)
    (hwrite : w.field? names name = listed .str l) :
    items (w.field? names name) = items (v.field? names name) := by
  rw [hwrite, field?_eq hfields]
  exact items_listed_str (mapM_items_of_defaulted hread)

/-- A field that holds records is written with each of them rewritten. -/
theorem records_kept {α : Type} {read : Json → Option α} {write : α → Json} {l : List α}
    (hread : defaulted fields name (list? read) [] = some l)
    (hwrite : w.field? names name = listed write l) :
    List.Forall₂ (Rewritten read write) (items (v.field? names name))
      (items (w.field? names name)) := by
  rw [hwrite, field?_eq hfields]
  exact forall₂_rewritten (mapM_items_of_defaulted hread)

end

end AgentId.Json
