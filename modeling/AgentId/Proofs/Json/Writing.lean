/-
Different values are written differently.

The text of a value shows where it ends: a string at its first bare quote, an array and an
object at the bracket that closes it, a word after its last letter.  Only a number goes on
as long as digits follow, and behind a value inside another one there is always a comma or
a bracket.  So whatever stands behind it, a value can be told from its text, and the text
behind it as well (`readable`).  In particular no member of an object can pretend
to be the next one, whatever characters its string holds.
-/
import AgentId.Json.Writer
import AgentId.Proofs.Text.Cutting
import Mathlib.Tactic.SplitIfs

namespace AgentId.Json

open Text

/-! ### Strings -/

/-- The first character that the text of a string spells, and the text behind it. -/
def spelled? : List Char → Option (Char × List Char)
  | '\\' :: 'b' :: cs => some ('\x08', cs)
  | '\\' :: 'f' :: cs => some ('\x0c', cs)
  | '\\' :: 'n' :: cs => some ('\n', cs)
  | '\\' :: 'r' :: cs => some ('\r', cs)
  | '\\' :: 't' :: cs => some ('\t', cs)
  | '\\' :: 'u' :: '0' :: '0' :: a :: b :: cs =>
    (Hex.octet? a b).map fun x => (Char.ofNat x.toNat, cs)
  | '\\' :: c :: cs => some (c, cs)
  | c :: cs => some (c, cs)
  | [] => none

/-- **An escaped character is read back**, whatever stands behind it. -/
theorem spelled?_escaped (c : Char) (cs : List Char) :
    spelled? (escaped c ++ cs) = some (c, cs) := by
  unfold escaped
  split_ifs with hself hb hf hn hr ht hcontrol
  · simp only [Bool.or_eq_true, decide_eq_true_eq] at hself
    rcases hself with rfl | rfl <;> rfl
  · rw [hb]; rfl
  · rw [hf]; rfl
  · rw [hn]; rfl
  · rw [hr]; rfl
  · rw [ht]; rfl
  · -- A control of another kind is written by its number, which is below 32.
    have hoctet := Hex.octet?_pair false (UInt8.ofNat c.toNat)
    have hsmall : (UInt8.ofNat c.toNat).toNat = c.toNat := by
      rw [UInt8.toNat_ofNat']
      omega
    show (Hex.octet? _ _).map _ = _
    rw [hoctet, Option.map_some, hsmall, Char.ofNat_toNat]
    rfl
  · simp only [Bool.or_eq_true, decide_eq_true_eq, not_or] at hself
    rw [List.singleton_append, spelled?]
    all_goals simp_all

/-- Escapes start with a backslash, so a bare quote is no part of a string. -/
theorem head_escaped (c : Char) : ∃ d rest, escaped c = d :: rest ∧ d ≠ '"' := by
  unfold escaped
  split_ifs with hself
  · exact ⟨_, _, rfl, by decide⟩
  · exact ⟨_, _, rfl, by decide⟩
  · exact ⟨_, _, rfl, by decide⟩
  · exact ⟨_, _, rfl, by decide⟩
  · exact ⟨_, _, rfl, by decide⟩
  · exact ⟨_, _, rfl, by decide⟩
  · exact ⟨_, _, rfl, by decide⟩
  · simp only [Bool.or_eq_true, decide_eq_true_eq, not_or] at hself
    exact ⟨c, [], rfl, hself.1⟩

/-- What stands between the quotes shows where it ends. -/
theorem escaped_append_inj {cs ds r s : List Char}
    (h : cs.flatMap escaped ++ '"' :: r = ds.flatMap escaped ++ '"' :: s) : cs = ds ∧ r = s := by
  induction cs generalizing ds with
  | nil =>
      cases ds with
      | nil => simpa using h
      | cons d ds =>
          obtain ⟨e, rest, hd, hquote⟩ := head_escaped d
          rw [List.flatMap_cons, hd] at h
          exact absurd (List.cons.inj h).1.symm hquote
  | cons c cs ih =>
      cases ds with
      | nil =>
          obtain ⟨e, rest, hc, hquote⟩ := head_escaped c
          rw [List.flatMap_cons, hc] at h
          exact absurd (List.cons.inj h).1 hquote
      | cons d ds =>
          rw [List.flatMap_cons, List.flatMap_cons, List.append_assoc, List.append_assoc] at h
          have hread := spelled?_escaped c (cs.flatMap escaped ++ '"' :: r)
          rw [h, spelled?_escaped] at hread
          obtain ⟨rfl, hrest⟩ := Prod.mk.inj (Option.some.inj hread)
          obtain ⟨rfl, rfl⟩ := ih hrest.symm
          exact ⟨rfl, rfl⟩

theorem writeString_append_inj {a b : String} {r s : List Char}
    (h : writeString a ++ r = writeString b ++ s) : a = b ∧ r = s := by
  simp only [writeString, List.cons_append, List.append_assoc, List.nil_append,
    List.cons.injEq, true_and] at h
  obtain ⟨hchars, hrest⟩ := escaped_append_inj h
  exact ⟨String.toList_injective hchars, hrest⟩

/-! ### Numbers -/

/-- The characters of numbers. -/
def isNumeral (c : Char) : Bool :=
  c.isDigit || c == '-' || c == 'e'

/-- Text behind a value: it does not go on a number. -/
def Ends (r : List Char) : Prop :=
  ∀ c, r.head? = some c → isNumeral c = false

theorem toList_repr (n : Nat) : n.repr.toList = Nat.toDigits 10 n := by
  rw [Nat.repr_eq_ofList_toDigits, String.toList_ofList]

theorem isDigit_of_mem_repr {n : Nat} {c : Char} (h : c ∈ n.repr.toList) : c.isDigit = true := by
  rw [toList_repr] at h
  exact Nat.isDigit_of_mem_toDigits (by decide) (by decide) h

/-- An integer in decimal digits, behind a sign if it is negative. -/
theorem toList_toString (n : Int) :
    (toString n).toList = if 0 ≤ n then n.toNat.repr.toList else '-' :: (-n).toNat.repr.toList := by
  rw [Int.toString_eq_repr, Int.repr_eq_if]
  split
  · rfl
  · rw [String.toList_append]
    rfl

theorem isDigit_of_mem_toString {n : Int} {c : Char} (h : c ∈ (toString n).toList) :
    c.isDigit = true ∨ c = '-' := by
  rw [toList_toString] at h
  split at h
  · exact Or.inl (isDigit_of_mem_repr h)
  · rcases List.mem_cons.mp h with rfl | hdigits
    · exact Or.inr rfl
    · exact Or.inl (isDigit_of_mem_repr hdigits)

theorem toString_ne_nil (n : Int) : (toString n).toList ≠ [] := by
  rw [toList_toString]
  split
  · exact mt String.toList_eq_nil_iff.mp Nat.repr_ne_empty
  · simp

theorem e_not_mem_toString (n : Int) : 'e' ∉ (toString n).toList := by
  intro h
  rcases isDigit_of_mem_toString h with hdigit | hsign
  · revert hdigit
    decide
  · revert hsign
    decide

theorem repr_toList_injective {m n : Nat} (h : m.repr.toList = n.repr.toList) : m = n := by
  rw [toList_repr, toList_repr] at h
  rw [← Nat.ofDigitChars_ten_toDigits (n := m), h, Nat.ofDigitChars_ten_toDigits]

theorem toString_injective {m n : Int} (h : (toString m).toList = (toString n).toList) :
    m = n := by
  have hsign : ∀ (k : Nat) (rest : List Char), k.repr.toList ≠ '-' :: rest := by
    intro k rest hk
    have hdigit := isDigit_of_mem_repr (n := k) (c := '-') (by rw [hk]; exact List.mem_cons_self)
    revert hdigit
    decide
  rw [toList_toString, toList_toString] at h
  split_ifs at h with hm hn hn
  · have hdigits := repr_toList_injective h
    omega
  · exact absurd h (hsign _ _)
  · exact absurd h.symm (hsign _ _)
  · have hdigits := repr_toList_injective (List.cons.inj h).2
    omega

theorem isNumeral_of_mem_write {n : Number} {c : Char} (h : c ∈ n.write) :
    isNumeral c = true := by
  have hint : ∀ m : Int, c ∈ (toString m).toList → isNumeral c = true := by
    intro m hc
    rcases isDigit_of_mem_toString hc with hdigit | rfl
    · simp [isNumeral, hdigit]
    · decide
  cases n with
  | integer m => exact hint m h
  | decimal m e =>
      rcases List.mem_append.mp h with hm | he
      · exact hint m hm
      · rcases List.mem_cons.mp he with rfl | he
        · decide
        · exact hint e he

/-- **Different numbers are written differently.** -/
theorem Number.write_injective {m n : Number} (h : m.write = n.write) : m = n := by
  cases m with
  | integer a =>
      cases n with
      | integer b => rw [toString_injective h]
      | decimal b e =>
          have hmem : 'e' ∈ (toString a).toList := by
            change (toString a).toList = (toString b).toList ++ 'e' :: (toString e).toList at h
            rw [h]
            simp
          exact absurd hmem (e_not_mem_toString a)
  | decimal a d =>
      cases n with
      | integer b =>
          have hmem : 'e' ∈ (toString b).toList := by
            change (toString a).toList ++ 'e' :: (toString d).toList = (toString b).toList at h
            rw [← h]
            simp
          exact absurd hmem (e_not_mem_toString b)
      | decimal b e =>
          have hleft : cut? 'e' (Number.decimal a d).write =
              some ((toString a).toList, (toString d).toList) :=
            cut?_eq_some_iff.mpr ⟨rfl, e_not_mem_toString a⟩
          have hright : cut? 'e' (Number.decimal a d).write =
              some ((toString b).toList, (toString e).toList) :=
            cut?_eq_some_iff.mpr ⟨h, e_not_mem_toString b⟩
          obtain ⟨hmantissa, hexponent⟩ := Prod.mk.inj (Option.some.inj (hleft.symm.trans hright))
          rw [toString_injective hmantissa, toString_injective hexponent]

/-- A number goes as far as its characters do. -/
theorem Number.write_append_inj {m n : Number} {r s : List Char} (hr : Ends r) (hs : Ends s)
    (h : m.write ++ r = n.write ++ s) : m = n ∧ r = s := by
  have hbreak : ∀ (k : Number) (t : List Char), Ends t →
      breakAt (!isNumeral ·) (k.write ++ t) = (k.write, t) := by
    intro k t ht
    refine breakAt_eq ?_ ?_
    · intro c hc
      rw [isNumeral_of_mem_write hc]
      rfl
    · intro c hc
      rw [ht c hc]
      rfl
  have hparts := hbreak m r hr
  rw [h, hbreak n s hs] at hparts
  obtain ⟨hnumber, hrest⟩ := Prod.mk.inj hparts
  exact ⟨Number.write_injective hnumber.symm, hrest.symm⟩

/-! ### Values -/

/-- What a value starts with tells what kind of value it is. -/
inductive Kind where
  | null | bool | num | str | arr | obj
  deriving DecidableEq

/-- The kind of a value. -/
def kind : Json → Kind
  | .null => .null
  | .bool _ => .bool
  | .num _ => .num
  | .str _ => .str
  | .arr _ => .arr
  | .obj _ => .obj

/-- The kind of the values that start with a character. -/
def kindOf? (c : Char) : Option Kind :=
  if c = 'n' then some .null
  else if c = 't' || c = 'f' then some .bool
  else if c = '"' then some .str
  else if c = '[' then some .arr
  else if c = '\x7b' then some .obj
  else if isNumeral c then some .num
  else none

theorem kindOf?_isNumeral {c : Char} (h : isNumeral c = true) : kindOf? c = some .num := by
  have hne : ∀ d, isNumeral d = false → c ≠ d := by
    rintro d hd rfl
    rw [h] at hd
    cases hd
  simp [kindOf?, h, hne 'n' (by decide), hne 't' (by decide), hne 'f' (by decide),
    hne '"' (by decide), hne '[' (by decide), hne '\x7b' (by decide)]

theorem head_write (v : Json) : ∃ c rest, v.write = c :: rest ∧ kindOf? c = some v.kind := by
  cases v with
  | null => exact ⟨'n', _, rfl, rfl⟩
  | bool b => cases b <;> exact ⟨_, _, rfl, by decide⟩
  | num n =>
      have hne : n.write ≠ [] := by
        cases n with
        | integer m => exact toString_ne_nil m
        | decimal m e => simp [Number.write]
      obtain ⟨c, rest, hn⟩ := List.exists_cons_of_ne_nil hne
      refine ⟨c, rest, by rw [write]; exact hn, kindOf?_isNumeral ?_⟩
      exact isNumeral_of_mem_write (by rw [hn]; exact List.mem_cons_self)
  | str s => exact ⟨'"', _, rfl, rfl⟩
  | arr items => cases items <;> exact ⟨'[', _, rfl, rfl⟩
  | obj members =>
      cases members with
      | nil => exact ⟨'\x7b', _, rfl, rfl⟩
      | cons m ms => exact ⟨'\x7b', _, rfl, rfl⟩

theorem kind_eq_of_write {v w : Json} {r s : List Char} (h : v.write ++ r = w.write ++ s) :
    v.kind = w.kind := by
  obtain ⟨c, rest, hv, hc⟩ := head_write v
  obtain ⟨d, rest', hw, hd⟩ := head_write w
  rw [hv, hw] at h
  obtain ⟨rfl, -⟩ := List.cons.inj h
  exact Option.some.inj (hc.symm.trans hd)

/-- No value starts with a mark. -/
theorem write_append_ne (v : Json) {c : Char} (hc : kindOf? c = none) (r s : List Char) :
    v.write ++ r ≠ c :: s := by
  obtain ⟨d, rest, hv, hd⟩ := head_write v
  intro h
  rw [hv] at h
  obtain ⟨rfl, -⟩ := List.cons.inj h
  rw [hc] at hd
  cases hd

theorem ends_items (items : List Json) (r : List Char) : Ends (writeItems items ++ ']' :: r) := by
  intro c hc
  cases items with
  | nil =>
      obtain rfl := Option.some.inj hc
      decide
  | cons x xs =>
      obtain rfl := Option.some.inj hc
      decide

theorem ends_members (members : List (String × Json)) (r : List Char) :
    Ends (writeMembers members ++ '\x7d' :: r) := by
  intro c hc
  cases members with
  | nil =>
      obtain rfl := Option.some.inj hc
      decide
  | cons m ms =>
      obtain rfl := Option.some.inj hc
      decide

/-- An array without its bracket is its items, but for the comma before the first. -/
theorem items_of_write {xs ys : List Json} {r s : List Char}
    (h : (Json.arr xs).write ++ r = (Json.arr ys).write ++ s) :
    writeItems xs ++ ']' :: r = writeItems ys ++ ']' :: s := by
  cases xs with
  | nil =>
      cases ys with
      | nil => simpa [write, writeItems] using h
      | cons y ys =>
          simp only [write, List.cons_append, List.nil_append, List.append_assoc,
            List.cons.injEq, true_and] at h
          exact absurd h.symm (write_append_ne y (by decide) _ _)
  | cons x xs =>
      cases ys with
      | nil =>
          simp only [write, List.cons_append, List.nil_append, List.append_assoc,
            List.cons.injEq, true_and] at h
          exact absurd h (write_append_ne x (by decide) _ _)
      | cons y ys => simpa [write, writeItems] using h

/-- An object without its bracket is its members, but for the comma before the first. -/
theorem members_of_write {ms ns : List (String × Json)} {r s : List Char}
    (h : (Json.obj ms).write ++ r = (Json.obj ns).write ++ s) :
    writeMembers ms ++ '\x7d' :: r = writeMembers ns ++ '\x7d' :: s := by
  cases ms with
  | nil =>
      cases ns with
      | nil => simpa [write, writeMembers] using h
      | cons n ns => simp [write, writeString] at h
  | cons m ms =>
      cases ns with
      | nil => simp [write, writeString] at h
      | cons n ns => simpa [write, writeMembers] using h

/-- The value can be told from its text, whatever stands behind it, and so can that. -/
def Readable (v : Json) : Prop :=
  ∀ (w : Json) (r s : List Char), Ends r → Ends s →
    v.write ++ r = w.write ++ s → v = w ∧ r = s

/-- The same for the items of an array, up to its bracket. -/
def ReadableItems (items : List Json) : Prop :=
  ∀ (others : List Json) (r s : List Char),
    writeItems items ++ ']' :: r = writeItems others ++ ']' :: s → items = others ∧ r = s

/-- The same for the members of an object, up to its bracket. -/
def ReadableMembers (members : List (String × Json)) : Prop :=
  ∀ (others : List (String × Json)) (r s : List Char),
    writeMembers members ++ '\x7d' :: r = writeMembers others ++ '\x7d' :: s →
      members = others ∧ r = s

/-- **A value can be told from its text.** -/
theorem readable (v : Json) : v.Readable := by
  -- The induction is on the value, and on the items and the members in it.
  refine @Json.rec Readable ReadableItems ReadableMembers (fun m => m.2.Readable)
    ?null ?bool ?num ?str ?arr ?obj ?noItem ?item ?noMember ?member ?pair v
  case null =>
    intro w r s hr hs h
    have hkind := kind_eq_of_write h
    cases w <;> cases hkind
    exact ⟨rfl, List.append_cancel_left h⟩
  case bool =>
    intro b w r s hr hs h
    have hkind := kind_eq_of_write h
    cases w <;> cases hkind
    rename_i b'
    cases b <;> cases b' <;> simp [write] at h ⊢ <;> exact h
  case num =>
    intro n w r s hr hs h
    have hkind := kind_eq_of_write h
    cases w <;> cases hkind
    rw [write, write] at h
    obtain ⟨rfl, rfl⟩ := Number.write_append_inj hr hs h
    exact ⟨rfl, rfl⟩
  case str =>
    intro a w r s hr hs h
    have hkind := kind_eq_of_write h
    cases w <;> cases hkind
    rw [write, write] at h
    obtain ⟨rfl, rfl⟩ := writeString_append_inj h
    exact ⟨rfl, rfl⟩
  case arr =>
    intro xs ih w r s hr hs h
    have hkind := kind_eq_of_write h
    cases w <;> cases hkind
    obtain ⟨rfl, rfl⟩ := ih _ r s (items_of_write h)
    exact ⟨rfl, rfl⟩
  case obj =>
    intro ms ih w r s hr hs h
    have hkind := kind_eq_of_write h
    cases w <;> cases hkind
    obtain ⟨rfl, rfl⟩ := ih _ r s (members_of_write h)
    exact ⟨rfl, rfl⟩
  case noItem =>
    intro ys r s h
    cases ys with
    | nil => exact ⟨rfl, by simpa [writeItems] using h⟩
    | cons y ys => simp [writeItems] at h
  case item =>
    intro x xs ihx ihxs ys r s h
    cases ys with
    | nil => simp [writeItems] at h
    | cons y ys =>
        simp only [writeItems, List.cons_append, List.append_assoc, List.cons.injEq, true_and] at h
        obtain ⟨rfl, hrest⟩ := ihx y _ _ (ends_items xs r) (ends_items ys s) h
        obtain ⟨rfl, rfl⟩ := ihxs ys r s hrest
        exact ⟨rfl, rfl⟩
  case noMember =>
    intro ns r s h
    cases ns with
    | nil => exact ⟨rfl, by simpa [writeMembers] using h⟩
    | cons n ns => simp [writeMembers] at h
  case member =>
    rintro ⟨k, x⟩ ms ihx ihms ns r s h
    cases ns with
    | nil => simp [writeMembers] at h
    | cons n ns =>
        obtain ⟨k', y⟩ := n
        simp only [writeMembers, List.cons_append, List.append_assoc, List.cons.injEq,
          true_and] at h
        obtain ⟨rfl, hvalue⟩ := writeString_append_inj h
        obtain ⟨rfl, hrest⟩ := ihx y _ _ (ends_members ms r) (ends_members ns s)
          (List.cons.inj hvalue).2
        obtain ⟨rfl, rfl⟩ := ihms ns r s hrest
        exact ⟨rfl, rfl⟩
  case pair => exact fun _ _ ih => ih

/-- **Different values are written differently.** -/
theorem text_injective {v w : Json} (h : v.text = w.text) : v = w := by
  have hends : Ends [] := fun c hc => nomatch hc
  refine (readable v w [] [] hends hends ?_).1
  rw [List.append_nil, List.append_nil]
  exact String.ofList_injective h

end AgentId.Json
