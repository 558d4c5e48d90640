/-
What the order of records decides.

Of several records one with the smallest key is taken.  From two orders of the same records
those that are taken need not be the same, but they have the same key (`leastBy?_of_perm`), so
it comes down to what a key tells apart.

The key of an endpoint record has bars between its parts and does not escape those within, and
the version is none of its parts.  Records of one key differ in nothing but their version,
unless a bar within a part is taken for one between parts (`AgentRecord.eq_of_orderKey_eq`).
-/
import AgentId.Proofs.Fields
import AgentId.Proofs.Record.Agent
import AgentId.Record.Card
import AgentId.Record.Least

namespace AgentId

/-! ### The smallest key -/

/-- **What is taken has one key, whatever the order.** -/
theorem leastBy?_of_perm {α : Type} (key : α → String) {l l' : List α} (h : l.Perm l') :
    leastBy? key l = none ∧ leastBy? key l' = none ∨
    ∃ x x', leastBy? key l = some x ∧ leastBy? key l' = some x' ∧
      x ∈ l ∧ x' ∈ l ∧ key x = key x' := by
  cases hx : leastBy? key l with
  | none =>
      obtain rfl := leastBy?_eq_none_iff.mp hx
      exact Or.inl ⟨rfl, leastBy?_eq_none_iff.mpr (List.nil_perm.mp h)⟩
  | some x =>
      cases hx' : leastBy? key l' with
      | none =>
          obtain rfl := leastBy?_eq_none_iff.mp hx'
          rw [List.perm_nil.mp h] at hx
          cases hx
      | some x' =>
          have hmem : x ∈ l := leastBy?_mem hx
          have hmem' : x' ∈ l := h.mem_iff.mpr (leastBy?_mem hx')
          have hle : key x ≤ key x' := String.not_lt.mp (leastBy?_le hx hmem')
          have hle' : key x' ≤ key x := String.not_lt.mp (leastBy?_le hx' (h.mem_iff.mp hmem))
          exact Or.inr ⟨x, x', rfl, rfl, hmem, hmem', Std.le_antisymm hle hle'⟩

/-! ### Endpoint records -/

namespace AgentRecord

/-- A bar stands in one of the parts that the key of a record has before its last. -/
def Barred (r : AgentRecord) : Prop :=
  ∃ part ∈ [r.protocol, r.endpoint, r.publicKey.getD ""], '|' ∈ part.toList

/-- A key that a record has is not empty, and neither is the name of a key. -/
theorem ne_some_empty_of_ofText? {schemes : SchemesConfig} {record : String} {r : AgentRecord}
    (h : ofText? schemes record = some r) : r.publicKey ≠ some "" ∧ r.keyId ≠ some "" := by
  have hfield : ∀ key, (Fields.parse record).get? key ≠ some "" := by
    intro key hkey
    exact (Fields.isKey_and_isToken_of_get?_parse hkey).2.ne_empty rfl
  have hnames := ofText?_eq_some_iff.mp h
  exact ⟨hnames.publicKey ▸ hfield "k", hnames.keyId ▸ hfield "i"⟩

/-- The parts before and behind a bar, where the parts before it have none. -/
theorem eq_and_eq_of_bar {a a' : String} {rest rest' : List Char} (ha : '|' ∉ a.toList)
    (ha' : '|' ∉ a'.toList) (h : a.toList ++ '|' :: rest = a'.toList ++ '|' :: rest') :
    a = a' ∧ rest = rest' := by
  have hcut : Text.cut? '|' (a.toList ++ '|' :: rest) = some (a.toList, rest) :=
    Text.cut?_eq_some_iff.mpr ⟨rfl, ha⟩
  have hcut' : Text.cut? '|' (a.toList ++ '|' :: rest) = some (a'.toList, rest') :=
    Text.cut?_eq_some_iff.mpr ⟨h, ha'⟩
  obtain ⟨hpart, hrest⟩ := Prod.mk.inj (Option.some.inj (hcut.symm.trans hcut'))
  exact ⟨String.toList_injective hpart, hrest⟩

theorem getD_empty_inj {a a' : Option String} (ha : a ≠ some "") (ha' : a' ≠ some "")
    (h : a.getD "" = a'.getD "") : a = a' := by
  cases a with
  | none =>
      cases a' with
      | none => rfl
      | some t => exact absurd (congrArg some h.symm) ha'
  | some s =>
      cases a' with
      | none => exact absurd (congrArg some h) ha
      | some t => exact congrArg some h

/-- **Records of one key differ in their version at most**, unless a bar stands in one of
them. -/
theorem eq_of_orderKey_eq {r r' : AgentRecord} (bare : ¬ r.Barred) (bare' : ¬ r'.Barred)
    (given : r.publicKey ≠ some "" ∧ r.keyId ≠ some "")
    (given' : r'.publicKey ≠ some "" ∧ r'.keyId ≠ some "") (h : r.orderKey = r'.orderKey) :
    r' = { r with version := r'.version } := by
  simp only [Barred, List.mem_cons, List.not_mem_nil, or_false, exists_eq_or_imp, exists_eq_left,
    not_or] at bare bare'
  obtain ⟨hprotocol, hendpoint, hkey⟩ := bare
  obtain ⟨hprotocol', hendpoint', hkey'⟩ := bare'
  have htext := congrArg String.toList h
  simp only [orderKey, String.toList_append, List.append_assoc, String.reduceToList,
    List.cons_append, List.nil_append] at htext
  obtain ⟨hp, htext⟩ := eq_and_eq_of_bar hprotocol hprotocol' htext
  obtain ⟨he, htext⟩ := eq_and_eq_of_bar hendpoint hendpoint' htext
  obtain ⟨hk, htext⟩ := eq_and_eq_of_bar hkey hkey' htext
  have hkeys := getD_empty_inj given.1 given'.1 hk
  have hids := getD_empty_inj given.2 given'.2 (String.toList_injective htext)
  obtain ⟨version, protocol, endpoint, publicKey, keyId⟩ := r
  obtain ⟨version', protocol', endpoint', publicKey', keyId'⟩ := r'
  simp only at hp he hkeys hids
  subst hp he hkeys hids
  rfl

end AgentRecord

end AgentId
