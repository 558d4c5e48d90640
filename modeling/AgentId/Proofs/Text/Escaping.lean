/-
Parameter values come back from their escapes.

`Percent.encode` leaves the unreserved characters alone and escapes every other octet,
so `%` and the unreserved characters are all that it ever writes (`mem_encode`).  None of
them separates fields, quotes a value or is trimmed, which is why a written value passes
through a field list untouched; and none of them is a plus sign, which is why reading
`+` for a space does no harm.  `decode_encode` is the round trip, for values of any
characters whatever.
-/
import AgentId.Proofs.Text.Trimming
import AgentId.Text.Percent

namespace AgentId.Text

namespace Utf8

/-- The octets of a string are UTF-8, and they spell the string. -/
theorem decode_encode (s : String) : decode (encode s) = .ok s := by
  have hbytes : (encode s).toByteArray = s.toByteArray := by
    rw [← String.utf8Encode_toList]
    rfl
  unfold decode
  rw [hbytes, String.fromUTF8?, dif_pos s.isValidUTF8]
  rfl

theorem encode_eq_nil_iff {s : String} : encode s = [] ↔ s = "" := by
  constructor
  · intro h
    have hback := decode_encode s
    rw [h, show decode [] = .ok "" from rfl] at hback
    exact (Except.ok.inj hback).symm
  · rintro rfl
    rfl

/-- Octets spell the empty string only if there are none. -/
theorem eq_nil_of_decode_empty {bs : List UInt8} (h : decode bs = .ok "") : bs = [] := by
  unfold decode String.fromUTF8? at h
  by_cases hv : bs.toByteArray.IsValidUTF8
  · rw [dif_pos hv] at h
    simp only [Except.ok.injEq] at h
    have hempty : bs.toByteArray = ByteArray.empty := congrArg String.toByteArray h
    have hsize : bs.length = 0 := by
      rw [← List.size_toByteArray, hempty]
      rfl
    exact List.length_eq_zero_iff.mp hsize
  · rw [dif_neg hv] at h
    simp at h

end Utf8

namespace Percent

/-! ### One octet -/

theorem utf8EncodeChar_ascii {n : Nat} (h : n < 128) :
    String.utf8EncodeChar (Char.ofNat n) = [UInt8.ofNat n] := by
  have all : ∀ n < 128, String.utf8EncodeChar (Char.ofNat n) = [UInt8.ofNat n] := by decide
  exact all n h

theorem isUnreserved_digit {n : Nat} (h : n < 16) : isUnreserved (Hex.digit true n) = true := by
  have all : ∀ n < 16, isUnreserved (Hex.digit true n) = true := by decide
  exact all n h

/-- An unreserved character spells its own octet. -/
theorem octets?_cons_unreserved {c : Char} (hc : isUnreserved c = true) (cs : List Char) :
    octets? (c :: cs) = (octets? cs).map (String.utf8EncodeChar c ++ ·) := by
  have hpercent : c ≠ '%' := by rintro rfl; revert hc; decide
  have hplus : c ≠ '+' := by rintro rfl; revert hc; decide
  rw [octets?]
  · rintro a b cs rfl
    exact absurd rfl hpercent
  · exact hpercent
  · exact hplus

/-- An escape spells the octet that was escaped. -/
theorem octets?_escape_append (b : UInt8) (cs : List Char) :
    octets? (escape b ++ cs) = (octets? cs).map (b :: ·) := by
  show octets? ('%' :: Hex.digit true (b.toNat / 16) :: Hex.digit true (b.toNat % 16) :: cs) = _
  rw [octets?, Hex.octet?_pair]
  cases octets? cs <;> rfl

/-! ### A whole value -/

/-- **Written octets are read back.** -/
theorem octets?_encodeBytes (bs : List UInt8) :
    octets? (encodeBytes isUnreserved bs) = some bs := by
  unfold encodeBytes
  induction bs with
  | nil => rfl
  | cons b bs ih =>
      rw [List.flatMap_cons]
      split
      · rename_i hkeep
        simp only [Bool.and_eq_true, decide_eq_true_eq] at hkeep
        obtain ⟨hascii, hunreserved⟩ := hkeep
        have hlt : b.toNat < 128 := UInt8.lt_iff_toNat_lt.mp hascii
        rw [List.singleton_append, octets?_cons_unreserved hunreserved, ih,
          utf8EncodeChar_ascii hlt]
        simp
      · rw [octets?_escape_append, ih]
        rfl

/-- **A written value stands for the value it was written from.** -/
theorem decode_encode (value : String) : decode (encode value) = value := by
  unfold decode encode
  rw [String.toList_ofList, octets?_encodeBytes]
  simp [Utf8.decode_encode, Except.toOption]

theorem encode_injective {v w : String} (h : encode v = encode w) : v = w := by
  rw [← decode_encode v, h, decode_encode]

/-- Nothing but the empty value is written as nothing. -/
theorem encode_eq_empty_iff {value : String} : encode value = "" ↔ value = "" := by
  constructor
  · intro h
    refine encode_injective (h.trans ?_)
    rfl
  · rintro rfl
    rfl

/-- Only nothing spells no octets. -/
theorem eq_nil_of_octets? {cs : List Char} (h : octets? cs = some []) : cs = [] := by
  fun_cases octets? cs with
  | case1 => rfl
  | case2 a b cs =>
      rw [octets?] at h
      cases hx : Hex.octet? a b <;> cases hxs : octets? cs <;> simp [hx, hxs] at h
  | case3 cs hshort => simp [octets?] at h
  | case4 cs => simp [octets?] at h
  | case5 c cs => simp [octets?, String.utf8EncodeChar_ne_nil] at h

/-- A text stands for itself, or for the characters whose octets it spells. -/
theorem decode_cases (written : String) :
    decode written = written ∨
      ∃ bs, octets? written.toList = some bs ∧ Utf8.decode bs = .ok (decode written) := by
  unfold decode
  split
  · exact Or.inl rfl
  · rename_i bs hbs
    cases hs : Utf8.decode bs with
    | error fault => exact Or.inl rfl
    | ok s => exact Or.inr ⟨bs, hbs, hs⟩

/-- No text stands for the empty value but the empty text. -/
theorem decode_ne_empty {written : String} (h : written ≠ "") : decode written ≠ "" := by
  intro hempty
  rcases decode_cases written with hself | ⟨bs, hoctets, hdecode⟩
  · exact h (hself ▸ hempty)
  · rw [hempty] at hdecode
    rw [Utf8.eq_nil_of_decode_empty hdecode] at hoctets
    exact h (String.toList_eq_nil_iff.mp (eq_nil_of_octets? hoctets))

/-! ### What is written -/

/-- **Values are written with unreserved characters and the mark of an escape.** -/
theorem mem_encode {value : String} {c : Char} (h : c ∈ (encode value).toList) :
    isUnreserved c = true ∨ c = '%' := by
  unfold encode encodeBytes at h
  rw [String.toList_ofList, List.mem_flatMap] at h
  obtain ⟨b, -, hc⟩ := h
  split at hc
  · rename_i hkeep
    simp only [Bool.and_eq_true] at hkeep
    rw [List.mem_singleton.mp hc]
    exact Or.inl hkeep.2
  · have hlt : b.toNat < 256 := b.toNat_lt
    simp only [escape, Hex.pair, List.mem_cons, List.not_mem_nil, or_false] at hc
    rcases hc with rfl | rfl | rfl
    · exact Or.inr rfl
    · exact Or.inl (isUnreserved_digit (by omega))
    · exact Or.inl (isUnreserved_digit (by omega))

theorem not_mem_encode {value : String} {c : Char} (hc : isUnreserved c = false)
    (hpercent : c ≠ '%') : c ∉ (encode value).toList := by
  intro hmem
  rcases mem_encode hmem with h | h
  · rw [hc] at h
    exact Bool.noConfusion h
  · exact hpercent h

theorem toNat_of_isUnreserved {c : Char} (h : isUnreserved c = true) :
    45 ≤ c.toNat ∧ c.toNat ≤ 126 := by
  delta isUnreserved Char.isAlphanum Char.isAlpha Char.isUpper Char.isLower Char.isDigit at h
  simp only [Bool.or_eq_true, Bool.and_eq_true, decide_eq_true_eq, beq_iff_eq, ge_iff_le,
    UInt32.le_iff_toNat_le, Char.toNat_val] at h
  rcases h with (((((h | h) | h) | rfl) | rfl) | rfl) | rfl
  · exact ⟨Nat.le_trans (by decide) h.1, Nat.le_trans h.2 (by decide)⟩
  · exact ⟨Nat.le_trans (by decide) h.1, Nat.le_trans h.2 (by decide)⟩
  · exact ⟨Nat.le_trans (by decide) h.1, Nat.le_trans h.2 (by decide)⟩
  all_goals decide

theorem isBlank_of_isUnreserved {c : Char} (h : isUnreserved c = true) : isBlank c = false := by
  have hrange := toNat_of_isUnreserved h
  exact isBlank_eq_false (by omega) hrange.2

/-- A written value holds no white space, so there is none to trim off it. -/
theorem isBlank_of_mem_encode {value : String} {c : Char} (h : c ∈ (encode value).toList) :
    isBlank c = false := by
  rcases mem_encode h with hc | rfl
  · exact isBlank_of_isUnreserved hc
  · decide

theorem isTrimmed_encode (value : String) : IsTrimmed (encode value).toList :=
  isTrimmed_of_forall fun _ => isBlank_of_mem_encode

end Percent

end AgentId.Text
