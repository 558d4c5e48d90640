/-
UTF-8 keeps the order of strings.

Strings are compared character by character and octets octet by octet, and it is the same:
of two characters the smaller one has octets that are smaller where they first differ, and
they differ before either ends (`encodeChar_append_lt`).  So a choice of the smallest among
texts does not depend on whether they are looked at as characters or as octets.
-/
import AgentId.Proofs.Text.Escaping
import Mathlib.Data.String.Basic

namespace AgentId.Text.Utf8

theorem toNat_val_lt (c : Char) : c.val.toNat < 0x110000 := by
  have hvalid := c.valid
  simp only [UInt32.isValidChar, Nat.isValidChar] at hvalid
  omega

/-- The octets of a smaller character are smaller, whatever follows. -/
theorem encodeChar_append_lt {c d : Char} (h : c < d) (bs bs' : List UInt8) :
    String.utf8EncodeChar c ++ bs < String.utf8EncodeChar d ++ bs' := by
  have hlt : c.val.toNat < d.val.toNat := h
  have hvalid := toNat_val_lt d
  unfold String.utf8EncodeChar
  dsimp only
  generalize c.val.toNat = m at hlt
  generalize d.val.toNat = n at hlt hvalid
  -- Digits in radix 64, each made of the one above it, are what the octets have in common.
  have hthird (k : Nat) : k / 4096 = k / 64 / 64 := by omega
  have hfourth (k : Nat) : k / 262144 = k / 64 / 64 / 64 := by omega
  simp only [hthird, hfourth]
  split_ifs <;>
    simp only [List.cons_append, List.nil_append, List.cons_lt_cons_iff, UInt8.lt_iff_toNat_lt,
      ← UInt8.toNat_inj, UInt8.toNat_ofNat'] <;>
    simp (disch := omega) only [Nat.reducePow, Nat.mod_eq_of_lt] <;>
    omega

theorem flatMap_lt {cs ds : List Char} (h : cs < ds) :
    cs.flatMap String.utf8EncodeChar < ds.flatMap String.utf8EncodeChar := by
  induction cs generalizing ds with
  | nil =>
      cases ds with
      | nil => exact absurd h (List.lt_irrefl _)
      | cons d ds =>
          cases hd : String.utf8EncodeChar d with
          | nil => exact absurd hd (String.utf8EncodeChar_ne_nil)
          | cons b bs => simp [hd]
  | cons c cs ih =>
      cases ds with
      | nil => exact absurd h (List.not_lt_nil _)
      | cons d ds =>
          rw [List.flatMap_cons, List.flatMap_cons]
          rcases List.cons_lt_cons_iff.mp h with hlt | ⟨rfl, hrest⟩
          · exact encodeChar_append_lt hlt _ _
          · exact List.append_left_lt (ih hrest)

theorem encode_lt_of_lt {s t : String} (h : s < t) : encode s < encode t :=
  flatMap_lt (String.lt_iff.mp h)

/-- **Of two strings the smaller one has the smaller octets.** -/
theorem encode_le_encode_iff {s t : String} : encode s ≤ encode t ↔ s ≤ t := by
  constructor
  · intro hle
    refine String.not_lt.mp fun hlt => ?_
    exact absurd (encode_lt_of_lt hlt) (List.not_lt.mpr hle)
  · intro hle
    rcases hle.lt_or_eq with hlt | rfl
    · exact List.le_of_lt (encode_lt_of_lt hlt)
    · exact List.le_refl _

end AgentId.Text.Utf8
