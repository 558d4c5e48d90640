/-
The case of ASCII letters.

Where the case of letters does not count, texts are compared in lower case.  Lower case
moves the upper-case letters by 32 code points, to where the lower-case ones are, and
nothing else; so bringing a text into lower case twice is doing it once.
-/
namespace AgentId.Text

theorem toLower_eq_self {c : Char} (h : c.toNat < 65 ∨ 90 < c.toNat) : c.toLower = c := by
  have hupper : ¬(c.val ≥ 'A'.val ∧ c.val ≤ 'Z'.val) := by
    rintro ⟨hge, hle⟩
    have hge' : 65 ≤ c.toNat := hge
    have hle' : c.toNat ≤ 90 := hle
    omega
  unfold Char.toLower
  rw [dif_neg hupper]

theorem toNat_toLower {c : Char} (h : 65 ≤ c.toNat) (h' : c.toNat ≤ 90) :
    c.toLower.toNat = c.toNat + 32 := by
  have hupper : c.val ≥ 'A'.val ∧ c.val ≤ 'Z'.val := ⟨h, h'⟩
  have hsmall : c.val.toNat ≤ 90 := h'
  unfold Char.toLower
  rw [dif_pos hupper]
  show (c.val + 32).toNat = c.val.toNat + 32
  rw [UInt32.toNat_add]
  show (c.val.toNat + 32) % 2 ^ 32 = c.val.toNat + 32
  omega

@[simp] theorem toLower_toLower (c : Char) : c.toLower.toLower = c.toLower := by
  by_cases h : 65 ≤ c.toNat ∧ c.toNat ≤ 90
  · have hlower := toNat_toLower h.1 h.2
    exact toLower_eq_self (by omega)
  · rw [toLower_eq_self (c := c) (by omega), toLower_eq_self (c := c) (by omega)]

@[simp] theorem map_toLower_map_toLower (cs : List Char) :
    (cs.map Char.toLower).map Char.toLower = cs.map Char.toLower := by
  rw [List.map_map]
  exact List.map_congr_left fun c _ => toLower_toLower c

/-- Two texts that differ in the case of ASCII letters at most. -/
def SameLetters (s t : String) : Prop :=
  s.toList.map Char.toLower = t.toList.map Char.toLower

instance (s t : String) : Decidable (SameLetters s t) :=
  inferInstanceAs (Decidable (s.toList.map Char.toLower = t.toList.map Char.toLower))

end AgentId.Text
