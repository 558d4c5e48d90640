/-
The standard coding, and two readers that agree on it.

Base58 is defined in words: count the zero octets in front, write a `1` for each, and
behind them the digits of the number that the other octets write in radix 256, most
significant first and none of them zero at the start.  `Codes` says this without
converting anything, about a text and octets side by side, and there is exactly one text
for each row of octets and at most one row of octets for each text (`codes_iff`).

The texts that base58 reads are therefore the texts over its alphabet, and each is the
one that its octets are written as; behind a `z` the same texts are read as the same
octets, but for the empty one (`exact_inverse`).
-/
import AgentId.Proofs.Codec.Base58

namespace AgentId.Codec

namespace Radix

variable {ds : List Nat}

theorem convert_replicate_append (source target zeros : Nat) (h : ds.head? ≠ some 0) :
    convert source target (List.replicate zeros 0 ++ ds) =
      List.replicate zeros 0 ++ digits target (value source ds) := by
  have hzeros : ∀ d ∈ List.replicate zeros 0, d = 0 := fun _ => List.eq_of_mem_replicate
  have hhead : ∀ d, ds.head? = some d → d ≠ 0 := fun d hd hzero => h (hzero ▸ hd)
  rw [convert, takeWhile_append_of_zeros hzeros hhead, value_append_of_zeros source hzeros]

theorem digits_value_of_head? {base : Nat} (hbase : 2 ≤ base) (hlt : ∀ d ∈ ds, d < base)
    (h : ds.head? ≠ some 0) : digits base (value base ds) = ds := by
  rw [digits_value hbase hlt]
  cases ds with
  | nil => rfl
  | cons d ds => rw [List.dropWhile_cons_of_neg (by simpa using h)]

end Radix

namespace Base58

/-- As many `1`s as there are zero octets in front, and then the digits of the number that
the other octets write. -/
inductive Codes : List UInt8 → List Char → Prop where
  | intro (zeros : Nat) {octets : List UInt8} {symbols : List Char}
      (octets_head : octets.head? ≠ some 0)
      (symbols_head : symbols.head? ≠ some '1')
      (mem_alphabet : ∀ c ∈ symbols, c ∈ alphabet)
      (same_number : Nat.ofDigits 58 (symbols.map alphabet.idxOf).reverse =
        Nat.ofDigits 256 (octets.map UInt8.toNat).reverse) :
      Codes (List.replicate zeros 0 ++ octets) (List.replicate zeros '1' ++ symbols)

/-! ### One text for each row of octets -/

theorem filterMap_idxOf {cs : List Char} (h : ∀ c ∈ cs, c ∈ alphabet) :
    (cs.map alphabet.idxOf).filterMap (alphabet[·]?) = cs := by
  have hget : ∀ c ∈ cs, alphabet[alphabet.idxOf c]? = some c := by
    intro c hc
    have hlt := List.idxOf_lt_length_of_mem (h c hc)
    rw [List.getElem?_eq_getElem hlt, List.getElem_idxOf hlt]
  exact (List.filterMap_map ..).trans ((List.filterMap_congr hget).trans List.filterMap_some)

theorem head?_map_idxOf {cs : List Char} (h : cs.head? ≠ some '1') :
    (cs.map alphabet.idxOf).head? ≠ some 0 := by
  rw [List.head?_map]
  cases cs with
  | nil => simp
  | cons c cs =>
      have hfirst : alphabet = '1' :: alphabet.tail := by decide
      have hc : '1' ≠ c := fun heq => h (by rw [heq]; rfl)
      rw [List.head?_cons, Option.map_some, hfirst, List.idxOf_cons_ne _ hc]
      simp

theorem head?_map_toNat {bs : List UInt8} : (bs.map UInt8.toNat).head? ≠ some 0 ↔
    bs.head? ≠ some 0 := by
  cases bs with
  | nil => simp
  | cons b bs => simp [← UInt8.toNat_inj]

theorem Codes.eq_encode {bs : List UInt8} {cs : List Char} (h : Codes bs cs) :
    cs = (encode bs).toList := by
  obtain ⟨zeros, hoctets, hsymbols, hmem, hnumber⟩ := h
  rename_i octets symbols
  have hlt : ∀ d ∈ symbols.map alphabet.idxOf, d < 58 := by
    intro d hd
    obtain ⟨c, hc, rfl⟩ := List.mem_map.mp hd
    exact length_alphabet ▸ List.idxOf_lt_length_of_mem (hmem c hc)
  have hdigits : Radix.digits 58 (Radix.value 256 (octets.map UInt8.toNat)) =
      symbols.map alphabet.idxOf := by
    rw [Radix.value_eq, ← hnumber, ← Radix.value_eq,
      Radix.digits_value_of_head? (by decide) hlt (head?_map_idxOf hsymbols)]
  have hone : alphabet[0]? = some '1' := by decide
  rw [encode, String.toList_ofList, Radix.encode, List.map_append, List.map_replicate,
    length_alphabet, UInt8.toNat_zero,
    Radix.convert_replicate_append _ _ _ (head?_map_toNat.mpr hoctets), hdigits,
    List.filterMap_append, filterMap_idxOf hmem, List.filterMap_replicate_of_some hone]

theorem exists_replicate_append (cs : List Char) (x : Char) :
    ∃ n rest, cs = List.replicate n x ++ rest ∧ rest.head? ≠ some x := by
  have hfront : cs.takeWhile (· == x) = List.replicate (cs.takeWhile (· == x)).length x :=
    List.eq_replicate_of_mem fun c hc => by simpa using List.mem_takeWhile_imp hc
  refine ⟨(cs.takeWhile (· == x)).length, cs.dropWhile (· == x), ?_, fun hhead => ?_⟩
  · rw [← hfront, List.takeWhile_append_dropWhile]
  · have hnot := List.head?_dropWhile_not (· == x) cs
    rw [hhead] at hnot
    simp at hnot

/-- Every text over the alphabet is a code of some octets: those of the number that its
digits write. -/
theorem exists_codes {cs : List Char} (h : ∀ c ∈ cs, c ∈ alphabet) : ∃ bs, Codes bs cs := by
  obtain ⟨zeros, symbols, rfl, hhead⟩ := exists_replicate_append cs '1'
  let ds := Radix.digits 256 (Radix.value 58 (symbols.map alphabet.idxOf))
  have hds : (ds.map UInt8.ofNat).map UInt8.toNat = ds :=
    Radix.map_toNat_map_ofNat fun _ => Radix.lt_of_mem_digits (by decide)
  have hoctets : (ds.map UInt8.ofNat).head? ≠ some 0 := by
    rw [← head?_map_toNat, hds]
    exact fun hzero => Radix.ne_zero_of_head?_digits (by decide) hzero rfl
  refine ⟨_, .intro zeros hoctets hhead (fun c hc => h c (List.mem_append_right _ hc)) ?_⟩
  rw [hds, ← Radix.value_eq, ← Radix.value_eq, Radix.value_digits (by decide)]

/-- What octets are written as is a code of them. -/
theorem codes_encode (bs : List UInt8) : Codes bs (encode bs).toList := by
  have hmem : ∀ c ∈ (encode bs).toList, c ∈ alphabet := fun _ => mem_alphabet_of_mem_encode
  obtain ⟨others, hcodes⟩ := exists_codes hmem
  have hread := decode_eq_ok_iff.mpr (String.toList_inj.mp hcodes.eq_encode)
  rw [decode_encode, Except.ok.injEq] at hread
  exact hread ▸ hcodes

/-- **The standard coding of octets is what they are written as, and nothing else.** -/
theorem codes_iff {bs : List UInt8} {cs : List Char} :
    Codes bs cs ↔ cs = (encode bs).toList :=
  ⟨Codes.eq_encode, fun h => h ▸ codes_encode bs⟩

end Base58

/-- **Base58 and its form behind a `z` write what they read and read what they write.**  Octets
are written in the standard coding and read back from it.  The texts over the alphabet are read,
no others are, and each is what its octets are written as.  Behind a `z` the same texts are read
as the same octets, but a bare `z` is not read, so there no octets, and no empty string, come
back. -/
theorem exact_inverse (bs : List UInt8) (s t : String) :
    (Base58.Codes bs s.toList ↔ s = Base58.encode bs) ∧
    Base58.decode (Base58.encode bs) = .ok bs ∧
    ((∃ octets, Base58.decode s = .ok octets) ↔ ∀ c ∈ s.toList, c ∈ Base58.alphabet) ∧
    (Base58.decode s = .ok bs ↔ Base58.encode bs = s) ∧
    Multibase58.encode bs = "z" ++ Base58.encode bs ∧
    ((∃ octets, Multibase58.decode s = .ok octets) ↔
      ∃ rest, s = "z" ++ rest ∧ rest ≠ "" ∧ ∀ c ∈ rest.toList, c ∈ Base58.alphabet) ∧
    (Multibase58.decode ("z" ++ t) = .ok bs ↔ t ≠ "" ∧ Base58.decode t = .ok bs) ∧
    (Multibase58.decode (Multibase58.encode bs) = .ok bs ↔ bs ≠ []) ∧
    (Multibase58.decodeString (Multibase58.encode (Text.Utf8.encode t)) = .ok t ↔ t ≠ "") := by
  have hbehind : (∃ octets, Multibase58.decode s = .ok octets) ↔
      ∃ rest, s = "z" ++ rest ∧ rest ≠ "" ∧ ∀ c ∈ rest.toList, c ∈ Base58.alphabet := by
    simp only [Multibase58.decode_eq_ok_iff, ← Base58.exists_decode_eq_ok_iff]
    grind
  exact ⟨Base58.codes_iff.trans String.toList_inj, Base58.decode_encode bs,
    Base58.exists_decode_eq_ok_iff, Base58.decode_eq_ok_iff.trans eq_comm, rfl, hbehind,
    Multibase58.decode_z_append_eq_ok_iff, Multibase58.decode_encode_eq_ok_iff,
    Multibase58.decodeString_encodeString_eq_ok_iff⟩

example : Base58.encode [0, 0, 1] = "112" := by cbv

end AgentId.Codec
