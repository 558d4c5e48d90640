/-
Octets and the texts of base58 are inverse to each other.

Octets and a text over an alphabet are two spellings of one pair, a count of zeros and a
number.  Converting digits keeps both: the number has the same value in the other radix,
and its digits do not start with a zero, so the zeros in front can be counted again.  That
makes converting there and back the identity (`convert_convert`), in any two radixes, and
everything else is looking symbols up in an alphabet that has each of them once.  Converting
is the identity from either end, so a text is read as octets exactly if they are written as
it (`decode_eq_ok_iff`), and no two texts are read alike.
-/
import AgentId.Codec.Multibase58
import AgentId.Proofs.Text.Escaping
import Mathlib.Data.Nat.Digits.Lemmas

namespace AgentId.Codec

namespace Radix

/-! ### Digits of a number -/

theorem digitsUp_eq {base : Nat} (hbase : 2 ≤ base) (n : Nat) :
    digitsUp base n = Nat.digits base n := by
  induction n using Nat.strong_induction_on with
  | _ n ih =>
      rw [digitsUp]
      by_cases hn : n = 0
      · simp [hn]
      · rw [if_neg (by omega), Nat.digits_def' (by omega) (by omega),
          ih (n / base) (Nat.div_lt_self (by omega) (by omega))]

theorem digits_eq {base : Nat} (hbase : 2 ≤ base) (n : Nat) :
    digits base n = (Nat.digits base n).reverse := by
  rw [digits, digitsUp_eq hbase]

theorem value_eq (base : Nat) (ds : List Nat) : value base ds = Nat.ofDigits base ds.reverse := by
  rw [value, Nat.ofDigits_eq_foldr, List.foldr_reverse]
  congr 1
  funext n d
  simp [Nat.add_comm]

theorem value_digits {base : Nat} (hbase : 2 ≤ base) (n : Nat) :
    value base (digits base n) = n := by
  rw [value_eq, digits_eq hbase, List.reverse_reverse, Nat.ofDigits_digits]

theorem lt_of_mem_digits {base n d : Nat} (hbase : 2 ≤ base) (h : d ∈ digits base n) :
    d < base := by
  rw [digits_eq hbase, List.mem_reverse] at h
  exact Nat.digits_lt_base (by omega) h

/-- The digits of a number do not start with a zero. -/
theorem ne_zero_of_head?_digits {base n d : Nat} (hbase : 2 ≤ base)
    (h : (digits base n).head? = some d) : d ≠ 0 := by
  rw [digits_eq hbase, List.head?_reverse] at h
  by_cases hn : n = 0
  · simp [hn] at h
  · rw [List.getLast?_eq_some_getLast (Nat.digits_ne_nil_iff_ne_zero.mpr hn)] at h
    obtain rfl := Option.some.inj h
    exact Nat.getLast_digit_ne_zero base hn

/-! ### Zeros in front -/

section Zeros

variable {zeros ds : List Nat}

theorem value_append_of_zeros (base : Nat) (h : ∀ d ∈ zeros, d = 0) (ds : List Nat) :
    value base (zeros ++ ds) = value base ds := by
  induction zeros with
  | nil => rfl
  | cons z zs ih =>
      obtain rfl := h z List.mem_cons_self
      exact ih fun d hd => h d (List.mem_cons_of_mem _ hd)

theorem takeWhile_append_of_zeros (h : ∀ d ∈ zeros, d = 0) (hds : ∀ d, ds.head? = some d → d ≠ 0) :
    (zeros ++ ds).takeWhile (· == 0) = zeros := by
  rw [List.takeWhile_append_of_pos fun d hd => beq_iff_eq.mpr (h d hd)]
  cases ds with
  | nil => simp
  | cons d ds =>
      have hd := hds d rfl
      simp [hd]

theorem forall_takeWhile_zero (ds : List Nat) : ∀ d ∈ ds.takeWhile (· == 0), d = 0 := by
  intro d hd
  have hzero := @List.mem_takeWhile_imp _ (· == 0) _ _ hd
  exact beq_iff_eq.mp hzero

theorem ne_zero_of_head?_dropWhile {d : Nat} (h : (ds.dropWhile (· == 0)).head? = some d) :
    d ≠ 0 := by
  have hnot := List.head?_dropWhile_not (· == 0) ds
  rw [h] at hnot
  simpa using hnot

end Zeros

theorem digits_value {base : Nat} (hbase : 2 ≤ base) {ds : List Nat} (h : ∀ d ∈ ds, d < base) :
    digits base (value base ds) = ds.dropWhile (· == 0) := by
  have hvalue : value base ds = value base (ds.dropWhile (· == 0)) := by
    conv_lhs => rw [← List.takeWhile_append_dropWhile (p := (· == 0)) (l := ds)]
    exact value_append_of_zeros base (forall_takeWhile_zero ds) _
  rw [hvalue, digits_eq hbase, value_eq, Nat.digits_ofDigits base (by omega), List.reverse_reverse]
  · intro d hd
    exact h d (List.dropWhile_subset _ (List.mem_reverse.mp hd))
  · intro hne
    refine @ne_zero_of_head?_dropWhile ds _ ?_
    rw [← List.getLast?_reverse]
    exact List.getLast?_eq_some_getLast hne

/-! ### There and back -/

theorem lt_of_mem_convert {source target d : Nat} {ds : List Nat} (htarget : 2 ≤ target)
    (h : d ∈ convert source target ds) : d < target := by
  rcases List.mem_append.mp h with hzero | hdigit
  · have := forall_takeWhile_zero ds d hzero
    omega
  · exact lt_of_mem_digits htarget hdigit

/-- **Writing digits in another radix loses nothing.** -/
theorem convert_convert {source target : Nat} (hsource : 2 ≤ source) (htarget : 2 ≤ target)
    {ds : List Nat} (h : ∀ d ∈ ds, d < source) :
    convert target source (convert source target ds) = ds := by
  have hzeros := forall_takeWhile_zero ds
  have hhead : ∀ d, (digits target (value source ds)).head? = some d → d ≠ 0 :=
    fun _ => ne_zero_of_head?_digits htarget
  show List.takeWhile (· == 0) (_ ++ _) ++ digits source (value target (_ ++ _)) = ds
  rw [takeWhile_append_of_zeros hzeros hhead, value_append_of_zeros target hzeros,
    value_digits htarget, digits_value hsource h, List.takeWhile_append_dropWhile]

theorem map_toNat_map_ofNat {ds : List Nat} (h : ∀ d ∈ ds, d < 256) :
    (ds.map UInt8.ofNat).map UInt8.toNat = ds := by
  rw [List.map_map]
  exact (List.map_congr_left fun d hd => UInt8.toNat_ofNat_of_lt' (h d hd)).trans (List.map_id _)

/-! ### Symbols for digits -/

section Symbols

variable {alphabet : List Char} {digit? : Char → Option Nat}

/-- What characters stand for is a list of digits whose symbols they are. -/
theorem mapM_digit?_eq_some_iff (hdigit : ∀ n c, digit? c = some n ↔ alphabet[n]? = some c)
    {cs : List Char} {ds : List Nat} : cs.mapM digit? = some ds ↔
      cs = ds.filterMap (alphabet[·]?) ∧ ∀ d ∈ ds, d < alphabet.length := by
  constructor
  · intro h
    induction cs generalizing ds with
    | nil => simp_all
    | cons c cs ih =>
        simp only [List.mapM_cons, Option.bind_eq_bind, Option.bind_eq_some_iff, Option.pure_def,
          Option.some.injEq] at h
        obtain ⟨d, hd, ds, hds, rfl⟩ := h
        have hget := (hdigit d c).mp hd
        obtain ⟨hrest, hlt⟩ := ih hds
        refine ⟨by rw [List.filterMap_cons_some hget, ← hrest], fun e he => ?_⟩
        rcases List.mem_cons.mp he with rfl | he
        · exact (List.getElem?_eq_some_iff.mp hget).1
        · exact hlt e he
  · rintro ⟨rfl, h⟩
    induction ds with
    | nil => rfl
    | cons d ds ih =>
        have hd : d < alphabet.length := h d List.mem_cons_self
        have hget : alphabet[d]? = some alphabet[d] := List.getElem?_eq_getElem hd
        rw [List.filterMap_cons_some hget, List.mapM_cons, (hdigit d _).mpr hget,
          ih fun e he => h e (List.mem_cons_of_mem _ he)]
        rfl

/-- **A text writes octets in an alphabet if and only if it is what they are written as.** -/
theorem decode?_eq_some_iff (hlength : 2 ≤ alphabet.length)
    (hdigit : ∀ n c, digit? c = some n ↔ alphabet[n]? = some c) {cs : List Char}
    {bs : List UInt8} :
    decode? alphabet.length digit? cs = some bs ↔ cs = encode alphabet bs := by
  unfold decode? encode
  rw [Option.map_eq_some_iff]
  constructor
  · rintro ⟨ds, hds, rfl⟩
    obtain ⟨rfl, hlt⟩ := (mapM_digit?_eq_some_iff hdigit).mp hds
    rw [map_toNat_map_ofNat fun d => lt_of_mem_convert (by decide),
      convert_convert hlength (by decide) hlt]
  · rintro rfl
    refine ⟨_, (mapM_digit?_eq_some_iff hdigit).mpr ⟨rfl, fun d => lt_of_mem_convert hlength⟩, ?_⟩
    have hoctet : ∀ d ∈ bs.map UInt8.toNat, d < 256 := by
      intro d hd
      obtain ⟨b, -, rfl⟩ := List.mem_map.mp hd
      exact b.toNat_lt
    rw [convert_convert (by omega) hlength hoctet, List.map_map]
    simp [Function.comp_def]

/-- Every text whose characters all stand for something writes octets. -/
theorem isSome_decode?_iff (base : Nat) {cs : List Char} :
    (decode? base digit? cs).isSome ↔ ∀ c ∈ cs, (digit? c).isSome := by
  unfold decode?
  rw [Option.isSome_map]
  induction cs with
  | nil => simp
  | cons c cs ih =>
      rw [List.forall_mem_cons, ← ih]
      cases hc : digit? c <;> cases hcs : cs.mapM digit? <;> simp [List.mapM_cons, hc, hcs]

end Symbols

end Radix

/-! ### With the Bitcoin alphabet -/

namespace Base58

theorem nodup_alphabet : alphabet.Nodup := by
  decide

theorem length_alphabet : alphabet.length = 58 := by
  decide

theorem digit?_eq_some_iff {n : Nat} {c : Char} : digit? c = some n ↔ alphabet[n]? = some c := by
  rw [digit?, List.idxOf?_eq_some_iff, List.getElem?_eq_some_iff]
  constructor
  · rintro ⟨hn, hget, -⟩
    exact ⟨hn, by simpa using hget⟩
  · rintro ⟨hn, rfl⟩
    refine ⟨hn, by simp, fun j hj heq => ?_⟩
    have hindex := (List.getElem_inj nodup_alphabet).mp heq
    omega

theorem isSome_digit?_iff {c : Char} : (digit? c).isSome ↔ c ∈ alphabet := by
  rw [Option.isSome_iff_exists, List.mem_iff_getElem?]
  simp only [digit?_eq_some_iff]

theorem digits?_eq_some_iff {cs : List Char} {bs : List UInt8} :
    Radix.decode? 58 digit? cs = some bs ↔ cs = (encode bs).toList := by
  rw [encode, String.toList_ofList, ← length_alphabet]
  exact Radix.decode?_eq_some_iff (by decide) fun _ _ => digit?_eq_some_iff

/-- **A text is read as octets if and only if they are written as that text.** -/
theorem decode_eq_ok_iff {s : String} {bs : List UInt8} : decode s = .ok bs ↔ s = encode bs := by
  rw [← String.toList_inj, ← digits?_eq_some_iff, decode]
  cases Radix.decode? 58 digit? s.toList <;> simp

/-- Reading base58 gives back what was written. -/
theorem decode_encode (bs : List UInt8) : decode (encode bs) = .ok bs :=
  decode_eq_ok_iff.mpr rfl

/-- A text is base58 if and only if it has no other characters than the alphabet's. -/
theorem exists_decode_eq_ok_iff {s : String} :
    (∃ bs, decode s = .ok bs) ↔ ∀ c ∈ s.toList, c ∈ alphabet := by
  have hdigits : (Radix.decode? 58 digit? s.toList).isSome ↔ ∀ c ∈ s.toList, c ∈ alphabet := by
    simp only [Radix.isSome_decode?_iff, isSome_digit?_iff]
  rw [← hdigits, decode]
  cases Radix.decode? 58 digit? s.toList <;> simp

/-- Base58 is written with the digits of its alphabet. -/
theorem mem_alphabet_of_mem_encode {bs : List UInt8} {c : Char} (h : c ∈ (encode bs).toList) :
    c ∈ alphabet :=
  exists_decode_eq_ok_iff.mp ⟨bs, decode_encode bs⟩ c h

theorem encode_eq_empty_iff {bs : List UInt8} : encode bs = "" ↔ bs = [] := by
  have hnone : decode "" = .ok [] := by decide +kernel
  rw [eq_comm, ← decode_eq_ok_iff, hnone, Except.ok.injEq, eq_comm]

end Base58

/-! ### Behind a `z` -/

namespace Multibase58

/-- The code named `z` is base58. -/
theorem find?_bases : Multibase.bases.find? (·.code == 'z') =
    some ⟨'z', .positional, String.ofList Base58.alphabet, false⟩ := by
  rfl

theorem symbol?_eq (c : Char) :
    Multibase.Base.symbol? ⟨'z', .positional, String.ofList Base58.alphabet, false⟩ c =
      Base58.digit? c := by
  simp only [Multibase.Base.symbol?, String.toList_ofList, Base58.digit?]
  cases Base58.alphabet.idxOf? c <;> rfl

/-- What follows `z` is read as base58. -/
theorem multibase_decode_eq_ok_iff {t : String} {bs : List UInt8} :
    Multibase.decode ('z' :: t.toList) = .ok bs ↔ Base58.decode t = .ok bs := by
  have hsymbol : Multibase.Base.symbol? ⟨'z', .positional, String.ofList Base58.alphabet, false⟩ =
      Base58.digit? := funext symbol?_eq
  simp only [Multibase.decode, find?_bases, Multibase.Base.decode?, hsymbol, Base58.decode]
  rw [String.length, String.toList_ofList, Base58.length_alphabet]
  cases Radix.decode? 58 Base58.digit? t.toList <;> simp

/-- **Octets are read behind a `z` if and only if base58 reads them, and there is something
to read.** -/
theorem decode_eq_ok_iff {value : String} {bs : List UInt8} :
    decode value = .ok bs ↔ ∃ t, value = "z" ++ t ∧ t ≠ "" ∧ Base58.decode t = .ok bs := by
  simp only [← multibase_decode_eq_ok_iff]
  unfold decode
  split
  · rename_i c cs hlist
    have hvalue (t : String) : value = "z" ++ t ↔ t.toList = c :: cs := by
      rw [← String.toList_inj, hlist, String.toList_append]
      simp [eq_comm]
    have hex : (∃ t : String, value = "z" ++ t ∧ t ≠ "" ∧
        Multibase.decode ('z' :: t.toList) = .ok bs) ↔
        Multibase.decode ('z' :: c :: cs) = .ok bs := by
      constructor
      · rintro ⟨t, ht, -, h⟩
        rwa [(hvalue t).mp ht] at h
      · intro h
        refine ⟨String.ofList (c :: cs), (hvalue _).mpr String.toList_ofList, by simp, ?_⟩
        rwa [String.toList_ofList]
    rw [hex]
    cases Multibase.decode ('z' :: c :: cs) <;> simp
  · rename_i hlist
    refine ⟨nofun, ?_⟩
    rintro ⟨t, rfl, hne, -⟩
    cases ht : t.toList with
    | nil => exact absurd (String.toList_eq_nil_iff.mp ht) hne
    | cons c cs => exact absurd (by rw [String.toList_append, ht]; rfl) (hlist c cs)

theorem decode_z_append_eq_ok_iff {t : String} {bs : List UInt8} :
    decode ("z" ++ t) = .ok bs ↔ t ≠ "" ∧ Base58.decode t = .ok bs := by
  rw [decode_eq_ok_iff]
  constructor
  · rintro ⟨u, hu, h⟩
    obtain rfl := String.append_right_inj "z" |>.mp hu
    exact h
  · exact fun h => ⟨t, rfl, h⟩

theorem decode_encode_eq_ok_iff {bs : List UInt8} : decode (encode bs) = .ok bs ↔ bs ≠ [] := by
  rw [encode, decode_z_append_eq_ok_iff, Ne, Base58.encode_eq_empty_iff]
  exact and_iff_left (Base58.decode_encode bs)

theorem encodeString_ne_empty (s : String) : encodeString s ≠ "" := by
  simp [encodeString, encode]

theorem decodeString_eq_ok_iff {value s : String} : decodeString value = .ok s ↔
    ∃ bs, decode value = .ok bs ∧ Text.Utf8.decode bs = .ok s := by
  unfold decodeString
  cases decode value with
  | error cause => simp [bind, Except.bind]
  | ok bs => cases hs : Text.Utf8.decode bs <;> simp [bind, Except.bind, hs]

/-- **A string behind a `z` is read back if and only if it is not empty.** -/
theorem decodeString_encodeString_eq_ok_iff {s : String} :
    decodeString (encodeString s) = .ok s ↔ s ≠ "" := by
  have hne : Text.Utf8.encode s ≠ [] ↔ s ≠ "" := Text.Utf8.encode_eq_nil_iff.not
  rw [decodeString_eq_ok_iff, encodeString, ← hne]
  constructor
  · rintro ⟨bs, hread, -⟩ hempty
    rw [encode, decode_z_append_eq_ok_iff, hempty] at hread
    exact hread.1 (Base58.encode_eq_empty_iff.mpr rfl)
  · exact fun h => ⟨_, decode_encode_eq_ok_iff.mpr h, Text.Utf8.decode_encode s⟩

theorem decodeString_encodeString {s : String} (h : s ≠ "") :
    decodeString (encodeString s) = .ok s :=
  decodeString_encodeString_eq_ok_iff.mpr h

end Multibase58

end AgentId.Codec
