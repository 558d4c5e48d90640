/-
What the digest of a description tells.

The digest is taken of a text, and the text tells the description: JSON is written so that
different values are written differently, whatever characters their strings hold.  So two
descriptions with one text have one normal form, and two that have the same digest have
too, unless the hash takes their two texts for one (`aid_identifies`).  The digest itself is
always of 48 octets, and reading its base58 gives it back.
-/
import AgentId.Proofs.Agent.Spelling
import AgentId.Proofs.Codec.Base58
import AgentId.Proofs.Json.Writing

namespace AgentId

namespace Codec

theorem BitGroup.length_octets (count n : Nat) : (BitGroup.octets count n).length = count := by
  induction count generalizing n with
  | zero => rfl
  | succ count ih => rw [BitGroup.octets, List.length_append, ih, List.length_singleton]

/-- The digest of a message has 48 octets, whatever the message is. -/
theorem Sha384.length_digest (message : List UInt8) : (Sha384.digest message).length = 48 := by
  simp [Sha384.digest, Sha384.octetsOf, BitGroup.length_octets]

end Codec

namespace Agent

open Codec

/-- **A description can be told from its text.** -/
theorem writeSorted_injective {a b : Agent} (h : a.writeSorted = b.writeSorted) : a = b := by
  have hint : Function.Injective Json.int := by
    intro m n hmn
    exact Json.Number.integer.inj (Json.num.inj hmn)
  have hmembers := Json.obj.inj (Json.text_injective h)
  cases a
  cases b
  simpa [List.map_inj_right hint, and_comm, and_left_comm, and_assoc] using hmembers

theorem canonicalJson_eq {a x : Agent} (ha : a.normalized = .ok x) :
    a.canonicalJson = .ok x.writeSorted := by
  rw [canonicalJson, ha]
  rfl

theorem aid_eq {a x : Agent} (ha : a.normalized = .ok x) :
    a.aid = .ok (digestOf x.writeSorted) := by
  rw [aid, canonicalJson_eq ha]
  rfl

/-- The digest is read back from the identifier. -/
theorem decode_digestOf (text : String) :
    Base58.decode (digestOf text) = .ok (Sha384.digest (Text.Utf8.encode text)) :=
  Base58.decode_encode _

/-- **The digest tells descriptions apart.**  Two descriptions that normalize have one text
exactly if they have one normal form; and one digest exactly then, as long as the hash keeps
these two texts apart.  The digest stands in base58 in the identifier. -/
theorem aid_identifies {a b x y : Agent} (ha : a.normalized = .ok x) (hb : b.normalized = .ok y) :
    (a.canonicalJson = b.canonicalJson ↔ a.normalized = b.normalized) ∧
    ((Sha384.digest (Text.Utf8.encode x.writeSorted) =
          Sha384.digest (Text.Utf8.encode y.writeSorted) → x.writeSorted = y.writeSorted) →
      (a.aid = b.aid ↔ a.normalized = b.normalized)) ∧
    ∃ name, a.aid = .ok name ∧
      Base58.decode name = .ok (Sha384.digest (Text.Utf8.encode x.writeSorted)) ∧
      (Sha384.digest (Text.Utf8.encode x.writeSorted)).length = 48 := by
  rw [canonicalJson_eq ha, canonicalJson_eq hb, aid_eq ha, aid_eq hb, ha, hb]
  refine ⟨?_, ?_, ?_⟩
  · constructor
    · intro h
      rw [writeSorted_injective (Except.ok.inj h)]
    · intro h
      rw [Except.ok.inj h]
  · intro hash
    constructor
    · intro h
      -- One base58 text stands for one digest, and the hash was taken of one text.
      have hdigest := congrArg Base58.decode (Except.ok.inj h)
      rw [decode_digestOf, decode_digestOf] at hdigest
      rw [writeSorted_injective (hash (Except.ok.inj hdigest))]
    · intro h
      rw [Except.ok.inj h]
  · exact ⟨_, rfl, decode_digestOf _, Sha384.length_digest _⟩

/-- A description with JSON in its name. -/
def namedInJson : Agent where
  registry := "hol"
  name := "x\",\"nativeId\":\"y"
  version := "1"
  protocol := "a2a"
  nativeId := "z"
  skills := []

/-- Without the escapes, the text of this description would be the same. -/
def identifiedInJson : Agent :=
  { namedInJson with name := "x", nativeId := "y\",\"nativeId\":\"z" }

theorem aid_identifies_json :
    namedInJson.normalized = .ok namedInJson ∧ identifiedInJson.normalized = .ok identifiedInJson ∧
      namedInJson.canonicalJson ≠ identifiedInJson.canonicalJson ∧
      namedInJson.aid ≠ identifiedInJson.aid := by
  have hnamed : namedInJson.normalized = .ok namedInJson := by
    refine normalized_eq_ok_iff.mpr ⟨?_, by decide +kernel⟩
    rw [respelled, List.mergeSort_of_pairwise (by decide)]
    decide +kernel
  have hidentified : identifiedInJson.normalized = .ok identifiedInJson := by
    refine normalized_eq_ok_iff.mpr ⟨?_, by decide +kernel⟩
    rw [respelled, List.mergeSort_of_pairwise (by decide)]
    decide +kernel
  have hdiffer : namedInJson.normalized ≠ identifiedInJson.normalized := by
    rw [hnamed, hidentified]
    decide +kernel
  have hash : Sha384.digest (Text.Utf8.encode namedInJson.writeSorted) ≠
      Sha384.digest (Text.Utf8.encode identifiedInJson.writeSorted) := by decide +kernel
  obtain ⟨htext, haid, -⟩ := aid_identifies hnamed hidentified
  exact ⟨hnamed, hidentified, mt htext.mp hdiffer,
    mt (haid fun heq => absurd heq hash).mp hdiffer⟩

end Agent

end AgentId
