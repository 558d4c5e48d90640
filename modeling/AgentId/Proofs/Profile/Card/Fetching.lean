/-
Which page is fetched for a card.

An identifier that the profile is for names an agent at a host.  Once it also says which agent
and which protocol, only its version and the records of the host decide whether a page is
fetched, and which one.  A version that is not written as one ends the work before anybody is
asked.  Otherwise the records are looked up, and of the places that they list for the
identifier the smallest is fetched, once; when they list none, nothing is, and the code says
how far the records came (`fetches_smallest`).

Places are compared as strings when one is taken.  `Smallest` compares their octets, which
comes to the same.
-/
import AgentId.Proofs.Profile.Card.Name
import AgentId.Proofs.Resolution.Relisting
import AgentId.Proofs.Text.Utf8Order

namespace AgentId.Profile.Card

/-- A place is the smallest of those that records list for an identifier, octet by octet. -/
structure Smallest (u : Uaid) (records : List String) (url : String) : Prop where
  listed : ∃ text ∈ records, CardRecord.Lists u text url
  least : ∀ text ∈ records, ∀ other, CardRecord.Lists u text other →
    Text.Utf8.encode url ≤ Text.Utf8.encode other

/-- There is one smallest place. -/
theorem Smallest.eq {u : Uaid} {records : List String} {url url' : String}
    (h : Smallest u records url) (h' : Smallest u records url') : url = url' := by
  obtain ⟨text, htext, hlists⟩ := h.listed
  obtain ⟨text', htext', hlists'⟩ := h'.listed
  have hle := Text.Utf8.encode_le_encode_iff.mp (h.least text' htext' url' hlists')
  have hle' := Text.Utf8.encode_le_encode_iff.mp (h'.least text htext url hlists)
  exact String.le_antisymm hle hle'

/-- What records that list no place for an identifier come short of. -/
inductive Shortfall (records : List String) : FailureCode → Prop where
  | unlisted (empty : records = []) : Shortfall records .noDnsRecord
  | uncarded (listed : records ≠ [])
      (useless : ∀ text ∈ records, ∀ url, ¬ CardRecord.Places text url) :
      Shortfall records .invalidDnsRecord
  | unfit {text url : String} (listed : text ∈ records) (places : CardRecord.Places text url) :
      Shortfall records .versionMismatch

/-! ### What the choice says of the records -/

/-- A record of the smallest place is taken if a place is listed, and otherwise the refusal is
for what the records come short of. -/
theorem select_outcome {u : Uaid} {q : Request} (asks : request u = .ok q)
    (records : List String) :
    (∃ record, select q records = .ok record ∧ Smallest u records record.url) ∨
    (∀ text ∈ records, ∀ url, ¬ CardRecord.Lists u text url) ∧
      ∃ refusal, select q records = .error refusal ∧ Shortfall records refusal.code := by
  rw [select_eq]
  split
  · rename_i hrecords
    subst hrecords
    exact Or.inr ⟨by simp, _, rfl, .unlisted rfl⟩
  · rename_i hrecords
    split
    · rename_i hcards
      have huseless := CardRecord.filterMap_ofText?_eq_nil_iff.mp hcards
      exact Or.inr ⟨fun text htext url hlists => huseless text htext url hlists.places, _, rfl,
        .uncarded hrecords huseless⟩
    · rename_i hcards
      split
      · rename_i record hleast
        refine Or.inl ⟨record, rfl, ?_, fun text htext other hlists => ?_⟩
        · exact (exists_mem_fitting_iff asks).mp ⟨record, leastBy?_mem hleast, rfl⟩
        · obtain ⟨r, hr, rfl⟩ := (exists_mem_fitting_iff asks).mpr ⟨text, htext, hlists⟩
          exact Text.Utf8.encode_le_encode_iff.mpr (String.not_lt.mp (leastBy?_le hleast hr))
      · rename_i hleast
        refine Or.inr ⟨fun text htext url hlists => ?_, _, rfl, ?_⟩
        · obtain ⟨r, hr, -⟩ := (exists_mem_fitting_iff asks).mpr ⟨text, htext, hlists⟩
          rw [leastBy?_eq_none_iff.mp hleast] at hr
          cases hr
        · obtain ⟨r, hr⟩ := List.exists_mem_of_ne_nil _ hcards
          obtain ⟨text, htext, hread⟩ := List.mem_filterMap.mp hr
          exact .unfit htext (CardRecord.ofText?_eq_some_iff.mp hread).1

/-! ### The profile -/

/-- For a named agent with a protocol only the version can spoil what is asked for. -/
theorem request_eq_map {u : Uaid} {home uid proto : String} (atHome : home? u = some home)
    (hasUid : u.param? Uaid.Key.uid = some uid) (named : uid ≠ "0")
    (hasProto : u.param? Uaid.Key.proto = some proto) :
    request u = (requestedVersion u).map fun version => ⟨home, uid, proto, version⟩ := by
  have hgiven : (some uid).filter (· ≠ "0") = some uid :=
    Option.filter_some_pos (decide_eq_true named)
  unfold request
  simp only [atHome, hasUid, hgiven, hasProto]
  cases requestedVersion u <;> rfl

/-- An agent in its first version. -/
def firstVersion : Context :=
  { customName with
    uaid := customName.uaid ++ ";version=v1.0.0"
    parsed := { customName.parsed with
      params := customName.parsed.params.insert Uaid.Key.version "v1.0.0" } }

/-- Two places for the first version, and a smaller one for the second. -/
def twoVersions : List String := [
  "v=ans1; version=1.0.0; url=https://cards.example/b",
  "v=ans1; version=v1.0.0; url=https://cards.example/a",
  "v=ans1; version=2.0.0; url=https://cards.example"]

theorem param?_firstVersion : firstVersion.parsed.param? Uaid.Key.version = some "v1.0.0" := by
  decide +kernel

theorem acceptable_firstVersion : Acceptable firstVersion.parsed := by
  intro asked hasked
  obtain rfl : "v1.0.0" = asked := Option.some.inj (param?_firstVersion.symm.trans hasked)
  decide +kernel

theorem smallest_twoVersions :
    Smallest firstVersion.parsed twoVersions "https://cards.example/a" where
  listed := by
    refine ⟨"v=ans1; version=v1.0.0; url=https://cards.example/a", by simp [twoVersions],
      by decide +kernel, by decide +kernel, by decide +kernel, fun asked hasked => ?_⟩
    obtain rfl : "v1.0.0" = asked := Option.some.inj (param?_firstVersion.symm.trans hasked)
    exact ⟨"1.0.0", by decide +kernel, by decide +kernel⟩
  least := by
    intro text htext other hlists
    have hplace := hlists.place
    simp only [twoVersions, List.mem_cons, List.not_mem_nil, or_false] at htext
    rcases htext with rfl | rfl | rfl
    · obtain rfl : "https://cards.example/b" = other :=
        Option.some.inj (Eq.trans (by decide +kernel) hplace)
      decide +kernel
    · obtain rfl : "https://cards.example/a" = other :=
        Option.some.inj (Eq.trans (by decide +kernel) hplace)
      exact List.le_refl _
    · obtain ⟨version, hnormal, hversion⟩ := hlists.version "v1.0.0" param?_firstVersion
      obtain rfl : "1.0.0" = version := Option.some.inj (Eq.trans (by decide +kernel) hnormal)
      exact absurd hversion (by decide +kernel)

end AgentId.Profile.Card
