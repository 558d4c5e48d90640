/-
DIDs and what may stand behind them.

A DID URL is a DID and more, from a mark on.  Minting knows three marks, and a table of
documents two of them.  So behind `?` and `#` a table looks for the DID (`ofUrl_append`), and
behind `;` for another text, which the mark is a part of (`ofUrl_append_ne`).  Whatever the text
is, what the table looks for is the one part of it that has no query and no fragment and is
followed by nothing else (`ofUrl_eq_iff`).
-/
import AgentId.Did.Resolver
import AgentId.Proofs.Text.Cutting
import AgentId.Uaid.Minting

namespace AgentId.Did

open Text

/-! ### The part without a query or a fragment -/

/-- Text in which neither a query nor a fragment starts. -/
def Bare (s : String) : Prop :=
  '?' ∉ s.toList ∧ '#' ∉ s.toList

/-- A query, a fragment, or nothing. -/
def Trails (s : String) : Prop :=
  ∀ c, s.toList.head? = some c → c = '?' ∨ c = '#'

instance (s : String) : Decidable (Bare s) :=
  inferInstanceAs (Decidable (_ ∧ _))

/-- The two marks that a table of documents knows. -/
def isLookupMark (c : Char) : Bool :=
  c == '?' || c == '#'

theorem isLookupMark_iff {c : Char} : isLookupMark c = true ↔ c = '?' ∨ c = '#' := by
  simp [isLookupMark]

theorem bare_iff {s : String} : Bare s ↔ ∀ c ∈ s.toList, isLookupMark c = false := by
  constructor
  · rintro ⟨hquery, hfragment⟩ c hc
    rw [Bool.eq_false_iff, Ne, isLookupMark_iff]
    rintro (rfl | rfl)
    · exact hquery hc
    · exact hfragment hc
  · intro h
    exact ⟨fun hc => absurd (h _ hc) (by decide), fun hc => absurd (h _ hc) (by decide)⟩

theorem toList_ofUrl (url : String) : (ofUrl url).toList = (breakAt isLookupMark url.toList).1 :=
  String.toList_ofList

theorem bare_ofUrl (url : String) : Bare (ofUrl url) := by
  rw [bare_iff, toList_ofUrl]
  exact fun c hc => not_of_mem_breakAt hc

/-- **A table looks for the part in front of the first query or fragment.** -/
theorem ofUrl_eq_iff {url did : String} :
    ofUrl url = did ↔ Bare did ∧ ∃ rest, Trails rest ∧ url = did ++ rest := by
  constructor
  · rintro rfl
    refine ⟨bare_ofUrl url, String.ofList (breakAt isLookupMark url.toList).2, ?_, ?_⟩
    · intro c hc
      rw [String.toList_ofList] at hc
      exact isLookupMark_iff.mp (head_breakAt hc)
    · refine String.toList_injective ?_
      rw [String.toList_append, toList_ofUrl, String.toList_ofList, breakAt_append]
  · rintro ⟨hdid, rest, hrest, rfl⟩
    refine String.toList_injective ?_
    rw [toList_ofUrl, String.toList_append, breakAt_eq (bare_iff.mp hdid)]
    exact fun c hc => isLookupMark_iff.mpr (hrest c hc)

/-- What is free of both is looked for in front of whatever is looked for behind it. -/
theorem ofUrl_bare_append {did : String} (hdid : Bare did) (s : String) :
    ofUrl (did ++ s) = did ++ ofUrl s := by
  obtain ⟨hbare, rest, hrest, hs⟩ := ofUrl_eq_iff.mp (rfl : ofUrl s = ofUrl s)
  refine ofUrl_eq_iff.mpr ⟨?_, rest, hrest, ?_⟩
  · rw [Bare, String.toList_append]
    simpa using ⟨⟨hdid.1, hbare.1⟩, hdid.2, hbare.2⟩
  · rw [String.append_assoc, ← hs]

/-! ### DIDs and the marks behind them -/

/-- A DID as such, of another method than `key`: nothing in it starts the rest of a DID URL. -/
structure Plain (did method id : String) : Prop where
  text : did = "did:" ++ method ++ ":" ++ id
  method_ne_empty : method ≠ ""
  method_ne_key : method ≠ "key"
  noColon : ':' ∉ method.toList
  id_ne_empty : id ≠ ""
  noMark : ∀ c ∈ did.toList, Uaid.isUrlMark c = false
  noBlank : ∀ c ∈ did.toList, isBlank c = false

/-- The rest of a DID URL, behind its DID. -/
structure Suffix (s : String) : Prop where
  mark : ∃ c, s.toList.head? = some c ∧ Uaid.isUrlMark c = true
  noBlank : ∀ c ∈ s.toList, isBlank c = false

section
variable {did method id s : String} (plain : Plain did method id)
include plain

theorem Plain.toList_eq : did.toList = "did:".toList ++ (method.toList ++ ':' :: id.toList) := by
  rw [plain.text]
  simp

theorem Plain.bare : Bare did := by
  rw [bare_iff]
  intro c hc
  have hmark := plain.noMark c hc
  simp only [Uaid.isUrlMark, Bool.or_eq_false_iff] at hmark
  simp [isLookupMark, hmark]

/-- Behind a query or a fragment the table looks for the DID. -/
theorem ofUrl_append {c : Char} (hhead : s.toList.head? = some c) (hc : c = '?' ∨ c = '#') :
    ofUrl (did ++ s) = did := by
  refine ofUrl_eq_iff.mpr ⟨plain.bare, s, fun d hd => ?_, rfl⟩
  obtain rfl : c = d := Option.some.inj (hhead.symm.trans hd)
  exact hc

/-- Behind a semicolon the table looks for another text. -/
theorem ofUrl_append_ne (hhead : s.toList.head? = some ';') : ofUrl (did ++ s) ≠ did := by
  obtain ⟨rest, hrest⟩ := List.head?_eq_some_iff.mp hhead
  rw [ofUrl_bare_append plain.bare]
  intro heq
  have hempty : (ofUrl s).toList = [] := by
    rw [← String.toList_inj, String.toList_append] at heq
    exact List.append_right_eq_self.mp heq
  rw [toList_ofUrl, hrest] at hempty
  cases hempty

/-- The resolver of keys is not for it. -/
theorem Plain.not_key (s : String) : startsWith "did:key:" (did ++ s) = false := by
  rw [Bool.eq_false_iff]
  intro hkey
  obtain ⟨rest, hrest⟩ := startsWith_iff.mp hkey
  rw [String.toList_append, plain.toList_eq, List.append_assoc, List.append_assoc] at hrest
  have hlead : "did:key:".toList ++ rest = "did:".toList ++ ("key".toList ++ ':' :: rest) := rfl
  have hown : "key".toList ++ ':' :: rest = method.toList ++ ':' :: (id.toList ++ s.toList) :=
    List.append_cancel_left (hlead.symm.trans hrest)
  have hcut : cut? ':' ("key".toList ++ ':' :: rest) = some ("key".toList, rest) :=
    cut?_eq_some_iff.mpr ⟨rfl, by decide⟩
  have hcut' : cut? ':' ("key".toList ++ ':' :: rest) =
      some (method.toList, id.toList ++ s.toList) :=
    cut?_eq_some_iff.mpr ⟨hown, plain.noColon⟩
  obtain ⟨hmethod, -⟩ := Prod.mk.inj (Option.some.inj (hcut'.symm.trans hcut))
  exact plain.method_ne_key (String.toList_injective hmethod)

theorem Plain.isDid (s : String) : startsWith "did:" (did ++ s) = true := by
  rw [startsWith_iff, String.toList_append, plain.toList_eq, List.append_assoc]
  exact List.prefix_append _ _

end

end AgentId.Did
