/-
DIDs that are their own documents.

A DID of method `key` holds a public key, spelled in any multibase code, and nothing has to be
looked up for its document.  There is one exactly if the key is spelled correctly and starts with
the code of a kind that is known (`resolve_eq_ok_iff`); in every other case there is a fault, so
the resolver never says that it does not know such a DID.

The document speaks about itself only.  It is named for the key as it is spelled, and everything
in it is made from that name and the spelling, so from its name, with or without a query or a
fragment, the document is made again (`resolves_to_itself`).
-/
import AgentId.Proofs.Did.Url

namespace AgentId.Did.Key

open Text

/-! ### Kinds of keys -/

/-- The codes that keys start with, and the kinds that they stand for. -/
def codes : List (List UInt8 × String) :=
  [([0xED, 0x01], "Ed25519VerificationKey2020"),
    ([0xEC, 0x01], "X25519KeyAgreementKey2020"),
    ([0xE7, 0x01], "EcdsaSecp256k1VerificationKey2019"),
    ([0x80, 0x24], "JsonWebKey2020")]

/-- **The kind of a key is that of the code that its octets start with.** -/
theorem kind?_eq_some_iff {octets : List UInt8} {kind : String} :
    kind? octets = some kind ↔ ∃ code, (code, kind) ∈ codes ∧ code <+: octets := by
  constructor
  · intro h
    unfold kind? at h
    split at h
    · obtain rfl := Option.some.inj h
      exact ⟨[0xED, 0x01], by simp [codes], _, rfl⟩
    · obtain rfl := Option.some.inj h
      exact ⟨[0xEC, 0x01], by simp [codes], _, rfl⟩
    · obtain rfl := Option.some.inj h
      exact ⟨[0xE7, 0x01], by simp [codes], _, rfl⟩
    · obtain rfl := Option.some.inj h
      exact ⟨[0x80, 0x24], by simp [codes], _, rfl⟩
    · cases h
  · rintro ⟨code, hcode, rest, rfl⟩
    simp only [codes, List.mem_cons, Prod.mk.injEq, List.not_mem_nil, or_false] at hcode
    rcases hcode with ⟨rfl, rfl⟩ | ⟨rfl, rfl⟩ | ⟨rfl, rfl⟩ | ⟨rfl, rfl⟩ <;> rfl

/-- A text spells a key of a kind. -/
def Spells (key kind : String) : Prop :=
  ∃ octets code, Codec.Multibase.decode key.toList = .ok octets ∧ (code, kind) ∈ codes ∧
    code <+: octets

/-! ### The key in a DID -/

/-- A DID of method `key` with the given text for a key, or a DID URL of it. -/
def Names (did key : String) : Prop :=
  key ≠ "" ∧ Bare key ∧ ∃ rest, Trails rest ∧ did = "did:key:" ++ key ++ rest

theorem text?_eq_some_iff {did key : String} : text? did = some key ↔ Names did key := by
  have hcut : text? did = some key ↔
      ∃ url, did = "did:key:" ++ url ∧ ofUrl url = key ∧ key ≠ "" := by
    unfold text?
    simp only [Option.bind_eq_bind, Option.bind_eq_some_iff, behind?_eq_some_iff]
    constructor
    · rintro ⟨cs, hcs, hkey⟩
      split at hkey
      · cases hkey
      · rename_i hne
        obtain rfl := Option.some.inj hkey
        refine ⟨String.ofList cs, String.toList_injective ?_, rfl, hne⟩
        rw [hcs, String.toList_append, String.toList_ofList (l := cs)]
    · rintro ⟨url, rfl, rfl, hne⟩
      refine ⟨url.toList, String.toList_append, ?_⟩
      rw [String.ofList_toList, if_neg hne]
  rw [hcut]
  constructor
  · rintro ⟨url, rfl, hurl, hne⟩
    obtain ⟨hkey, rest, hrest, rfl⟩ := ofUrl_eq_iff.mp hurl
    exact ⟨hne, hkey, rest, hrest, (String.append_assoc ..).symm⟩
  · rintro ⟨hne, hkey, rest, hrest, rfl⟩
    exact ⟨key ++ rest, String.append_assoc .., ofUrl_eq_iff.mpr ⟨hkey, rest, hrest, rfl⟩, hne⟩

/-! ### The document -/

/-- The document of a key: the one method in it is the key, and both kinds of proof refer to that
method. -/
structure Describes (d : DidDocument) (key kind : String) : Prop where
  id : d.id = "did:key:" ++ key
  method : d.verificationMethod = [{
    id := "did:key:" ++ key ++ "#" ++ key
    kind
    controller := d.id
    publicKeyMultibase := some key
    publicKeyJwk := none }]
  authentication : d.authentication = d.verificationMethod.map (·.id)
  assertionMethod : d.assertionMethod = d.verificationMethod.map (·.id)
  alsoKnownAs : d.alsoKnownAs = []
  service : d.service = []

theorem describes_iff {d : DidDocument} {key kind : String} :
    Describes d key kind ↔ d = document key kind := by
  constructor
  · intro h
    obtain ⟨id, alsoKnownAs, verificationMethod, authentication, assertionMethod, service⟩ := d
    obtain ⟨hid, hmethod, hauthentication, hassertion, hknown, hservice⟩ := h
    dsimp only at hid hmethod hauthentication hassertion hknown hservice
    subst hid hmethod hauthentication hassertion hknown hservice
    rfl
  · rintro rfl
    exact ⟨rfl, rfl, rfl, rfl, rfl, rfl⟩

/-- **There is a document exactly if the DID names a text that spells a key of a known kind.** -/
theorem resolve_eq_ok_iff {did : String} {d : DidDocument} :
    resolve did = .ok d ↔ ∃ key kind, Names did key ∧ Spells key kind ∧ Describes d key kind := by
  unfold resolve
  constructor
  · intro h
    split at h
    · cases h
    · rename_i key hkey
      split at h
      · cases h
      · rename_i octets hoctets
        split at h
        · rename_i kind hkind
          obtain ⟨code, hcode, hlead⟩ := kind?_eq_some_iff.mp hkind
          exact ⟨key, kind, text?_eq_some_iff.mp hkey, ⟨octets, code, hoctets, hcode, hlead⟩,
            describes_iff.mpr (Except.ok.inj h).symm⟩
        · cases h
  · rintro ⟨key, kind, hnames, ⟨octets, code, hoctets, hcode, hlead⟩, hd⟩
    rw [text?_eq_some_iff.mpr hnames]
    dsimp only
    rw [hoctets]
    dsimp only
    rw [kind?_eq_some_iff.mpr ⟨code, hcode, hlead⟩, describes_iff.mp hd]

theorem resolver_eq_ok_some_iff {past : History} {did : String} {d : DidDocument} :
    resolver.resolve past did = .ok (some d) ↔ resolve did = .ok d := by
  show (resolve did).map some = _ ↔ _
  cases resolve did with
  | error fault => simp [Except.map]
  | ok document => simp [Except.map]

/--
**A key's document is found again under its own name.**

* A document is given exactly for DIDs of method `key` and DID URLs of them whose key is spelled
  correctly and is of a kind that is known; the document is that of the key as it is spelled.
* The name of the document leads to the same document, and so does any DID URL that starts with
  it.
* The answer is a document or a fault, never that the DID is not known.
-/
theorem resolves_to_itself (past later : History) (did : String) (d : DidDocument) :
    (resolver.resolve past did = .ok (some d) ↔
      ∃ key kind, Names did key ∧ Spells key kind ∧ Describes d key kind) ∧
    (resolver.resolve past did = .ok (some d) → ∀ rest, Trails rest →
      resolver.resolve later (d.id ++ rest) = .ok (some d)) ∧
    resolver.resolve past did ≠ .ok none := by
  refine ⟨resolver_eq_ok_some_iff.trans resolve_eq_ok_iff, ?_, ?_⟩
  · intro h rest hrest
    obtain ⟨key, kind, ⟨hne, hkey, -⟩, hspells, hd⟩ :=
      resolve_eq_ok_iff.mp (resolver_eq_ok_some_iff.mp h)
    have hnames : Names (d.id ++ rest) key := ⟨hne, hkey, rest, hrest, by rw [hd.id]⟩
    exact resolver_eq_ok_some_iff.mpr (resolve_eq_ok_iff.mpr ⟨key, kind, hnames, hspells, hd⟩)
  · show (resolve did).map some ≠ _
    cases resolve did with
    | error fault => exact nofun
    | ok document => exact nofun

/-- A key of two octets, in hexadecimal digits of both cases: the document keeps the spelling. -/
theorem resolves_to_itself_bareCode :
    resolver.resolve [] "did:key:fEd01?v=1#x" =
        .ok (some (document "fEd01" "Ed25519VerificationKey2020")) ∧
      Trails "#key" ∧
      resolver.resolve [] "did:key:fEd01#key" =
        .ok (some (document "fEd01" "Ed25519VerificationKey2020")) := by
  have hrest : Trails "#key" := fun c hc => Or.inr (Option.some.inj hc).symm
  have hfirst : resolver.resolve [] "did:key:fEd01?v=1#x" =
      .ok (some (document "fEd01" "Ed25519VerificationKey2020")) := by
    refine resolver_eq_ok_some_iff.mpr (resolve_eq_ok_iff.mpr
      ⟨"fEd01", _, ?_, ?_, describes_iff.mpr rfl⟩)
    · exact ⟨by decide, by decide, "?v=1#x", fun c hc => Or.inl (Option.some.inj hc).symm, rfl⟩
    · exact ⟨[0xED, 0x01], [0xED, 0x01], by decide +kernel, by simp [codes], [], rfl⟩
  exact ⟨hfirst, hrest, (resolves_to_itself [] [] _ _).2.1 hfirst "#key" hrest⟩

end AgentId.Did.Key
